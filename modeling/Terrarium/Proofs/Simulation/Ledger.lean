import Terrarium.Proofs.Instruction.Standing
import Terrarium.Proofs.Population.Conduct
import Terrarium.Proofs.Simulation.Turns
import Terrarium.Simulation.Operation

/-!
What each action of a simulation books. The moves of its population keep a law and are told of,
newcomers go to the spawned or the births, and each removal goes to the counter of its cause.
This holds of whatever an action has done when it fails as well.
-/

namespace Terrarium

namespace Metrics

theorem removalsBy_witness (m : Metrics) (events : List Event) (cause : RemovalCause) :
    (m.witness events).removalsBy cause =
      m.removalsBy cause + ((Event.causes events).count cause : Int) := by
  unfold witness Event.causes
  induction Event.removals events generalizing m with
  | nil => simp
  | cons removal rest ih =>
      rw [List.foldl_cons, ih, removalsBy_recordRemoval, List.map_cons, List.count_cons]
      by_cases same : removal.2.2 = cause
      · simp [same]
        omega
      · simp [same]

theorem witness_others (m : Metrics) (events : List Event) :
    (m.witness events).cycles = m.cycles ∧ (m.witness events).spawned = m.spawned ∧
      (m.witness events).writeErrors = m.writeErrors ∧
      (m.witness events).strikes = m.strikes := by
  unfold witness
  induction Event.removals events generalizing m with
  | nil => exact ⟨rfl, rfl, rfl, rfl⟩
  | cons removal rest ih =>
      rw [List.foldl_cons]
      obtain ⟨cycles, spawned, writeErrors, strikes⟩ := ih (m.recordRemoval removal.2.2 1)
      rw [cycles, spawned, writeErrors, strikes]
      cases removal.2.2 <;> exact ⟨rfl, rfl, rfl, rfl⟩

end Metrics

namespace Simulation
open Population Attempt

structure Prepared (s : Simulation) : Prop where
  tidy : s.population.Tidy
  timed : ∀ m ∈ s.population.members, m.2.Timed

namespace Prepared
variable {s : Simulation} {slot : SlotId} {o : Organism}

theorem mem_filtered_iff (prepared : s.Prepared) (found : s.population.get? slot = some o)
    (test : Organism → Bool) :
    slot ∈ (s.population.members.filter fun m => test m.2).map Prod.fst ↔ test o = true := by
  constructor
  · intro listed
    obtain ⟨m, among, rfl⟩ := List.mem_map.mp listed
    obtain ⟨member, passes⟩ := List.mem_filter.mp among
    cases found.symm.trans (get?_of_mem prepared.tidy.distinct member)
    exact passes
  · exact fun passes =>
      List.mem_map.mpr ⟨_, List.mem_filter.mpr ⟨mem_members_of_get? found, passes⟩, rfl⟩

theorem mem_delaying_iff (prepared : s.Prepared) (found : s.population.get? slot = some o) :
    slot ∈ s.delaying ↔ o.phase = .delaying := by
  rw [Simulation.delaying, prepared.mem_filtered_iff found, Organism.isDelaying, decide_eq_true_eq]

theorem mem_ready_iff (prepared : s.Prepared) (found : s.population.get? slot = some o) :
    slot ∈ s.ready ↔ o.phase = .ready := by
  have alive := (prepared.timed _ (mem_members_of_get? found)).alive
  rw [Simulation.ready, prepared.mem_filtered_iff found fun o => !o.isDelaying]
  cases phase : o.phase <;> simp_all [Organism.isDelaying]

theorem ready_nodup (prepared : s.Prepared) : s.ready.Nodup :=
  (List.filter_sublist.map Prod.fst).nodup prepared.tidy.distinct

theorem delaying_nodup (prepared : s.Prepared) : s.delaying.Nodup :=
  (List.filter_sublist.map Prod.fst).nodup prepared.tidy.distinct

end Prepared

structure Ledger (law : Law) (before : Simulation) (events : List Event) (after : Simulation) :
    Prop where
  moves : ∃ moves, Account before.population after.population events moves ∧
    Lawful law before.population moves ∧
    after.metrics.spawned + after.metrics.births =
      before.metrics.spawned + before.metrics.births + (entered moves).length
  counted : ∀ cause, after.metrics.removalsBy cause =
    before.metrics.removalsBy cause + ((Event.causes events).count cause : Int)

namespace Ledger
variable {law : Law} {s t u : Simulation} {events later : List Event}

theorem trans (head : Ledger law s events t) (tail : Ledger law t later u) :
    Ledger law s (events ++ later) u := by
  obtain ⟨⟨first, account, lawful, newcomers⟩, counted⟩ := head
  obtain ⟨⟨second, account', lawful', newcomers'⟩, counted'⟩ := tail
  refine ⟨⟨first ++ second, account.append account', lawful.append account.trail lawful', ?_⟩, ?_⟩
  · rw [newcomers', newcomers, entered_append, List.length_append]
    omega
  · intro cause
    rw [counted', counted, Event.causes_append, List.count_append]
    omega

theorem prepared (ledger : Ledger law s events t) (prepared : s.Prepared) : t.Prepared := by
  obtain ⟨⟨moves, account, lawful, _⟩, _⟩ := ledger
  exact ⟨account.trail.tidy prepared.tidy, lawful.timed account.trail prepared.timed⟩

/-- Whatever leaves the population and its counters alone books nothing. -/
theorem unmoved (population : t.population = s.population)
    (newcomers : t.metrics.spawned + t.metrics.births = s.metrics.spawned + s.metrics.births)
    (removals : ∀ cause, t.metrics.removalsBy cause = s.metrics.removalsBy cause)
    (silent : Event.removals events = []) : Ledger law s events t := by
  refine ⟨⟨[], ⟨?_, ?_⟩, trivial, newcomers⟩, ?_⟩
  · rw [population]
    exact .stay _
  · simp [Population.removals, silent]
  · intro cause
    simp [removals, Event.causes, silent]

theorem of_account {moves : List Move} (account : Account s.population t.population events moves)
    (lawful : Lawful law s.population moves) (nobody : entered moves = [])
    (metrics : t.metrics = s.metrics.witness events) : Ledger law s events t := by
  refine ⟨⟨moves, account, lawful, ?_⟩, ?_⟩
  · rw [metrics, (Metrics.witness_others _ _).2.1, Metrics.births_witness, nobody]
    rfl
  · intro cause
    rw [metrics, Metrics.removalsBy_witness]

theorem update {slot : SlotId} {o p : Organism} (prepared : s.Prepared)
    (found : s.population.get? slot = some o) (continues : o.Continues p)
    (change : law.change slot o p) (population : t.population = s.population.update slot p)
    (metrics : t.metrics = s.metrics) (silent : Event.removals events = []) :
    Ledger law s events t := by
  have timed := continues.timed (prepared.timed _ (mem_members_of_get? found))
  refine ⟨⟨[.change slot p], ⟨?_, ?_⟩, ⟨⟨timed, ?_⟩, trivial⟩, ?_⟩, ?_⟩
  · rw [population]
    exact .single (.change slot p) (mem_slots_of_get? found)
  · simp [Population.removals, silent, Move.removal?]
  · intro before here
    cases found.symm.trans here
    exact change
  · rw [metrics]
    rfl
  · simp [metrics, Event.causes, silent]

theorem enter {o : Organism} (entrant : Entrant law.limits o)
    (population : t.population = s.population.moved (.enter s.population.allocate.1 o))
    (newcomers : t.metrics.spawned + t.metrics.births =
      s.metrics.spawned + s.metrics.births + 1)
    (removals : ∀ cause, t.metrics.removalsBy cause = s.metrics.removalsBy cause)
    (silent : Event.removals events = []) : Ledger law s events t := by
  have account := enter_account (p := s.population) entrant.timed.alive
  refine ⟨⟨[.enter s.population.allocate.1 o], ⟨population ▸ account.trail, ?_⟩,
    ⟨entrant, trivial⟩, newcomers⟩, ?_⟩
  · simp [Population.removals, silent, Move.removal?]
  · intro cause
    simp [removals, Event.causes, silent]

theorem fate (kept : Organism → Prop) (ledger : Ledger law s events t) (prepared : s.Prepared)
    {slot : SlotId}
    (changing : ∀ before after, after.Timed → law.change slot before after →
      kept before → kept after)
    {o : Organism} (found : s.population.get? slot = some o) (good : kept o) :
    Fate kept (law.leave slot) slot (Population.removals events) t.population := by
  obtain ⟨⟨moves, account, lawful, _⟩, _⟩ := ledger
  rw [account.told]
  exact lawful.fate kept account.trail prepared.tidy changing found good

theorem spent (ledger : Ledger law s events t) (prepared : s.Prepared) {slot : SlotId}
    (gone : s.population.Spent slot) :
    t.population.Spent slot ∧ ∀ cause, (slot, cause) ∉ Population.removals events := by
  obtain ⟨⟨moves, account, lawful, _⟩, _⟩ := ledger
  rw [account.told]
  exact ⟨account.trail.spent gone, account.trail.untold_of_spent prepared.tidy gone⟩

/-- Whoever is told to have left is gone for good. -/
theorem spent_of_told (ledger : Ledger law s events t) (prepared : s.Prepared) {slot : SlotId}
    {cause : RemovalCause} (told : (slot, cause) ∈ Population.removals events) :
    t.population.Spent slot := by
  obtain ⟨⟨moves, account, _⟩, _⟩ := ledger
  rw [account.told] at told
  apply account.trail.spent_of_left prepared.tidy
  obtain ⟨move, member, names⟩ := List.mem_filterMap.mp told
  refine List.mem_filterMap.mpr ⟨move, member, ?_⟩
  cases move <;> simp_all [Move.removal?, Move.left?]

theorem leaves (ledger : Ledger law s events t) {slot : SlotId} {cause : RemovalCause}
    (told : (slot, cause) ∈ Population.removals events) : law.leave slot cause := by
  obtain ⟨⟨moves, account, lawful, _⟩, _⟩ := ledger
  rw [account.told] at told
  exact lawful.leaves told

/-- What holds of the members in the end. Newcomers have handles that nobody had at the start. -/
theorem members (property : SlotId → Organism → Prop) (ledger : Ledger law s events t)
    (prepared : s.Prepared)
    (entering : ∀ slot o, slot ∉ s.population.slots → Entrant law.limits o → property slot o)
    (changing : ∀ slot before after, after.Timed → law.change slot before after →
      property slot before → property slot after)
    (start : ∀ m ∈ s.population.members, property m.1 m.2) :
    ∀ m ∈ t.population.members, property m.1 m.2 := by
  obtain ⟨⟨moves, account, lawful, _⟩, _⟩ := ledger
  refine lawful.members property account.trail (fun slot enters o => entering slot o ?_) changing
    start
  exact fun live => account.trail.not_entered prepared.tidy (Or.inl live) enters

end Ledger

/-- What is booked under a law by an action that is done to a simulation in order, under the limits
of that law. -/
def Books (law : Law) (before : Simulation) (events : List Event) (after : Simulation) : Prop :=
  before.Prepared → law.limits = before.settings.limits →
    Ledger law before events after ∧ after.settings = before.settings

theorem books_chain (law : Law) : Chain (Books law) where
  rest _ := fun _ _ => ⟨.unmoved rfl rfl (fun _ => rfl) rfl, rfl⟩
  onwards := by
    intro s t u told later first second prepared limits
    obtain ⟨ledger, same⟩ := first prepared limits
    obtain ⟨ledger', same'⟩ := second (ledger.prepared prepared) (limits.trans (by rw [same]))
    exact ⟨ledger.trans ledger', same'.trans same⟩

section Books
variable {law : Law} {s : Simulation}

theorem books_of_unmoved {α : Type} {attempt : Attempt Simulation α}
    (population : attempt.state.population = s.population)
    (metrics : attempt.state.metrics = s.metrics) (settings : attempt.state.settings = s.settings)
    (silent : Discreet attempt) : Along (Books law) s attempt :=
  fun _ _ => ⟨.unmoved population (by rw [metrics]) (by simp [metrics]) silent, settings⟩

theorem books_synced (s : Simulation) : Books law s [] s.syncMetrics :=
  fun _ _ => ⟨.unmoved rfl rfl (fun cause => by cases cause <;> rfl) rfl, rfl⟩

theorem books_nextCycle (s : Simulation) : Books law s [] { s with cycle := s.cycle + 1 } :=
  fun _ _ => ⟨.unmoved rfl rfl (fun _ => rfl) rfl, rfl⟩

theorem adopt_books {child : Organism} (timed : child.Timed) :
    Along (Books law) s (s.adopt child) := by
  intro prepared limits
  have entrant : Entrant law.limits (child.within s.settings.limits) := by
    rw [limits]
    exact ⟨rfl, rfl, timed⟩
  rw [adopt_alive s timed.alive]
  exact ⟨.enter entrant rfl (Nat.add_assoc _ _ _).symm (fun cause => by cases cause <;> rfl) rfl,
    rfl⟩

theorem adoptAll_books {children : List Organism} (timed : ∀ child ∈ children, child.Timed) :
    Along (Books law) s (adoptAll children s) := by
  induction children generalizing s with
  | nil => exact (books_chain law).done s []
  | cons child rest ih =>
      apply (books_chain law).andThen (adopt_books (timed child List.mem_cons_self))
      intro _ _
      exact Along.map (ih fun other later => timed other (List.mem_cons_of_mem _ later)) _

theorem spawn_books (p : Point) (direction : Direction) :
    Along (Books law) s (s.spawn p direction) := by
  intro prepared limits
  have entrant : Entrant law.limits
      ((Organism.newborn (s.grid.normalize p) direction).within s.settings.limits) := by
    rw [limits]
    exact ⟨rfl, rfl, by simp [Organism.Timed, Organism.newborn, Organism.within]⟩
  have spawned : s.spawn p direction =
      ⟨{ s with
          population := s.population.moved (.enter s.population.allocate.1
            ((Organism.newborn (s.grid.normalize p) direction).within s.settings.limits))
          metrics := { s.metrics with spawned := s.metrics.spawned + 1 } },
        [.spawned s.population.allocate.1 (s.grid.normalize p) direction],
        .ok s.population.allocate.1⟩ := by
    rw [Simulation.spawn, spawn_eq]
    rfl
  rw [spawned]
  exact ⟨.enter entrant rfl (Nat.add_right_comm _ _ _) (fun cause => by cases cause <;> rfl) rfl,
    rfl⟩

theorem onPopulation_books {α : Type} {attempt : Attempt Population α} {moves : List Move}
    (account : Account s.population attempt.state attempt.events moves)
    (lawful : Lawful law s.population moves) (nobody : entered moves = []) :
    Along (Books law) s (s.onPopulation attempt) :=
  fun _ _ => ⟨.of_account account lawful nobody rfl, rfl⟩

theorem remove_books {slot : SlotId} {cause : RemovalCause} (leaves : law.leave slot cause) :
    Along (Books law) s (s.onPopulation (s.population.remove slot cause)) := by
  by_cases live : slot ∈ s.population.slots
  · obtain ⟨o, found⟩ := get?_of_mem_slots live
    rw [remove_live cause found]
    exact onPopulation_books (leave_account live o.kill cause) ⟨leaves, trivial⟩ rfl
  · rw [remove_absent cause live]
    exact onPopulation_books (.nothing _) trivial rfl

theorem entered_victims (victims : List SlotId) (cause : RemovalCause) :
    entered (victims.map fun slot => .leave slot cause) = [] := by
  simp [entered, Move.entered?]

theorem lawful_of_victims {victims : List SlotId} {cause : RemovalCause}
    (leaves : ∀ slot, law.leave slot cause) (p : Population) :
    Lawful law p (victims.map fun slot => .leave slot cause) := by
  apply lawful_of_admitted
  intro move member p
  obtain ⟨slot, _, rfl⟩ := List.mem_map.mp member
  exact leaves slot

theorem enforceMax_books (culls : ∀ slot, law.leave slot .culled) :
    Along (Books law) s s.enforceMax := by
  intro prepared _
  obtain ⟨victims, account, _⟩ := enforceMax_account s.remover s.settings.limits.maxPopulation
    s.habitat.generator s.population prepared.tidy
  exact ⟨.of_account account (lawful_of_victims culls _) (entered_victims _ _) rfl, rfl⟩

theorem charge_books {slots : List SlotId}
    (charges : ∀ slot ∈ slots, ∀ o, law.change slot o o.tickLifespan.1)
    (expires : ∀ slot ∈ slots, law.leave slot .expired) :
    Along (Books law) s (s.charge slots) := by
  intro prepared limits
  obtain ⟨moves, account, lawful, nobody⟩ :=
    charge_lawful law prepared.tidy prepared.timed charges expires
  exact (onPopulation_books account lawful nobody).map _ prepared limits

theorem dedup_books (dedups : ∀ slot, law.leave slot .dedup) : Along (Books law) s s.dedup := by
  intro prepared limits
  obtain ⟨account, _⟩ := dedup_account s.population prepared.tidy
  exact onPopulation_books account (lawful_of_victims dedups _) (entered_victims _ _) prepared
    limits

theorem dedupIfDue_books (dedups : ∀ slot, law.leave slot .dedup) :
    Along (Books law) s s.dedupIfDue := by
  unfold dedupIfDue
  split
  · exact (dedup_books dedups).map _
  · exact (books_chain law).done s ()

theorem update_books {α : Type} {attempt : Attempt Simulation α} {slot : SlotId} {o p : Organism}
    (found : s.population.get? slot = some o) (continues : o.Continues p)
    (change : law.change slot o p)
    (state : ∃ habitat, attempt.state =
      { s with population := s.population.update slot p, habitat := habitat })
    (silent : Discreet attempt) : Along (Books law) s attempt := by
  intro prepared _
  obtain ⟨habitat, reached⟩ := state
  rw [reached]
  exact ⟨.update prepared found continues change rfl rfl silent, rfl⟩

/-- The one change of a turn is the one its instruction makes. -/
theorem executeSlot_books_of {slot : SlotId}
    (changes : ∀ o, s.population.get? slot = some o →
      law.change slot o (Scene.execute s.rules ⟨o, s.habitat⟩).state.organism)
    (halts : law.leave slot .halt) : Along (Books law) s (s.executeSlot slot) := by
  intro prepared limits
  unfold executeSlot
  cases found : s.population.get? slot with
  | none => exact (books_chain law).rest s prepared limits
  | some o =>
      have timed := prepared.timed _ (mem_members_of_get? found)
      have executed := Scene.execute_continues ⟨o, s.habitat⟩ s.rules
      refine (books_chain law).andThen (update_books found executed.state (changes o found)
        ⟨_, rfl⟩ (Scene.execute_discreet _ _)) ?_ prepared limits
      intro effect asked
      -- What the instruction asks for comes after the change it has made.
      cases effect with
      | proceed => exact (books_chain law).done _ ()
      | spawn child =>
          obtain ⟨delay, phase⟩ := executed.value _ asked
          exact (adopt_books (timed.of_eq delay phase)).map _
      | halt => exact (remove_books halts).map _

theorem executeSlot_books {slot : SlotId}
    (changes : ∀ before after, before.Continues after → law.change slot before after)
    (halts : law.leave slot .halt) : Along (Books law) s (s.executeSlot slot) :=
  executeSlot_books_of
    (fun o _ => changes o _ (Scene.execute_continues ⟨o, s.habitat⟩ s.rules).state) halts

theorem tickSlot_books_of {slot : SlotId}
    (changes : ∀ o, s.population.get? slot = some o →
      law.change slot o (o.tickDelay s.grid).state) :
    Along (Books law) s (s.tickSlot slot) := by
  unfold tickSlot
  cases found : s.population.get? slot with
  | none => exact (books_chain law).done s ()
  | some o =>
      exact update_books found (.tickDelay o s.grid) (changes o found) ⟨_, rfl⟩
        (o.tickDelay_discreet _)

theorem tickSlot_books {slot : SlotId}
    (changes : ∀ before after, before.Continues after → law.change slot before after) :
    Along (Books law) s (s.tickSlot slot) :=
  tickSlot_books_of fun o _ => changes o _ (.tickDelay o s.grid)

theorem irradiate_books : Along (Books law) s s.irradiate :=
  books_of_unmoved rfl rfl rfl (Habitat.cosmicRays_discreet _ _)

theorem focused_found {o : Organism} (found : s.population.focused? = some o) :
    ∃ slot, s.focus = some slot ∧ s.population.get? slot = some o ∧
      ∀ p, s.withFocused p = { s with population := s.population.update slot p } := by
  obtain ⟨slot, focus, here⟩ := Option.bind_eq_some_iff.mp found
  have focus : s.focus = some slot := focus
  exact ⟨slot, focus, here, fun p => by simp [withFocused, focus]⟩

theorem focused_books {α : Type} {attempt : Attempt Simulation α} {o p : Organism}
    (found : s.population.focused? = some o) (continues : o.Continues p)
    (changes : ∀ slot, s.focus = some slot → s.population.get? slot = some o →
      law.change slot o p)
    (state : ∃ habitat, attempt.state = { s.withFocused p with habitat := habitat })
    (silent : Discreet attempt) : Along (Books law) s attempt := by
  obtain ⟨slot, focus, here, place⟩ := focused_found found
  obtain ⟨habitat, reached⟩ := state
  refine update_books here continues (changes slot focus here) ⟨habitat, ?_⟩ silent
  rw [reached, place]

theorem moveCursor_books (direction : Direction) (steps : Int)
    (changes : ∀ slot before after, after.standing = before.standing →
      law.change slot before after) :
    Along (Books law) s (s.moveCursor direction steps) := by
  unfold Simulation.moveCursor
  cases found : s.population.focused? with
  | none => exact (books_chain law).done s none
  | some o =>
      have same := o.standing_moveCursor s.grid direction steps
      obtain ⟨_, _, _, place⟩ := focused_found found
      exact focused_books found (.of_standing same) (fun slot _ _ => changes slot o _ same)
        ⟨s.habitat, by simp only [done_state, place]⟩ rfl

theorem moveIp_books (direction : Direction) (steps : Int)
    (changes : ∀ slot before after, after.standing = before.standing →
      law.change slot before after) :
    Along (Books law) s (s.moveIp direction steps) := by
  unfold Simulation.moveIp
  cases found : s.population.focused? with
  | none => exact (books_chain law).done s false
  | some o =>
      have same : ({ o with ip := s.grid.step o.ip direction steps } : Organism).standing =
          o.standing := rfl
      obtain ⟨_, _, _, place⟩ := focused_found found
      exact focused_books found (.of_standing same) (fun slot _ _ => changes slot o _ same)
        ⟨s.habitat, by simp only [done_state, place]⟩ rfl

theorem setFocus_books (slot : Option SlotId) : Along (Books law) s (s.setFocus slot) := by
  obtain ⟨moves, account, looks⟩ := setFocus_account s.population slot
  have lawful : Lawful law s.population moves := by
    apply lawful_of_admitted
    intro move member _
    obtain ⟨focus, rfl⟩ := looks move member
    trivial
  have nobody : entered moves = [] := by
    apply List.filterMap_eq_nil_iff.mpr
    intro move member
    obtain ⟨focus, rfl⟩ := looks move member
    rfl
  exact fun _ _ => ⟨.of_account account lawful nobody rfl, rfl⟩

theorem killFocused_books (kills : ∀ slot, law.leave slot .kill) :
    Along (Books law) s s.killFocused := by
  intro prepared limits
  obtain ⟨moves, account, gone, _⟩ := killFocused_account s.population prepared.tidy
  have lawful : Lawful law s.population moves := by
    apply lawful_of_admitted
    intro move member _
    obtain ⟨slot, rfl⟩ := gone move member
    exact kills slot
  have nobody : entered moves = [] := by
    apply List.filterMap_eq_nil_iff.mpr
    intro move member
    obtain ⟨slot, rfl⟩ := gone move member
    rfl
  exact onPopulation_books account lawful nobody prepared limits

/-- A later scene, with the delay and the phase of the organism put back. -/
def restoring (before after : Scene) : Scene :=
  { after with organism := { after.organism with
      delay := before.organism.delay
      phase := before.organism.phase } }

theorem runInPlace_cons (rules : Rules) (instruction : Instruction) (rest : List Instruction)
    (scene : Scene) :
    runInPlace rules (instruction :: rest) scene =
      (scene.run rules false (some instruction)).andThen fun after effect =>
        (runInPlace rules rest (restoring scene after)).map fun effects => effect :: effects := rfl

theorem runInPlace_continues (rules : Rules) (program : List Instruction) (scene : Scene) :
    (runInPlace rules program scene).Ensures scene.Continues
      (fun effects => ∀ effect ∈ effects, effect.Inherits scene.organism) := by
  induction program generalizing scene with
  | nil => exact .done (.refl _) (by simp)
  | cons instruction rest ih =>
      rw [runInPlace_cons]
      apply (scene.run_continues rules false (some instruction)).andThen
      intro after effect reached inherits
      -- The rest starts with the delay and the phase of the start, so all children have them.
      have restored : scene.Continues (restoring scene after) :=
        ⟨reached.lifespan, fun timed => timed.of_eq rfl rfl⟩
      have later := (ih (restoring scene after)).weaken
        (fun _ onwards => restored.trans onwards) (fun _ good => good)
      refine later.map ?_
      intro effects others other member
      rcases List.mem_cons.mp member with rfl | further
      · exact inherits
      · exact others other further

theorem runInPlace_discreet (rules : Rules) (program : List Instruction) (scene : Scene) :
    Discreet (runInPlace rules program scene) := by
  induction program generalizing scene with
  | nil => rfl
  | cons instruction rest ih =>
      apply (scene.run_discreet rules false (some instruction)).andThen
      intro after effect
      exact ih _

theorem runFocused_books (mnemonics : List String)
    (changes : ∀ slot before after, s.focus = some slot → s.population.get? slot = some before →
      before.Continues after → law.change slot before after) :
    Along (Books law) s (s.runFocused mnemonics) := by
  intro prepared limits
  unfold Simulation.runFocused
  cases Instruction.resolveAll Instruction.ofMnemonic mnemonics with
  | error fault => exact (books_chain law).rest s prepared limits
  | ok program =>
      cases found : s.population.focused? with
      | none => exact (books_chain law).rest s prepared limits
      | some o =>
          obtain ⟨slot, _, here, _⟩ := focused_found found
          have timed := prepared.timed _ (mem_members_of_get? here)
          have run := runInPlace_continues s.rules program ⟨o, s.habitat⟩
          refine (books_chain law).andThen (focused_books found run.state
            (fun slot focus here => changes slot o _ focus here run.state) ⟨_, rfl⟩
            (runInPlace_discreet _ _ _)) ?_ prepared limits
          intro effects asked
          have children : ∀ child ∈ effects.filterMap Effect.child?, child.Timed := by
            intro child member
            obtain ⟨effect, among, same⟩ := List.mem_filterMap.mp member
            cases effect with
            | spawn other =>
                cases same
                obtain ⟨delay, phase⟩ := run.value _ asked _ among
                exact timed.of_eq delay phase
            | proceed => cases same
            | halt => cases same
          apply (books_chain law).andThen (adoptAll_books children)
          intro spawned _
          -- A halt that is ignored is told of, but nobody leaves.
          have remark : Event.removals
              (if effects.any Effect.isHalt then [.haltIgnored] else []) = [] := by
            split <;> rfl
          exact fun _ _ =>
            ⟨.unmoved rfl rfl (fun cause => by cases cause <;> rfl) remark, rfl⟩

def untilCharge (s : Simulation) : Attempt Simulation Unit :=
  (Attempt.forEach executeSlot s.ready s).andThen fun t _ =>
  (Attempt.forEach tickSlot s.delaying t).andThen fun t _ =>
  t.irradiate.andThen fun t _ =>
  t.enforceMax

def finish (s : Simulation) : Attempt Simulation Unit :=
  ({ s with cycle := s.cycle + 1 } : Simulation).dedupIfDue.andThen fun t _ =>
  .done t.syncMetrics ()

def closing (s : Simulation) (slots : List SlotId) : Attempt Simulation Unit :=
  (s.charge slots).andThen fun t _ => t.finish

theorem stepCycle_eq_untilCharge (s : Simulation) :
    s.stepCycle = s.untilCharge.andThen fun t _ => t.closing s.ready := by
  simp only [stepCycle, untilCharge, closing, finish, andThen_assoc]

theorem untilCharge_books (changes : ∀ slot before after, before.Continues after →
      law.change slot before after)
    (halts : ∀ slot ∈ s.ready, law.leave slot .halt) (culls : ∀ slot, law.leave slot .culled) :
    Along (Books law) s s.untilCharge := by
  have chain := books_chain law
  apply chain.andThen (chain.forEach s.ready (fun _ slot ready =>
    executeSlot_books (changes slot) (halts slot ready)) s)
  intro _ _
  apply chain.andThen (chain.forEach s.delaying (fun _ slot _ => tickSlot_books (changes slot)) _)
  intro _ _
  apply chain.andThen irradiate_books
  intro _ _
  exact enforceMax_books culls

theorem finish_books (dedups : ∀ slot, law.leave slot .dedup) : Along (Books law) s s.finish := by
  have chain := books_chain law
  have deduped := chain.after (books_nextCycle s) (dedupIfDue_books dedups)
  apply chain.andThen deduped
  intro _ _
  exact chain.after (books_synced _) (chain.done _ ())

theorem closing_books {slots : List SlotId}
    (charges : ∀ slot ∈ slots, ∀ o, law.change slot o o.tickLifespan.1)
    (expires : ∀ slot ∈ slots, law.leave slot .expired) (dedups : ∀ slot, law.leave slot .dedup) :
    Along (Books law) s (s.closing slots) := by
  apply (books_chain law).andThen (charge_books charges expires)
  intro _ _
  exact finish_books dedups

/-- A whole cycle, whether it comes to its end or not. -/
theorem stepCycle_books (changes : ∀ slot before after, before.Continues after →
      law.change slot before after)
    (charges : ∀ slot ∈ s.ready, ∀ o, law.change slot o o.tickLifespan.1)
    (halts : ∀ slot ∈ s.ready, law.leave slot .halt) (culls : ∀ slot, law.leave slot .culled)
    (expires : ∀ slot ∈ s.ready, law.leave slot .expired) (dedups : ∀ slot, law.leave slot .dedup) :
    Along (Books law) s s.stepCycle := by
  rw [stepCycle_eq_untilCharge]
  apply (books_chain law).andThen (untilCharge_books changes halts culls)
  intro _ _
  exact closing_books charges expires dedups

end Books

def freely (limits : Limits) : Law := ⟨limits, fun _ _ _ => True, fun _ _ => True⟩

section Parts
variable {s : Simulation}

theorem Prepared.along {α : Type} {attempt : Attempt Simulation α} (prepared : s.Prepared)
    (booked : ∀ limits, Along (Books (freely limits)) s attempt) : attempt.state.Prepared :=
  (booked s.settings.limits prepared rfl).1.prepared prepared

variable {first : Attempt Simulation Unit} {next : Simulation → Unit → Attempt Simulation Unit}
  {kept kept' : Organism → Prop} {ends ends' : RemovalCause → Prop} {slot : SlotId}

theorem fate_andThen_of_ok (completed : first.answer = .ok ()) (prepared : first.state.Prepared)
    (later : ∀ limits, Along (Books (freely limits)) first.state (next first.state ()))
    (head : Fate kept ends slot (removals first.events) first.state.population)
    (tail : ∀ o, first.state.population.get? slot = some o → kept o →
      Fate kept' ends' slot (removals (next first.state ()).events)
        (next first.state ()).state.population)
    (reasons : ∀ cause, ends cause → ends' cause) :
    Fate kept' ends' slot (removals (first.andThen next).events)
      (first.andThen next).state.population := by
  rw [andThen_of_ok next completed, removals_append]
  exact head.append tail ((later _ prepared rfl).1.spent prepared) reasons

theorem fate_andThen (short : ∀ o, kept o → kept' o) (prepared : first.state.Prepared)
    (later : ∀ limits, Along (Books (freely limits)) first.state (next first.state ()))
    (head : Fate kept ends slot (removals first.events) first.state.population)
    (tail : ∀ o, first.state.population.get? slot = some o → kept o →
      Fate kept' ends' slot (removals (next first.state ()).events)
        (next first.state ()).state.population)
    (reasons : ∀ cause, ends cause → ends' cause) :
    Fate kept' ends' slot (removals (first.andThen next).events)
      (first.andThen next).state.population := by
  cases answer : first.answer with
  | error fault =>
      rw [andThen_of_error next answer]
      exact head.weaken short reasons
  | ok _ => exact fate_andThen_of_ok answer prepared later head tail reasons

end Parts
end Simulation
end Terrarium
