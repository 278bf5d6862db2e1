import Terrarium.Proofs.Instruction.Children
import Terrarium.Proofs.Simulation.Deeds
import Terrarium.Proofs.Simulation.Failure
import Terrarium.Proofs.Simulation.Schedule

/-!
Who is born of whom. The births of a run are read off it as it goes: a child that comes into the
population in the turn of an organism, or while the organism in focus runs instructions, has that
organism for its parent. The births are those that the metrics count, whoever is live was there
before or has come in, and all come in under the limits in force.
-/

namespace Terrarium

/-- A child that has come into the population, by the slots of its parent and its own. -/
structure Birth where
  parent : SlotId
  child : SlotId
  newborn : Organism

namespace Birth

def of (parent : SlotId) (m : SlotId × Organism) : Birth := ⟨parent, m.1, m.2⟩

def entrant (birth : Birth) : SlotId × Organism := (birth.child, birth.newborn)

theorem entrant_of (parent : SlotId) (ms : List (SlotId × Organism)) :
    (ms.map (of parent)).map entrant = ms := by
  rw [List.map_map]
  exact List.map_id ms

end Birth

namespace Population

theorem arrivals_append {p q : Population} {news : List (SlotId × Organism)}
    (members : q.members = p.members ++ news) (distinct : q.slots.Nodup) :
    arrivals p q = news := by
  have apart : ∀ m ∈ news, m.1 ∉ p.slots := by
    unfold slots at distinct
    rw [members, List.map_append, List.nodup_append] at distinct
    intro m member live
    exact distinct.2.2 m.1 live m.1 (List.mem_map_of_mem member) rfl
  have none : p.members.filter (fun m => m.1 ∉ p.slots) = [] := arrivals_self p
  unfold arrivals
  rw [members, List.filter_append, none, List.nil_append, List.filter_eq_self]
  intro m member
  simpa using apart m member

theorem arrivals_congr {p p' : Population} (same : p'.slots = p.slots) (q : Population) :
    arrivals p' q = arrivals p q := by
  unfold arrivals
  rw [same]

end Population

namespace Simulation
open Population Attempt

def litter (s : Simulation) (slot : SlotId) : List Birth :=
  (born executeSlot s slot).map (.of slot)

def lineageOfCycle (s : Simulation) : List Birth := notes litter executeSlot s.ready s

def lineageOfCycles : Nat → Simulation → List Birth
  | 0, _ => []
  | count + 1, s =>
      s.lineageOfCycle ++ match s.stepCycle.answer with
        | .ok _ => lineageOfCycles count s.stepCycle.state
        | .error _ => []

def lineageOf (s : Simulation) : Deed → List Birth
  | .perform .step => s.lineageOfCycle
  | .perform (.runCycles count) => lineageOfCycles count.toNat s
  | .perform (.runFocused mnemonics) =>
      match s.focus with
      | some parent =>
          (arrivals s.population (s.runFocused mnemonics).state.population).map (.of parent)
      | none => []
  | _ => []

def entrantsOf (s : Simulation) (deed : Deed) : List (SlotId × Organism) :=
  if deed.cycles = 0 then arrivals s.population (s.act deed).state.population
  else (s.lineageOf deed).map Birth.entrant

def lineage (s : Simulation) : List Deed → List Birth
  | [] => []
  | deed :: rest => s.lineageOf deed ++ (s.act deed).state.lineage rest

def entrants (s : Simulation) : List Deed → List (SlotId × Organism)
  | [] => []
  | deed :: rest => s.entrantsOf deed ++ (s.act deed).state.entrants rest

def offspring (slot : SlotId) (births : List Birth) : Nat :=
  births.countP fun birth => birth.parent = slot

section Counts
variable {slot : SlotId}

theorem offspring_append (first second : List Birth) :
    offspring slot (first ++ second) = offspring slot first + offspring slot second :=
  List.countP_append

theorem offspring_own (ms : List (SlotId × Organism)) :
    offspring slot (ms.map (.of slot)) = ms.length := by
  unfold offspring
  rw [List.countP_map, List.countP_eq_length.mpr]
  intro m _
  simp [Birth.of]

theorem offspring_other {parent : SlotId} (apart : parent ≠ slot)
    (ms : List (SlotId × Organism)) : offspring slot (ms.map (.of parent)) = 0 := by
  unfold offspring
  rw [List.countP_map, List.countP_eq_zero]
  intro m _
  simp [Birth.of, apart]

theorem litter_entrants (s : Simulation) (slot : SlotId) :
    (s.litter slot).map Birth.entrant = born executeSlot s slot := Birth.entrant_of _ _

theorem notes_entrants (slots : List SlotId) (s : Simulation) :
    (notes litter executeSlot slots s).map Birth.entrant =
      notes (born executeSlot) executeSlot slots s := by
  induction slots generalizing s with
  | nil => rfl
  | cons slot rest ih =>
      rw [notes, notes, List.map_append, litter_entrants]
      cases (s.executeSlot slot).answer with
      | ok _ => rw [ih]
      | error fault => rfl

theorem lineageOfCycle_entrants (s : Simulation) :
    s.lineageOfCycle.map Birth.entrant = s.births := notes_entrants _ _

end Counts

section Focus
variable {s : Simulation}

def welcome (s : Simulation) (child : Organism) : Simulation :=
  { s with
    population := s.population.moved
      (.enter s.population.allocate.1 (child.within s.settings.limits))
    metrics := { s.metrics with births := s.metrics.births + 1 } }

/-- What one newborn leaves alone, any number of them does. -/
theorem welcomed_part {α : Type} (part : Simulation → α)
    (keeps : ∀ s child, part (welcome s child) = part s) (children : List Organism)
    (s : Simulation) : part (children.foldl welcome s) = part s := by
  induction children generalizing s with
  | nil => rfl
  | cons child rest ih => rw [List.foldl_cons, ih, keeps]

theorem welcomed_births (children : List Organism) (s : Simulation) :
    (children.foldl welcome s).metrics.births = s.metrics.births + children.length := by
  induction children generalizing s with
  | nil => rfl
  | cons child rest ih =>
      rw [List.foldl_cons, ih, List.length_cons]
      simp only [welcome]
      omega

/-- Newborns come in under new handles, behind those who are there, in their order. -/
theorem adoptAll_alive {children : List Organism} (alive : ∀ child ∈ children, child.phase ≠ .dead)
    (s : Simulation) :
    ∃ news, adoptAll children s = .done (children.foldl welcome s) (news.map Prod.fst) ∧
      news.length = children.length ∧
      (children.foldl welcome s).population.members = s.population.members ++ news := by
  induction children generalizing s with
  | nil => exact ⟨[], rfl, rfl, (List.append_nil _).symm⟩
  | cons child rest ih =>
      let newborn := (s.population.allocate.1, child.within s.settings.limits)
      have adopted : s.adopt child = .done (s.welcome child) newborn.1 :=
        adopt_alive s (alive child List.mem_cons_self)
      have entered : (s.welcome child).population.members = s.population.members ++ [newborn] :=
        allocate_members s.population ▸ rfl
      obtain ⟨news, others, length, members⟩ :=
        ih (fun other later => alive other (List.mem_cons_of_mem _ later)) (s.welcome child)
      refine ⟨newborn :: news, ?_, congrArg (· + 1) length, ?_⟩
      · rw [adoptAll, adopted, done_andThen, others]
        rfl
      · rw [List.foldl_cons, members, entered, List.append_assoc, List.singleton_append]

theorem children_cons (effect : Effect) (effects : List Effect) :
    ((effect :: effects).filterMap Effect.child?).length =
      effect.offspring + (effects.filterMap Effect.child?).length := by
  cases effect with
  | spawn child => exact Nat.add_comm _ 1
  | proceed => exact (Nat.zero_add _).symm
  | halt => exact (Nat.zero_add _).symm

theorem runInPlace_spends (rules : Rules) (program : List Instruction) (scene : Scene) :
    (runInPlace rules program scene).Grants fun after effects =>
      Organism.Spends (effects.filterMap Effect.child?).length scene.organism after.organism := by
  induction program generalizing scene with
  | nil => exact .done (.of_same rfl)
  | cons instruction rest ih =>
      rw [runInPlace_cons]
      refine (scene.run_spends rules false (some instruction)).andThen fun after effect spends => ?_
      -- Putting back the delay and the phase does not put back the budget.
      have restored : Organism.Spends effect.offspring scene.organism
          (restoring scene after).organism := ⟨spends.children, spends.enough⟩
      refine (ih (restoring scene after)).map fun last effects later => ?_
      rw [children_cons]
      exact restored.trans later

/-- Instructions fail as soon as one of them writes with a chance of errors that is too large. -/
theorem runInPlace_fault? {width height : Nat} (rules : Rules) (program : List Instruction)
    {scene : Scene} (sound : scene.Sound width height) :
    (runInPlace rules program scene).fault? =
      if program.any Instruction.writes then rules.noise.writeFault else none := by
  induction program generalizing scene with
  | nil => rfl
  | cons instruction rest ih =>
      have after := (Scene.run_sound sound rules false (some instruction)).state
      have restored : (restoring scene (scene.run rules false (some instruction)).state).Sound
          width height := after.restored sound
      have later (effect : Effect) : ((runInPlace rules rest (restoring scene
          (scene.run rules false (some instruction)).state)).map fun effects =>
            effect :: effects).fault? = _ := (fault?_map _ _).trans (ih restored)
      rw [runInPlace_cons, fault?_andThen _ fun effect _ => later effect,
        Scene.run_fault? sound, Option.any_some, List.any_cons]
      cases instruction.writes <;> cases rest.any Instruction.writes <;>
        cases rules.noise.writeFault <;> rfl

theorem children_alive {width height : Nat} {rules : Rules} {program : List Instruction}
    {scene : Scene} (sound : scene.Sound width height) {effects : List Effect}
    (answer : (runInPlace rules program scene).answer = .ok effects) :
    ∀ child ∈ effects.filterMap Effect.child?, child.phase ≠ .dead := by
  intro child member
  obtain ⟨effect, among, same⟩ := List.mem_filterMap.mp member
  have good := (Sound.runInPlace sound rules program).value effects answer effect among
  cases effect with
  | spawn other =>
      cases same
      exact good.alive
  | proceed => cases same
  | halt => cases same

def placed (s : Simulation) (slot : SlotId) (scene : Scene) : Simulation :=
  { s with population := s.population.update slot scene.organism, habitat := scene.habitat }

variable {mnemonics : List String} {program : List Instruction} {effects : List Effect}
  {slot : SlotId} {o : Organism}

/-- Instructions that all run leave the organism in focus as the last of them does, and then their
children come in. -/
theorem runFocused_state (focus : s.focus = some slot) (found : s.population.get? slot = some o)
    (resolved : Instruction.resolveAll Instruction.ofMnemonic mnemonics = .ok program)
    (answer : (runInPlace s.rules program ⟨o, s.habitat⟩).answer = .ok effects)
    (alive : ∀ child ∈ effects.filterMap Effect.child?, child.phase ≠ .dead) :
    (s.runFocused mnemonics).state = ((effects.filterMap Effect.child?).foldl welcome
      (s.placed slot (runInPlace s.rules program ⟨o, s.habitat⟩).state)).syncMetrics := by
  have focused : s.population.focused? = some o := Option.bind_eq_some_iff.mpr ⟨slot, focus, found⟩
  have place (scene : Scene) :
      ({ s.withFocused scene.organism with habitat := scene.habitat } : Simulation) =
        s.placed slot scene := by
    simp [withFocused, focus, placed]
  obtain ⟨news, adopted, _⟩ :=
    adoptAll_alive alive (s.placed slot (runInPlace s.rules program ⟨o, s.habitat⟩).state)
  simp only [runFocused, resolved, focused, place]
  rw [andThen_of_ok _ (by exact answer), andThen_of_ok _ (by exact congrArg Attempt.answer adopted)]
  exact congrArg (fun attempt => attempt.state.syncMetrics) adopted

theorem runFocused_exact (reachable : Reachable s)
    (exact : (s.runFocused mnemonics).answer ≠ .error .integerTooLarge)
    (resolved : Instruction.resolveAll Instruction.ofMnemonic mnemonics = .ok program)
    (focused : s.population.focused? = some o) :
    ∃ effects, (runInPlace s.rules program ⟨o, s.habitat⟩).answer = .ok effects := by
  cases answer : (runInPlace s.rules program ⟨o, s.habitat⟩).answer with
  | ok effects => exact ⟨effects, rfl⟩
  | error fault =>
      have known := runInPlace_fault? s.rules program (reachable.sound.focused focused)
      -- Instructions fail for a chance of errors that is too large, and that is excluded.
      rw [fault?_eq_some_iff.mpr answer, NoiseSettings.writeFault] at known
      have failed : (s.runFocused mnemonics).answer = .error fault := by
        simp only [runFocused, resolved, focused]
        rw [andThen_of_error _ (by exact answer)]
      split at known
      · split at known <;> cases known
        exact absurd failed exact
      · cases known

/-- Instructions that all run have the children of the organism in focus come in, and nobody
else. -/
theorem runFocused_spends (reachable : Reachable s)
    (exact : (s.runFocused mnemonics).answer ≠ .error .integerTooLarge)
    (focus : s.focus = some slot) (found : s.population.get? slot = some o) :
    let t := (s.runFocused mnemonics).state
    let news := arrivals s.population t.population
    ∃ p, Organism.Spends news.length o p ∧ t.population.get? slot = some p ∧
      t.metrics.births = s.metrics.births + news.length := by
  intro t news
  have tidy : t.population.Tidy :=
    (reachable.onwards (Reaches.refl.perform (.runFocused mnemonics) rfl)).prepared.tidy
  have focused : s.population.focused? = some o := Option.bind_eq_some_iff.mpr ⟨slot, focus, found⟩
  cases resolved : Instruction.resolveAll Instruction.ofMnemonic mnemonics with
  | error fault =>
      have same : t = s := by simp [t, runFocused, resolved]
      have nobody : news = [] := by simp only [news, same, arrivals_self]
      rw [nobody, same]
      exact ⟨o, .of_same rfl, found, rfl⟩
  | ok program =>
      obtain ⟨effects, answer⟩ := runFocused_exact reachable exact resolved focused
      have spends := runInPlace_spends s.rules program ⟨o, s.habitat⟩ effects answer
      have alive := children_alive (reachable.sound.focused focused) answer
      let ran := (runInPlace s.rules program ⟨o, s.habitat⟩).state
      let children := effects.filterMap Effect.child?
      obtain ⟨added, _, length, members⟩ := adoptAll_alive alive (s.placed slot ran)
      have state : t = (children.foldl welcome (s.placed slot ran)).syncMetrics :=
        runFocused_state focus found resolved answer alive
      have grown : t.population.members = (s.placed slot ran).population.members ++ added := by
        rw [state]
        exact members
      have same : news = added := by
        rw [← arrivals_append grown tidy.distinct]
        exact (arrivals_congr (slots_update s.population slot ran.organism) t.population).symm
      have here := get?_update_self reachable.prepared.tidy.distinct (mem_slots_of_get? found)
        ran.organism
      rw [same, length]
      refine ⟨ran.organism, spends, get?_of_mem tidy.distinct ?_, ?_⟩
      · rw [grown]
        exact List.mem_append_left _ (mem_members_of_get? here)
      · rw [state]
        exact welcomed_births children (s.placed slot ran)

end Focus

/-- The births are those that the metrics count, and whoever is live was there before or is among
them. -/
structure Recorded (births : List Birth) (s t : Simulation) : Prop where
  counted : t.metrics.births = s.metrics.births + births.length
  origins : ∀ slot ∈ t.population.slots,
    slot ∈ s.population.slots ∨ slot ∈ births.map Birth.child

section Cycles
variable {s t u : Simulation}

theorem Recorded.trans {births later : List Birth} (first : Recorded births s t)
    (second : Recorded later t u) : Recorded (births ++ later) s u where
  counted := by
    rw [second.counted, first.counted, List.length_append]
    omega
  origins := by
    intro slot live
    rw [List.map_append, List.mem_append]
    rcases second.origins slot live with earlier | born
    · exact (first.origins slot earlier).imp_right Or.inl
    · exact Or.inr (Or.inr born)

theorem stepCycle_recorded (reachable : Reachable s) :
    Recorded s.lineageOfCycle s s.stepCycle.state := by
  have tidy := reachable.sound.population.tidy
  have course := (stepCycle_course tidy (ready_eq reachable.sound)).state
  have born : s.births = s.lineageOfCycle.map Birth.entrant := s.lineageOfCycle_entrants.symm
  constructor
  · rw [course.births, born, List.length_map]
  · intro slot live
    have among := (course.order tidy).subset live
    rwa [List.mem_append, born, List.map_map] at among

theorem stepCycles_recorded (reachable : Reachable s) (count : Nat) :
    Recorded (lineageOfCycles count s) s (stepCycles count s).state := by
  induction count generalizing s with
  | zero => exact ⟨rfl, fun _ => Or.inl⟩
  | succ count ih =>
      have first := stepCycle_recorded reachable
      rw [stepCycles_succ, lineageOfCycles]
      cases answer : s.stepCycle.answer with
      | error fault =>
          rw [andThen_of_error _ answer, List.append_nil]
          exact first
      | ok _ =>
          rw [andThen_of_ok _ answer]
          exact first.trans (ih (reachable.onwards (Reaches.refl.stepCycle).state))

theorem runCycles_state (s : Simulation) (count : Int) :
    (s.runCycles count).state = (stepCycles count.toNat s).state := by
  unfold runCycles runCyclesAs
  split
  · next negative =>
      rw [Int.toNat_of_nonpos (by omega)]
      rfl
  · cases answer : (stepCycles count.toNat s).answer with
    | error fault => rw [andThen_of_error _ (by exact answer)]; rfl
    | ok _ => rw [andThen_of_ok _ (by exact answer)]; rfl

end Cycles

section Deeds
variable {s : Simulation} {deed : Deed}

theorem spawn_births (s : Simulation) (p : Point) (direction : Direction) :
    (s.spawn p direction).state.metrics.births = s.metrics.births := by
  rw [Simulation.spawn, spawn_eq]
  rfl

theorem withFocused_births (s : Simulation) (o : Organism) :
    (s.withFocused o).metrics.births = s.metrics.births := by
  unfold withFocused
  split <;> rfl

theorem runFocused_idle {mnemonics : List String} (unfocused : s.population.focused? = none) :
    (s.runFocused mnemonics).state = s := by
  simp only [runFocused, unfocused]
  split <;> rfl

theorem focus_cases (s : Simulation) (mnemonics : List String) :
    (∃ slot o, s.focus = some slot ∧ s.population.get? slot = some o) ∨
      (s.runFocused mnemonics).state = s ∧ s.lineageOf (.perform (.runFocused mnemonics)) = [] := by
  cases focus : s.focus with
  | none =>
      have focus' : s.population.focus = none := focus
      exact Or.inr ⟨runFocused_idle (by simp [focused?, focus']), by simp [lineageOf, focus]⟩
  | some parent =>
      have focus' : s.population.focus = some parent := focus
      cases found : s.population.get? parent with
      | some o => exact Or.inl ⟨parent, o, rfl, found⟩
      | none =>
          have idle : (s.runFocused mnemonics).state = s :=
            runFocused_idle (by simp [focused?, focus', found])
          exact Or.inr ⟨idle, by simp [lineageOf, focus, idle, arrivals_self]⟩

theorem runFocused_births (reachable : Reachable s) {mnemonics : List String}
    (exact : (s.runFocused mnemonics).answer ≠ .error .integerTooLarge) :
    (s.runFocused mnemonics).state.metrics.births =
      s.metrics.births + (s.lineageOf (.perform (.runFocused mnemonics))).length := by
  rcases s.focus_cases mnemonics with ⟨slot, o, focus, found⟩ | ⟨idle, nobody⟩
  · obtain ⟨_, _, _, births⟩ := runFocused_spends reachable exact focus found
    simp only [lineageOf, focus, List.length_map, births]
  · rw [idle, nobody]
    rfl

theorem runFocused_fits {mnemonics : List String}
    (exact : (s.act (.perform (.runFocused mnemonics))).answer ≠ .error .integerTooLarge) :
    (s.runFocused mnemonics).answer ≠ .error .integerTooLarge := by
  intro failed
  exact exact (by simp only [act, perform, map_answer, failed, Except.map])

/-- The births of a deed are those that it adds to the counter. -/
theorem act_births (reachable : Reachable s) (facade : deed.isFacade = true)
    (exact : (s.act deed).answer ≠ .error .integerTooLarge) :
    (s.act deed).state.metrics.births = s.metrics.births + (s.lineageOf deed).length := by
  cases deed with
  | assign field v =>
      simp only [act, Simulation.assign]
      split <;> rfl
  | start => rfl
  | perform operation =>
      cases operation with
      | step => exact (stepCycle_recorded reachable).counted
      | runCycles count =>
          have state : (s.act (.perform (.runCycles count))).state = _ := s.runCycles_state count
          rw [state]
          exact (stepCycles_recorded reachable count.toNat).counted
      | spawn p direction => exact spawn_births s p direction
      | insert o => cases facade
      | writeByte p value =>
          simp only [act, perform, writeByte]
          split <;> rfl
      | writeInstruction p mnemonic =>
          simp only [act, perform, writeInstruction]
          split <;> rfl
      | writeInstructions p mnemonics =>
          simp only [act, perform, writeInstructions]
          split <;> rfl
      | killFocused => exact Metrics.births_witness _ _
      | dedup => exact Metrics.births_witness _ _
      | moveCursor direction steps =>
          simp only [act, perform, moveCursor]
          split
          · rfl
          · exact withFocused_births s _
      | moveIp direction steps =>
          simp only [act, perform, moveIp]
          split
          · rfl
          · exact withFocused_births s _
      | runFocused mnemonics => exact runFocused_births reachable (runFocused_fits exact)
      | set knob v =>
          simp only [act, perform, Attempt.map_state, Simulation.set_state, Simulation.assign]
          split <;> rfl
      | setSpeed v =>
          simp only [act, perform, Simulation.setSpeed, Simulation.assign]
          split <;> rfl
      | _ => rfl

theorem cyclesOf (asks : ¬ deed.cycles = 0) :
    deed = .perform .step ∨ ∃ count, deed = .perform (.runCycles count) := by
  cases deed with
  | perform operation =>
      cases operation with
      | step => exact Or.inl rfl
      | runCycles count => exact Or.inr ⟨count, rfl⟩
      | _ => exact absurd rfl asks
  | _ => exact absurd rfl asks

/-- Nobody is born but in cycles and of the organism in focus. -/
theorem lineageOf_apart (apart : deed.cycles = 0)
    (other : ∀ mnemonics, deed ≠ .perform (.runFocused mnemonics)) : s.lineageOf deed = [] := by
  cases deed with
  | perform operation =>
      cases operation with
      | step => cases apart
      | runCycles count =>
          have none : count.toNat = 0 := apart
          simp only [lineageOf, none]
          rfl
      | runFocused mnemonics => exact absurd rfl (other mnemonics)
      | _ => rfl
  | _ => rfl

/-- Whoever is live has come in at some time. -/
theorem act_origins (reachable : Reachable s) (deed : Deed) :
    ∀ slot ∈ (s.act deed).state.population.slots,
      slot ∈ s.population.slots ∨ slot ∈ (s.entrantsOf deed).map Prod.fst := by
  intro slot live
  unfold entrantsOf
  by_cases apart : deed.cycles = 0
  · rw [if_pos apart]
    by_cases old : slot ∈ s.population.slots
    · exact Or.inl old
    · obtain ⟨m, member, rfl⟩ := List.mem_map.mp live
      exact Or.inr (List.mem_map_of_mem (List.mem_filter.mpr ⟨member, by simpa using old⟩))
  · rw [if_neg apart, List.map_map]
    rcases cyclesOf apart with rfl | ⟨count, rfl⟩
    · exact (stepCycle_recorded reachable).origins slot live
    · have state : (s.act (.perform (.runCycles count))).state = _ := s.runCycles_state count
      rw [state] at live
      exact (stepCycles_recorded reachable count.toNat).origins slot live

/-- Whatever is done only to those that were there before leaves newcomers with the limits they came
in under. -/
theorem Ledger.granted {law : Law} {t : Simulation} {events : List Event}
    (ledger : Ledger law s events t) (prepared : s.Prepared)
    (changes : ∀ slot before after, law.change slot before after →
      slot ∈ s.population.slots ∨ after.children = before.children) :
    ∀ m ∈ arrivals s.population t.population,
      m.2.children = law.limits.maxChildren.map Int.ofNat := by
  intro m arrived
  obtain ⟨member, new⟩ := List.mem_filter.mp arrived
  have fresh : m.1 ∉ s.population.slots := by simpa using new
  refine ledger.members (fun slot o => slot ∉ s.population.slots →
    o.children = law.limits.maxChildren.map Int.ofNat) prepared ?_ ?_ ?_ m member fresh
  · exact fun _ _ _ entrant _ => entrant.children
  · intro slot before after _ change earlier fresh
    rcases changes slot before after change with old | same
    · exact absurd old fresh
    · exact same.trans (earlier fresh)
  · exact fun other old fresh => absurd (List.mem_map_of_mem old) fresh

def elders (s : Simulation) : Law :=
  ⟨s.settings.limits, fun slot before after =>
    slot ∈ s.population.slots ∨ after.children = before.children, fun _ _ => True⟩

theorem litter_granted (prepared : s.Prepared) (slot : SlotId) :
    ∀ birth ∈ s.litter slot,
      birth.newborn.children = s.settings.limits.maxChildren.map Int.ofNat := by
  have booked : Along (Books s.elders) s (s.executeSlot slot) :=
    executeSlot_books_of (fun o found => Or.inl (mem_slots_of_get? found)) trivial
  intro birth member
  obtain ⟨m, arrived, rfl⟩ := List.mem_map.mp member
  exact (booked prepared rfl).1.granted prepared (fun _ _ _ => id) m arrived

theorem notes_granted (prepared : s.Prepared) (slots : List SlotId) :
    ∀ birth ∈ notes litter executeSlot slots s,
      birth.newborn.children = s.settings.limits.maxChildren.map Int.ofNat := by
  induction slots generalizing s with
  | nil => simp [notes]
  | cons slot rest ih =>
      have booked : Along (Books (freely s.settings.limits)) s (s.executeSlot slot) :=
        executeSlot_books (fun _ _ _ => trivial) trivial
      obtain ⟨ledger, settings⟩ := booked prepared rfl
      intro birth member
      rcases List.mem_append.mp member with own | later
      · exact litter_granted prepared slot birth own
      · cases answer : (s.executeSlot slot).answer with
        | error fault => simp [answer] at later
        | ok _ =>
            simp only [answer] at later
            rw [← settings]
            exact ih (ledger.prepared prepared) birth later

theorem cycles_granted (prepared : s.Prepared) (count : Nat) :
    ∀ birth ∈ lineageOfCycles count s,
      birth.newborn.children = s.settings.limits.maxChildren.map Int.ofNat := by
  induction count generalizing s with
  | zero => simp [lineageOfCycles]
  | succ count ih =>
      obtain ⟨ledger, settings⟩ := freely_stepCycle s s.settings.limits prepared rfl
      intro birth member
      rcases List.mem_append.mp member with first | later
      · exact notes_granted prepared s.ready birth first
      · cases answer : s.stepCycle.answer with
        | error fault => simp [answer] at later
        | ok _ =>
            simp only [answer] at later
            rw [← settings]
            exact ih (ledger.prepared prepared) birth later

/-- Whoever comes in by a deed has the child limit in force, and the deed leaves that alone. -/
theorem act_granted (prepared : s.Prepared) (facade : deed.isFacade = true) :
    ∀ m ∈ s.entrantsOf deed, m.2.children = s.settings.limits.maxChildren.map Int.ofNat ∧
      (s.act deed).state.settings = s.settings := by
  intro m member
  unfold entrantsOf at member
  by_cases apart : deed.cycles = 0
  · rw [if_pos apart] at member
    obtain ⟨ledger, settings⟩ : Ledger s.elders s (s.act deed).events (s.act deed).state ∧ _ :=
      act_ledger_of prepared rfl facade apart
        (fun _ _ _ same => Or.inr (congrArg Organism.Standing.children same))
        (fun mnemonics _ => runFocused_books mnemonics
          fun _ _ _ _ found _ => Or.inl (mem_slots_of_get? found))
        (fun _ => trivial) fun _ => trivial
    refine ⟨ledger.granted prepared (fun _ _ _ => id) m member, settings.resolve_right ?_⟩
    rintro ⟨still, _⟩
    rw [still, arrivals_self] at member
    cases member
  · rw [if_neg apart] at member
    obtain ⟨birth, among, rfl⟩ := List.mem_map.mp member
    rcases cyclesOf apart with rfl | ⟨count, rfl⟩
    · exact ⟨notes_granted prepared s.ready birth among, (stepCycle_settings rfl).state⟩
    · exact ⟨cycles_granted prepared count.toNat birth among,
        ((SameSetup.refl s).runCycles count).state.settings⟩

end Deeds
end Simulation
end Terrarium
