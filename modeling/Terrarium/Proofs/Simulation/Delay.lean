import Terrarium.Proofs.Simulation.Deeds
import Terrarium.Proofs.Simulation.Schedule

/-!
What becomes of a delay. The cycle in which an organism starts one does not count it down; every
later cycle takes one cycle off it, unless a turn fails in it, and does nothing else to the organism;
and when none is left the organism has taken the step it owes and executes again.
-/

namespace Terrarium

namespace Organism

def countdown (o : Organism) (g : Grid) : Organism :=
  if 1 < o.delay then { o with delay := o.delay - 1 } else o.rested g

theorem countdown_longer {o : Organism} (longer : 1 < o.delay) (g : Grid) :
    o.countdown g = { o with delay := o.delay - 1 } := if_pos longer

theorem countdown_last {o : Organism} (last : o.delay = 1) (g : Grid) :
    o.countdown g = o.rested g := if_neg (by omega)

/-- Whoever is live can always become ready, so a countdown is never rejected. -/
theorem tickDelay_ends {o : Organism} (timed : o.Timed) (g : Grid) :
    ∃ ended, (o.tickDelay g).answer = .ok ended := by
  have lasting : o.phase.isTerminal = false := by
    have alive := timed.alive
    cases phase : o.phase <;> simp_all [Phase.isTerminal]
  have stepped (p : Organism) (same : p.phase = o.phase) :
      (((p.advance g).setPhase .ready).map fun _ => true).answer = .ok true := by
    simp [setPhase, advance, Phase.allows_eq, same, lasting, Except.map]
  unfold tickDelay
  dsimp only
  split
  · split
    · exact ⟨true, stepped _ rfl⟩
    · exact ⟨false, rfl⟩
  · split
    · exact ⟨true, stepped _ rfl⟩
    · exact ⟨false, rfl⟩

theorem tickDelay_eq {o : Organism} (timed : o.Timed) (delaying : o.phase = .delaying) (g : Grid) :
    (o.tickDelay g).state = o.countdown g := by
  have left := timed.left delaying
  unfold countdown
  by_cases longer : 1 < o.delay
  · rw [tickDelay_longer longer, if_pos longer]
    rfl
  · rw [tickDelay_last timed.alive (by omega), if_neg longer]
    rfl

theorem tickLifespan_lifespan (o : Organism) :
    o.tickLifespan.1 = { o with lifespan := o.tickLifespan.1.lifespan } := by
  unfold tickLifespan
  split <;> rfl

/-- The step that is owed depends on the sides of the torus only. -/
theorem rested_congr (o : Organism) {g g' : Grid} (wide : g'.width = g.width)
    (high : g'.height = g.height) : o.rested g' = o.rested g := by
  simp only [rested, Grid.step, Grid.normalize, wide, high]

theorem countdown_congr (o : Organism) {g g' : Grid} (wide : g'.width = g.width)
    (high : g'.height = g.height) : o.countdown g' = o.countdown g := by
  unfold countdown
  rw [o.rested_congr wide high]

end Organism

namespace Simulation
open Population Attempt

def others (limits : Limits) (slot : SlotId) : Law :=
  ⟨limits, fun other _ _ => other ≠ slot, fun other _ => other ≠ slot⟩

section Turns
variable {s t : Simulation} {slot : SlotId} {o : Organism} {limits : Limits}

theorem Ledger.spares {events : List Event} (ledger : Ledger (others limits slot) s events t)
    (prepared : s.Prepared) (found : s.population.get? slot = some o) :
    Fate (· = o) (fun _ => False) slot (removals events) t.population :=
  (ledger.fate (· = o) prepared (fun _ _ _ other => absurd rfl other) found rfl).weaken
    (fun _ => id) fun _ other => other rfl

theorem executeSlot_others {other : SlotId} (apart : other ≠ slot) :
    Along (Books (others limits slot)) s (s.executeSlot other) :=
  executeSlot_books (fun _ _ _ => apart) apart

theorem tickSlot_others {other : SlotId} (apart : other ≠ slot) :
    Along (Books (others limits slot)) s (s.tickSlot other) :=
  tickSlot_books fun _ _ _ => apart

theorem executions_others {slots : List SlotId} (outside : slot ∉ slots) :
    Along (Books (others limits slot)) s (Attempt.forEach executeSlot slots s) :=
  (books_chain _).forEach slots (fun _ _ member =>
    executeSlot_others (by rintro rfl; exact outside member)) s

theorem ticks_others {slots : List SlotId} (outside : slot ∉ slots) :
    Along (Books (others limits slot)) s (Attempt.forEach tickSlot slots s) :=
  (books_chain _).forEach slots (fun _ _ member =>
    tickSlot_others (by rintro rfl; exact outside member)) s

theorem freely_executions (slots : List SlotId) (limits : Limits) :
    Along (Books (freely limits)) s (Attempt.forEach executeSlot slots s) :=
  (books_chain _).forEach slots
    (fun _ _ _ => executeSlot_books (fun _ _ _ => trivial) trivial) s

theorem tickSlot_habitat (s : Simulation) (slot : SlotId) :
    (s.tickSlot slot).state.habitat = s.habitat := by
  unfold tickSlot
  split <;> rfl

theorem freely_ticks (slots : List SlotId) (limits : Limits) :
    Along (Books (freely limits)) s (Attempt.forEach tickSlot slots s) :=
  (books_chain _).forEach slots (fun _ _ _ => tickSlot_books fun _ _ _ => trivial) s

theorem tickSlot_ends (prepared : s.Prepared) (slot : SlotId) :
    (s.tickSlot slot).answer = .ok () := by
  unfold tickSlot
  cases found : s.population.get? slot with
  | none => rfl
  | some o =>
      obtain ⟨_, ended⟩ := Organism.tickDelay_ends
        (prepared.timed _ (mem_members_of_get? found)) s.grid
      simp [ended, Except.map]

theorem ticks_end (prepared : s.Prepared) (slots : List SlotId) :
    (Attempt.forEach tickSlot slots s).answer = .ok () := by
  induction slots generalizing s with
  | nil => rfl
  | cons slot rest ih =>
      have prepared' : (s.tickSlot slot).state.Prepared :=
        prepared.along fun _ => tickSlot_books fun _ _ _ => trivial
      rw [Attempt.forEach, andThen_of_ok _ (tickSlot_ends prepared slot)]
      exact ih prepared'

/-- A pass counts each delay down once. -/
theorem ticks_fate (prepared : s.Prepared) {slots : List SlotId} (distinct : slots.Nodup)
    (member : slot ∈ slots) (found : s.population.get? slot = some o) :
    Fate (· = (o.tickDelay s.grid).state) (fun _ => False) slot
      (removals (Attempt.forEach tickSlot slots s).events)
      (Attempt.forEach tickSlot slots s).state.population := by
  induction slots generalizing s with
  | nil => simp at member
  | cons other rest ih =>
      obtain ⟨apart, distinct⟩ := List.nodup_cons.mp distinct
      have first := tickSlot_ends prepared other
      have prepared' : (s.tickSlot other).state.Prepared :=
        prepared.along fun _ => tickSlot_books fun _ _ _ => trivial
      -- Before its turn the organism is as it was at the start, and after it nobody touches it.
      by_cases own : other = slot
      · subst own
        have turn : Fate (· = (o.tickDelay s.grid).state) (fun _ => False) other
            (removals (s.tickSlot other).events) (s.tickSlot other).state.population := by
          have silent := o.tickDelay_discreet s.grid
          simp only [tickSlot, found]
          exact .stays (get?_update_self prepared.tidy.distinct (mem_slots_of_get? found) _) rfl
            (by simp [removals, show Event.removals (o.tickDelay s.grid).events = [] from silent])
        refine fate_andThen_of_ok first prepared' (freely_ticks rest) turn ?_ fun _ => id
        rintro p here rfl
        exact (ticks_others apart prepared' rfl).1.spares prepared' here
      · have still := (tickSlot_others own prepared rfl).1.spares prepared found
        have grid : (s.tickSlot other).state.grid = s.grid :=
          congrArg Habitat.grid (s.tickSlot_habitat other)
        refine fate_andThen_of_ok first prepared' (freely_ticks rest) still ?_ fun _ => id
        rintro p here rfl
        rw [← grid]
        have member' := (List.mem_cons.mp member).resolve_left (Ne.symm own)
        exact ih prepared' distinct member' here

end Turns

section Cycle
variable {s : Simulation} {slot : SlotId} {o : Organism}

theorem settle_books {law : Law} {slots : List SlotId} (culls : ∀ slot, law.leave slot .culled)
    (charges : ∀ slot ∈ slots, ∀ o, law.change slot o o.tickLifespan.1)
    (expires : ∀ slot ∈ slots, law.leave slot .expired) (dedups : ∀ slot, law.leave slot .dedup) :
    Along (Books law) s (s.settle slots) := by
  have chain := books_chain law
  apply chain.andThen irradiate_books
  intro _ _
  apply chain.andThen (enforceMax_books culls)
  intro _ _
  exact closing_books charges expires dedups

/-- After the turns nothing is done to those that were not ready, but they may be culled or be
removed as doubles. -/
theorem settle_fate (prepared : s.Prepared) {slots : List SlotId} (outside : slot ∉ slots)
    (found : s.population.get? slot = some o) :
    Fate (· = o) (fun cause => cause = .culled ∨ cause = .dedup) slot
      (removals (s.settle slots).events) (s.settle slots).state.population := by
  let law : Law := ⟨s.settings.limits, fun slot _ _ => slot ∈ slots,
    fun slot cause => cause = .culled ∨ slot ∈ slots ∧ cause = .expired ∨ cause = .dedup⟩
  have booked : Along (Books law) s (s.settle slots) :=
    settle_books (fun _ => Or.inl rfl) (fun _ charged _ => charged)
      (fun _ charged => Or.inr (Or.inl ⟨charged, rfl⟩)) fun _ => Or.inr (Or.inr rfl)
  refine ((booked prepared rfl).1.fate (· = o) prepared
    (fun _ _ _ charged => absurd charged outside) found rfl).weaken (fun _ => id) ?_
  rintro cause (culled | ⟨charged, _⟩ | double)
  · exact Or.inl culled
  · exact absurd charged outside
  · exact Or.inr double

theorem freely_settle (slots : List SlotId) (limits : Limits) :
    Along (Books (freely limits)) s (s.settle slots) :=
  settle_books (fun _ => trivial) (fun _ _ _ => trivial) (fun _ _ => trivial) fun _ => trivial

def waiting (s : Simulation) (slots ready : List SlotId) : Attempt Simulation Unit :=
  (Attempt.forEach tickSlot slots s).andThen fun t _ => t.settle ready

theorem freely_waiting (slots ready : List SlotId) (limits : Limits) :
    Along (Books (freely limits)) s (s.waiting slots ready) := by
  apply (books_chain _).andThen (freely_ticks slots limits)
  intro _ _
  exact freely_settle ready limits

theorem waiting_fate (prepared : s.Prepared) {slots ready : List SlotId} (distinct : slots.Nodup)
    (member : slot ∈ slots) (outside : slot ∉ ready) (found : s.population.get? slot = some o)
    (delaying : o.phase = .delaying) :
    Fate (· = o.countdown s.grid) (fun cause => cause = .culled ∨ cause = .dedup) slot
      (removals (s.waiting slots ready).events) (s.waiting slots ready).state.population := by
  have timed := prepared.timed _ (mem_members_of_get? found)
  have prepared' := prepared.along (freely_ticks (s := s) slots)
  have ticked := ticks_fate prepared distinct member found
  rw [Organism.tickDelay_eq timed delaying] at ticked
  refine fate_andThen_of_ok (ticks_end prepared slots) prepared' (freely_settle ready) ticked ?_
    fun _ => False.elim
  rintro p here rfl
  exact settle_fate prepared' outside here

/-- The turns of a cycle all come to their end. Unless they do, it stops before the delays. -/
def takesTurns (s : Simulation) : Bool := (Attempt.forEach executeSlot s.ready s).succeeded

theorem stepCycle_eq_waiting (s : Simulation) :
    s.stepCycle = (Attempt.forEach executeSlot s.ready s).andThen fun t _ =>
      t.waiting s.delaying s.ready := rfl

theorem takesTurns_of_completed (completed : s.stepCycle.answer = .ok ()) :
    s.takesTurns = true := by
  obtain ⟨_, taken, _⟩ := andThen_ok completed
  exact (succeeded_iff _).mpr ⟨_, taken⟩

/-- One cycle of a delay, whether that cycle comes to its end or not. -/
theorem stepCycle_delaying (reachable : Reachable s) (found : s.population.get? slot = some o)
    (delaying : o.phase = .delaying) :
    Fate (· = if s.takesTurns then o.countdown s.grid else o)
      (fun cause => cause = .culled ∨ cause = .dedup) slot
      (removals s.stepCycle.events) s.stepCycle.state.population := by
  have prepared := reachable.prepared
  have outside := mt (prepared.mem_ready_iff found).mp (by simp [delaying])
  have waits := (prepared.mem_delaying_iff found).mpr delaying
  have prepared' := prepared.along (freely_executions (s := s) s.ready)
  have spared := (executions_others outside prepared rfl).1.spares prepared found
  rw [stepCycle_eq_waiting]
  cases turns : (Attempt.forEach executeSlot s.ready s).answer with
  | error fault =>
      have stopped : s.takesTurns = false := by simp [takesTurns, Attempt.succeeded, turns]
      rw [andThen_of_error _ turns, stopped]
      exact spared.weaken (fun _ => id) fun _ => False.elim
  | ok _ =>
      have taken : s.takesTurns = true := by simp [takesTurns, Attempt.succeeded, turns]
      -- The others may have written on the torus by now, but its sides are the same.
      have sound := (Attempt.Ensures.forEach s.ready (fun (t : Simulation) slot _
        (sound : t.Sound s.grid.width s.grid.height) => sound.executeSlot slot) s
          reachable.sound).state
      rw [taken]
      refine fate_andThen_of_ok turns prepared' (freely_waiting s.delaying s.ready) spared ?_
        fun _ => False.elim
      rintro p here rfl
      refine (waiting_fate prepared' prepared.delaying_nodup waits outside here delaying).weaken
        ?_ fun _ => id
      rintro _ rfl
      exact p.countdown_congr sound.shaped.1 sound.shaped.2

end Cycle

def steps (count : Nat) : List Deed := List.replicate count (.perform .step)

def countdowns : Nat → Simulation → Nat
  | 0, _ => 0
  | count + 1, s => (if s.takesTurns then 1 else 0) + countdowns count s.stepCycle.state

def Remains (slot : SlotId) (events : List Event) : Prop :=
  (slot, .culled) ∉ removals events ∧ (slot, .dedup) ∉ removals events

section Cycles
variable {s : Simulation} {slot : SlotId} {o : Organism}

theorem countdowns_taken (taken : s.takesTurns = true) (count : Nat) :
    countdowns (count + 1) s = countdowns count s.stepCycle.state + 1 := by
  rw [countdowns, if_pos taken, Nat.add_comm]

theorem countdowns_stopped (stopped : ¬ s.takesTurns = true) (count : Nat) :
    countdowns (count + 1) s = countdowns count s.stepCycle.state := by
  rw [countdowns, if_neg stopped, Nat.zero_add]

theorem Reachable.after_steps (reachable : Reachable s) (count : Nat) :
    Reachable (s.after (steps count)) := by
  apply reachable.onwards (Reaches.refl.after ?_)
  intro deed member
  cases List.eq_of_mem_replicate member
  rfl

theorem remains_append {first second : List Event} :
    Remains slot (first ++ second) ↔ Remains slot first ∧ Remains slot second := by
  simp only [Remains, removals_append, List.mem_append, not_or]
  exact and_and_and_comm

theorem countdowns_of_complete (count : Nat) (complete : s.CyclesComplete (steps count)) :
    countdowns count s = count := by
  induction count generalizing s with
  | zero => rfl
  | succ count ih =>
      obtain ⟨first, later⟩ := complete
      have completed : s.stepCycle.answer = .ok () :=
        answer_of_succeeded ((succeeded_map _ _).symm.trans (first Nat.one_pos))
      rw [countdowns_taken (takesTurns_of_completed completed)]
      exact congrArg (· + 1) (ih later)

theorem live_of_fate {kept : Organism → Prop} {events : List Event} {p : Population}
    (fate : Fate kept (fun cause => cause = .culled ∨ cause = .dedup) slot (removals events) p)
    (remains : Remains slot events) : ∃ o, p.get? slot = some o ∧ kept o := by
  cases fate with
  | stays here good _ => exact ⟨_, here, good⟩
  | leaves _ reason named =>
      rcases reason with rfl | rfl
      · exact absurd ((named _).mpr rfl) remains.1
      · exact absurd ((named _).mpr rfl) remains.2

theorem steps_delaying (reachable : Reachable s) (found : s.population.get? slot = some o)
    (delaying : o.phase = .delaying) (count : Nat) (short : (countdowns count s : Int) < o.delay)
    (remains : Remains slot (s.told (steps count))) :
    (s.after (steps count)).population.get? slot =
      some { o with delay := o.delay - countdowns count s } := by
  induction count generalizing s o with
  | zero => simpa [steps, countdowns] using found
  | succ count ih =>
      obtain ⟨now, later⟩ := remains_append.mp remains
      obtain ⟨p, here, same⟩ := live_of_fate (stepCycle_delaying reachable found delaying) now
      have reachable' : Reachable s.stepCycle.state :=
        reachable.onwards Reaches.refl.stepCycle.state
      by_cases taken : s.takesTurns = true
      · rw [countdowns_taken taken] at short ⊢
        rw [if_pos taken, Organism.countdown_longer (by omega)] at same
        subst same
        have waits := ih reachable' here delaying (by simp only; omega) later
        have less : o.delay - 1 - countdowns count s.stepCycle.state =
            o.delay - (countdowns count s.stepCycle.state + 1 : Nat) := by omega
        rw [← less]
        exact waits
      · rw [countdowns_stopped taken] at short ⊢
        rw [if_neg taken] at same
        subst same
        exact ih reachable' here delaying short later

end Cycles

section Beginning
variable {s : Simulation} {slot : SlotId} {o : Organism}

def Executed (rules : Rules) (before after : Organism) : Prop :=
  ∃ habitat, after = (Scene.execute rules ⟨before, habitat⟩).state.organism

theorem executeSlot_fate (prepared : s.Prepared) (found : s.population.get? slot = some o) :
    Fate (fun p => p = o ∨ Executed s.rules o p) (fun _ => True) slot
      (removals (s.executeSlot slot).events) (s.executeSlot slot).state.population := by
  let law : Law := ⟨s.settings.limits, fun _ _ after => Executed s.rules o after, fun _ _ => True⟩
  have booked : Along (Books law) s (s.executeSlot slot) := by
    apply executeSlot_books_of _ trivial
    intro before here
    cases found.symm.trans here
    exact ⟨s.habitat, rfl⟩
  exact (booked prepared rfl).1.fate (fun p => p = o ∨ Executed s.rules o p) prepared
    (fun _ _ _ executed _ => Or.inr executed) found (Or.inl rfl)

/-- In a pass an organism has at most one turn, whether the pass comes to its end or not. -/
theorem executions_fate (prepared : s.Prepared) {slots : List SlotId} (distinct : slots.Nodup)
    (found : s.population.get? slot = some o) :
    Fate (fun p => p = o ∨ Executed s.rules o p) (fun _ => True) slot
      (removals (Attempt.forEach executeSlot slots s).events)
      (Attempt.forEach executeSlot slots s).state.population := by
  induction slots generalizing s with
  | nil => exact .stays found (Or.inl rfl) (by simp [Attempt.forEach, removals, Event.removals])
  | cons other rest ih =>
      obtain ⟨apart, distinct⟩ := List.nodup_cons.mp distinct
      have booked (limits : Limits) : Along (Books (freely limits)) s (s.executeSlot other) :=
        executeSlot_books (fun _ _ _ => trivial) trivial
      have prepared' := prepared.along booked
      by_cases own : other = slot
      · subst own
        refine fate_andThen (fun _ => id) prepared' (freely_executions rest)
          (executeSlot_fate prepared found) ?_ fun _ => id
        intro p here turn
        refine ((executions_others apart prepared' rfl).1.spares prepared' here).weaken ?_
          fun _ _ => trivial
        rintro _ rfl
        exact turn
      · have still := (executeSlot_others own prepared rfl).1.spares prepared found
        -- The turns to come follow the same rules as those of the start.
        have rules : (s.executeSlot other).state.rules = s.rules := by
          rw [Simulation.rules, Simulation.rules, (booked _ prepared rfl).2]
        refine fate_andThen (fun _ => Or.inl) prepared' (freely_executions rest) still ?_
          fun _ => False.elim
        rintro p here rfl
        rw [← rules]
        exact ih prepared' distinct here

theorem waiting_lifespan (prepared : s.Prepared) {slots ready : List SlotId} (sits : slot ∉ slots)
    (found : s.population.get? slot = some o) :
    Fate (fun p => p = { o with lifespan := p.lifespan }) (fun _ => True) slot
      (removals (s.waiting slots ready).events) (s.waiting slots ready).state.population := by
  let law : Law := ⟨s.settings.limits,
    fun slot before after => slot ∉ slots → after = { before with lifespan := after.lifespan },
    fun _ _ => True⟩
  have chain := books_chain law
  have booked : Along (Books law) s (s.waiting slots ready) := by
    apply chain.andThen (chain.forEach slots (fun t other member => ?_) s)
    · intro _ _
      exact settle_books (fun _ => trivial) (fun _ _ p _ => p.tickLifespan_lifespan)
        (fun _ _ => trivial) fun _ => trivial
    · exact tickSlot_books fun _ _ _ outside => absurd member outside
  refine (booked prepared rfl).1.fate (fun p => p = { o with lifespan := p.lifespan }) prepared
    ?_ found rfl
  intro before after _ change same
  rw [change sits, same]

/-- At the end of a cycle in which a delay has started it is as long as its instruction made it. -/
theorem stepCycle_begins (prepared : s.Prepared) (found : s.population.get? slot = some o)
    (ready : o.phase = .ready) {p : Organism}
    (left : s.stepCycle.state.population.get? slot = some p) (delaying : p.phase = .delaying) :
    ∃ habitat, p = { (Scene.execute s.rules ⟨o, habitat⟩).state.organism with
      lifespan := p.lifespan } := by
  have prepared' := prepared.along (freely_executions (s := s) s.ready)
  have sits := mt (prepared.mem_delaying_iff found).mp (by simp [ready])
  have fate : Fate (fun p => ∃ q, (q = o ∨ Executed s.rules o q) ∧
      p = { q with lifespan := p.lifespan }) (fun _ => True) slot
      (removals s.stepCycle.events) s.stepCycle.state.population := by
    rw [stepCycle_eq_waiting]
    refine fate_andThen (fun q turn => ⟨q, turn, rfl⟩) prepared'
      (freely_waiting s.delaying s.ready) (executions_fate prepared prepared.ready_nodup found) ?_
      fun _ => id
    intro q here turn
    exact (waiting_lifespan prepared' sits here).weaken (fun _ same => ⟨q, turn, same⟩) fun _ => id
  cases fate with
  | stays here good _ =>
      cases left.symm.trans here
      obtain ⟨q, rfl | ⟨habitat, rfl⟩, same⟩ := good
      · -- Without a turn it would still be ready.
        rw [same] at delaying
        cases ready.symm.trans delaying
      · exact ⟨habitat, same⟩
  | leaves gone _ _ =>
      exact absurd gone ((prepared.along (freely_stepCycle s)).tidy.not_spent
        (mem_slots_of_get? left))

end Beginning

theorem fst_mem_of_notes {action : Simulation → SlotId → Attempt Simulation Unit}
    {slots : List SlotId} {s : Simulation} {m : SlotId × Organism}
    (noted : m ∈ notes found action slots s) : m.1 ∈ slots := by
  induction slots generalizing s with
  | nil => cases noted
  | cons slot rest ih =>
      rw [notes, List.mem_append] at noted
      rcases noted with here | later
      · unfold found at here
        split at here <;> simp_all
      · split at later
        · exact List.mem_cons_of_mem _ (ih later)
        · cases later

theorem not_mem_executions {s : Simulation} (prepared : s.Prepared) {slot : SlotId} {o : Organism}
    (found : s.population.get? slot = some o) (delaying : o.phase = .delaying) :
    slot ∉ s.executions.map Prod.fst := by
  intro executed
  obtain ⟨m, noted, rfl⟩ := List.mem_map.mp executed
  have ready := (prepared.mem_ready_iff found).mp (fst_mem_of_notes noted)
  cases ready.symm.trans delaying

theorem mem_executions {s : Simulation} (reachable : Reachable s) {slot : SlotId} {o : Organism}
    (found : s.population.get? slot = some o) (ready : o.phase = .ready)
    (taken : s.takesTurns = true) : (slot, o) ∈ s.executions := by
  obtain ⟨_, executed⟩ := (succeeded_iff _).mp taken
  rw [executions_eq reachable.prepared.tidy (ready_eq reachable.sound) executed]
  exact List.mem_filter.mpr ⟨mem_members_of_get? found, by simp [ready]⟩

/-- A delay that a cycle leaves to an organism that was ready is as long as the instruction it
executed asked for. Of the cycles that follow, whether they fail or not, each that takes its turns
counts it down once, and those that come to their end do. As long as some of it is left the organism
waits, with nothing else in it changed, and executes nothing; the countdown that ends it leaves the
organism ready and one step further, with nothing else changed, and it executes in the next. -/
theorem delay_skips_its_cycles {s : Simulation} (reachable : Reachable s) {slot : SlotId}
    {o p : Organism} (found : s.population.get? slot = some o) (ready : o.phase = .ready)
    (left : s.stepCycle.state.population.get? slot = some p) (delaying : p.phase = .delaying) :
    (∃ habitat, p = { (Scene.execute s.rules ⟨o, habitat⟩).state.organism with
          lifespan := p.lifespan } ∧
        ∃ instruction, Instruction.ofByte? (habitat.grid.read o.ip) = some instruction ∧
          p.delay = Scene.asked s.rules ⟨o, habitat⟩ instruction) ∧
      0 < p.delay ∧
      ∀ count,
        let t := s.stepCycle.state
        let u := t.after (steps count)
        let past := countdowns count t
        (t.CyclesComplete (steps count) → past = count) ∧
        (Remains slot (t.told (steps count)) →
          (past < p.delay →
            u.population.get? slot = some { p with delay := p.delay - past } ∧
              slot ∉ u.executions.map Prod.fst) ∧
          (past + 1 = p.delay → u.takesTurns = true → Remains slot u.stepCycle.events →
            let v := u.stepCycle.state
            let further : Organism :=
              { p with ip := u.grid.step p.ip p.direction 1, delay := 0, phase := .ready }
            v.population.get? slot = some further ∧
              (v.takesTurns = true → (slot, further) ∈ v.executions))) := by
  have reachable' : Reachable s.stepCycle.state := reachable.onwards Reaches.refl.stepCycle.state
  have positive := (reachable'.prepared.timed _ (mem_members_of_get? left)).left delaying
  obtain ⟨habitat, begun⟩ := stepCycle_begins reachable.prepared found ready left delaying
  have waits := (congrArg Organism.phase begun).symm.trans delaying
  obtain ⟨instruction, decoded, asked⟩ := Scene.execute_started (s := ⟨o, habitat⟩) ready waits
  have length := (congrArg Organism.delay begun).trans asked
  refine ⟨⟨habitat, begun, instruction, decoded, length⟩, positive, ?_⟩
  intro count t u past
  refine ⟨countdowns_of_complete count, fun remains => ?_⟩
  have onwards : Reachable u := reachable'.after_steps count
  have waiting (short : (past : Int) < p.delay) :=
    steps_delaying reachable' left delaying count short remains
  constructor
  · intro short
    exact ⟨waiting short, not_mem_executions onwards.prepared (waiting short) delaying⟩
  · intro last taken remains' v further
    obtain ⟨q, here, same⟩ := live_of_fate
      (stepCycle_delaying onwards (waiting (last ▸ Int.lt_succ _)) delaying) remains'
    have rested : q = further := by
      have one : p.delay - past = 1 := by
        rw [← last]
        omega
      rw [if_pos taken, Organism.countdown_last one] at same
      exact same
    rw [rested] at here
    exact ⟨here, mem_executions (onwards.onwards Reaches.refl.stepCycle.state) here rfl⟩

/-- A wait of one cycle. -/
theorem delay_skips_its_cycles_twoCells :
    let s := twoCells.performAll
      [.writeInstructions ⟨0, 0⟩ ["+a", ".a"], .spawn ⟨0, 0⟩ .right, .step]
    let t := s.stepCycle.state
    ∃ o p, s.population.get? ⟨0, 0⟩ = some o ∧ t.population.get? ⟨0, 0⟩ = some p ∧
      p.phase = .delaying ∧ p.delay = 1 ∧ ⟨0, 0⟩ ∉ t.executions.map Prod.fst ∧
      ⟨0, 0⟩ ∈ t.stepCycle.state.executions.map Prod.fst := by
  intro s t
  have reachable : Reachable s := ⟨twoCells, twoCells_fresh, Reaches.performAll _ (by decide)⟩
  have live : (s.population.get? ⟨0, 0⟩).isSome ∧ (t.population.get? ⟨0, 0⟩).isSome := by
    decide +kernel
  obtain ⟨o, found⟩ := Option.isSome_iff_exists.mp live.1
  obtain ⟨p, left⟩ := Option.isSome_iff_exists.mp live.2
  have ready : (s.population.get? ⟨0, 0⟩).all fun o => o.phase = .ready := by decide +kernel
  have waits : (t.population.get? ⟨0, 0⟩).all fun p => p.phase = .delaying ∧ p.delay = 1 := by
    decide +kernel
  simp only [found, left, Option.all_some, decide_eq_true_eq] at ready waits
  obtain ⟨delaying, one⟩ := waits
  obtain ⟨_, _, cycles⟩ := delay_skips_its_cycles reachable found ready left delaying
  obtain ⟨_, waits⟩ := cycles 0
  have silent : Remains ⟨0, 0⟩ ([] : List Event) := by simp [Remains, removals, Event.removals]
  obtain ⟨early, late⟩ := waits silent
  have next : Remains ⟨0, 0⟩ t.stepCycle.events := ⟨by decide +kernel, by decide +kernel⟩
  obtain ⟨_, executes⟩ := late one.symm (by decide +kernel) next
  exact ⟨o, p, found, left, delaying, one, (early (by simp [countdowns, one])).2,
    List.mem_map_of_mem (f := Prod.fst) (executes (by decide +kernel))⟩

end Simulation
end Terrarium
