import Terrarium.Proofs.Simulation.Soundness
import Terrarium.Proofs.Simulation.Turns

/-!
Who does what in one cycle. Main statement: those ready at the start execute once each, in the
order of their creation and as they were then; those delaying sit out one cycle of their delay;
and the newborns of the cycle are at its end, if still there, just as they were born.
-/

namespace Terrarium.Simulation
open Population

def readyMembers (s : Simulation) : List (SlotId × Organism) :=
  s.population.members.filter fun m => m.2.phase = .ready

def delayingMembers (s : Simulation) : List (SlotId × Organism) :=
  s.population.members.filter fun m => m.2.phase = .delaying

def settle (s : Simulation) (slots : List SlotId) : Attempt Simulation Unit :=
  s.irradiate.andThen fun s _ =>
  s.enforceMax.andThen fun s _ =>
  (s.charge slots).andThen fun s _ =>
  ({ s with cycle := s.cycle + 1 } : Simulation).dedupIfDue.andThen fun s _ =>
  .done s.syncMetrics ()

/-- A cycle in which given organisms execute and others sit out a delay, as they are given. -/
def cycleOver (s : Simulation) (ready delaying : List (SlotId × Organism)) :
    Attempt Simulation Unit :=
  (Attempt.forEach executeAs ready s).andThen fun s _ =>
  (Attempt.forEach tickAs delaying s).andThen fun s _ =>
  s.settle (ready.map Prod.fst)

/-- The organisms that execute an instruction in a cycle, each as its turn finds it. -/
def executions (s : Simulation) : List (SlotId × Organism) := notes found executeSlot s.ready s

def ticks (s : Simulation) : List (SlotId × Organism) :=
  notes found tickSlot s.delaying (Attempt.forEach executeSlot s.ready s).state

def births (s : Simulation) : List (SlotId × Organism) :=
  notes (born executeSlot) executeSlot s.ready s

theorem stepCycle_eq (s : Simulation) :
    s.stepCycle = (Attempt.forEach executeSlot s.ready s).andThen fun t _ =>
      (Attempt.forEach tickSlot s.delaying t).andThen fun t _ => t.settle s.ready := rfl

theorem ready_eq {s : Simulation} {width height : Nat} (sound : s.Sound width height) :
    s.ready = s.readyMembers.map Prod.fst := by
  unfold ready readyMembers
  congr 1
  apply List.filter_congr
  intro m member
  have alive := (sound.population.members m member).alive
  cases phase : m.2.phase with
  | ready => simp [Organism.isDelaying, phase]
  | delaying => simp [Organism.isDelaying, phase]
  | dead => exact absurd phase alive

theorem delaying_eq (s : Simulation) : s.delaying = s.delayingMembers.map Prod.fst := rfl

theorem mem_of_ready {s : Simulation} {m : SlotId × Organism} (ready : m ∈ s.readyMembers) :
    m ∈ s.population.members := (List.mem_filter.mp ready).1

theorem mem_of_delaying {s : Simulation} {m : SlotId × Organism} (delaying : m ∈ s.delayingMembers) :
    m ∈ s.population.members := (List.mem_filter.mp delaying).1

section Cycle
variable {s : Simulation}

theorem ready_sublist (s : Simulation) :
    (s.readyMembers.map Prod.fst).Sublist s.population.slots := List.filter_sublist.map Prod.fst

theorem delaying_sublist (s : Simulation) :
    (s.delayingMembers.map Prod.fst).Sublist s.population.slots := List.filter_sublist.map Prod.fst

theorem ready_distinct (tidy : s.population.Tidy) : (s.readyMembers.map Prod.fst).Nodup :=
  s.ready_sublist.nodup tidy.distinct

theorem delaying_distinct (tidy : s.population.Tidy) : (s.delayingMembers.map Prod.fst).Nodup :=
  s.delaying_sublist.nodup tidy.distinct

theorem delaying_not_ready (tidy : s.population.Tidy) {m : SlotId × Organism}
    (delaying : m ∈ s.delayingMembers) : m.1 ∉ s.readyMembers.map Prod.fst := by
  intro ready
  obtain ⟨other, here, same⟩ := List.mem_map.mp ready
  obtain ⟨slot, o⟩ := m
  obtain ⟨slot', o'⟩ := other
  cases (same : slot' = slot)
  have found := get?_of_mem tidy.distinct (mem_of_delaying delaying)
  have found' := get?_of_mem tidy.distinct (mem_of_ready here)
  rw [found, Option.some.injEq] at found'
  have phase := (List.mem_filter.mp delaying).2
  have phase' := (List.mem_filter.mp here).2
  simp only [decide_eq_true_eq] at phase phase'
  rw [found', phase'] at phase
  cases phase

/-- Once everyone has had a turn, those charged change and anyone may leave. -/
def Settling (slots : List SlotId) : Move → Prop
  | .enter _ _ => False
  | .change slot _ => slot ∈ slots
  | .leave _ _ => True
  | .look _ => False

theorem course_of_trail {permitted : Move → Prop} {p : Population} {moves : List Move}
    {metrics : Metrics} (trail : Trail s.population moves p)
    (allowed : ∀ move ∈ moves, permitted move) (nobody : newcomers moves = [])
    (births : metrics.births = s.metrics.births) {habitat : Habitat} :
    Course permitted [] s { s with population := p, metrics := metrics, habitat := habitat } :=
  ⟨⟨moves, trail, allowed, nobody⟩, births⟩

theorem newcomers_of_settling {slots : List SlotId} {moves : List Move}
    (settling : ∀ move ∈ moves, Settling slots move) : newcomers moves = [] := by
  apply List.filterMap_eq_nil_iff.mpr
  intro move member
  have only := settling move member
  cases move with
  | enter slot o => exact only.elim
  | change slot o => rfl
  | leave slot cause => rfl
  | look focus => rfl

theorem settling_of_victims (slots victims : List SlotId) (cause : RemovalCause) :
    ∀ move ∈ victims.map fun slot => Move.leave slot cause, Settling slots move := by
  intro move member
  obtain ⟨slot, _, rfl⟩ := List.mem_map.mp member
  trivial

theorem Course.nextCycle {permitted : Move → Prop} {born : List (SlotId × Organism)}
    {t : Simulation} (course : Course permitted born s t) :
    Course permitted born s { t with cycle := t.cycle + 1 } :=
  ⟨course.moves, course.births⟩

theorem ensured {permitted : Move → Prop} {born : List (SlotId × Organism)}
    {attempt : Attempt Simulation Unit} (course : Course permitted born s attempt.state) :
    attempt.Ensures (Course permitted born s) (fun _ => True) :=
  ⟨course, fun _ _ => trivial⟩

theorem enforceMax_course (slots : List SlotId) (tidy : s.population.Tidy) :
    Course (Settling slots) [] s s.enforceMax.state := by
  obtain ⟨victims, account, _⟩ := enforceMax_account s.remover s.settings.limits.maxPopulation
    s.habitat.generator s.population tidy
  have settling := settling_of_victims slots victims .culled
  exact course_of_trail account.trail settling (newcomers_of_settling settling)
    (Metrics.births_witness _ _)

theorem charge_course (slots : List SlotId) (tidy : s.population.Tidy) :
    Course (Settling slots) [] s (s.charge slots).state := by
  obtain ⟨moves, account, charging, _⟩ := charge_account slots s.population tidy
  have settling : ∀ move ∈ moves, Settling slots move := by
    intro move member
    have only := charging move member
    cases move with
    | enter slot o => exact only.elim
    | change slot o => exact only
    | leave slot cause => trivial
    | look focus => exact only.elim
  exact course_of_trail account.trail settling (newcomers_of_settling settling)
    (Metrics.births_witness _ _)

theorem dedupIfDue_course (slots : List SlotId) (tidy : s.population.Tidy) :
    Course (Settling slots) [] s s.dedupIfDue.state := by
  unfold dedupIfDue
  split
  · have settling := settling_of_victims slots (duplicates [] s.population.members) .dedup
    exact course_of_trail (dedup_account s.population tidy).1.trail settling
      (newcomers_of_settling settling) (Metrics.births_witness _ _)
  · exact .nothing s

theorem settle_course (slots : List SlotId) (tidy : s.population.Tidy) :
    (s.settle slots).Ensures (Course (Settling slots) [] s) (fun _ => True) := by
  have irradiated : s.irradiate.Ensures (Course (Settling slots) [] s) (fun _ => True) :=
    ⟨course_of_trail (.stay _) (by simp) rfl rfl, fun _ _ => trivial⟩
  apply irradiated.andThen
  intro t _ course _
  apply (ensured (course.onwards (enforceMax_course slots (course.tidy tidy)))).andThen
  intro t _ course _
  apply (ensured (course.onwards (charge_course slots (course.tidy tidy)))).andThen
  intro t _ course _
  have counted := course.nextCycle
  apply (ensured (counted.onwards (dedupIfDue_course slots (counted.tidy tidy)))).andThen
  intro t _ course _
  exact .done ⟨course.moves, course.births⟩ trivial

theorem executions_eq (tidy : s.population.Tidy) (ready : s.ready = s.readyMembers.map Prod.fst)
    {value : Unit} (completed : (Attempt.forEach executeSlot s.ready s).answer = .ok value) :
    s.executions = s.readyMembers := by
  unfold executions
  rw [ready] at completed ⊢
  exact executeSlot_actsOn.pass_found tidy s.readyMembers (ready_distinct tidy)
    (fun _ => mem_of_ready) completed

theorem execute_course (tidy : s.population.Tidy) (ready : s.ready = s.readyMembers.map Prod.fst) :
    Course (Touching (s.readyMembers.map Prod.fst)) s.births s
        (Attempt.forEach executeSlot s.ready s).state ∧
      s.births.length ≤ s.readyMembers.length := by
  have pass := executeSlot_actsOn.pass_course tidy s.readyMembers (ready_distinct tidy)
    fun _ => mem_of_ready
  rw [Nat.one_mul] at pass
  unfold births
  rw [ready]
  exact pass

/-- Those delaying are after the turns of the others what they were before them. -/
theorem delaying_present (tidy : s.population.Tidy) (ready : s.ready = s.readyMembers.map Prod.fst) :
    ∀ m ∈ s.delayingMembers,
      m ∈ (Attempt.forEach executeSlot s.ready s).state.population.members := by
  intro m delaying
  exact (execute_course tidy ready).1.spared (mem_of_delaying delaying)
    (delaying_not_ready tidy delaying)

theorem stepCycle_eq_cycleOver (tidy : s.population.Tidy)
    (ready : s.ready = s.readyMembers.map Prod.fst) :
    s.stepCycle = s.cycleOver s.readyMembers s.delayingMembers := by
  have executed :
      Attempt.forEach executeSlot s.ready s = Attempt.forEach executeAs s.readyMembers s := by
    rw [ready]
    exact executeSlot_actsOn.pass_eq tidy s.readyMembers (ready_distinct tidy) fun _ => mem_of_ready
  -- The second pass starts where the first one ends, and still finds everyone as at the start.
  have tidy' := (execute_course tidy ready).1.tidy tidy
  have ticked := tickSlot_actsOn.pass_eq tidy' s.delayingMembers (delaying_distinct tidy)
    (delaying_present tidy ready)
  rw [stepCycle_eq, cycleOver, ← executed, ← ready]
  apply Attempt.andThen_congr
  intro _ _
  rw [delaying_eq, ticked]

theorem ticks_eq (tidy : s.population.Tidy) (ready : s.ready = s.readyMembers.map Prod.fst)
    {value : Unit} (completed : (Attempt.forEach tickSlot s.delaying
      (Attempt.forEach executeSlot s.ready s).state).answer = .ok value) :
    s.ticks = s.delayingMembers :=
  tickSlot_actsOn.pass_found ((execute_course tidy ready).1.tidy tidy) s.delayingMembers
    (delaying_distinct tidy) (delaying_present tidy ready) completed

/-- The moves of a cycle: those there at the start change, and anyone may enter or leave. -/
def Cycling (s : Simulation) : Move → Prop
  | .enter _ _ => True
  | .change slot _ => slot ∈ s.population.slots
  | .leave _ _ => True
  | .look _ => False

theorem Cycling.of_touching {slots : List SlotId} (live : ∀ slot ∈ slots, slot ∈ s.population.slots)
    {move : Move} (touching : Touching slots move) : s.Cycling move := by
  cases move with
  | enter slot o => trivial
  | change slot o => exact live slot touching
  | leave slot cause => trivial
  | look focus => exact touching

theorem Cycling.of_settling {slots : List SlotId} (live : ∀ slot ∈ slots, slot ∈ s.population.slots)
    {move : Move} (settling : Settling slots move) : s.Cycling move := by
  cases move with
  | enter slot o => trivial
  | change slot o => exact live slot settling
  | leave slot cause => trivial
  | look focus => exact settling

theorem tickSlot_course {t : Simulation} (slot : SlotId) :
    Course (Touching [slot]) [] t (t.tickSlot slot).state := by
  cases here : t.population.get? slot with
  | none =>
      simp only [tickSlot, here]
      exact .nothing t
  | some o =>
      have live := mem_slots_of_get? here
      have turn : Turn 0 slot t (t.tickAs (slot, o)).state := tickAs_turn (m := (slot, o)) live
      have none := List.length_eq_zero_iff.mp (Nat.le_zero.mp turn.few)
      rw [tickSlot_eq (m := (slot, o)) here]
      exact none ▸ turn.course

theorem stepCycle_course (tidy : s.population.Tidy) (ready : s.ready = s.readyMembers.map Prod.fst) :
    s.stepCycle.Ensures (Course s.Cycling s.births s) (fun _ => True) := by
  have readyLive : ∀ slot ∈ s.ready, slot ∈ s.population.slots := by
    rw [ready]
    exact fun slot member => s.ready_sublist.subset member
  rw [stepCycle_eq]
  have executing := (execute_course tidy ready).1.weaken fun _ =>
    Cycling.of_touching fun slot member => s.ready_sublist.subset member
  apply (ensured executing).andThen
  intro t _ course _
  have ticking (u : Simulation) (slot : SlotId) (delaying : slot ∈ s.delaying)
      (course : Course s.Cycling s.births s u) :
      (u.tickSlot slot).Ensures (Course s.Cycling s.births s) (fun _ => True) := by
    have live : ∀ other ∈ [slot], other ∈ s.population.slots := by
      intro other same
      rw [List.mem_singleton.mp same]
      exact s.delaying_sublist.subset delaying
    exact ensured (course.onwards ((tickSlot_course slot).weaken fun _ =>
      Cycling.of_touching live))
  apply (Attempt.Ensures.forEach s.delaying ticking t course).andThen
  intro t _ course _
  -- Charged are the handles of the start, so that no newborn is among them.
  apply (settle_course s.ready (course.tidy tidy)).weaken _ fun _ good => good
  intro u settling
  exact course.onwards (settling.weaken fun _ => Cycling.of_settling readyLive)

end Cycle

/-- In a cycle that comes to its end everyone who was ready executes once, everyone who was
delaying sits out one cycle, and nobody born in it does anything yet: whoever is there at the end
was there at the start or is as it was born, under a handle that nobody had at the start, and those
born come last in the order of creation. -/
theorem stepCycle_runs_each_once {s : Simulation} (reachable : Reachable s)
    (completed : s.stepCycle.answer = .ok ()) :
    s.population.slots.Nodup ∧
      s.executions = s.readyMembers ∧ s.ticks = s.delayingMembers ∧
      s.stepCycle = s.cycleOver s.readyMembers s.delayingMembers ∧
      (s.births.map Prod.fst).Nodup ∧ (∀ m ∈ s.births, m.1 ∉ s.population.slots) ∧
      (∀ m ∈ s.stepCycle.state.population.members, m.1 ∈ s.population.slots ∨ m ∈ s.births) ∧
      s.stepCycle.state.population.slots.Sublist
        (s.population.slots ++ s.births.map Prod.fst) ∧
      s.stepCycle.state.metrics.births = s.metrics.births + s.births.length ∧
      s.births.length ≤ s.readyMembers.length := by
  have sound := reachable.sound
  have tidy := sound.population.tidy
  have ready := ready_eq sound
  obtain ⟨_, executed, rest⟩ := Attempt.andThen_ok completed
  obtain ⟨_, ticked, _⟩ := Attempt.andThen_ok rest
  obtain ⟨executing, few⟩ := execute_course tidy ready
  obtain ⟨_, newborn, apart⟩ := List.nodup_append.mp (executing.fresh tidy)
  have course := (stepCycle_course tidy ready).state
  refine ⟨tidy.distinct, executions_eq tidy ready executed, ticks_eq tidy ready ticked,
    stepCycle_eq_cycleOver tidy ready, newborn, ?_, ?_, course.order tidy, course.births, few⟩
  · intro m member live
    exact apart m.1 live m.1 (List.mem_map_of_mem member) rfl
  · exact course.members (fun _ _ live => Or.inl live) (fun _ => Or.inr)
      fun m member => Or.inl (List.mem_map_of_mem member)

/-- The first of two halts, and the second has its child under the index that is free since. -/
theorem stepCycle_runs_each_once_twoCells :
    let s := twoCells.performAll
      [.writeInstruction ⟨1, 0⟩ "-=", .spawn ⟨0, 0⟩ .right, .spawn ⟨1, 0⟩ .right]
    s.stepCycle.answer = .ok () ∧ s.executions = s.readyMembers ∧
      s.readyMembers.map Prod.fst = [⟨0, 0⟩, ⟨1, 0⟩] ∧ s.births.map Prod.fst = [⟨0, 1⟩] ∧
      s.stepCycle.state.metrics.births = 1 := by
  intro s
  have reachable : Reachable s := ⟨twoCells, twoCells_fresh, Reaches.performAll _ (by decide)⟩
  have completed : s.stepCycle.answer = .ok () := Attempt.answer_of_succeeded (by decide +kernel)
  obtain ⟨_, executed, _, _, _, _, _, _, births, _⟩ := stepCycle_runs_each_once reachable completed
  have one : s.births.map Prod.fst = [⟨0, 1⟩] := by decide +kernel
  have born : s.births.length = 1 := by simpa using congrArg List.length one
  rw [born] at births
  exact ⟨completed, executed, by decide +kernel, one, births⟩

end Terrarium.Simulation
