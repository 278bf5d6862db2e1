import Terrarium.Proofs.Population.Account
import Terrarium.Simulation.Cycle

/-!
What a pass over some slots comes to. A turn touches the organism of its own slot and no other
that was there before it, and takes in at most one newcomer; so whoever was there at the start
of a pass over different slots meets its turn as it was then. What is noted of the turns is read
off the pass as it goes, with the organism each turn finds.
-/

namespace Terrarium

theorem Metrics.births_witness (metrics : Metrics) (events : List Event) :
    (metrics.witness events).births = metrics.births := by
  unfold witness
  induction Event.removals events generalizing metrics with
  | nil => rfl
  | cons removal rest ih =>
      rw [List.foldl_cons, ih]
      cases removal.2.2 <;> rfl

namespace Population

/-- Whoever is in the second population and was not in the first. -/
def arrivals (before after : Population) : List (SlotId × Organism) :=
  after.members.filter fun m => m.1 ∉ before.slots

theorem arrivals_of_slots {p q : Population} (known : ∀ slot ∈ q.slots, slot ∈ p.slots) :
    arrivals p q = [] := by
  apply List.filter_eq_nil_iff.mpr
  intro m member
  simpa using known m.1 (List.mem_map_of_mem member)

theorem arrivals_self (p : Population) : arrivals p p = [] := arrivals_of_slots fun _ => id

theorem arrivals_enter {p q : Population} (same : q.slots = p.slots) {slot : SlotId}
    (fresh : slot ∉ p.slots) (o : Organism) :
    arrivals p (q.moved (.enter slot o)) = [(slot, o)] := by
  have none : q.members.filter (fun m => m.1 ∉ p.slots) = [] :=
    arrivals_of_slots (p := p) (q := q) (fun slot live => same ▸ live)
  simp only [arrivals, moved, allocate_members, List.filter_append, none, List.nil_append]
  simp [fresh]

end Population

namespace Simulation
open Population

/-- From one simulation to another by permitted moves of the population, with these newcomers
counted as births. -/
structure Course (permitted : Move → Prop) (born : List (SlotId × Organism))
    (before after : Simulation) : Prop where
  moves : ∃ moves, Trail before.population moves after.population ∧
    (∀ move ∈ moves, permitted move) ∧ newcomers moves = born
  births : after.metrics.births = before.metrics.births + born.length

namespace Course
variable {permitted : Move → Prop} {born later : List (SlotId × Organism)} {s t u : Simulation}

theorem nothing (s : Simulation) : Course permitted [] s s :=
  ⟨⟨[], .stay _, by simp, rfl⟩, rfl⟩

theorem trans (head : Course permitted born s t) (tail : Course permitted later t u) :
    Course permitted (born ++ later) s u := by
  obtain ⟨⟨first, trail, allowed, news⟩, births⟩ := head
  obtain ⟨⟨second, trail', allowed', news'⟩, births'⟩ := tail
  refine ⟨⟨first ++ second, trail.append trail', ?_, ?_⟩, ?_⟩
  · intro move member
    exact (List.mem_append.mp member).elim (allowed move) (allowed' move)
  · rw [← news, ← news']
    exact List.filterMap_append
  · rw [births', births, List.length_append]
    omega

theorem onwards (head : Course permitted born s t) (tail : Course permitted [] t u) :
    Course permitted born s u := by
  simpa using head.trans tail

theorem weaken {looser : Move → Prop} (course : Course permitted born s t)
    (permits : ∀ move, permitted move → looser move) : Course looser born s t := by
  obtain ⟨⟨moves, trail, allowed, news⟩, births⟩ := course
  exact ⟨⟨moves, trail, fun move member => permits move (allowed move member), news⟩, births⟩

theorem tidy (course : Course permitted born s t) (start : s.population.Tidy) :
    t.population.Tidy := by
  obtain ⟨⟨_, trail, _⟩, _⟩ := course
  exact trail.tidy start

/-- Members are those of the start, those that permitted moves change, and the newcomers. -/
theorem members {property : SlotId × Organism → Prop} (course : Course permitted born s t)
    (changed : ∀ slot o, permitted (.change slot o) → property (slot, o))
    (news : ∀ m ∈ born, property m) (start : ∀ m ∈ s.population.members, property m) :
    ∀ m ∈ t.population.members, property m := by
  obtain ⟨⟨moves, trail, allowed, rfl⟩, _⟩ := course
  refine trail.members ?_ start
  intro move member
  cases move with
  | enter slot o => exact news _ (List.mem_filterMap.mpr ⟨_, member, rfl⟩)
  | change slot o => exact changed slot o (allowed _ member)
  | leave slot cause => trivial
  | look focus => trivial

/-- Newcomers have handles of their own, whatever index they were given. -/
theorem fresh (course : Course permitted born s t) (start : s.population.Tidy) :
    (s.population.slots ++ born.map Prod.fst).Nodup := by
  obtain ⟨⟨moves, trail, _, rfl⟩, _⟩ := course
  rw [slots_newcomers]
  exact trail.nodup start

/-- The order is that of creation: newcomers come last, and whoever stays keeps its place. -/
theorem order (course : Course permitted born s t) (start : s.population.Tidy) :
    t.population.slots.Sublist (s.population.slots ++ born.map Prod.fst) := by
  obtain ⟨⟨moves, trail, _, rfl⟩, _⟩ := course
  rw [slots_newcomers, trail.slots_eq start]
  exact List.filter_sublist

end Course

/-- The moves of a turn of some slots: others are taken in, and only these change or leave. -/
def Touching (slots : List SlotId) : Move → Prop
  | .enter _ _ => True
  | .change slot _ => slot ∈ slots
  | .leave slot _ => slot ∈ slots
  | .look _ => False

theorem Touching.mono {slots more : List SlotId} (inside : ∀ slot ∈ slots, slot ∈ more)
    {move : Move} (touching : Touching slots move) : Touching more move := by
  cases move with
  | enter slot o => trivial
  | change slot o => exact inside slot touching
  | leave slot cause => exact inside slot touching
  | look focus => exact touching

theorem Touching.spares {slots : List SlotId} {slot : SlotId} (outside : slot ∉ slots)
    {move : Move} (touching : Touching slots move) : move.Spares slot := by
  cases move with
  | enter other o => trivial
  | change other o => exact fun same => outside (same ▸ touching)
  | leave other cause => exact fun same => outside (same ▸ touching)
  | look focus => trivial

theorem Course.spared {slots : List SlotId} {born : List (SlotId × Organism)} {s t : Simulation}
    (course : Course (Touching slots) born s t) {m : SlotId × Organism}
    (member : m ∈ s.population.members) (outside : m.1 ∉ slots) : m ∈ t.population.members := by
  obtain ⟨⟨moves, trail, touching, _⟩, _⟩ := course
  exact trail.mem_spared member fun move here => (touching move here).spares outside

def executeAs (s : Simulation) (m : SlotId × Organism) : Attempt Simulation Unit :=
  ((Scene.execute s.rules ⟨m.2, s.habitat⟩).inside fun scene =>
    { s with
      population := s.population.update m.1 scene.organism
      habitat := scene.habitat }).andThen fun s effect =>
      match effect with
      | .proceed => .done s ()
      | .spawn child => (s.adopt child).map fun _ => ()
      | .halt => (s.onPopulation (s.population.remove m.1 .halt)).map fun _ => ()

def tickAs (s : Simulation) (m : SlotId × Organism) : Attempt Simulation Unit :=
  ((m.2.tickDelay s.grid).inside fun o =>
    { s with population := s.population.update m.1 o }).map fun _ => ()

theorem executeSlot_eq {s : Simulation} {m : SlotId × Organism}
    (found : s.population.get? m.1 = some m.2) : s.executeSlot m.1 = s.executeAs m := by
  simp only [executeSlot, found]
  rfl

theorem tickSlot_eq {s : Simulation} {m : SlotId × Organism}
    (found : s.population.get? m.1 = some m.2) : s.tickSlot m.1 = s.tickAs m := by
  simp only [tickSlot, found]
  rfl

theorem adopt_alive (s : Simulation) {child : Organism} (alive : child.phase ≠ .dead) :
    s.adopt child = .done { s with
      population := s.population.moved
        (.enter s.population.allocate.1 (child.within s.settings.limits))
      metrics := { s.metrics with births := s.metrics.births + 1 } } s.population.allocate.1 := by
  have alive' : (child.within s.settings.limits).phase ≠ .dead := alive
  simp only [adopt, insertChild, insert_alive alive']
  rfl

theorem adopt_dead (s : Simulation) {child : Organism} (dead : child.phase = .dead) :
    s.adopt child = .fail s .deadNewcomer := by
  have dead' : (child.within s.settings.limits).phase = .dead := dead
  simp only [adopt, insertChild, insert_dead _ dead']
  rfl

/-- A step of one turn: the moves it makes, with at most so many newcomers. -/
structure Turn (most : Nat) (slot : SlotId) (before after : Simulation) : Prop where
  course : Course (Touching [slot]) (arrivals before.population after.population) before after
  few : (arrivals before.population after.population).length ≤ most

section Turns
variable {s : Simulation} {slot : SlotId}

theorem change_turn (most : Nat) (live : slot ∈ s.population.slots) (o : Organism) (h : Habitat) :
    Turn most slot s
      { s with population := s.population.update slot o, habitat := h } := by
  have none : arrivals s.population (s.population.update slot o) = [] :=
    arrivals_of_slots (by simp)
  refine ⟨⟨⟨[.change slot o], .single (.change slot o) live, ?_, ?_⟩, ?_⟩, ?_⟩
  · simp [Touching]
  · simp only [none]
    rfl
  · simp only [none]
    rfl
  · simp only [none]
    exact Nat.zero_le _

theorem spawn_turn (tidy : s.population.Tidy) (live : slot ∈ s.population.slots) (o child : Organism)
    (h : Habitat) :
    Turn 1 slot s
      (adopt { s with population := s.population.update slot o, habitat := h } child).state := by
  by_cases dead : child.phase = .dead
  · -- A child that is refused leaves the change of its parent behind.
    rw [adopt_dead _ dead]
    exact change_turn 1 live o h
  · have tidy' := change_tidy tidy slot o
    have fresh : (s.population.update slot o).allocate.1 ∉ s.population.slots := by
      simpa using tidy'.allocate_fresh.1
    have one := arrivals_enter (slots_update s.population slot o) fresh
      (child.within s.settings.limits)
    have trail : Trail s.population
        [.change slot o, .enter (s.population.update slot o).allocate.1
          (child.within s.settings.limits)]
        ((s.population.update slot o).moved (.enter (s.population.update slot o).allocate.1
          (child.within s.settings.limits))) :=
      (Trail.single (.change slot o) live).append (.single _ ⟨rfl, dead⟩)
    rw [adopt_alive _ dead]
    refine ⟨⟨⟨_, trail, ?_, ?_⟩, ?_⟩, ?_⟩
    · simp [Touching]
    · simp only [Attempt.done_state, one]
      rfl
    · simp only [Attempt.done_state, one]
      rfl
    · simp only [Attempt.done_state, one]
      exact Nat.le_refl _

theorem halt_turn (distinct : s.population.slots.Nodup) (live : slot ∈ s.population.slots)
    (o : Organism) (h : Habitat) :
    Turn 1 slot s
      (onPopulation { s with population := s.population.update slot o, habitat := h }
        ((s.population.update slot o).remove slot .halt)).state := by
  have found := get?_update_self distinct live o
  have none : arrivals s.population (s.population.vacate slot) = [] :=
    arrivals_of_slots fun other staying => ((mem_slots_vacate s.population slot other).mp staying).1
  -- The change before it leaves is lost, so the turn comes to a single move.
  simp only [onPopulation, remove_live .halt found, vacate_update]
  refine ⟨⟨⟨[.leave slot .halt], .single (.leave slot .halt) live, ?_, ?_⟩, ?_⟩, ?_⟩
  · simp [Touching]
  · simp only [none]
    rfl
  · simp only [none, Metrics.births_witness]
    rfl
  · simp only [none]
    exact Nat.zero_le _

theorem executeAs_turn (tidy : s.population.Tidy) {m : SlotId × Organism}
    (live : m.1 ∈ s.population.slots) : Turn 1 m.1 s (s.executeAs m).state := by
  unfold executeAs
  cases answer : (Scene.execute s.rules ⟨m.2, s.habitat⟩).answer with
  | error fault =>
      rw [Attempt.andThen_of_error _ (by simpa using answer)]
      exact change_turn 1 live _ _
  | ok effect =>
      rw [Attempt.andThen_of_ok _ (by simpa using answer)]
      cases effect with
      | proceed => exact change_turn 1 live _ _
      | spawn child => exact spawn_turn tidy live _ child _
      | halt => exact halt_turn tidy.distinct live _ _

theorem tickAs_turn {m : SlotId × Organism} (live : m.1 ∈ s.population.slots) :
    Turn 0 m.1 s (s.tickAs m).state :=
  change_turn 0 live _ s.habitat

end Turns

def notes {α : Type} (note : Simulation → SlotId → List α)
    (action : Simulation → SlotId → Attempt Simulation Unit) :
    List SlotId → Simulation → List α
  | [], _ => []
  | slot :: rest, s =>
      note s slot ++ match (action s slot).answer with
        | .ok _ => notes note action rest (action s slot).state
        | .error _ => []

def found (s : Simulation) (slot : SlotId) : List (SlotId × Organism) :=
  match s.population.get? slot with
  | some o => [(slot, o)]
  | none => []

def born (action : Simulation → SlotId → Attempt Simulation Unit) (s : Simulation)
    (slot : SlotId) : List (SlotId × Organism) :=
  arrivals s.population (action s slot).state.population

/-- An action on a slot does to its organism what another one does to an organism it is given. -/
def ActsOn (most : Nat) (action : Simulation → SlotId → Attempt Simulation Unit)
    (as : Simulation → SlotId × Organism → Attempt Simulation Unit) : Prop :=
  ∀ s m, s.population.Tidy → m ∈ s.population.members →
    action s m.1 = as s m ∧ Turn most m.1 s (action s m.1).state

theorem executeSlot_actsOn : ActsOn 1 executeSlot executeAs := by
  intro s m tidy member
  have same := executeSlot_eq (get?_of_mem tidy.distinct member)
  refine ⟨same, ?_⟩
  rw [same]
  exact executeAs_turn tidy (List.mem_map_of_mem member)

theorem tickSlot_actsOn : ActsOn 0 tickSlot tickAs := by
  intro s m tidy member
  have same := tickSlot_eq (get?_of_mem tidy.distinct member)
  refine ⟨same, ?_⟩
  rw [same]
  exact tickAs_turn (List.mem_map_of_mem member)

section Passes
variable {most : Nat} {action : Simulation → SlotId → Attempt Simulation Unit}
  {as : Simulation → SlotId × Organism → Attempt Simulation Unit}

/-- Members whose turn is still to come are the same after the turn of another. -/
theorem ActsOn.others {s : Simulation} (acts : ActsOn most action as) (tidy : s.population.Tidy)
    {m : SlotId × Organism} {rest : List (SlotId × Organism)}
    (apart : m.1 ∉ rest.map Prod.fst) (present : ∀ other ∈ m :: rest, other ∈ s.population.members) :
    ∀ other ∈ rest, other ∈ (action s m.1).state.population.members := by
  intro other later
  have turn := (acts s m tidy (present m List.mem_cons_self)).2
  refine turn.course.spared (present other (List.mem_cons_of_mem _ later)) ?_
  intro same
  rw [List.mem_singleton] at same
  exact apart (same ▸ List.mem_map_of_mem later)

/-- A pass over members is the pass that takes them as they were at its start. -/
theorem ActsOn.pass_eq (acts : ActsOn most action as) {s : Simulation} (tidy : s.population.Tidy)
    (members : List (SlotId × Organism)) (distinct : (members.map Prod.fst).Nodup)
    (present : ∀ m ∈ members, m ∈ s.population.members) :
    Attempt.forEach action (members.map Prod.fst) s = Attempt.forEach as members s := by
  induction members generalizing s with
  | nil => rfl
  | cons m rest ih =>
      obtain ⟨apart, distinct⟩ := List.nodup_cons.mp distinct
      obtain ⟨same, turn⟩ := acts s m tidy (present m List.mem_cons_self)
      have later := ih (turn.course.tidy tidy) distinct (acts.others tidy apart present)
      rw [List.map_cons, Attempt.forEach, Attempt.forEach, ← same]
      exact Attempt.andThen_congr fun _ _ => later

theorem ActsOn.pass_course (acts : ActsOn most action as) {s : Simulation}
    (tidy : s.population.Tidy) (members : List (SlotId × Organism))
    (distinct : (members.map Prod.fst).Nodup)
    (present : ∀ m ∈ members, m ∈ s.population.members) :
    Course (Touching (members.map Prod.fst)) (notes (born action) action (members.map Prod.fst) s)
        s (Attempt.forEach action (members.map Prod.fst) s).state ∧
      (notes (born action) action (members.map Prod.fst) s).length ≤ most * members.length := by
  induction members generalizing s with
  | nil => exact ⟨.nothing s, Nat.zero_le _⟩
  | cons m rest ih =>
      obtain ⟨apart, distinct⟩ := List.nodup_cons.mp distinct
      obtain ⟨_, turn⟩ := acts s m tidy (present m List.mem_cons_self)
      have own : Course (Touching (m.1 :: rest.map Prod.fst)) (born action s m.1) s
          (action s m.1).state :=
        turn.course.weaken fun _ => Touching.mono (by simp)
      have few : (born action s m.1).length ≤ most := turn.few
      rw [List.map_cons, notes, Attempt.forEach, List.length_cons, Nat.mul_succ]
      cases answer : (action s m.1).answer with
      | error fault =>
          -- Nobody has a turn after the one that fails, and none of them is noted.
          rw [Attempt.andThen_of_error _ answer, List.append_nil]
          exact ⟨own, by omega⟩
      | ok _ =>
          obtain ⟨later, few'⟩ := ih (turn.course.tidy tidy) distinct (acts.others tidy apart present)
          rw [Attempt.andThen_of_ok _ answer, List.length_append]
          dsimp only
          refine ⟨own.trans (later.weaken fun _ => ?_), by omega⟩
          exact Touching.mono fun slot member => List.mem_cons_of_mem _ member

/-- A pass that comes to its end has met every member, each once and as it was at the start. -/
theorem ActsOn.pass_found (acts : ActsOn most action as) {s : Simulation}
    (tidy : s.population.Tidy) (members : List (SlotId × Organism))
    (distinct : (members.map Prod.fst).Nodup)
    (present : ∀ m ∈ members, m ∈ s.population.members) {value : Unit}
    (completed : (Attempt.forEach action (members.map Prod.fst) s).answer = .ok value) :
    notes found action (members.map Prod.fst) s = members := by
  induction members generalizing s with
  | nil => rfl
  | cons m rest ih =>
      obtain ⟨apart, distinct⟩ := List.nodup_cons.mp distinct
      obtain ⟨_, turn⟩ := acts s m tidy (present m List.mem_cons_self)
      obtain ⟨_, first, others⟩ := Attempt.andThen_ok completed
      have later := ih (turn.course.tidy tidy) distinct (acts.others tidy apart present) others
      have here := get?_of_mem tidy.distinct (present m List.mem_cons_self)
      simp only [List.map_cons, notes, found, here, first, later, List.cons_append, List.nil_append]

end Passes
end Simulation
end Terrarium
