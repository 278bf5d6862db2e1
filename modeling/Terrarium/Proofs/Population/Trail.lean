import Terrarium.Proofs.Population.SlotTable

/-!
Everything that happens to a population, as moves: an organism enters, changes in its place,
leaves, or the focus goes elsewhere. A trail is a run of moves each of which was allowed when
its turn came. What one move keeps of the slot table is kept along every trail; from the moves
alone follow which handles are live at its end, and in which order.
-/

namespace Terrarium.Population

inductive Move where
  | enter (slot : SlotId) (o : Organism)
  | change (slot : SlotId) (o : Organism)
  | leave (slot : SlotId) (cause : RemovalCause)
  | look (focus : Option SlotId)

namespace Move

def entered? : Move → Option SlotId
  | enter slot _ => some slot
  | _ => none

def left? : Move → Option SlotId
  | leave slot _ => some slot
  | _ => none

def removal? : Move → Option (SlotId × RemovalCause)
  | leave slot cause => some (slot, cause)
  | _ => none

def newcomer? : Move → Option (SlotId × Organism)
  | enter slot o => some (slot, o)
  | _ => none

def Brings (property : SlotId × Organism → Prop) : Move → Prop
  | enter slot o => property (slot, o)
  | change slot o => property (slot, o)
  | _ => True

def Spares (slot : SlotId) : Move → Prop
  | change other _ => other ≠ slot
  | leave other _ => other ≠ slot
  | _ => True

end Move

def Allowed (p : Population) : Move → Prop
  | .enter slot o => slot = p.allocate.1 ∧ o.phase ≠ .dead
  | .change slot _ => slot ∈ p.slots
  | .leave slot _ => slot ∈ p.slots
  | .look focus => ∀ slot, focus = some slot → slot ∈ p.slots

def moved (p : Population) : Move → Population
  | .enter slot o => { p.allocate.2 with members := p.allocate.2.members ++ [(slot, o)] }
  | .change slot o => p.update slot o
  | .leave slot _ => p.vacate slot
  | .look focus => { p with focus := focus }

inductive Trail : Population → List Move → Population → Prop where
  | stay (p : Population) : Trail p [] p
  | go {p q : Population} {move : Move} {rest : List Move} (allowed : p.Allowed move)
      (onwards : Trail (p.moved move) rest q) : Trail p (move :: rest) q

def entered (moves : List Move) : List SlotId := moves.filterMap Move.entered?

def left (moves : List Move) : List SlotId := moves.filterMap Move.left?

section Lists
variable (slot : SlotId) (o : Organism) (cause : RemovalCause) (focus : Option SlotId)
  (rest : List Move)

@[simp] theorem entered_nil : entered [] = [] := rfl
@[simp] theorem entered_enter : entered (.enter slot o :: rest) = slot :: entered rest := rfl
@[simp] theorem entered_change : entered (.change slot o :: rest) = entered rest := rfl
@[simp] theorem entered_leave : entered (.leave slot cause :: rest) = entered rest := rfl
@[simp] theorem entered_look : entered (.look focus :: rest) = entered rest := rfl
@[simp] theorem left_nil : left [] = [] := rfl
@[simp] theorem left_enter : left (.enter slot o :: rest) = left rest := rfl
@[simp] theorem left_change : left (.change slot o :: rest) = left rest := rfl
@[simp] theorem left_leave : left (.leave slot cause :: rest) = slot :: left rest := rfl
@[simp] theorem left_look : left (.look focus :: rest) = left rest := rfl

end Lists

theorem entered_append (first second : List Move) :
    entered (first ++ second) = entered first ++ entered second := List.filterMap_append

def newcomers (moves : List Move) : List (SlotId × Organism) := moves.filterMap Move.newcomer?

theorem slots_newcomers (moves : List Move) : (newcomers moves).map Prod.fst = entered moves := by
  induction moves with
  | nil => rfl
  | cons move rest ih =>
      cases move with
      | enter slot o => exact congrArg (slot :: ·) ih
      | change slot o => exact ih
      | leave slot cause => exact ih
      | look focus => exact ih

theorem Trail.append {p q r : Population} {first second : List Move} (head : Trail p first q)
    (tail : Trail q second r) : Trail p (first ++ second) r := by
  induction head with
  | stay _ => exact tail
  | go allowed _ ih => exact .go allowed (ih tail)

theorem Trail.split {p r : Population} {first second : List Move}
    (trail : Trail p (first ++ second) r) : ∃ q, Trail p first q ∧ Trail q second r := by
  induction first generalizing p with
  | nil => exact ⟨p, .stay p, trail⟩
  | cons move rest ih =>
      cases trail with
      | go allowed onwards =>
          obtain ⟨q, head, tail⟩ := ih onwards
          exact ⟨q, .go allowed head, tail⟩

theorem Trail.single {p : Population} (move : Move) (allowed : p.Allowed move) :
    Trail p [move] (p.moved move) :=
  .go allowed (.stay _)

theorem Trail.of_single {p q : Population} {move : Move} (trail : Trail p [move] q) :
    p.Allowed move ∧ q = p.moved move := by
  cases trail with
  | go allowed onwards =>
      cases onwards
      exact ⟨allowed, rfl⟩

@[simp] theorem allocate_members (p : Population) : p.allocate.2.members = p.members := by
  unfold allocate
  split <;> rfl

@[simp] theorem allocate_focus (p : Population) : p.allocate.2.focus = p.focus := by
  unfold allocate
  split <;> rfl

theorem slots_enter (p : Population) (slot : SlotId) (o : Organism) :
    (p.moved (.enter slot o)).slots = p.slots ++ [slot] := by
  simp [moved, slots]

theorem size_enter (p : Population) (slot : SlotId) (o : Organism) :
    (p.moved (.enter slot o)).size = p.size + 1 := by
  simp [moved, size]

theorem mem_slots_enter (p : Population) (slot other : SlotId) (o : Organism) :
    other ∈ (p.moved (.enter slot o)).slots ↔ other ∈ p.slots ∨ other = slot := by
  rw [slots_enter, List.mem_append, List.mem_singleton]

theorem enter_distinct {p : Population} (tidy : p.Tidy) (o : Organism) :
    (p.moved (.enter p.allocate.1 o)).slots.Nodup := by
  rw [slots_enter, List.nodup_append]
  refine ⟨tidy.distinct, List.pairwise_singleton _ _, ?_⟩
  intro slot live other new same
  rw [List.mem_singleton] at new
  exact tidy.allocate_fresh.1 (new ▸ same ▸ live)

theorem enter_focused {p : Population} (tidy : p.Tidy) (o : Organism) (slot : SlotId)
    (focus : (p.moved (.enter p.allocate.1 o)).focus = some slot) :
    slot ∈ (p.moved (.enter p.allocate.1 o)).slots :=
  (mem_slots_enter p _ slot o).mpr (Or.inl (tidy.focused slot (by simpa [moved] using focus)))

theorem enter_tidy_of_full {p : Population} (tidy : p.Tidy) (free : p.free = []) (o : Organism) :
    (p.moved (.enter p.allocate.1 o)).Tidy := by
  have handle : p.allocate.1 = ⟨p.generations.length, 0⟩ := by rw [allocate, free]
  have generations : (p.moved (.enter p.allocate.1 o)).generations = p.generations ++ [0] := by
    simp [moved, allocate, free]
  have unfreed : (p.moved (.enter p.allocate.1 o)).free = [] := by
    simp [moved, allocate, free]
  constructor
  case distinct => exact enter_distinct tidy o
  case current =>
    intro slot live
    rw [generations]
    rcases (mem_slots_enter p _ slot o).mp live with old | rfl
    · have known := tidy.current slot old
      rw [List.getElem?_append_left (List.getElem?_eq_some_iff.mp known).1]
      exact known
    · simp [handle]
  case freeDistinct => rw [unfreed]; exact List.nodup_nil
  case freeKnown => simp [unfreed]
  case freeUnused => simp [unfreed]
  case covered =>
    intro index inside
    rw [generations, List.length_append, List.length_singleton] at inside
    rw [unfreed]
    right
    by_cases last : index = p.generations.length
    · exact ⟨p.allocate.1, (mem_slots_enter p _ _ o).mpr (Or.inr rfl), by rw [handle, last]⟩
    · rcases tidy.covered index (by omega) with freed | ⟨slot, live, same⟩
      · simp [free] at freed
      · exact ⟨slot, (mem_slots_enter p _ slot o).mpr (Or.inl live), same⟩
  case focused => exact enter_focused tidy o

theorem enter_tidy_of_freed {p : Population} (tidy : p.Tidy) {index : Nat} {rest : List Nat}
    (free : p.free = index :: rest) (o : Organism) : (p.moved (.enter p.allocate.1 o)).Tidy := by
  have handle : p.allocate.1 = ⟨index, p.generations.getD index 0⟩ := by rw [allocate, free]
  have generations : (p.moved (.enter p.allocate.1 o)).generations = p.generations := by
    simp [moved, allocate, free]
  have unfreed : (p.moved (.enter p.allocate.1 o)).free = rest := by
    simp [moved, allocate, free]
  have apart : index ∉ rest ∧ rest.Nodup := by simpa [free] using tidy.freeDistinct
  constructor
  case distinct => exact enter_distinct tidy o
  case current =>
    intro slot live
    rw [generations]
    rcases (mem_slots_enter p _ slot o).mp live with old | rfl
    · exact tidy.current slot old
    · have known := tidy.freeKnown index (by simp [free])
      simp [handle, List.getElem?_eq_getElem known, List.getD_eq_getElem?_getD]
  case freeDistinct => rw [unfreed]; exact apart.2
  case freeKnown =>
    rw [unfreed, generations]
    exact fun other member => tidy.freeKnown other (by simp [free, member])
  case freeUnused =>
    intro slot live
    rw [unfreed]
    rcases (mem_slots_enter p _ slot o).mp live with old | rfl
    · have unused := tidy.freeUnused slot old
      rw [free, List.mem_cons] at unused
      exact fun member => unused (Or.inr member)
    · rw [handle]
      exact apart.1
  case covered =>
    intro other inside
    rw [generations] at inside
    rw [unfreed]
    rcases tidy.covered other inside with freed | ⟨slot, live, same⟩
    · rw [free, List.mem_cons] at freed
      rcases freed with rfl | deeper
      · exact Or.inr ⟨p.allocate.1, (mem_slots_enter p _ _ o).mpr (Or.inr rfl), by rw [handle]⟩
      · exact Or.inl deeper
    · exact Or.inr ⟨slot, (mem_slots_enter p _ slot o).mpr (Or.inl live), same⟩
  case focused => exact enter_focused tidy o

theorem enter_tidy {p : Population} (tidy : p.Tidy) (o : Organism) :
    (p.moved (.enter p.allocate.1 o)).Tidy := by
  cases free : p.free with
  | nil => exact enter_tidy_of_full tidy free o
  | cons index rest => exact enter_tidy_of_freed tidy free o

theorem change_tidy {p : Population} (tidy : p.Tidy) (slot : SlotId) (o : Organism) :
    (p.update slot o).Tidy where
  distinct := by simpa using tidy.distinct
  current := by simpa using tidy.current
  freeDistinct := tidy.freeDistinct
  freeKnown := tidy.freeKnown
  freeUnused := by simpa using tidy.freeUnused
  covered := by simpa using tidy.covered
  focused := by simpa using tidy.focused

theorem mem_slots_vacate (p : Population) (slot other : SlotId) :
    other ∈ (p.vacate slot).slots ↔ other ∈ p.slots ∧ other ≠ slot := by
  simp [slots_vacate]

/-- Two live handles with one index are one handle. -/
theorem Tidy.eq_of_index {p : Population} (tidy : p.Tidy) {slot other : SlotId}
    (live : slot ∈ p.slots) (live' : other ∈ p.slots) (same : slot.index = other.index) :
    slot = other := by
  have here := tidy.current slot live
  have there := tidy.current other live'
  rw [same, there, Option.some.injEq] at here
  cases slot
  cases other
  simp_all

theorem leave_tidy {p : Population} (tidy : p.Tidy) {slot : SlotId} (live : slot ∈ p.slots) :
    (p.vacate slot).Tidy := by
  constructor
  case distinct =>
    rw [slots_vacate]
    exact tidy.distinct.filter _
  case current =>
    intro other staying
    obtain ⟨live', different⟩ := (mem_slots_vacate p slot other).mp staying
    have elsewhere : slot.index ≠ other.index :=
      fun same => different (tidy.eq_of_index live live' same).symm
    simp only [vacate, List.getElem?_modify_ne _ _ elsewhere]
    exact tidy.current other live'
  case freeDistinct => exact List.nodup_cons.mpr ⟨tidy.freeUnused slot live, tidy.freeDistinct⟩
  case freeKnown =>
    intro index member
    simp only [vacate, List.length_modify]
    rcases List.mem_cons.mp member with rfl | old
    · exact (List.getElem?_eq_some_iff.mp (tidy.current slot live)).1
    · exact tidy.freeKnown index old
  case freeUnused =>
    intro other staying freed
    obtain ⟨live', different⟩ := (mem_slots_vacate p slot other).mp staying
    rcases List.mem_cons.mp freed with same | old
    · exact different (tidy.eq_of_index live' live same)
    · exact tidy.freeUnused other live' old
  case covered =>
    intro index known
    simp only [vacate, List.length_modify] at known
    rcases tidy.covered index known with freed | ⟨other, live', same⟩
    · exact Or.inl (List.mem_cons_of_mem _ freed)
    · by_cases gone : other = slot
      · exact Or.inl (by rw [← same, gone]; exact List.mem_cons_self)
      · exact Or.inr ⟨other, (mem_slots_vacate p slot other).mpr ⟨live', gone⟩, same⟩
  case focused =>
    intro other focus
    simp only [vacate] at focus
    split at focus
    · cases focus
    · next elsewhere =>
        refine (mem_slots_vacate p slot other).mpr ⟨tidy.focused other focus, ?_⟩
        rintro rfl
        exact elsewhere focus

theorem moved_tidy {p : Population} (tidy : p.Tidy) {move : Move} (allowed : p.Allowed move) :
    (p.moved move).Tidy := by
  cases move with
  | enter slot o =>
      obtain ⟨rfl, _⟩ := allowed
      exact enter_tidy tidy o
  | change slot o => exact change_tidy tidy slot o
  | leave slot cause => exact leave_tidy tidy allowed
  | look focus => exact { tidy with focused := allowed }

theorem moved_spent {p : Population} {move : Move} {slot : SlotId} (spent : p.Spent slot) :
    (p.moved move).Spent slot := by
  obtain ⟨generation, now, later⟩ := spent
  cases move with
  | enter other o =>
      refine ⟨generation, ?_, later⟩
      unfold moved allocate
      cases p.free with
      | nil => exact (List.getElem?_append_left (List.getElem?_eq_some_iff.mp now).1).trans now
      | cons index rest => exact now
  | change other o => exact ⟨generation, now, later⟩
  | leave other cause =>
      -- Another departure from the same index raises its generation further.
      by_cases same : other.index = slot.index
      · exact ⟨generation + 1, by simp [moved, vacate, same, now], by omega⟩
      · exact ⟨generation, by simpa [moved, vacate, List.getElem?_modify_ne _ _ same] using now, later⟩
  | look focus => exact ⟨generation, now, later⟩

/-- A handle is spent once its organism has left. -/
theorem left_spent {p : Population} (tidy : p.Tidy) {slot : SlotId} (live : slot ∈ p.slots) :
    (p.vacate slot).Spent slot := by
  have now := tidy.current slot live
  exact ⟨slot.generation + 1, by simp [vacate, now], by omega⟩

theorem mem_moved {p : Population} {move : Move} (allowed : p.Allowed move) {slot : SlotId}
    {o : Organism} (member : (slot, o) ∈ p.members) (spares : move.Spares slot) :
    (slot, o) ∈ (p.moved move).members := by
  cases move with
  | enter other newcomer => simp [moved, member]
  | change other newcomer =>
      exact (mem_update_iff allowed newcomer _).mpr (Or.inr ⟨member, spares.symm⟩)
  | leave other cause => exact (mem_vacate_iff p other _).mpr ⟨member, spares.symm⟩
  | look focus => exact member

def Known (p : Population) (slot : SlotId) : Prop := slot ∈ p.slots ∨ p.Spent slot

theorem moved_known {p : Population} (tidy : p.Tidy) {move : Move} (allowed : p.Allowed move)
    {slot : SlotId} (known : p.Known slot) : (p.moved move).Known slot := by
  rcases known with live | spent
  · cases move with
    | enter other o => exact Or.inl (by rw [slots_enter]; exact List.mem_append_left _ live)
    | change other o => exact Or.inl (by simpa [moved] using live)
    | leave other cause =>
        by_cases same : slot = other
        · subst same
          exact Or.inr (left_spent tidy allowed)
        · exact Or.inl ((mem_slots_vacate p other slot).mpr ⟨live, same⟩)
    | look focus => exact Or.inl live
  · exact Or.inr (moved_spent spent)

namespace Trail
variable {p q : Population} {moves : List Move}

theorem tidy (trail : Trail p moves q) (start : p.Tidy) : q.Tidy := by
  induction trail with
  | stay _ => exact start
  | go allowed _ ih => exact ih (moved_tidy start allowed)

theorem spent (trail : Trail p moves q) {slot : SlotId} (start : p.Spent slot) : q.Spent slot := by
  induction trail with
  | stay _ => exact start
  | go _ _ ih => exact ih (moved_spent start)

/-- No handle that was ever live is handed out again. -/
theorem not_entered (trail : Trail p moves q) (tidy : p.Tidy) {slot : SlotId}
    (known : p.Known slot) : slot ∉ entered moves := by
  induction trail with
  | stay _ => simp
  | @go p q move rest allowed _ ih =>
      have later := ih (moved_tidy tidy allowed) (moved_known tidy allowed known)
      cases move with
      | enter other o =>
          obtain ⟨rfl, _⟩ := allowed
          rw [entered_enter, List.mem_cons, not_or]
          refine ⟨?_, later⟩
          rintro rfl
          -- A handle that is handed out is neither live nor spent.
          exact known.elim tidy.allocate_fresh.1 tidy.allocate_fresh.2
      | change other o => exact later
      | leave other cause => exact later
      | look focus => exact later

theorem nodup (trail : Trail p moves q) (tidy : p.Tidy) : (p.slots ++ entered moves).Nodup := by
  induction trail with
  | stay _ => simpa using tidy.distinct
  | @go p q move rest allowed onwards ih =>
      have later := ih (moved_tidy tidy allowed)
      cases move with
      | enter other o => simpa [slots_enter] using later
      | change other o => simpa [moved] using later
      | leave other cause =>
          have fresh : ∀ slot ∈ p.slots, slot ∉ entered rest := fun slot live =>
            onwards.not_entered (moved_tidy tidy allowed)
              (moved_known tidy allowed (Or.inl live))
          refine List.nodup_append.mpr ⟨tidy.distinct, (List.nodup_append.mp later).2.1, ?_⟩
          intro slot live other' new same
          exact fresh slot live (same ▸ new)
      | look focus => exact later

/-- The live handles are those that were live or entered, in that order, less those that left. -/
theorem slots_eq (trail : Trail p moves q) (tidy : p.Tidy) :
    q.slots = (p.slots ++ entered moves).filter (fun slot => slot ∉ left moves) := by
  induction trail with
  | stay p =>
      rw [entered_nil, List.append_nil]
      exact (List.filter_eq_self.mpr fun slot _ => by simp).symm
  | @go p q move rest allowed onwards ih =>
      have later := ih (moved_tidy tidy allowed)
      cases move with
      | enter other o => rw [later, slots_enter, List.append_assoc]; rfl
      | change other o => rw [later, moved, slots_update]; rfl
      | leave other cause =>
          have fresh : other ∉ entered rest :=
            onwards.not_entered (moved_tidy tidy allowed) (Or.inr (left_spent tidy allowed))
          -- Whoever leaves here does not come back, so it is struck out of the old ones only.
          have kept : (entered rest).filter (fun slot => slot ≠ other) = entered rest :=
            List.filter_eq_self.mpr fun slot member => by
              simp only [decide_eq_true_eq]
              rintro rfl
              exact fresh member
          have split : (p.moved (.leave other cause)).slots ++ entered rest =
              (p.slots ++ entered rest).filter (fun slot => slot ≠ other) := by
            rw [List.filter_append, kept, ← slots_vacate]
            rfl
          rw [later, split, List.filter_filter]
          apply List.filter_congr
          intro slot _
          simp [Bool.and_comm]
      | look focus => exact later

/-- Whoever left had entered or was there before, and is gone for good. -/
theorem spent_of_left (trail : Trail p moves q) (tidy : p.Tidy) {slot : SlotId}
    (gone : slot ∈ left moves) : q.Spent slot := by
  induction trail with
  | stay _ => simp at gone
  | @go p q move rest allowed onwards ih =>
      have later : slot ∈ left rest → q.Spent slot := ih (moved_tidy tidy allowed)
      cases move with
      | enter other o => exact later gone
      | change other o => exact later gone
      | leave other cause =>
          rcases List.mem_cons.mp gone with rfl | rest
          · exact onwards.spent (left_spent tidy allowed)
          · exact later rest
      | look focus => exact later gone

/-- An organism that every move spares is at the end what it was. -/
theorem mem_spared (trail : Trail p moves q) {slot : SlotId} {o : Organism}
    (member : (slot, o) ∈ p.members) (spared : ∀ move ∈ moves, move.Spares slot) :
    (slot, o) ∈ q.members := by
  induction trail with
  | stay _ => exact member
  | go allowed _ ih =>
      apply ih (mem_moved allowed member (spared _ List.mem_cons_self))
      exact fun move later => spared move (List.mem_cons_of_mem _ later)

theorem members {property : SlotId × Organism → Prop} (trail : Trail p moves q)
    (brings : ∀ move ∈ moves, move.Brings property) (start : ∀ m ∈ p.members, property m) :
    ∀ m ∈ q.members, property m := by
  induction trail with
  | stay _ => exact start
  | @go p q move rest allowed _ ih =>
      refine ih (fun move later => brings move (List.mem_cons_of_mem _ later)) ?_
      have brought := brings move List.mem_cons_self
      intro m member
      cases move with
      | enter slot o =>
          simp only [moved, allocate_members, List.mem_append, List.mem_singleton] at member
          rcases member with old | rfl
          · exact start m old
          · exact brought
      | change slot o =>
          rcases (mem_update_iff allowed o m).mp member with rfl | ⟨old, _⟩
          · exact brought
          · exact start m old
      | leave slot cause => exact start m ((mem_vacate_iff p slot m).mp member).1
      | look focus => exact start m member

theorem members_of_leaves {p q : Population} {victims : List SlotId} {cause : RemovalCause}
    (trail : Trail p (victims.map fun slot => .leave slot cause) q) :
    q.members = p.members.filter fun m => m.1 ∉ victims := by
  induction victims generalizing p with
  | nil =>
      cases trail
      exact (List.filter_eq_self.mpr fun _ _ => by simp).symm
  | cons slot rest ih =>
      cases trail with
      | go allowed onwards =>
          rw [ih onwards, moved, vacate, List.filter_filter]
          apply List.filter_congr
          intro m _
          simp [Bool.and_comm]

end Trail
end Terrarium.Population
