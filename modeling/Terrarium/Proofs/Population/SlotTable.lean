import Terrarium.Population.Basic

/-!
The slot table: the members' handles, the generations of all indices and the free list stay in
step. Everything that happens to a population is one of four moves; what a move keeps is kept
by every trail of moves.
-/

namespace Terrarium.Population

theorem get?_eq_none_iff (p : Population) (slot : SlotId) : p.get? slot = none ↔ slot ∉ p.slots := by
  simp only [get?, slots, List.lookup_eq_none_iff, List.mem_map, Prod.exists, bne_iff_ne]
  constructor
  · rintro absent ⟨other, o, member, rfl⟩
    exact absent (other, o) member rfl
  · intro absent m member same
    exact absent ⟨m.1, m.2, member, same.symm⟩

theorem contains_iff (p : Population) (slot : SlotId) : p.contains slot = true ↔ slot ∈ p.slots := by
  simp [contains]

theorem mem_members_of_get? {p : Population} {slot : SlotId} {o : Organism}
    (found : p.get? slot = some o) : (slot, o) ∈ p.members := by
  obtain ⟨before, after, split, _⟩ := List.lookup_eq_some_iff.mp found
  simp [split]

theorem mem_slots_of_get? {p : Population} {slot : SlotId} {o : Organism}
    (found : p.get? slot = some o) : slot ∈ p.slots :=
  List.mem_map.mpr ⟨(slot, o), mem_members_of_get? found, rfl⟩

theorem get?_of_mem_slots {p : Population} {slot : SlotId} (live : slot ∈ p.slots) :
    ∃ o, p.get? slot = some o := by
  cases found : p.get? slot with
  | none => exact absurd live ((get?_eq_none_iff p slot).mp found)
  | some o => exact ⟨o, rfl⟩

theorem get?_of_mem {p : Population} (distinct : p.slots.Nodup) {slot : SlotId} {o : Organism}
    (member : (slot, o) ∈ p.members) : p.get? slot = some o := by
  obtain ⟨before, after, split⟩ := List.append_of_mem member
  apply List.lookup_eq_some_iff.mpr
  refine ⟨before, after, split, ?_⟩
  intro m earlier
  have apart := distinct
  simp only [slots, split, List.map_append, List.map_cons, List.nodup_append] at apart
  have different := apart.2.2 m.1 (List.mem_map_of_mem earlier) slot List.mem_cons_self
  simpa using different.symm

theorem slots_length (p : Population) : p.slots.length = p.size := List.length_map _

@[simp] theorem slots_update (p : Population) (slot : SlotId) (o : Organism) :
    (p.update slot o).slots = p.slots := by
  simp only [slots, update, List.map_map]
  apply List.map_congr_left
  intro m _
  simp only [Function.comp_apply]
  split
  · exact (by assumption : m.1 = slot).symm
  · rfl

@[simp] theorem generations_update (p : Population) (slot : SlotId) (o : Organism) :
    (p.update slot o).generations = p.generations := rfl

@[simp] theorem free_update (p : Population) (slot : SlotId) (o : Organism) :
    (p.update slot o).free = p.free := rfl

@[simp] theorem focus_update (p : Population) (slot : SlotId) (o : Organism) :
    (p.update slot o).focus = p.focus := rfl

@[simp] theorem size_update (p : Population) (slot : SlotId) (o : Organism) :
    (p.update slot o).size = p.size := List.length_map _

theorem mem_update_iff {p : Population} {slot : SlotId} (live : slot ∈ p.slots) (o : Organism)
    (m : SlotId × Organism) :
    m ∈ (p.update slot o).members ↔ m = (slot, o) ∨ (m ∈ p.members ∧ m.1 ≠ slot) := by
  simp only [update, List.mem_map]
  constructor
  · rintro ⟨old, member, rfl⟩
    by_cases same : old.1 = slot
    · simp [same]
    · simp [same, member]
  · rintro (rfl | ⟨member, different⟩)
    · obtain ⟨old, member, same⟩ := List.mem_map.mp live
      exact ⟨old, member, by simp [same]⟩
    · exact ⟨m, member, by simp [different]⟩

theorem get?_update_self {p : Population} (distinct : p.slots.Nodup) {slot : SlotId}
    (live : slot ∈ p.slots) (o : Organism) : (p.update slot o).get? slot = some o := by
  apply get?_of_mem (by simpa using distinct)
  exact (mem_update_iff live o _).mpr (Or.inl rfl)

theorem slots_vacate (p : Population) (slot : SlotId) :
    (p.vacate slot).slots = p.slots.filter (fun other => other ≠ slot) := by
  simp only [slots, vacate, List.filter_map]
  rfl

theorem mem_vacate_iff (p : Population) (slot : SlotId) (m : SlotId × Organism) :
    m ∈ (p.vacate slot).members ↔ m ∈ p.members ∧ m.1 ≠ slot := by
  simp [vacate]

theorem vacate_update (p : Population) (slot : SlotId) (o : Organism) :
    (p.update slot o).vacate slot = p.vacate slot := by
  have members : (p.update slot o).members.filter (fun m => m.1 ≠ slot) =
      p.members.filter (fun m => m.1 ≠ slot) := by
    simp only [update]
    induction p.members with
    | nil => rfl
    | cons m rest ih => by_cases same : m.1 = slot <;> simp_all
  simp only [vacate, members, generations_update, free_update, focus_update]
  rfl

structure Tidy (p : Population) : Prop where
  distinct : p.slots.Nodup
  current : ∀ slot ∈ p.slots, p.generations[slot.index]? = some slot.generation
  freeDistinct : p.free.Nodup
  freeKnown : ∀ index ∈ p.free, index < p.generations.length
  freeUnused : ∀ slot ∈ p.slots, slot.index ∉ p.free
  covered : ∀ index, index < p.generations.length →
    index ∈ p.free ∨ ∃ slot ∈ p.slots, slot.index = index
  focused : ∀ slot, p.focus = some slot → slot ∈ p.slots

theorem empty_tidy : Population.empty.Tidy where
  distinct := List.nodup_nil
  current := by simp [empty, slots]
  freeDistinct := List.nodup_nil
  freeKnown := by simp [empty]
  freeUnused := by simp [empty, slots]
  covered := by simp [empty]
  focused := by simp [empty]

/-- A handle whose index has moved on to a later generation. -/
def Spent (p : Population) (slot : SlotId) : Prop :=
  ∃ generation, p.generations[slot.index]? = some generation ∧ slot.generation < generation

theorem Tidy.not_spent {p : Population} (tidy : p.Tidy) {slot : SlotId} (live : slot ∈ p.slots) :
    ¬ p.Spent slot := by
  rintro ⟨generation, now, later⟩
  rw [tidy.current slot live] at now
  cases now
  omega

/-- The next handle is neither live nor was it ever handed out before. -/
theorem Tidy.allocate_fresh {p : Population} (tidy : p.Tidy) :
    p.allocate.1 ∉ p.slots ∧ ¬ p.Spent p.allocate.1 := by
  unfold allocate
  cases free : p.free with
  | nil =>
      constructor
      · intro live
        have known := tidy.current _ live
        simp at known
      · rintro ⟨generation, now, _⟩
        simp at now
  | cons index rest =>
      constructor
      · intro live
        exact tidy.freeUnused _ live (by simp [free])
      · rintro ⟨generation, now, later⟩
        have known := tidy.freeKnown index (by simp [free])
        simp only [List.getElem?_eq_getElem known, Option.some.injEq] at now
        simp [List.getD_eq_getElem?_getD, List.getElem?_eq_getElem known, now] at later

end Terrarium.Population
