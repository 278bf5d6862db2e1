import Mathlib.Data.List.Induction
import Mathlib.Data.List.Nodup
import Mathlib.Order.Bounds.Basic
import Terrarium.Proofs.Population.Handles

/-!
How full the slot table is. Its indices are the freed ones and those of the live organisms, each of
them once, so that a new index is made only when all others are taken. Main statement: whatever was
asked of a population that was empty at first, its table has as many indices as there were ever
organisms live at once.
-/

namespace Terrarium.Population
variable {p q : Population}

theorem Tidy.indices_distinct (tidy : p.Tidy) : (p.slots.map SlotId.index).Nodup :=
  List.Nodup.map_on (fun _ live _ live' same => tidy.eq_of_index live live' same) tidy.distinct

/-- An index is freed or taken, and it is so once. -/
theorem Tidy.partition (tidy : p.Tidy) :
    (p.free ++ p.slots.map SlotId.index).Perm (List.range p.generations.length) := by
  have apart : (p.free ++ p.slots.map SlotId.index).Nodup := by
    refine List.nodup_append.mpr ⟨tidy.freeDistinct, tidy.indices_distinct, ?_⟩
    rintro index freed other taken rfl
    obtain ⟨slot, live, rfl⟩ := List.mem_map.mp taken
    exact tidy.freeUnused slot live freed
  refine (List.perm_ext_iff_of_nodup apart List.nodup_range).mpr fun index => ?_
  rw [List.mem_append, List.mem_map, List.mem_range]
  constructor
  · rintro (freed | ⟨slot, live, rfl⟩)
    · exact tidy.freeKnown index freed
    · exact (List.getElem?_eq_some_iff.mp (tidy.current slot live)).1
  · exact tidy.covered index

theorem Tidy.generations_length (tidy : p.Tidy) :
    p.generations.length = p.free.length + p.size := by
  have count := tidy.partition.length_eq
  rw [List.length_append, List.length_map, List.length_range, slots_length] at count
  exact count.symm

theorem Tidy.size_le (tidy : p.Tidy) : p.size ≤ p.generations.length := by
  rw [tidy.generations_length]
  exact Nat.le_add_left _ _

theorem Trail.generations_length {moves : List Move} (trail : Trail p moves q)
    (nobody : entered moves = []) : q.generations.length = p.generations.length := by
  induction trail with
  | stay _ => rfl
  | @go p q move rest _ _ ih =>
      cases move with
      | enter slot o => simp at nobody
      | change slot o => exact ih nobody
      | leave slot cause => rw [ih nobody, moved, vacate, List.length_modify]
      | look focus => exact ih nobody

/-- A newcomer takes a freed index as long as there is one. -/
theorem enter_generations_length (tidy : p.Tidy) (o : Organism) :
    (p.moved (.enter p.allocate.1 o)).generations.length =
      max p.generations.length (p.moved (.enter p.allocate.1 o)).size := by
  have grown := p.size_enter p.allocate.1 o
  have before := tidy.generations_length
  cases free : p.free with
  | nil =>
      have longer : (p.moved (.enter p.allocate.1 o)).generations.length =
          p.generations.length + 1 := by simp [moved, allocate, free]
      rw [free, List.length_nil] at before
      omega
  | cons index rest =>
      have same : (p.moved (.enter p.allocate.1 o)).generations.length =
          p.generations.length := by simp [moved, allocate, free]
      rw [free, List.length_cons] at before
      omega

theorem serve_generations_length (tidy : p.Tidy) (request : Request) :
    (p.serve request).state.generations.length =
      max p.generations.length (p.serve request).state.size := by
  obtain ⟨moves, trail, _, nobody | ⟨slot, o, rfl⟩⟩ := serve_trail tidy request
  · have kept := trail.generations_length nobody
    have few := (trail.tidy tidy).size_le
    omega
  · obtain ⟨⟨rfl, _⟩, reached⟩ := trail.of_single
    rw [reached]
    exact enter_generations_length tidy o

/-- What may happen to a population: something is asked of it, or an organism turns into any other in
its place, as when it executes an instruction. -/
inductive Incident where
  | request (request : Request)
  | change (slot : SlotId) (o : Organism)

def undergo (p : Population) : Incident → Population
  | .request request => (p.serve request).state
  | .change slot o => p.update slot o

def undergoAll (p : Population) (incidents : List Incident) : Population := incidents.foldl undergo p

theorem undergo_tidy (tidy : p.Tidy) (incident : Incident) : (p.undergo incident).Tidy := by
  cases incident with
  | request request =>
      obtain ⟨moves, trail, _⟩ := serve_trail tidy request
      exact trail.tidy tidy
  | change slot o => exact change_tidy tidy slot o

theorem undergo_generations_length (tidy : p.Tidy) (incident : Incident) :
    (p.undergo incident).generations.length =
      max p.generations.length (p.undergo incident).size := by
  cases incident with
  | request request => exact serve_generations_length tidy request
  | change slot o =>
      rw [undergo, generations_update, size_update]
      exact (Nat.max_eq_left tidy.size_le).symm

theorem undergoAll_tidy (tidy : p.Tidy) (incidents : List Incident) : (p.undergoAll incidents).Tidy := by
  induction incidents generalizing p with
  | nil => exact tidy
  | cons incident rest ih => exact ih (undergo_tidy tidy incident)

theorem undergoAll_concat (p : Population) (earlier : List Incident) (last : Incident) :
    p.undergoAll (earlier ++ [last]) = (p.undergoAll earlier).undergo last := List.foldl_append

/-- How many organisms were live at the start and after each incident. In the midst of one there are
never more, since a request that brings somebody in does nothing else. -/
def sizesAlong (p : Population) (incidents : List Incident) : Set Nat :=
  {count | ∃ earlier, earlier <+: incidents ∧ (p.undergoAll earlier).size = count}

theorem sizesAlong_nil (p : Population) : p.sizesAlong [] = {p.size} := by
  ext count
  simp [sizesAlong, undergoAll, eq_comm]

theorem sizesAlong_concat (p : Population) (earlier : List Incident) (last : Incident) :
    p.sizesAlong (earlier ++ [last]) =
      Insert.insert (p.undergoAll (earlier ++ [last])).size (p.sizesAlong earlier) := by
  ext count
  simp only [sizesAlong, Set.mem_insert_iff, Set.mem_ofPred_eq, List.prefix_concat_iff]
  constructor
  · rintro ⟨whole, rfl | before, rfl⟩
    · exact .inl rfl
    · exact .inr ⟨whole, before, rfl⟩
  · rintro (rfl | ⟨whole, before, rfl⟩)
    · exact ⟨_, .inl rfl, rfl⟩
    · exact ⟨whole, .inr before, rfl⟩

/-- By induction from the last incident: the table grows with it just when there are more organisms
than ever before. -/
theorem generations_length_isGreatest (incidents : List Incident) :
    IsGreatest (empty.sizesAlong incidents) (empty.undergoAll incidents).generations.length := by
  induction incidents using List.reverseRecOn with
  | nil =>
      rw [sizesAlong_nil]
      exact isGreatest_singleton
  | append_singleton earlier last ih =>
      rw [sizesAlong_concat, undergoAll_concat,
        undergo_generations_length (undergoAll_tidy empty_tidy earlier) last, Nat.max_comm]
      exact ih.insert _

/-- Over every history of a population that was empty at first, failing requests included: each index
is free or taken by a live organism of its current generation, and there are as many indices as there
were ever organisms live at once. -/
theorem slot_table_never_leaks (incidents : List Incident) :
    let p := Population.empty.undergoAll incidents
    p.free.Nodup ∧
      (p.free ++ p.slots.map SlotId.index).Perm (List.range p.generations.length) ∧
      (∀ slot ∈ p.slots, p.generations[slot.index]? = some slot.generation) ∧
      IsGreatest {count | ∃ earlier, earlier <+: incidents ∧
        (Population.empty.undergoAll earlier).size = count} p.generations.length := by
  intro p
  have tidy : p.Tidy := undergoAll_tidy empty_tidy incidents
  exact ⟨tidy.freeDistinct, tidy.partition, tidy.current, generations_length_isGreatest incidents⟩

/-- Two organisms, of which the first leaves; a third one comes into its index, and the second leaves. -/
theorem slot_table_never_leaks_twoIndices :
    let arrival : Incident := .request (.spawn {} .origin .right)
    let incidents := [arrival, arrival, .request (.remove ⟨0, 0⟩ .kill), arrival,
      .request (.remove ⟨1, 0⟩ .halt)]
    let p := Population.empty.undergoAll incidents
    (⟨0, 1⟩ : SlotId) ∈ p.slots ∧ p.generations[0]? = some 1 ∧ p.free = [1] ∧
      (p.free ++ p.slots.map SlotId.index).Perm (List.range 2) := by
  intro arrival incidents p
  obtain ⟨_, partition, current, _⟩ := slot_table_never_leaks incidents
  have live : (⟨0, 1⟩ : SlotId) ∈ p.slots := by decide
  exact ⟨live, current _ live, by decide, partition⟩

end Terrarium.Population
