import Terrarium.Proofs.Population.Account

/-!
Whom a deduplication keeps. Members are read in the order of their creation, and the keys read so
far are all that is remembered of them; so of those with one key the first stays, no key is lost,
and nobody is left whom a second deduplication could remove.
-/

namespace Terrarium.Population

def keys (p : Population) : List StateKey := p.members.map fun m => m.2.key

def IsFirst (members : List (SlotId × Organism)) (m : SlotId × Organism) : Prop :=
  ∃ before after, members = before ++ m :: after ∧ ∀ earlier ∈ before, earlier.2.key ≠ m.2.key

def firsts (seen : List StateKey) : List (SlotId × Organism) → List (SlotId × Organism)
  | [] => []
  | m :: rest =>
      if m.2.key ∈ seen then firsts seen rest else m :: firsts (m.2.key :: seen) rest

section Firsts
variable {seen : List StateKey} {members rest : List (SlotId × Organism)}
  {m first : SlotId × Organism}

theorem firsts_seen (known : first.2.key ∈ seen) : firsts seen (first :: rest) = firsts seen rest :=
  if_pos known

theorem firsts_unseen (new : first.2.key ∉ seen) :
    firsts seen (first :: rest) = first :: firsts (first.2.key :: seen) rest :=
  if_neg new

theorem duplicates_seen (known : first.2.key ∈ seen) :
    duplicates seen (first :: rest) = first.1 :: duplicates seen rest := by
  simp [duplicates, known]

theorem duplicates_unseen (new : first.2.key ∉ seen) :
    duplicates seen (first :: rest) = duplicates (first.2.key :: seen) rest := by
  simp [duplicates, new]

theorem isFirst_cons :
    IsFirst (first :: rest) m ↔ m = first ∨ first.2.key ≠ m.2.key ∧ IsFirst rest m := by
  constructor
  · rintro ⟨before, after, split, apart⟩
    cases before with
    | nil =>
        cases split
        exact Or.inl rfl
    | cons other before =>
        cases split
        have earlier : ∀ e ∈ before, e.2.key ≠ m.2.key := fun e member =>
          apart e (List.mem_cons_of_mem _ member)
        exact Or.inr ⟨apart _ List.mem_cons_self, before, after, rfl, earlier⟩
  · rintro (rfl | ⟨other, before, after, rfl, apart⟩)
    · exact ⟨[], rest, rfl, by simp⟩
    · exact ⟨first :: before, after, rfl, List.forall_mem_cons.mpr ⟨other, apart⟩⟩

theorem mem_firsts_iff : m ∈ firsts seen members ↔ m.2.key ∉ seen ∧ IsFirst members m := by
  induction members generalizing seen with
  | nil => simp [firsts, IsFirst]
  | cons first rest ih =>
      rw [isFirst_cons]
      -- The scan goes on with what has been seen: the same if the key was known, one more if not.
      by_cases known : first.2.key ∈ seen
      · rw [firsts_seen known, ih]
        -- A member with a new key is neither this one nor one with the key of this one.
        have passed (new : m.2.key ∉ seen) : m ≠ first ∧ first.2.key ≠ m.2.key :=
          ⟨fun same => new (same ▸ known), fun same => new (same ▸ known)⟩
        constructor
        · rintro ⟨new, later⟩
          exact ⟨new, Or.inr ⟨(passed new).2, later⟩⟩
        · rintro ⟨new, this | ⟨_, later⟩⟩
          · exact absurd this (passed new).1
          · exact ⟨new, later⟩
      · rw [firsts_unseen known, List.mem_cons, ih, List.mem_cons, not_or]
        constructor
        · rintro (rfl | ⟨⟨other, new⟩, later⟩)
          · exact ⟨known, Or.inl rfl⟩
          · exact ⟨new, Or.inr ⟨Ne.symm other, later⟩⟩
        · rintro ⟨new, this | ⟨other, later⟩⟩
          · exact Or.inl this
          · exact Or.inr ⟨⟨Ne.symm other, new⟩, later⟩

theorem firsts_distinct (seen : List StateKey) (members : List (SlotId × Organism)) :
    ((firsts seen members).map fun m => m.2.key).Nodup := by
  induction members generalizing seen with
  | nil => exact List.nodup_nil
  | cons first rest ih =>
      by_cases known : first.2.key ∈ seen
      · rw [firsts_seen known]
        exact ih seen
      · rw [firsts_unseen known, List.map_cons, List.nodup_cons]
        constructor
        · -- Its key is among those seen by whoever comes later.
          intro again
          obtain ⟨m, later, same⟩ := List.mem_map.mp again
          have new := (mem_firsts_iff.mp later).1
          exact new (same ▸ List.mem_cons_self)
        · exact ih (first.2.key :: seen)

theorem key_mem_firsts (seen : List StateKey) (member : m ∈ members) :
    m.2.key ∈ seen ∨ ∃ first ∈ firsts seen members, first.2.key = m.2.key := by
  induction members generalizing seen with
  | nil => cases member
  | cons other rest ih =>
      by_cases known : other.2.key ∈ seen
      · rw [firsts_seen known]
        rcases List.mem_cons.mp member with rfl | later
        · exact Or.inl known
        · exact ih seen later
      · rw [firsts_unseen known]
        rcases List.mem_cons.mp member with rfl | later
        · exact Or.inr ⟨m, List.mem_cons_self, rfl⟩
        · rcases ih (other.2.key :: seen) later with before | ⟨first, found, same⟩
          · -- The key that has just been added is that of the one who stays here.
            rcases List.mem_cons.mp before with same | earlier
            · exact Or.inr ⟨other, List.mem_cons_self, same.symm⟩
            · exact Or.inl earlier
          · exact Or.inr ⟨first, List.mem_cons_of_mem _ found, same⟩

/-- Those left without the duplicates are the firsts. -/
theorem filter_not_mem_duplicates (seen : List StateKey) (distinct : (members.map Prod.fst).Nodup) :
    members.filter (fun m => m.1 ∉ duplicates seen members) = firsts seen members := by
  induction members generalizing seen with
  | nil => rfl
  | cons first rest ih =>
      obtain ⟨apart, distinct⟩ := List.nodup_cons.mp distinct
      by_cases known : first.2.key ∈ seen
      · -- The handle of the one that goes is that of no other.
        have others : rest.filter (fun m => m.1 ∉ first.1 :: duplicates seen rest) =
            rest.filter (fun m => m.1 ∉ duplicates seen rest) := by
          apply List.filter_congr
          intro m member
          have different : m.1 ≠ first.1 := fun same => apart (same ▸ List.mem_map_of_mem member)
          simp [different]
        rw [duplicates_seen known, firsts_seen known, List.filter_cons_of_neg (by simp), others,
          ih seen distinct]
      · have single : first.1 ∉ duplicates (first.2.key :: seen) rest := fun member =>
          apart ((duplicates_sublist _ rest).subset member)
        rw [duplicates_unseen known, firsts_unseen known,
          List.filter_cons_of_pos (by simpa using single), ih _ distinct]

theorem duplicates_eq_nil (distinct : (members.map fun m => m.2.key).Nodup)
    (new : ∀ m ∈ members, m.2.key ∉ seen) : duplicates seen members = [] := by
  induction members generalizing seen with
  | nil => rfl
  | cons first rest ih =>
      obtain ⟨apart, distinct⟩ := List.nodup_cons.mp distinct
      rw [duplicates_unseen (new first List.mem_cons_self)]
      refine ih distinct fun m member => ?_
      rw [List.mem_cons, not_or]
      constructor
      · exact fun same => apart (List.mem_map.mpr ⟨m, member, same⟩)
      · exact new m (List.mem_cons_of_mem _ member)

end Firsts

section Deduplicated
variable {p : Population}

theorem dedup_members (distinct : p.slots.Nodup) : p.dedup.state.members = firsts [] p.members := by
  obtain ⟨account, _⟩ := dedup_victims distinct
  rw [account.trail.members_of_leaves, filter_not_mem_duplicates [] distinct]

theorem dedup_distinct (distinct : p.slots.Nodup) : p.dedup.state.keys.Nodup := by
  rw [keys, dedup_members distinct]
  exact firsts_distinct [] p.members

theorem mem_dedup_iff (distinct : p.slots.Nodup) (m : SlotId × Organism) :
    m ∈ p.dedup.state.members ↔ IsFirst p.members m := by
  rw [dedup_members distinct, mem_firsts_iff]
  simp

theorem mem_keys_dedup_iff (distinct : p.slots.Nodup) (key : StateKey) :
    key ∈ p.dedup.state.keys ↔ key ∈ p.keys := by
  simp only [keys, dedup_members distinct, List.mem_map]
  constructor
  · rintro ⟨m, found, same⟩
    obtain ⟨before, after, split, _⟩ := (mem_firsts_iff.mp found).2
    exact ⟨m, split ▸ List.mem_append_right _ List.mem_cons_self, same⟩
  · rintro ⟨m, member, rfl⟩
    rcases key_mem_firsts [] member with seen | first
    · cases seen
    · exact first

theorem dedup_of_distinct (distinct : p.keys.Nodup) : p.dedup = .done p 0 := by
  have none : duplicates [] p.members = [] := duplicates_eq_nil distinct (by simp)
  simp only [dedup, removeCounted, removeAll, none, Attempt.forEach, Attempt.done_andThen]
  rfl

end Deduplicated
end Terrarium.Population
