import Terrarium.Proofs.Number.Whole
import Terrarium.Proofs.Settings.Limits

/-!
The bounds that the fields of the run settings declare. A field takes an integer exactly when it is
within its bound, and the rate of cosmic rays when it can stand for it besides. Whatever was read
or changed, every field is within its bound.
-/

namespace Terrarium

namespace RunField

def least? : RunField → Option Int
  | cycleSpeed | lifespan | logInterval | maxCycles => some 1
  | writeErrorChance | cosmicRayRate | maxPopulation | maxChildren | autoDedupPeriod => some 0
  | writeErrorScope | cosmicRayMode | instructionCosts => none

def isOptional : RunField → Bool
  | writeErrorChance | maxPopulation | lifespan | maxChildren | maxCycles => true
  | _ => false

def Within (field : RunField) : Value → Prop
  | .null => field.isOptional = true
  | .int n => ∃ least, field.least? = some least ∧ least ≤ n
  | .float x => field = cosmicRayRate ∧ x.isNonnegative = true
  | .bool _ => field = instructionCosts
  | .text name =>
      field = writeErrorScope ∧ (∃ scope : WriteErrorScope, name = scope.name) ∨
        field = cosmicRayMode ∧ ∃ mode : CosmicRayMode, name = mode.name
  | _ => False

end RunField

namespace Coercion

theorem positive_ok_iff {n : Int} : (∃ x, positive n = .ok x) ↔ 1 ≤ n := by
  unfold positive
  split
  · next above => exact iff_of_true ⟨_, rfl⟩ above
  · next below => exact iff_of_false (by simp) below

theorem atLeast_ok_iff {bound : Nat} {n : Int} :
    (∃ x, atLeast bound n = .ok x) ↔ (bound : Int) ≤ n := by
  unfold atLeast
  split
  · next kept => exact iff_of_true ⟨_, rfl⟩ kept
  · next broken => exact iff_of_false (by simp) broken

theorem nonnegative_ok_iff {x : Binary64} :
    (∃ y, nonnegative x = .ok y) ↔ x.isNonnegative = true := by
  unfold nonnegative
  split
  · next kept => exact iff_of_true ⟨_, rfl⟩ kept
  · next broken => exact iff_of_false (by simp) broken

theorem positive_ok {n : Int} {x : Nat} (taken : positive n = .ok x) : 1 ≤ x := by
  unfold positive at taken
  split at taken
  · cases taken
    omega
  · cases taken

end Coercion

theorem Except.map_ok_iff {ε α β : Type} {f : α → β} {outcome : Except ε α} :
    (∃ b, outcome.map f = .ok b) ↔ ∃ a, outcome = .ok a := by
  cases outcome with
  | error fault => exact iff_of_false (by simp [Except.map]) (by simp)
  | ok a => exact iff_of_true ⟨f a, rfl⟩ ⟨a, rfl⟩

namespace RunSettings
open RunField
variable {s t : RunSettings} {field : RunField} {v : Value}

def Bounded (s : RunSettings) : Prop := ∀ field : RunField, field.Within (s.get field)

theorem set_null_iff : (∃ t, s.set field .null = .ok t) ↔ field.Within .null := by
  cases field <;>
    simp [RunSettings.set, Coercion.optional, Coercion.bounded, Coercion.integer, Coercion.number,
      Coercion.choice, Coercion.boolean, RunField.Within, isOptional, Except.map]

theorem set_int_iff {n : Int} (numeric : field.least? ≠ none) :
    (∃ t, s.set field (.int n) = .ok t) ↔
      field.Within (.int n) ∧ (field = .cosmicRayRate → n.natAbs < Binary64.overflow) := by
  have checked {check : Int → Except FieldFault Nat} {store : Nat → RunSettings} {least : Int}
      (kept : (∃ x, check n = .ok x) ↔ least ≤ n) :
      (∃ t, ((Coercion.bounded check (.int n)).map store) = .ok t) ↔ least ≤ n :=
    Except.map_ok_iff.trans kept
  have optional {check : Int → Except FieldFault Nat} {store : Option Nat → RunSettings}
      {least : Int} (kept : (∃ x, check n = .ok x) ↔ least ≤ n) :
      (∃ t, ((Coercion.optional (Coercion.bounded check) (.int n)).map store) = .ok t) ↔
        least ≤ n :=
    Except.map_ok_iff.trans (Except.map_ok_iff.trans kept)
  cases field with
  | cycleSpeed | logInterval =>
      refine (checked Coercion.positive_ok_iff).trans ?_
      simp [RunField.Within, least?]
  | autoDedupPeriod =>
      refine (checked Coercion.atLeast_ok_iff).trans ?_
      simp [RunField.Within, least?]
  | maxCycles =>
      refine (optional Coercion.positive_ok_iff).trans ?_
      simp [RunField.Within, least?]
  | lifespan | writeErrorChance | maxPopulation | maxChildren =>
      refine (optional Coercion.atLeast_ok_iff).trans ?_
      simp [RunField.Within, least?]
  | cosmicRayRate =>
      simp only [RunSettings.set, Coercion.number]
      cases rate : Binary64.ofInt? n with
      | none =>
          have large := Binary64.ofInt?_eq_none_iff.mp rate
          refine iff_of_false (by simp) ?_
          rintro ⟨_, small⟩
          exact Nat.not_lt_of_le large (small trivial)
      | some x =>
          have small : n.natAbs < Binary64.overflow := Nat.lt_of_not_le fun large => by
            rw [Binary64.ofInt?_eq_none_iff.mpr large] at rate
            cases rate
          rw [Except.map_ok_iff, Coercion.nonnegative_ok_iff, Binary64.ofInt?_isNonnegative rate]
          simp [RunField.Within, least?, small]
  | writeErrorScope | cosmicRayMode | instructionCosts => exact absurd rfl numeric

theorem number_within {least : Int} {n : Nat} (bound : field.least? = some least)
    (kept : least ≤ n) : field.Within (.int n) := ⟨least, bound, kept⟩

theorem natural_within {least : Int} {limit : Option Nat} (optional : field.isOptional = true)
    (bound : field.least? = some least) (kept : ∀ n, limit = some n → least ≤ n) :
    field.Within (get.natural? limit) := by
  cases limit with
  | none => exact optional
  | some n => exact number_within bound (kept n rfl)

/-- A field that was changed is within its bound. -/
theorem set_within (changed : s.set field v = .ok t) : field.Within (t.get field) := by
  cases field with
  | cycleSpeed | logInterval =>
      obtain ⟨x, taken, rfl⟩ := Except.of_map_ok changed
      obtain ⟨_, checked⟩ := Coercion.bounded_ok taken
      exact number_within rfl (Int.ofNat_le.mpr (Coercion.positive_ok checked))
  | autoDedupPeriod =>
      obtain ⟨x, _, rfl⟩ := Except.of_map_ok changed
      exact number_within rfl (Int.natCast_nonneg x)
  | lifespan =>
      obtain ⟨limit, taken, rfl⟩ := Except.of_map_ok changed
      refine natural_within rfl rfl fun n limited => ?_
      cases (limited : limit = some n)
      obtain ⟨_, checked⟩ := Coercion.bounded_ok (Coercion.optional_ok taken)
      exact Int.ofNat_le.mpr (Coercion.atLeast_ok checked)
  | maxCycles =>
      obtain ⟨limit, taken, rfl⟩ := Except.of_map_ok changed
      refine natural_within rfl rfl fun n limited => ?_
      cases (limited : limit = some n)
      obtain ⟨_, checked⟩ := Coercion.bounded_ok (Coercion.optional_ok taken)
      exact Int.ofNat_le.mpr (Coercion.positive_ok checked)
  | writeErrorChance | maxPopulation | maxChildren =>
      obtain ⟨limit, _, rfl⟩ := Except.of_map_ok changed
      exact natural_within rfl rfl fun n _ => Int.natCast_nonneg n
  | cosmicRayRate =>
      simp only [RunSettings.set] at changed
      split at changed
      · cases changed
      · obtain ⟨_, checked, rfl⟩ := Except.of_map_ok changed
        exact ⟨rfl, Coercion.nonnegative_ok checked⟩
  | writeErrorScope =>
      obtain ⟨scope, _, rfl⟩ := Except.of_map_ok changed
      exact Or.inl ⟨rfl, scope, rfl⟩
  | cosmicRayMode =>
      obtain ⟨mode, _, rfl⟩ := Except.of_map_ok changed
      exact Or.inr ⟨rfl, mode, rfl⟩
  | instructionCosts =>
      obtain ⟨_, _, rfl⟩ := Except.of_map_ok changed
      exact rfl

theorem get_set_period {n : Int} (changed : s.set .autoDedupPeriod (.int n) = .ok t) :
    t.get .autoDedupPeriod = .int n := by
  obtain ⟨x, taken, rfl⟩ := Except.of_map_ok changed
  have kept : Coercion.atLeast 0 n = .ok x := taken
  unfold Coercion.atLeast at kept
  split at kept
  · next nonneg =>
    cases kept
    exact congrArg Value.int (Int.toNat_of_nonneg nonneg)
  · cases kept

theorem get_set_of_ne {other : RunField} (changed : s.set field v = .ok t) (apart : other ≠ field) :
    t.get other = s.get other := by
  cases field with
  | cosmicRayRate =>
      simp only [RunSettings.set] at changed
      split at changed
      · cases changed
      · obtain ⟨_, _, rfl⟩ := Except.of_map_ok changed
        cases other <;> first | rfl | exact absurd rfl apart
  | _ =>
      obtain ⟨_, _, rfl⟩ := Except.of_map_ok changed
      cases other <;> first | rfl | exact absurd rfl apart

theorem set_bounded (bounded : s.Bounded) (changed : s.set field v = .ok t) : t.Bounded := by
  intro other
  by_cases same : other = field
  · rw [same]
    exact set_within changed
  · rw [get_set_of_ne changed same]
    exact bounded other

/-- Every default is within the bound of its field. -/
theorem default_bounded : Bounded {} := by
  intro field
  cases field with
  | writeErrorScope => exact Or.inl ⟨rfl, .perWrite, rfl⟩
  | cosmicRayMode => exact Or.inr ⟨rfl, .expected, rfl⟩
  | cosmicRayRate => exact ⟨rfl, rfl⟩
  | instructionCosts => exact rfl
  | cycleSpeed | logInterval | autoDedupPeriod => exact number_within rfl (by decide)
  | _ => exact rfl

end RunSettings

namespace WorldSettings

def Roomy (world : WorldSettings) : Prop := 0 < world.width ∧ 0 < world.height

theorem set_roomy {s t : WorldSettings} {field : WorldField} {v : Value} (roomy : s.Roomy)
    (changed : s.set field v = .ok t) : t.Roomy := by
  cases field with
  | width =>
      obtain ⟨_, taken, rfl⟩ := Except.of_map_ok changed
      obtain ⟨_, checked⟩ := Coercion.bounded_ok taken
      exact ⟨Coercion.positive_ok checked, roomy.2⟩
  | height =>
      obtain ⟨_, taken, rfl⟩ := Except.of_map_ok changed
      obtain ⟨_, checked⟩ := Coercion.bounded_ok taken
      exact ⟨roomy.1, Coercion.positive_ok checked⟩
  | fill | seed =>
      obtain ⟨_, _, rfl⟩ := Except.of_map_ok changed
      exact roomy

theorem read_roomy {given : List (String × Value)} {world : WorldSettings}
    (taken : WorldSettings.read given = .ok world) : world.Roomy := by
  have kept := readFields_keeps WorldSettings.set WorldField.name given
    (fun _ _ _ _ => set_roomy) WorldField.all {} ⟨by decide, by decide⟩
  unfold WorldSettings.read at taken
  split at taken
  · next s outcome =>
      rw [outcome] at kept
      cases taken
      exact kept
  · cases taken

end WorldSettings
end Terrarium
