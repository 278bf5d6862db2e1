import Mathlib.Data.Finset.Card
import Terrarium.Proofs.Instruction.Failure
import Terrarium.Proofs.Instruction.Reseeding

/-!
What corruption does to the bytes of a write. Which of them are hit, what replaces these and how far
the generator is moved are settled by their number alone. Main statement: bytes that are hit are the
same whatever was to be written, and all others are what was to be written.
-/

namespace Terrarium

namespace Generator

theorem fraction_lt (g : Generator) : g.fraction.1 < fractionCount := by
  have word := g.next64.1.toNat_lt
  simp only [fraction, UInt64.toNat_shiftRight, Nat.shiftRight_eq_div_pow]
  exact Nat.div_lt_of_lt_mul word

theorem fractions_lt (count : Nat) (g : Generator) :
    ∀ draw ∈ (g.fractions count).1, draw < fractionCount := by
  induction count generalizing g with
  | zero => exact nofun
  | succ count ih =>
      intro draw member
      simp only [fractions, List.mem_cons] at member
      rcases member with rfl | later
      · exact g.fraction_lt
      · exact ih g.fraction.2 draw later

theorem bytes_zero (g : Generator) : g.bytes 0 = ([], g) := by simp [bytes]

end Generator

namespace NoiseSettings
variable {noise : NoiseSettings}

theorem writeErrorProbability_certain (certain : noise.writeErrorChance = some 1) :
    ∃ p, noise.writeErrorProbability = .ok (some p) ∧
      ∀ draw < Generator.fractionCount, p.exceeds draw = true := by
  have finite : (Binary64.ofRatio 1 1).isInfinite = false := by decide +kernel
  have ratio : (Binary64.ofRatio (Binary64.ofRatio 1 1).ratio.2 (Binary64.ofRatio 1 1).ratio.1).ratio =
      (0x10000000000000, 0x10000000000000) := by decide +kernel
  refine ⟨_, by simp only [writeErrorProbability, certain, finite]; rfl, fun draw below => ?_⟩
  simp only [Binary64.exceeds, ratio, decide_eq_true_eq, Generator.fractionCount] at below ⊢
  omega

end NoiseSettings

theorem replaceHits_unhit (values : List UInt8) {hits : List Bool} (none : hits.count true = 0)
    (bytes : List UInt8) : replaceHits values hits bytes = values := by
  fun_induction replaceHits values hits bytes with
  | case1 => simp at none
  | case2 value values hit hits bytes other ih =>
      rw [ih (Nat.le_zero.mp (none ▸ List.count_le_count_cons))]
  | case3 => rfl

/-- A byte that is hit is replaced by the one drawn for it, the hits being counted off in order. -/
theorem replaceHits_getElem? {values : List UInt8} {hits : List Bool} {bytes : List UInt8}
    (length : hits.length = values.length) (enough : bytes.length = hits.count true) (i : Nat) :
    (replaceHits values hits bytes)[i]? =
      if hits[i]? = some true then bytes[(hits.take i).count true]? else values[i]? := by
  fun_induction replaceHits values hits bytes generalizing i with
  | case1 value values hits byte bytes ih =>
      cases i with
      | zero => simp
      | succ i => simp [ih (Nat.succ.inj length) (by simpa using enough)]
  | case2 value values hit hits bytes other ih =>
      -- A hit would have had a byte drawn for it.
      have spared : hit = false := by
        cases hit with
        | false => rfl
        | true =>
            cases bytes with
            | nil => simp at enough
            | cons byte bytes => exact (other byte bytes rfl rfl).elim
      subst spared
      cases i with
      | zero => simp
      | succ i => simp [ih (Nat.succ.inj length) (by simpa using enough)]
  | case3 values hits bytes other other' =>
      cases values with
      | nil => simp [List.eq_nil_of_length_eq_zero length]
      | cons value values =>
          cases hits with
          | nil => cases length
          | cons hit hits => exact (other' value values hit hits rfl rfl).elim

def hitSet (hits : List Bool) : Finset Nat :=
  (Finset.range hits.length).filter fun i => hits[i]? = some true

theorem mem_hitSet (hits : List Bool) (i : Nat) : i ∈ hitSet hits ↔ hits[i]? = some true := by
  simp only [hitSet, Finset.mem_filter, Finset.mem_range, and_iff_right_iff_imp]
  exact fun hit => (List.getElem?_eq_some_iff.mp hit).1

theorem hitSet_card (hits : List Bool) : (hitSet hits).card = hits.count true := by
  have upTo (n : Nat) : ((Finset.range n).filter fun i => hits[i]? = some true).card =
      (hits.take n).count true := by
    induction n with
    | zero => rfl
    | succ n ih =>
        rw [Finset.range_add_one, Finset.filter_insert, List.take_add_one, List.count_append, ← ih]
        by_cases hit : hits[n]? = some true
        · rw [if_pos hit, Finset.card_insert_of_notMem (by simp), hit]
          rfl
        · rw [if_neg hit]
          cases value : hits[n]? with
          | none => rfl
          | some b => cases b <;> simp_all
  rw [hitSet, upTo, List.take_length]

theorem hitSet_replicate (count : Nat) (hit : Bool) :
    hitSet (List.replicate count hit) = if hit then Finset.range count else ∅ := by
  ext i
  cases hit <;> simp [mem_hitSet, List.getElem?_replicate]

def NoiseSettings.hits (noise : NoiseSettings) (count : Nat) (g : Generator) :
    List Bool × Generator :=
  match noise.writeErrorProbability with
  | .ok (some p) => if count = 0 then ([], g) else Habitat.trials noise.writeErrorScope p count g
  | _ => (List.replicate count false, g)

namespace NoiseSettings
variable {noise : NoiseSettings}

theorem hits_length (noise : NoiseSettings) (count : Nat) (g : Generator) :
    (noise.hits count g).1.length = count := by
  unfold hits
  split
  · split
    · next nothing => exact nothing.symm
    · unfold Habitat.trials
      split <;> simp [Generator.fractions_length]
  · simp

/-- One trial for the whole write spares all of its bytes or none. -/
theorem hits_perInstruction (scope : noise.writeErrorScope = .perInstruction) (count : Nat)
    (g : Generator) : ∃ hit, (noise.hits count g).1 = List.replicate count hit := by
  unfold hits
  split
  · next p given =>
      split
      · next nothing => exact ⟨false, by simp [nothing]⟩
      · exact ⟨p.exceeds g.fraction.1, by simp [Habitat.trials, scope]⟩
  · exact ⟨false, rfl⟩

theorem hits_certain (certain : noise.writeErrorChance = some 1) (count : Nat) (g : Generator) :
    (noise.hits count g).1 = List.replicate count true := by
  obtain ⟨p, given, exceeds⟩ := writeErrorProbability_certain certain
  simp only [hits, given]
  split
  · next nothing => simp [nothing]
  · unfold Habitat.trials
    cases noise.writeErrorScope with
    | perInstruction => simp [exceeds _ g.fraction_lt]
    | perWrite =>
        refine List.eq_replicate_iff.mpr ⟨by simp [Generator.fractions_length], ?_⟩
        intro hit member
        obtain ⟨draw, drawn, rfl⟩ := List.mem_map.mp member
        exact exceeds draw (g.fractions_lt count draw drawn)

end NoiseSettings

/-- Damage at the positions `H` makes `x` of `u` and `y` of `v`: the same bytes land on `H`. -/
structure DamagedAlike (H : Finset Nat) (u v x y : List UInt8) : Prop where
  length : x.length = u.length ∧ y.length = v.length
  hit : ∀ i ∈ H, x[i]? = y[i]?
  spared : ∀ i ∉ H, x[i]? = u[i]? ∧ y[i]? = v[i]?

theorem replaceHits_alike {u v : List UInt8} {hits : List Bool} {bytes : List UInt8}
    (first : hits.length = u.length) (second : hits.length = v.length)
    (enough : bytes.length = hits.count true) :
    DamagedAlike (hitSet hits) u v (replaceHits u hits bytes) (replaceHits v hits bytes) where
  length := ⟨replaceHits_length u hits bytes, replaceHits_length v hits bytes⟩
  hit i member := by
    have hit := (mem_hitSet hits i).mp member
    simp [replaceHits_getElem? first enough, replaceHits_getElem? second enough, hit]
  spared i apart := by
    have spared := mt (mem_hitSet hits i).mpr apart
    simp [replaceHits_getElem? first enough, replaceHits_getElem? second enough, spared]

namespace Habitat
variable {noise : NoiseSettings}

theorem corrupt_nil (small : noise.chanceTooLarge = false) (h : Habitat) :
    h.corrupt noise [] = .done h [] := by
  obtain ⟨p, given⟩ := NoiseSettings.writeErrorProbability_small small
  cases p <;> simp [corrupt, given]

/-- All of a corruption but the bytes that land follows from how many are written. -/
theorem corrupt_eq (small : noise.chanceTooLarge = false) (h : Habitat) {values : List UInt8}
    {hits : List Bool} {bytes : List UInt8} {g g' : Generator}
    (tried : noise.hits values.length h.generator = (hits, g))
    (drawn : g.bytes (hits.count true) = (bytes, g')) :
    h.corrupt noise values =
      { state := { h with generator := g', writeErrors := h.writeErrors + hits.count true }
        events := if hits.count true = 0 then [] else [.writeErrors (hits.count true)]
        answer := .ok (replaceHits values hits bytes) } := by
  -- Where no byte is hit none is drawn either, and all stay.
  have spared (none : hits.count true = 0) :
      g' = g ∧ replaceHits values hits bytes = values := by
    rw [none, Generator.bytes_zero] at drawn
    exact ⟨(Prod.mk.inj drawn).2.symm, replaceHits_unhit values none bytes⟩
  obtain ⟨p, given⟩ := NoiseSettings.writeErrorProbability_small small
  unfold NoiseSettings.hits at tried
  unfold corrupt
  rw [given] at tried ⊢
  cases p with
  | none =>
      obtain ⟨rfl, rfl⟩ := Prod.mk.inj tried
      have none : (List.replicate values.length false).count true = 0 := by
        simp [List.count_replicate]
      obtain ⟨rfl, same⟩ := spared none
      simp [none, same, Attempt.done]
  | some p =>
      by_cases nothing : values = []
      · subst nothing
        obtain ⟨rfl, rfl⟩ := Prod.mk.inj tried
        obtain ⟨rfl, same⟩ := spared rfl
        simp [same, Attempt.done]
      · have some : values.length ≠ 0 := mt List.eq_nil_of_length_eq_zero nothing
        dsimp only at tried ⊢
        rw [if_neg some] at tried
        simp only [tried, drawn, List.isEmpty_iff, if_neg nothing]
        split
        · next none =>
            obtain ⟨rfl, same⟩ := spared none
            simp [none, same, Attempt.done]
        · rfl

/-- Write errors do not depend on what is written. Writes of the same length to one habitat are hit
at the same positions, and leave the same habitat with as many errors more. With noise that is off,
or a write of nothing, nothing is drawn. -/
theorem corruption_ignores_values (small : noise.chanceTooLarge = false) (h : Habitat)
    (count : Nat) :
    ∃ (H : Finset Nat) (g : Generator) (events : List Event),
      H ⊆ Finset.range count ∧
      (noise.writeErrorScope = .perInstruction → H = ∅ ∨ H = Finset.range count) ∧
      (noise.writeErrorChance = some 1 → H = Finset.range count) ∧
      (∀ u v : List UInt8, u.length = count → v.length = count → ∃ x y : List UInt8,
        h.corrupt noise u =
          ⟨{ h with generator := g, writeErrors := h.writeErrors + H.card }, events, .ok x⟩ ∧
        h.corrupt noise v =
          ⟨{ h with generator := g, writeErrors := h.writeErrors + H.card }, events, .ok y⟩ ∧
        DamagedAlike H u v x y) ∧
      (noise.writeErrorChance = none ∨ noise.writeErrorChance = some 0 ∨ count = 0 →
        ∀ u : List UInt8, u.length = count → h.corrupt noise u = .done h u) := by
  obtain ⟨hits, g, tried⟩ : ∃ hits g, noise.hits count h.generator = (hits, g) := ⟨_, _, rfl⟩
  obtain ⟨bytes, g', drawn⟩ : ∃ bytes g', g.bytes (hits.count true) = (bytes, g') := ⟨_, _, rfl⟩
  have length : hits.length = count := by
    simpa only [tried] using noise.hits_length count h.generator
  have enough : bytes.length = hits.count true := by
    simpa only [drawn] using g.bytes_length (hits.count true)
  have replicated {hit : Bool} (all : hits = List.replicate count hit) :
      hitSet hits = if hit then Finset.range count else ∅ := by
    rw [all]
    exact hitSet_replicate count hit
  refine ⟨hitSet hits, g', if hits.count true = 0 then [] else [.writeErrors (hits.count true)],
    ?_, ?_, ?_, ?_, ?_⟩
  · rw [← length]
    exact Finset.filter_subset _ _
  · intro scope
    obtain ⟨hit, all⟩ := NoiseSettings.hits_perInstruction scope count h.generator
    simp only [tried] at all
    rw [replicated all]
    cases hit
    · exact .inl rfl
    · exact .inr rfl
  · intro certain
    have all := NoiseSettings.hits_certain certain count h.generator
    simp only [tried] at all
    exact replicated all
  · intro u v first second
    rw [hitSet_card]
    exact ⟨_, _, corrupt_eq small h (first ▸ tried) drawn, corrupt_eq small h (second ▸ tried) drawn,
      replaceHits_alike (length.trans first.symm) (length.trans second.symm) enough⟩
  · rintro (none | zero | rfl) u same
    · exact corrupt_off (.inl none) h u
    · exact corrupt_off (.inr zero) h u
    · rw [List.eq_nil_of_length_eq_zero same]
      exact corrupt_nil small h

/-- With a chance of one in one the same three bytes land, whichever three were to. -/
theorem corruption_ignores_values_certain :
    let noise : NoiseSettings := { writeErrorChance := some 1 }
    let h : Habitat :=
      { grid := .uniform 3 1 (by decide) (by decide) 1, generator := Generator.ofSeed 7 }
    noise.chanceTooLarge = false ∧
      h.corrupt noise [1, 2, 3] = h.corrupt noise [7, 8, 9] ∧
      (h.corrupt noise [1, 2, 3]).state.writeErrors = 3 := by
  intro noise h
  have small : noise.chanceTooLarge = false := by decide +kernel
  obtain ⟨H, g, events, _, _, certain, alike, _⟩ := corruption_ignores_values small h 3
  have all : H = Finset.range 3 := certain rfl
  obtain ⟨x, y, first, second, damaged⟩ := alike [1, 2, 3] [7, 8, 9] rfl rfl
  have same : x = y := by
    refine List.ext_getElem? fun i => ?_
    by_cases below : i < 3
    · exact damaged.hit i (all ▸ Finset.mem_range.mpr below)
    · have short : x.length = 3 ∧ y.length = 3 := damaged.length
      rw [List.getElem?_eq_none (by omega), List.getElem?_eq_none (by omega)]
  refine ⟨small, by rw [first, second, same], ?_⟩
  rw [first, all]
  rfl

end Habitat
end Terrarium
