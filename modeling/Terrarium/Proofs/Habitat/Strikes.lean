import Terrarium.Habitat
import Terrarium.Proofs.Attempt
import Terrarium.Proofs.Number.Value
import Terrarium.Proofs.Settings.Limits
import Terrarium.Proofs.Torus.Writing

/-!
Cosmic rays. Their number is settled before the first of them strikes, by one trial at most unless it
is a Poisson count; then each draws its place and its byte. Main statement: as many strikes land as
were counted, all of them on the grid, and what they leave is the last byte on each cell that is
struck.
-/

namespace Terrarium

namespace Generator

/-- The strikes on a grid with these sides, each with its column, its row and its byte drawn in this
order. -/
def strikes (width height : Nat) : Nat → Generator → List (Point × UInt8) × Generator
  | 0, g => ([], g)
  | count + 1, g =>
      let (x, g) := g.below width
      let (y, g) := g.below height
      let (byte, g) := g.below 256
      let (rest, g) := strikes width height count g
      ((⟨x, y⟩, byte.toUInt8) :: rest, g)

theorem strikes_length (width height count : Nat) (g : Generator) :
    (g.strikes width height count).1.length = count := by
  induction count generalizing g with
  | zero => rfl
  | succ count ih => simp [strikes, ih]

theorem strikes_within {width height : Nat} (width_pos : 0 < width) (height_pos : 0 < height)
    (count : Nat) (g : Generator) :
    ∀ strike ∈ (g.strikes width height count).1, strike.1.Within width height := by
  induction count generalizing g with
  | zero => exact nofun
  | succ count ih =>
      intro strike member
      simp only [strikes, List.mem_cons] at member
      rcases member with rfl | later
      · have column := below_lt width_pos g
        have row := below_lt height_pos (g.below width).2
        exact ⟨Int.natCast_nonneg _, Int.ofNat_lt.mpr column, Int.natCast_nonneg _,
          Int.ofNat_lt.mpr row⟩
      · exact ih _ strike later

end Generator

namespace Binary64

theorem remainderExceeds_iff {x : Binary64} (positive : x.isNegative = false) (draw : Nat) :
    x.remainderExceeds draw = true ↔
      (draw : ℚ) / Generator.fractionCount < x.value - ⌊x.value⌋₊ := by
  have count : (0 : ℚ) < Generator.fractionCount := by norm_num [Generator.fractionCount]
  rw [value_sub_floor positive, div_lt_div_iff₀ count x.ratio_cast_pos, remainderExceeds,
    decide_eq_true_eq]
  norm_cast

end Binary64

namespace NoiseSettings

/-- How many strikes a cycle may have, and what is drawn to settle it: nothing where none are due or
their number is expected and whole, one trial where it is expected and has a fraction, and a Poisson
count otherwise. -/
structure Counts (noise : NoiseSettings) (g : Generator) (count : Nat) (g' : Generator) : Prop where
  none : noise.cosmicRayRate.value = 0 → count = 0 ∧ g' = g
  near : noise.cosmicRayMode = .expected →
    count = ⌊noise.cosmicRayRate.value⌋₊ ∨ count = ⌊noise.cosmicRayRate.value⌋₊ + 1
  whole : noise.cosmicRayMode = .expected → ∀ n : Nat, noise.cosmicRayRate.value = n →
    count = n ∧ g' = g
  tried : noise.cosmicRayMode = .expected → (∀ n : Nat, noise.cosmicRayRate.value ≠ n) →
    g' = g.fraction.2 ∧ (count = ⌊noise.cosmicRayRate.value⌋₊ + 1 ↔
      (g.fraction.1 : ℚ) / Generator.fractionCount <
        noise.cosmicRayRate.value - ⌊noise.cosmicRayRate.value⌋₊)
  sampled : noise.cosmicRayMode = .poisson → noise.cosmicRayRate.value ≠ 0 →
    g.poisson noise.cosmicRayRate = (count, g')

variable {noise : NoiseSettings}

theorem Sound.positive (sound : noise.Sound) (some : noise.cosmicRayRate.isZero ≠ true) :
    noise.cosmicRayRate.isNegative = false := by
  have above := sound
  simp only [Sound, Binary64.isNonnegative, Bool.and_eq_true, Bool.or_eq_true,
    Bool.not_eq_true'] at above
  exact above.2.resolve_right some

theorem counts_zero (zero : noise.cosmicRayRate.isZero = true) (g : Generator) :
    noise.Counts g 0 g := by
  have value := Binary64.value_eq_zero_iff.mpr zero
  exact {
    none := fun _ => ⟨rfl, rfl⟩
    near := fun _ => Or.inl (by simp [value])
    whole := fun _ n whole => ⟨Nat.cast_eq_zero.mp (whole.symm.trans value) |>.symm, rfl⟩
    tried := fun _ fraction => (fraction 0 (by simp [value])).elim
    sampled := fun _ some => (some value).elim }

section Due
variable (some : noise.cosmicRayRate.isZero ≠ true)
include some

theorem counts_whole (positive : noise.cosmicRayRate.isNegative = false)
    (mode : noise.cosmicRayMode = .expected)
    (whole : noise.cosmicRayRate.remainder = 0) (g : Generator) :
    noise.Counts g noise.cosmicRayRate.floor g where
  none value := (some (Binary64.value_eq_zero_iff.mp value)).elim
  near _ := Or.inl (Binary64.floor_value positive).symm
  whole _ n value := ⟨((Binary64.value_eq_natCast_iff positive n).mp value).2, rfl⟩
  tried _ fraction :=
    (fraction _ ((Binary64.value_eq_natCast_iff positive _).mpr ⟨whole, rfl⟩)).elim
  sampled other := by simp [mode] at other

theorem counts_tried (positive : noise.cosmicRayRate.isNegative = false)
    (mode : noise.cosmicRayMode = .expected)
    (fraction : noise.cosmicRayRate.remainder ≠ 0) (g : Generator) :
    noise.Counts g
      (if noise.cosmicRayRate.remainderExceeds g.fraction.1 then noise.cosmicRayRate.floor + 1
        else noise.cosmicRayRate.floor) g.fraction.2 where
  none value := (some (Binary64.value_eq_zero_iff.mp value)).elim
  near _ := by
    rw [Binary64.floor_value positive]
    split
    · exact Or.inr rfl
    · exact Or.inl rfl
  whole _ n value := (fraction ((Binary64.value_eq_natCast_iff positive n).mp value).1).elim
  tried _ _ := by
    refine ⟨rfl, ?_⟩
    rw [← Binary64.remainderExceeds_iff positive, Binary64.floor_value positive]
    split
    · next hit => simp [hit]
    · next missed => simp [missed]
  sampled other := by simp [mode] at other

theorem counts_sampled (mode : noise.cosmicRayMode = .poisson) (g : Generator) :
    noise.Counts g (g.poisson noise.cosmicRayRate).1 (g.poisson noise.cosmicRayRate).2 where
  none value := (some (Binary64.value_eq_zero_iff.mp value)).elim
  near other := by simp [mode] at other
  whole other := by simp [mode] at other
  tried other := by simp [mode] at other
  sampled _ _ := rfl

end Due
end NoiseSettings

namespace Habitat
variable {noise : NoiseSettings}

theorem strikeCount_counts (sound : noise.Sound) (finite : noise.cosmicRayRate.isFinite = true)
    (limited : noise.cosmicRayMode = .poisson →
      noise.cosmicRayRate.value ≤ NoiseSettings.largestMean.value) (h : Habitat) :
    ∃ count g, h.strikeCount noise = .done { h with generator := g } count ∧
      noise.Counts h.generator count g := by
  unfold strikeCount
  dsimp only
  by_cases zero : noise.cosmicRayRate.isZero = true
  · exact ⟨0, h.generator, if_pos zero, NoiseSettings.counts_zero zero h.generator⟩
  · have positive := sound.positive zero
    rw [if_neg zero]
    cases mode : noise.cosmicRayMode with
    | poisson =>
        have few : ¬ NoiseSettings.largestMean.bits < noise.cosmicRayRate.bits := by
          rw [Binary64.bits_lt_iff_value (by decide) positive]
          exact not_lt.mpr (limited mode)
        exact ⟨_, _, if_neg few, NoiseSettings.counts_sampled zero mode h.generator⟩
    | expected =>
        have bounded : noise.cosmicRayRate.isInfinite ≠ true := by
          simp only [Binary64.isFinite, decide_eq_true_eq] at finite
          simp [Binary64.isInfinite, finite]
        dsimp only
        rw [if_neg bounded]
        by_cases whole : noise.cosmicRayRate.remainder = 0
        · exact ⟨_, _, if_pos whole, NoiseSettings.counts_whole zero positive mode whole _⟩
        · exact ⟨_, _, if_neg whole, NoiseSettings.counts_tried zero positive mode whole _⟩

theorem strikeTimes_eq (count : Nat) (h : Habitat) :
    strikeTimes count h = { h with
      grid := h.grid.writeCells (h.generator.strikes h.grid.width h.grid.height count).1
      generator := (h.generator.strikes h.grid.width h.grid.height count).2 } := by
  induction count generalizing h with
  | zero => rfl
  | succ count ih =>
      rw [strikeTimes, ih]
      rfl

/-- The cosmic rays of a cycle land in full, on cells of the grid, and each of them is counted. A cell
that is struck keeps the byte of its last strike and every other cell its own, so that no more cells
change than there were strikes. -/
theorem cosmic_rays_are_confined (sound : noise.Sound)
    (finite : noise.cosmicRayRate.isFinite = true)
    (limited : noise.cosmicRayMode = .poisson →
      noise.cosmicRayRate.value ≤ NoiseSettings.largestMean.value) (h : Habitat) :
    ∃ (count : Nat) (g g' : Generator) (strikes : List (Point × UInt8)),
      h.strikeCount noise = .done { h with generator := g } count ∧
      noise.Counts h.generator count g ∧
      g.strikes h.grid.width h.grid.height count = (strikes, g') ∧ strikes.length = count ∧
      (∀ strike ∈ strikes, strike.1.Within h.grid.width h.grid.height) ∧
      ∃ after : Habitat, h.cosmicRays noise =
          ⟨after, if count = 0 then [] else [.strikes count], .ok count⟩ ∧
        after.strikes = h.strikes + count ∧ after.writeErrors = h.writeErrors ∧
        after.generator = g' ∧
        after.grid.width = h.grid.width ∧ after.grid.height = h.grid.height ∧
        (∀ p : Point, p.Within h.grid.width h.grid.height →
          (∃ before byte later, strikes = before ++ (p, byte) :: later ∧
            (∀ strike ∈ later, strike.1 ≠ p) ∧ after.grid.read p = byte) ∨
          ((∀ strike ∈ strikes, strike.1 ≠ p) ∧ after.grid.read p = h.grid.read p)) ∧
        {p : Point | p.Within h.grid.width h.grid.height ∧
          after.grid.read p ≠ h.grid.read p}.encard ≤ count := by
  obtain ⟨count, g, counted, counts⟩ := strikeCount_counts sound finite limited h
  obtain ⟨strikes, g', drawn⟩ :
      ∃ strikes g', g.strikes h.grid.width h.grid.height count = (strikes, g') := ⟨_, _, rfl⟩
  have length : strikes.length = count := by
    simpa only [drawn] using g.strikes_length h.grid.width h.grid.height count
  have within : ∀ strike ∈ strikes, strike.1.Within h.grid.width h.grid.height := by
    simpa only [drawn] using g.strikes_within h.grid.width_pos h.grid.height_pos count
  refine ⟨count, g, g', strikes, counted, counts, drawn, length, within,
    { h with grid := h.grid.writeCells strikes, generator := g', strikes := h.strikes + count },
    ?_, rfl, rfl, rfl, (h.grid.writeCells_shape strikes).1, (h.grid.writeCells_shape strikes).2,
    ?_, ?_⟩
  · rw [cosmicRays, counted, Attempt.done_andThen, strikeTimes_eq]
    simp only [drawn]
  · intro p inside
    have here {strike : Point × UInt8} (member : strike ∈ strikes) :
        h.grid.normalize strike.1 = h.grid.normalize p ↔ strike.1 = p := by
      rw [h.grid.normalize_of_within inside, h.grid.normalize_of_within (within strike member)]
    rcases h.grid.read_writeCells_cases strikes p with
      ⟨before, q, byte, later, split, struck, last, found⟩ | ⟨apart, same⟩
    · have same : q = p := (here (split ▸ List.mem_append_right _ List.mem_cons_self)).mp struck
      refine Or.inl ⟨before, byte, later, same ▸ split, fun strike member => ?_, found⟩
      exact mt (here (split ▸ List.mem_append_right _ (List.mem_cons_of_mem _ member))).mpr
        (last strike member)
    · exact Or.inr ⟨fun strike member => mt (here member).mpr (apart strike member), same⟩
  · rw [← length]
    exact h.grid.differing_encard_le strikes

/-- At two and a half strikes a cycle, a trial that misses leaves two of them. -/
theorem cosmic_rays_are_confined_missed :
    let noise : NoiseSettings := { cosmicRayRate := ⟨0x4004000000000000⟩ }
    let h : Habitat :=
      { grid := .uniform 3 2 (by decide) (by decide) 0, generator := Generator.ofSeed 7 }
    noise.Sound ∧ noise.cosmicRayRate.isFinite = true ∧ noise.cosmicRayRate.value = 5 / 2 ∧
      (h.cosmicRays noise).answer = .ok 2 ∧ (h.cosmicRays noise).state.strikes = 2 ∧
      {p : Point | p.Within 3 2 ∧ (h.cosmicRays noise).state.grid.read p ≠ 0}.encard ≤ 2 := by
  intro noise h
  have sound : noise.Sound := by unfold NoiseSettings.Sound; decide +kernel
  have finite : noise.cosmicRayRate.isFinite = true := by decide +kernel
  have value : noise.cosmicRayRate.value = 5 / 2 := by
    rw [Binary64.value_eq_ratio (by decide +kernel)]
    have ratio : noise.cosmicRayRate.ratio = (0x14000000000000, 0x8000000000000) := by decide +kernel
    norm_num [ratio]
  have floor : ⌊(5 / 2 : ℚ)⌋₊ = 2 := by
    rw [Nat.floor_eq_iff] <;> norm_num
  obtain ⟨count, g, g', strikes, _, counts, _, _, _, after, landed, struck, _, _, _, _, _, few⟩ :=
    cosmic_rays_are_confined sound finite nofun h
  have missed : count = 2 := by
    have fraction (n : Nat) : noise.cosmicRayRate.value ≠ n := fun whole =>
      absurd ((Binary64.value_eq_natCast_iff (by decide +kernel) n).mp whole).1 (by decide +kernel)
    have draw : Generator.fractionCount ≤ 2 * h.generator.fraction.1 := by decide +kernel
    have high : (Generator.fractionCount : ℚ) ≤ 2 * h.generator.fraction.1 := by exact_mod_cast draw
    have near := counts.near rfl
    have tried := (counts.tried rfl fraction).2
    rw [value, floor] at near tried
    refine near.resolve_right fun hit => ?_
    have low := tried.mp hit
    rw [div_lt_iff₀ (by norm_num [Generator.fractionCount])] at low
    linarith
  subst missed
  rw [landed]
  refine ⟨sound, finite, value, rfl, struck, ?_⟩
  have clean (p : Point) : h.grid.read p = 0 := Grid.read_uniform _ _ 0 p
  simp only [clean] at few
  exact few

end Habitat
end Terrarium
