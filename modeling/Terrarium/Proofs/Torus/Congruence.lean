import Mathlib.Data.Int.ModEq
import Mathlib.Logic.Function.Conjugate
import Terrarium.Proofs.Torus.Addressing

/-!
A torus as the plane of integer points, of which those a whole number of sides apart are one cell.
Journeys in one direction add up like their lengths, and the way back leads to the start; a write is
read at all points of its cell and at no other. Main statement: all of this on every torus, for all
integers.
-/

namespace Terrarium

theorem toNat_lowByte (n : Int) : ((lowByte n).toNat : Int) = n % 256 := by
  simp only [lowByte, UInt8.toNat_ofNat']
  omega

namespace Grid
variable (g : Grid)

/-- A whole number of sides apart, across and down. -/
def Congruent (p q : Point) : Prop := p.x ≡ q.x [ZMOD g.width] ∧ p.y ≡ q.y [ZMOD g.height]

theorem normalize_eq_iff_congruent (p q : Point) :
    g.normalize p = g.normalize q ↔ g.Congruent p q := by
  simp only [normalize, Point.mk.injEq, Congruent, Int.ModEq]

theorem read_write_congruent {p q : Point} (same : g.Congruent p q) (value : UInt8) :
    (g.write p value).read q = value := by
  rw [read_write, if_pos ((g.normalize_eq_iff_congruent p q).mpr same)]

theorem read_write_apart {p q : Point} (apart : ¬ g.Congruent p q) (value : UInt8) :
    (g.write p value).read q = g.read q := by
  rw [read_write, if_neg (mt (g.normalize_eq_iff_congruent p q).mp apart)]

theorem step_reverse (p : Point) (direction : Direction) (n : Int) :
    g.step (g.step p direction n) direction.reverse n = g.normalize p := by
  simp only [step, normalize, Point.shift, Direction.dx_reverse, Direction.dy_reverse,
    Int.emod_add_emod, Int.neg_mul, Int.add_neg_cancel_right]

/-- The first of the single steps leads within the sides, wherever it starts from. -/
theorem step_iterate (p : Point) (direction : Direction) (count : Nat) :
    (fun q => g.step q direction 1)^[count + 1] p = g.step p direction (count + 1 : Nat) := by
  induction count with
  | zero => rfl
  | succ count ih => rw [Function.iterate_succ_apply', ih, step_step, Int.natCast_succ (count + 1)]

theorem point_step_iterate (p : Point) (direction : Direction) (count : Nat) :
    (fun reached : Except Fault Point =>
      reached.bind fun q => q.step direction 1 g.width g.height)^[count] (.ok p) =
        .ok ((fun q => g.step q direction 1)^[count] p) := by
  have single : Function.Semiconj Except.ok (fun q => g.step q direction 1)
      fun reached => reached.bind fun q => q.step direction 1 g.width g.height :=
    fun q => (g.step_eq_point_step q direction 1).symm
  exact (single.iterate_right count p).symm

/-- A journey comes to an end on the torus; journeys in one direction compose, are made up of single
steps and are undone by the way back. Points are wrapped once for all, and to one place exactly if
they are a whole number of sides apart; a write is read at these points alone. -/
theorem torus_is_addressed_modulo_sides (g : Grid) (p q : Point) (direction : Direction)
    (n m value : Int) (count : Nat) :
    let travel (direction : Direction) (cells : Int) (start : Point) :=
      start.step direction cells g.width g.height
    travel direction n p = .ok (g.step p direction n) ∧
    (travel direction n p).bind (travel direction m) = travel direction (n + m) p ∧
    (1 ≤ count → (fun reached : Except Fault Point => reached.bind (travel direction 1))^[count]
      (.ok p) = travel direction count p) ∧
    (travel direction n p).bind (travel direction.reverse n) = .ok (g.normalize p) ∧
    g.normalize (g.normalize p) = g.normalize p ∧
    (g.normalize p = g.normalize q ↔ g.Congruent p q) ∧
    (g.Congruent p q → (((g.write p (lowByte value)).read q).toNat : Int) = value % 256) ∧
    (¬ g.Congruent p q → (g.write p (lowByte value)).read q = g.read q) := by
  intro travel
  have arrives (direction : Direction) (n : Int) (p : Point) :
      travel direction n p = .ok (g.step p direction n) := g.step_eq_point_step p direction n
  refine ⟨arrives direction n p, ?_, ?_, ?_, g.normalize_normalize p,
    g.normalize_eq_iff_congruent p q, ?_, fun apart => g.read_write_apart apart _⟩
  · rw [arrives, arrives, ← g.step_step]
    exact arrives direction m _
  · intro some
    obtain ⟨count, rfl⟩ := Nat.exists_eq_add_of_le' some
    rw [arrives, ← g.step_iterate]
    exact g.point_step_iterate p direction (count + 1)
  · rw [arrives, ← g.step_reverse p direction n]
    exact arrives direction.reverse n _
  · intro same
    rw [g.read_write_congruent same, toNat_lowByte]

/-- Left of and above the origin of a torus of four by three, and far below it. -/
theorem torus_is_addressed_modulo_sides_fourByThree :
    let g := uniform 4 3 (by decide) (by decide) 9
    (fun reached : Except Fault Point => reached.bind fun q => q.step .left 1 4 3)^[3]
        (.ok ⟨-1, -1⟩) = Point.step ⟨-1, -1⟩ .left 3 4 3 ∧
      (((g.write ⟨-1, -1⟩ (lowByte (-249))).read ⟨7, 5⟩).toNat : Int) = 7 ∧
      (g.write ⟨-1, -1⟩ (lowByte (-249))).read ⟨-1, 6⟩ = g.read ⟨-1, 6⟩ := by
  intro g
  obtain ⟨_, _, single, _, _, _, hit, _⟩ :=
    torus_is_addressed_modulo_sides g ⟨-1, -1⟩ ⟨7, 5⟩ .left 0 0 (-249) 3
  obtain ⟨_, _, _, _, _, _, _, missed⟩ :=
    torus_is_addressed_modulo_sides g ⟨-1, -1⟩ ⟨-1, 6⟩ .left 0 0 (-249) 3
  have here : g.Congruent ⟨-1, -1⟩ ⟨7, 5⟩ := ⟨by decide, by decide⟩
  have elsewhere : ¬ g.Congruent ⟨-1, -1⟩ ⟨-1, 6⟩ := fun same => absurd same.2 (by decide)
  exact ⟨single (by decide), hit here, missed elsewhere⟩

end Grid
end Terrarium
