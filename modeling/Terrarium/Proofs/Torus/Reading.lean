import Terrarium.Proofs.Torus.Addressing

/-!
Squares and windows that are read at once. Their coordinates are sums of words; where no sum leaves
the words, they hold what is read of their cells one by one. Next to the end of words that is not so,
and beyond it nothing is read.
-/

namespace Terrarium

theorem within_offsets {radius shift : Int} (member : shift ∈ offsets radius) :
    -radius ≤ shift ∧ shift ≤ radius := by
  obtain ⟨i, counted, rfl⟩ := List.mem_map.mp member
  have below := List.mem_range.mp counted
  omega

theorem within_span {count shift : Int} (member : shift ∈ span count) :
    0 ≤ shift ∧ shift ≤ count - 1 := by
  obtain ⟨i, counted, rfl⟩ := List.mem_map.mp member
  have below := List.mem_range.mp counted
  constructor
  · exact Int.natCast_nonneg i
  · simp only [Int.ofNat_eq_natCast]
    omega

/-- Nothing between `low` and `high` of a coordinate is beyond the words: it is one of the torus, or
the ends are words. -/
def Clear (side : Nat) (coordinate low high : Int) : Prop :=
  (0 ≤ coordinate ∧ coordinate < side) ∨
    IsWord (coordinate + min low 0) ∧ IsWord (coordinate + max high 0)

instance (side : Nat) (coordinate low high : Int) : Decidable (Clear side coordinate low high) :=
  inferInstanceAs (Decidable (_ ∨ _ ∧ _))

section Sums
variable {side : Nat} {coordinate : Int} {shifts : List Int}

theorem bmod_of_isWord {n : Int} (word : IsWord n) : n.bmod (2 * wordEnd) = n := by
  obtain ⟨least, most⟩ := word
  exact Int.bmod_eq_of_le_mul_two (by omega) (by omega)

theorem beside_of_clear {low high : Int} (clear : Clear side coordinate low high)
    (within : ∀ shift ∈ shifts, low ≤ shift ∧ shift ≤ high) :
    beside side coordinate shifts = .ok (shifts.map (coordinate + ·)) := by
  unfold beside
  split
  · rfl
  · next outside =>
    obtain ⟨⟨least, _⟩, _, most⟩ := clear.resolve_left outside
    have word : IsWord coordinate := ⟨by omega, by omega⟩
    rw [if_pos word]
    refine congrArg Except.ok (List.map_congr_left fun shift member => bmod_of_isWord ?_)
    have between := within shift member
    exact ⟨by omega, by omega⟩

theorem beside_of_beyond (outside : ¬(0 ≤ coordinate ∧ coordinate < side))
    (beyond : ¬ IsWord coordinate) :
    beside side coordinate shifts = .error .coordinateTooLarge := by
  rw [beside, if_neg outside, if_neg beyond]

theorem beside_cases (side : Nat) (coordinate : Int) (shifts : List Int) :
    (∃ found, beside side coordinate shifts = .ok found ∧ found.length = shifts.length) ∨
      beside side coordinate shifts = .error .coordinateTooLarge := by
  unfold beside
  split
  · exact .inl ⟨_, rfl, List.length_map _⟩
  · split
    · exact .inl ⟨_, rfl, List.length_map _⟩
    · exact .inr rfl

end Sums

namespace Grid
variable (g : Grid)

theorem gather_eq (ys xs : List Int) :
    g.gather ys xs = ys.map fun y => xs.map fun x => g.read ⟨x, y⟩ := rfl

structure ClearSquare (center : Point) (radius : Int) : Prop where
  columns : Clear g.width center.x (-radius) radius
  rows : Clear g.height center.y (-radius) radius

structure ClearWindow (start : Point) (width height : Int) : Prop where
  columns : Clear g.width start.x 0 (width - 1)
  rows : Clear g.height start.y 0 (height - 1)

variable {g} {p center : Point} {radius : Int}

theorem clearSquare_of_within (inside : center.Within g.width g.height) (radius : Int) :
    g.ClearSquare center radius :=
  ⟨.inl ⟨inside.left, inside.right⟩, .inl ⟨inside.top, inside.bottom⟩⟩

theorem around_of_clear {low high low' high' : Int} {down right : List Int}
    (columns : Clear g.width p.x low high) (rows : Clear g.height p.y low' high')
    (across : ∀ shift ∈ right, low ≤ shift ∧ shift ≤ high)
    (along : ∀ shift ∈ down, low' ≤ shift ∧ shift ≤ high') :
    g.around p down right =
      .ok (down.map fun dy => right.map fun dx => g.read (p.offset dx dy)) := by
  simp only [around, beside_of_clear rows along, beside_of_clear columns across, Except.bind,
    Except.map, gather_eq, List.map_map]
  rfl

theorem readSquare_of_clear (clear : g.ClearSquare center radius) :
    g.readSquare center radius = .ok ((g.squarePoints center radius).map g.read) := by
  rw [readSquare, around_of_clear clear.columns clear.rows (fun _ => within_offsets)
    fun _ => within_offsets]
  simp only [Except.map, squarePoints, List.map_flatMap, List.map_map, Function.comp_def,
    read_normalize]
  rw [List.flatMap_def]

theorem view_of_clear {start : Point} {width height : Int}
    (clear : g.ClearWindow start width height) :
    g.view start width height = .ok ((List.range height.toNat).map fun (j : Nat) =>
      (List.range width.toNat).map fun (i : Nat) => g.read ⟨start.x + i, start.y + j⟩) := by
  rw [view, around_of_clear clear.columns clear.rows (fun _ => within_span) fun _ => within_span]
  simp only [span, List.map_map]
  rfl

def Beyond (g : Grid) (p : Point) : Prop :=
  (¬(0 ≤ p.x ∧ p.x < g.width) ∧ ¬ IsWord p.x) ∨ (¬(0 ≤ p.y ∧ p.y < g.height) ∧ ¬ IsWord p.y)

theorem around_of_beyond (beyond : g.Beyond p) (down right : List Int) :
    g.around p down right = .error .coordinateTooLarge := by
  rcases beyond with ⟨outside, large⟩ | ⟨outside, large⟩
  · rcases beside_cases g.height p.y down with ⟨_, found, _⟩ | refused
    · rw [around, found, beside_of_beyond outside large]
      rfl
    · rw [around, refused]
      rfl
  · rw [around, beside_of_beyond outside large]
    rfl

theorem readSquare_length {cells : List UInt8} (read : g.readSquare center radius = .ok cells) :
    cells.length = (2 * radius + 1).toNat * (2 * radius + 1).toNat := by
  have side : (offsets radius).length = (2 * radius + 1).toNat := by simp [offsets]
  unfold readSquare around at read
  rcases beside_cases g.height center.y (offsets radius) with ⟨ys, down, high⟩ | refused
  · rcases beside_cases g.width center.x (offsets radius) with ⟨xs, right, wide⟩ | refused
    · rw [down, right] at read
      cases read
      simp only [gather_eq, List.length_flatten, List.map_map, Function.comp_def, List.length_map,
        List.map_const', List.sum_replicate_nat, high, wide, side]
    · rw [down, refused] at read
      cases read
  · rw [refused] at read
    cases read

end Grid
end Terrarium
