import Terrarium.Picture.Render

/-!
Grids rendered as pictures. A cell is a square of pixels in the colour of its category, and that is
all of it that can be seen. Main statement: pixel by pixel what a picture shows, when two pictures
are the same, and how the categories are read off a picture.
-/

namespace Terrarium

def Category.ofRgb? (colour : Colour) : Option Category :=
  all.find? fun category => category.rgb == colour

@[simp] theorem Category.ofRgb?_rgb (category : Category) : ofRgb? category.rgb = some category := by
  cases category <;> rfl

namespace Picture
variable {α β : Type}

@[simp] theorem colourAt_index (category : Category) : colourAt category.index = category.rgb := by
  cases category <;> rfl

def pixel? (rows : List (List α)) (x y : Nat) : Option α := rows[y]?.bind fun row => row[x]?

structure Rectangular (width height : Nat) (rows : List (List α)) : Prop where
  width : ∀ row ∈ rows, row.length = width
  height : rows.length = height

def strided (step : Nat) : List α → List α
  | [] => []
  | item :: rest => item :: strided step (rest.drop (step - 1))
termination_by items => items.length
decreasing_by
  simp only [List.length_drop, List.length_cons]
  omega

def sampled (step : Nat) (rows : List (List α)) : List (List α) :=
  (strided step rows).map (strided step)

theorem pixel?_map (f : α → β) (rows : List (List α)) (x y : Nat) :
    pixel? (rows.map fun row => row.map f) x y = (pixel? rows x y).map f := by
  unfold pixel?
  rw [List.getElem?_map]
  cases rows[y]? with
  | none => rfl
  | some row => exact List.getElem?_map

theorem Rectangular.map {width height : Nat} {rows : List (List α)}
    (even : Rectangular width height rows) (f : α → β) :
    Rectangular width height (rows.map fun row => row.map f) := by
  constructor
  · intro row member
    obtain ⟨original, listed, rfl⟩ := List.mem_map.mp member
    rw [List.length_map, even.width original listed]
  · rw [List.length_map, even.height]

section Stretching
variable (side : Nat) (items : List α)

theorem stretch_cons (item : α) :
    stretch side (item :: items) = List.replicate side item ++ stretch side items :=
  List.flatMap_cons

theorem stretch_length : (stretch side items).length = items.length * side := by
  simp [stretch, List.length_flatMap, List.map_const']

variable {side} (positive : 0 < side)
include positive

theorem stretch_getElem? (i : Nat) : (stretch side items)[i]? = items[i / side]? := by
  induction items generalizing i with
  | nil => rfl
  | cons item rest ih =>
      rw [stretch_cons]
      by_cases here : i < side
      · rw [List.getElem?_append_left (by simpa using here), List.getElem?_replicate_of_lt here,
          Nat.div_eq_of_lt here]
        rfl
      · have beyond : side ≤ i := Nat.le_of_not_lt here
        rw [List.getElem?_append_right (by simpa using beyond), List.length_replicate, ih,
          Nat.div_eq_sub_div positive beyond]
        rfl

theorem strided_stretch : strided side (stretch side items) = items := by
  induction items with
  | nil => exact strided.eq_1 side
  | cons item rest ih =>
      obtain ⟨more, rfl⟩ : ∃ more, side = more + 1 := ⟨side - 1, by omega⟩
      rw [stretch_cons, List.replicate_succ, List.cons_append, strided, Nat.add_sub_cancel,
        List.drop_left' List.length_replicate, ih]

end Stretching

theorem side_pos (scale : Int) : 0 < (max 1 scale).toNat := by omega

theorem rectangular_enlarge {width height : Nat} {rows : List (List α)}
    (even : Rectangular width height rows) (scale : Int) :
    Rectangular (width * (max 1 scale).toNat) (height * (max 1 scale).toNat) (enlarge scale rows) := by
  constructor
  · intro row member
    obtain ⟨wide, stretched, copied⟩ := List.mem_flatMap.mp member
    obtain ⟨narrow, original, rfl⟩ := List.mem_map.mp stretched
    rw [List.eq_of_mem_replicate copied, stretch_length, even.width narrow original]
  · rw [enlarge, stretch_length, List.length_map, even.height]

/-- An enlarged picture shows at each pixel what the original shows at the pixel it has come from. -/
theorem pixel?_enlarge (scale : Int) (rows : List (List α)) (x y : Nat) :
    pixel? (enlarge scale rows) x y =
      pixel? rows (x / (max 1 scale).toNat) (y / (max 1 scale).toNat) := by
  unfold pixel? enlarge
  rw [stretch_getElem? _ (side_pos scale), List.getElem?_map]
  cases rows[y / (max 1 scale).toNat]? with
  | none => rfl
  | some row => exact stretch_getElem? row (side_pos scale) x

theorem sampled_enlarge (scale : Int) (rows : List (List α)) :
    sampled (max 1 scale).toNat (enlarge scale rows) = rows := by
  unfold sampled enlarge
  rw [strided_stretch _ (side_pos scale), List.map_map]
  refine (List.map_congr_left fun row _ => ?_).trans (List.map_id rows)
  exact strided_stretch row (side_pos scale)

def categories (cells : List (List UInt8)) : List (List Category) :=
  cells.map fun row => row.map Instruction.categoryOf

theorem render_eq (cells : List (List UInt8)) (scale : Int) :
    render cells scale = enlarge scale ((categories cells).map fun row => row.map Category.rgb) := by
  simp only [render, indices, categories, List.map_map, Function.comp_def, colourAt_index]

/-- The categories are what is left of a picture when one pixel of each cell is looked at. -/
theorem categories_of_render (cells : List (List UInt8)) (scale : Int) :
    (sampled (max 1 scale).toNat (render cells scale)).map (fun row => row.map Category.ofRgb?) =
      (categories cells).map fun row => row.map some := by
  rw [render_eq, sampled_enlarge]
  simp [List.map_map, Function.comp_def]

theorem render_eq_iff (cells other : List (List UInt8)) (scale : Int) :
    render other scale = render cells scale ↔ categories other = categories cells := by
  constructor
  · intro same
    -- What is read off the two pictures is the same.
    have read : (categories other).map (fun row => row.map some) =
        (categories cells).map fun row => row.map some := by
      rw [← categories_of_render, ← categories_of_render, same]
    exact (List.map_inj_right fun _ _ =>
      (List.map_inj_right fun _ _ => Option.some.inj).mp).mp read
  · intro same
    rw [render_eq, render_eq, same]

section Arrays
variable {width height : Nat}

def rowsOf (cells : Vector (Vector α width) height) : List (List α) :=
  cells.toList.map Vector.toList

theorem rowsOf_map (f : α → β) (cells : Vector (Vector α width) height) :
    (rowsOf cells).map (fun row => row.map f) = rowsOf (cells.map fun row => row.map f) := by
  simp [rowsOf, Vector.toList_map, Function.comp_def]

theorem rectangular_rowsOf (cells : Vector (Vector α width) height) :
    Rectangular width height (rowsOf cells) := by
  constructor
  · intro row member
    obtain ⟨row, _, rfl⟩ := List.mem_map.mp member
    exact Vector.length_toList
  · simp [rowsOf]

theorem sidesOf_rowsOf (cells : Vector (Vector UInt8 width) height) (positive : 0 < height) :
    sidesOf (rowsOf cells) = [height, width] := by
  have even := rectangular_rowsOf cells
  obtain ⟨row, rest, split⟩ := List.exists_cons_of_length_pos (even.height ▸ positive)
  have first : row.length = width := even.width row (split ▸ List.mem_cons_self)
  have all : (row :: rest).length = height := split ▸ even.height
  rw [split, sidesOf, first, all]

theorem pixel?_rowsOf (cells : Vector (Vector α width) height) (y : Fin height) (x : Fin width) :
    pixel? (rowsOf cells) x y = some cells[y][x] := by
  simp [pixel?, rowsOf]

theorem rowsOf_map_eq_iff (f : α → β) (cells other : Vector (Vector α width) height) :
    (rowsOf other).map (fun row => row.map f) = (rowsOf cells).map (fun row => row.map f) ↔
      ∀ (y : Fin height) (x : Fin width), f other[y][x] = f cells[y][x] := by
  constructor
  · intro same y x
    have pixel := congrArg (pixel? · x y) same
    simpa only [pixel?_map, pixel?_rowsOf, Option.map_some, Option.some.injEq] using pixel
  · intro same
    rw [rowsOf_map, rowsOf_map]
    congr 1
    apply Vector.ext
    intro y y_lt
    apply Vector.ext
    intro x x_lt
    simpa using same ⟨y, y_lt⟩ ⟨x, x_lt⟩

end Arrays

/-- A picture of an array of cells, of whatever height and width and at whatever scale, has its sides
times the scale and for each cell a square of pixels in the colour of its category. Pictures of two
arrays of one shape are the same just when the cells have the same categories, and these are read
off a picture by one pixel of each cell. -/
theorem rendering_is_exact {width height : Nat} (cells other : Vector (Vector UInt8 width) height)
    (scale : Int) :
    let side := (max 1 scale).toNat
    let picture := render (rowsOf cells) scale
    Rectangular (width * side) (height * side) picture ∧
    shape [height, width] scale = [height * side, width * side, 3] ∧
    (0 < height → sidesOf (rowsOf cells) = [height, width]) ∧
    (∀ x y, pixel? picture x y = (pixel? (rowsOf cells) (x / side) (y / side)).map fun byte =>
      (Instruction.categoryOf byte).rgb) ∧
    (render (rowsOf other) scale = picture ↔ ∀ (y : Fin height) (x : Fin width),
      Instruction.categoryOf other[y][x] = Instruction.categoryOf cells[y][x]) ∧
    (sampled side picture).map (fun row => row.map Category.ofRgb?) =
      (rowsOf cells).map fun row => row.map fun byte => some (Instruction.categoryOf byte) := by
  intro side picture
  have even := rectangular_rowsOf cells
  have painted : picture =
      enlarge scale ((categories (rowsOf cells)).map fun row => row.map Category.rgb) :=
    render_eq _ scale
  refine ⟨?_, rfl, sidesOf_rowsOf cells, ?_, ?_, ?_⟩
  · rw [painted]
    exact rectangular_enlarge ((even.map _).map _) scale
  · intro x y
    rw [painted, pixel?_enlarge, pixel?_map, categories, pixel?_map,
      Option.map_map]
    rfl
  · exact (render_eq_iff _ _ scale).trans (rowsOf_map_eq_iff _ cells other)
  · rw [categories_of_render]
    simp [categories, Function.comp_def]

end Picture
end Terrarium
