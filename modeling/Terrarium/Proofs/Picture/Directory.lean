import Mathlib.Data.String.Basic
import Terrarium.Picture.Directory

/-!
Paths and what is found under them. A path is taken, too long to be looked up, or open to a new
file. A name without a slash is its own only part.
-/

namespace Terrarium
open String

/-- The loop that splits a text, where `l` is done with and `m` is the part it has begun. -/
theorem splitOnAux_slash (l m r : List Char) (parts : List String) :
    splitOnAux (ofList (l ++ m ++ r)) "/" ⟨utf8Len l⟩ ⟨utf8Len l + utf8Len m⟩ 0 parts =
      parts.reverse ++ (List.splitOnPPrepend (· == '/') r m.reverse).map ofList := by
  have slash_get : Pos.Raw.get "/" 0 = '/' := rfl
  have slash_next : Pos.Raw.next "/" 0 = ⟨1⟩ := rfl
  have slash_ended : Pos.Raw.atEnd "/" ⟨1⟩ = true := rfl
  induction r generalizing l m parts with
  | nil =>
      have ended := (atEnd_of_valid (l ++ m) []).mpr rfl
      have part := extract_of_valid l m []
      rw [splitOnAux]
      simp only [utf8Len_append, List.append_nil] at ended part ⊢
      simp [-ofList_append, ended, part]
  | cons c r ih =>
      have more : ¬ Pos.Raw.atEnd (ofList (l ++ m ++ c :: r)) ⟨utf8Len (l ++ m)⟩ = true := by
        rw [atEnd_of_valid]
        exact List.cons_ne_nil c r
      have here := get_of_valid (l ++ m) (c :: r)
      have after := next_of_valid (l ++ m) c r
      have part := extract_of_valid l m (c :: r)
      rw [utf8Len_append] at more here after
      rw [splitOnAux, if_neg more, here, slash_get, List.splitOnPPrepend_cons_eq_if]
      by_cases slash : c = '/'
      · subst slash
        have size : '/'.utf8Size = 1 := rfl
        have back : Pos.Raw.unoffsetBy ⟨utf8Len l + utf8Len m + 1⟩ ⟨1⟩ =
            ⟨utf8Len l + utf8Len m⟩ := rfl
        have rest := ih (l ++ m ++ ['/']) [] (ofList m :: parts)
        simp only [utf8Len_append, utf8Len_cons, utf8Len_nil, size, List.append_assoc,
          List.cons_append, List.nil_append] at rest part after ⊢
        rw [if_pos (by rfl), slash_next, if_pos slash_ended, after, back, part, if_pos (by rfl)]
        simpa [-ofList_append, Nat.add_assoc] using rest
      · have rest := ih l (m ++ [c]) parts
        -- Nothing of the separator was matched, so that there is nothing to go back for.
        have back : Pos.Raw.unoffsetBy ⟨utf8Len l + utf8Len m⟩ 0 =
            ⟨utf8Len l + utf8Len m⟩ := rfl
        have unlike : ¬ (c == '/') = true := by simpa using slash
        simp only [utf8Len_append, utf8Len_cons, utf8Len_nil, List.append_assoc,
          List.cons_append, List.nil_append] at rest after ⊢
        rw [List.headD_cons, if_neg unlike, if_neg unlike, back, after]
        simpa [-ofList_append, Nat.add_assoc] using rest

theorem splitOn_slash (path : String) :
    path.splitOn "/" = (path.toList.splitOnP (· == '/')).map ofList := by
  have whole := splitOnAux_slash [] [] path.toList []
  simpa [splitOn] using whole

namespace Directory

section Finds
variable {d : Directory} {path : String}

def Taken (d : Directory) (path : String) : Prop :=
  d.look path = .file ∨ d.look path = .directory

/-- A path has a name that is too long to be looked up, or is itself too long. One with a zero
character in it is not looked up at all. -/
def Overlong (d : Directory) (path : String) : Prop := d.look path = .blocked .nameTooLong

theorem checkOpen_of_taken (taken : d.Taken path) :
    d.checkOpen path = .error (.targetExists path) := by
  obtain file | directory := taken
  · rw [checkOpen, file]
  · rw [checkOpen, directory]

theorem checkOpen_of_overlong (overlong : d.Overlong path) :
    d.checkOpen path = .error (.pathRefused .nameTooLong path) := by
  rw [checkOpen, overlong]

theorem checkOpen_of_open (untaken : ¬ d.Taken path) (short : ¬ d.Overlong path) :
    d.checkOpen path = .ok () := by
  unfold checkOpen
  split
  · next file => exact absurd (.inl file) untaken
  · next directory => exact absurd (.inr directory) untaken
  · next overlong => exact absurd overlong short
  · rfl

end Finds

structure IsName (name : String) : Prop where
  noSlash : '/' ∉ name.toList
  noZero : hasZero name = false
  nonempty : name ≠ ""
  moves : name ≠ "."

section Names
variable {name : String} (named : IsName name)
include named

theorem IsName.parts : parts name = [name] := by
  have unbroken : name.toList.splitOnP (· == '/') = [name.toList] :=
    List.splitOnP_eq_singleton fun c member => by
      have apart : c ≠ '/' := fun same => named.noSlash (same ▸ member)
      simpa using apart
  rw [Directory.parts, splitOn_slash, unbroken]
  simp [named.nonempty, named.moves]

theorem IsName.normalize : normalize name = name := by
  have relative : name.startsWith "/" = false := by
    rw [startsWith_string_eq_false_iff]
    intro rooted
    exact named.noSlash (rooted.subset List.mem_cons_self)
  simp [Directory.normalize, relative, named.parts]

/-- Nothing stands under a new name, which is free unless it is too long. -/
theorem IsName.look {d : Directory} (absent : d.holds name = false) (still : name ≠ "..") :
    d.look name = if longestName < name.utf8ByteSize then .blocked .nameTooLong else .free := by
  have walked (outside : Bool) : d.walk outside [name] =
      if longestName < name.utf8ByteSize then .blocked .nameTooLong else .free := by
    simp [walk, still, absent]
  rw [Directory.look, named.noZero, absent, named.parts, walked]
  simp only [Bool.false_eq_true, if_false]
  split
  · next long =>
      have long : longestName < name.utf8ByteSize := Nat.lt_trans (by decide) long
      rw [if_pos long]
  · rfl

end Names
end Directory
end Terrarium
