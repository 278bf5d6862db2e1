import Terrarium.Number.Binary64
import Terrarium.Random.Pcg

/-!
Draws from the generator: fractions, whole numbers below a bound, and bytes.
-/

namespace Terrarium.Generator

def fractionCount : Nat := 0x20000000000000

/-- A uniform fraction, counted in units of `1 / fractionCount`. -/
def fraction (g : Generator) : Nat × Generator :=
  let (word, g) := g.next64
  ((word >>> 11).toNat, g)

def fractions : Nat → Generator → List Nat × Generator
  | 0, g => ([], g)
  | count + 1, g =>
      let (first, g) := g.fraction
      let (rest, g) := fractions count g
      (first :: rest, g)

inductive Width where
  | half
  | whole

def Width.count : Width → Nat
  | half => Seed.wordCount
  | whole => Seed.wordCount * Seed.wordCount

def word (g : Generator) : Width → Nat × Generator
  | .half =>
      let (drawn, g) := g.next32
      (drawn.toNat, g)
  | .whole =>
      let (drawn, g) := g.next64
      (drawn.toNat, g)

/-- How many words in a row a bounded draw may reject. A word is rejected with
probability below one half, so the limit is never met in practice. -/
def rejectionLimit : Nat := 1000

/-- Words scaled to a bound, taken from the first whose low part is at least `floor`. -/
def scaled (width : Width) (bound floor : Nat) : Nat → Generator → Nat × Generator
  | 0, g =>
      let (drawn, g) := g.word width
      (drawn * bound / width.count, g)
  | fuel + 1, g =>
      let (drawn, g') := g.word width
      let product := drawn * bound
      if product % width.count < floor then scaled width bound floor fuel g'
      else (product / width.count, g')

/-- A uniform number below `bound`. A bound of one draws nothing, and one that halves cannot
reach takes whole words. Low parts under the number of words modulo `bound` would favour some
numbers over others. No bound is above 2^63, since no torus and no population is that large. -/
def below (bound : Nat) (g : Generator) : Nat × Generator :=
  if bound ≤ 1 then (0, g)
  else
    let width := if bound ≤ Seed.wordCount then Width.half else Width.whole
    scaled width bound ((width.count - bound) % bound) rejectionLimit g

def bytesOf (word : UInt32) : List UInt8 :=
  [word.toUInt8, (word >>> 8).toUInt8, (word >>> 16).toUInt8, (word >>> 24).toUInt8]

/-- `count` bytes, four from each word; those left over from the last word are lost. -/
def bytes (count : Nat) (g : Generator) : List UInt8 × Generator :=
  if count = 0 then ([], g)
  else
    let (word, g) := g.next32
    let (rest, g) := bytes (count - 4) g
    ((bytesOf word).take count ++ rest, g)
termination_by count
decreasing_by omega

theorem fractions_length (count : Nat) (g : Generator) : (fractions count g).1.length = count := by
  induction count generalizing g with
  | zero => rfl
  | succ count ih => simp [fractions, ih]

theorem Width.count_pos (width : Width) : 0 < width.count := by
  cases width <;> decide

theorem word_lt (width : Width) (g : Generator) : (g.word width).1 < width.count := by
  cases width with
  | half => exact g.next32.1.toNat_lt
  | whole => exact g.next64.1.toNat_lt

theorem scaled_lt {bound : Nat} (positive : 0 < bound) (width : Width) (floor fuel : Nat)
    (g : Generator) : (scaled width bound floor fuel g).1 < bound := by
  have quotient (g : Generator) : (g.word width).1 * bound / width.count < bound := by
    rw [Nat.div_lt_iff_lt_mul width.count_pos, Nat.mul_comm]
    exact Nat.mul_lt_mul_of_pos_left (g.word_lt width) positive
  induction fuel generalizing g with
  | zero => exact quotient g
  | succ fuel ih =>
      simp only [scaled]
      split
      · exact ih _
      · exact quotient g

theorem below_lt {bound : Nat} (positive : 0 < bound) (g : Generator) :
    (below bound g).1 < bound := by
  unfold below
  split
  · exact positive
  · exact scaled_lt positive _ _ _ _

theorem bytes_length (count : Nat) (g : Generator) : (bytes count g).1.length = count := by
  fun_induction bytes count g with
  | case1 => simp_all
  | case2 count g h word g' _ rest g'' heq ih =>
      simp only [heq] at ih
      simp [bytesOf, ih]
      omega

end Terrarium.Generator
