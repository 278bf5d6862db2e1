import Terrarium.Fault

/-!
The generator behind every random decision: a 128-bit linear congruential state
whose words are permuted on output, and the hash that spreads a seed over it.
-/

namespace Terrarium

/-- A half word left over from the last 64-bit word waits in `buffered`. -/
structure Generator where
  state : BitVec 128
  increment : BitVec 128
  buffered : Option UInt32
deriving DecidableEq

/-! A seed is split into 32-bit words, which are hashed into a pool of four. The
multiplier of the hash changes with every word hashed, so it is passed along. -/

namespace Seed

def wordCount : Nat := 0x100000000

def words (seed : Nat) : List UInt32 :=
  if seed < wordCount then [seed.toUInt32]
  else (seed % wordCount).toUInt32 :: words (seed / wordCount)
termination_by seed
decreasing_by
  simp only [wordCount] at *
  omega

def fold (v : UInt32) : UInt32 := v ^^^ (v >>> 16)

def hash (constant multiplier v : UInt32) : UInt32 × UInt32 :=
  let next := constant * multiplier
  (fold ((v ^^^ constant) * next), next)

def mix (x y : UInt32) : UInt32 := fold (0xca01f9dd * x - 0x4973f715 * y)

abbrev Pool := UInt32 × UInt32 × UInt32 × UInt32

def Pool.get (pool : Pool) (i : Nat) : UInt32 :=
  match i with
  | 0 => pool.1
  | 1 => pool.2.1
  | 2 => pool.2.2.1
  | _ => pool.2.2.2

def Pool.set (pool : Pool) (i : Nat) (v : UInt32) : Pool :=
  match i with
  | 0 => (v, pool.2)
  | 1 => (pool.1, v, pool.2.2)
  | 2 => (pool.1, pool.2.1, v, pool.2.2.2)
  | _ => (pool.1, pool.2.1, pool.2.2.1, v)

def absorb (v : UInt32) (work : Pool × UInt32) (target : Nat) : Pool × UInt32 :=
  let (pool, constant) := work
  let (hashed, constant) := hash constant 0x931e8875 v
  (pool.set target (mix (pool.get target) hashed), constant)

/-- The first four words fill the pool, then every place is mixed into each of the
others, and at last every further word into all places. -/
def pool (entropy : List UInt32) : Pool :=
  let places := [0, 1, 2, 3]
  let filled := places.foldl
    (fun (pool, constant) i =>
      let (hashed, constant) := hash constant 0x931e8875 (entropy.getD i 0)
      (Pool.set pool i hashed, constant))
    ((0, 0, 0, 0), (0x43b0d7e5 : UInt32))
  let crossed := places.foldl
    (fun work source => (places.filter (· ≠ source)).foldl
      (fun work target => absorb (Pool.get work.1 source) work target) work)
    filled
  ((entropy.drop 4).foldl (fun work v => places.foldl (absorb v) work) crossed).1

def output (pool : Pool) : List UInt32 :=
  ((List.range 8).foldl
    (fun (out, constant) i =>
      let (hashed, constant) := hash constant 0x58f38ded (pool.get (i % 4))
      (hashed :: out, constant))
    (([] : List UInt32), (0x8b51f9dd : UInt32))).1.reverse

def ofWords (words : List UInt32) : Nat :=
  words.foldr (fun word rest => word.toNat + wordCount * rest) 0

end Seed

namespace Generator

def multiplier : BitVec 128 := 0x2360ED051FC65DA44385DF649FCCF645#128

def advance (g : Generator) : Generator :=
  { g with state := g.state * multiplier + g.increment }

/-- The generator of a seed. Of the eight words a seed gives, each pair is a 64-bit
word, low half first; the first two of these are the state, high word first, and
the last two choose the sequence. -/
def ofSeed (seed : Nat) : Generator :=
  let out := Seed.output (Seed.pool (Seed.words seed))
  let word := fun i => Seed.ofWords ((out.drop (2 * i)).take 2)
  let pair := fun i => BitVec.ofNat 128 (word i * Seed.wordCount * Seed.wordCount + word (i + 1))
  let start : Generator :=
    { state := 0, increment := (pair 2 <<< 1) ||| 1, buffered := none }
  let moved := start.advance
  { moved with state := moved.state + pair 0 }.advance

def ofSeed? (seed : Int) : Except Fault Generator :=
  if seed < 0 then .error .negativeSeed else .ok (ofSeed seed.toNat)

/-- The halves of the new state, folded together and rotated right by its top six bits. -/
def next64 (g : Generator) : UInt64 × Generator :=
  let g := g.advance
  let folded : BitVec 64 := (g.state >>> 64).setWidth 64 ^^^ g.state.setWidth 64
  (UInt64.ofBitVec (folded.rotateRight (g.state >>> 122).toNat), g)

/-- The low half of a fresh word first, its high half on the next call. -/
def next32 (g : Generator) : UInt32 × Generator :=
  match g.buffered with
  | some half => (half, { g with buffered := none })
  | none =>
      let (word, g) := g.next64
      (word.toUInt32, { g with buffered := some (word >>> 32).toUInt32 })

end Generator
end Terrarium
