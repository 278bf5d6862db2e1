import Terrarium.Fault
import Terrarium.Instruction.Basic
import Terrarium.Torus.Grid

/-!
The instruction table. The byte of an instruction is its place in the table, and its
mnemonic the two characters it is written with. Bytes past the end have no meaning:
they execute as no-ops and show a placeholder.
-/

namespace Terrarium

structure TableEntry where
  instruction : Instruction
  name : String
  mnemonic : String
  category : Category
deriving DecidableEq

namespace Instruction

def table : List TableEntry := [
  ⟨.halt, "HALT", "@@", .special⟩,
  ⟨.nop, "NOP", "..", .special⟩,
  ⟨.fork .flag, "FLAG_FORK", "-=", .special⟩,
  ⟨.fork .cursor, "CURSOR_FORK", "m=", .special⟩,
  ⟨.wall, "WALL", "##", .wall⟩,
  ⟨.calculate .a .zero, "ZERO_A", "0a", .calculation⟩,
  ⟨.calculate .b .zero, "ZERO_B", "0b", .calculation⟩,
  ⟨.calculate .b .copy, "COPY_A", "ba", .calculation⟩,
  ⟨.calculate .a .copy, "COPY_B", "ab", .calculation⟩,
  ⟨.swap, "SWAP_AB", "::", .calculation⟩,
  ⟨.calculate .a .sum, "SUM_A", "a+", .calculation⟩,
  ⟨.calculate .b .sum, "SUM_B", "b+", .calculation⟩,
  ⟨.calculate .a .negate, "NEGATE_A", "a-", .calculation⟩,
  ⟨.calculate .b .negate, "NEGATE_B", "b-", .calculation⟩,
  ⟨.calculate .a .increment, "INC_A", "+a", .calculation⟩,
  ⟨.calculate .b .increment, "INC_B", "+b", .calculation⟩,
  ⟨.calculate .a .decrement, "DEC_A", "-a", .calculation⟩,
  ⟨.calculate .b .decrement, "DEC_B", "-b", .calculation⟩,
  ⟨.calculate .a .multiply, "MUL_A", "a*", .calculation⟩,
  ⟨.calculate .b .multiply, "MUL_B", "b*", .calculation⟩,
  ⟨.calculate .a .double, "DOUBLE_A", "aa", .calculation⟩,
  ⟨.calculate .b .double, "DOUBLE_B", "bb", .calculation⟩,
  ⟨.calculate .a .halve, "HALVE_A", "a/", .calculation⟩,
  ⟨.calculate .b .halve, "HALVE_B", "b/", .calculation⟩,
  ⟨.calculate .a .parity, "MOD2_A", "a%", .calculation⟩,
  ⟨.calculate .b .parity, "MOD2_B", "b%", .calculation⟩,
  ⟨.calculate .a .and, "AND_A", "a&", .calculation⟩,
  ⟨.calculate .b .and, "AND_B", "b&", .calculation⟩,
  ⟨.calculate .a .or, "OR_A", "a|", .calculation⟩,
  ⟨.calculate .b .or, "OR_B", "b|", .calculation⟩,
  ⟨.calculate .a .xor, "XOR_A", "a#", .calculation⟩,
  ⟨.calculate .b .xor, "XOR_B", "b#", .calculation⟩,
  ⟨.calculate .a .equal, "EQ_A", "a=", .calculation⟩,
  ⟨.calculate .b .equal, "EQ_B", "b=", .calculation⟩,
  ⟨.calculate .a .unequal, "NEQ_A", "a!", .calculation⟩,
  ⟨.calculate .b .unequal, "NEQ_B", "b!", .calculation⟩,
  ⟨.calculate .a .nonzero, "NONZERO_A", "a1", .calculation⟩,
  ⟨.calculate .b .nonzero, "NONZERO_B", "b1", .calculation⟩,
  ⟨.calculate .a .isZero, "IS_ZERO_A", "a0", .calculation⟩,
  ⟨.calculate .b .isZero, "IS_ZERO_B", "b0", .calculation⟩,
  ⟨.wait .a, "WAIT_A", ".a", .control⟩,
  ⟨.wait .b, "WAIT_B", ".b", .control⟩,
  ⟨.turn .left, "MOVE_L", "!<", .control⟩,
  ⟨.turn .right, "MOVE_R", "!>", .control⟩,
  ⟨.turn .up, "MOVE_U", "!^", .control⟩,
  ⟨.turn .down, "MOVE_D", "!v", .control⟩,
  ⟨.turnIf .left, "COND_MOVE_L", "?<", .control⟩,
  ⟨.turnIf .right, "COND_MOVE_R", "?>", .control⟩,
  ⟨.turnIf .up, "COND_MOVE_U", "?^", .control⟩,
  ⟨.turnIf .down, "COND_MOVE_D", "?v", .control⟩,
  ⟨.haltIf, "COND_HALT", "?@", .control⟩,
  ⟨.reflect .solid, "REFLECT_ALL", "!#", .control⟩,
  ⟨.reflect .upright, "REFLECT_X", "!|", .control⟩,
  ⟨.reflect .level, "REFLECT_Y", "!-", .control⟩,
  ⟨.reflect .rising, "REFLECT_FWD", "!/", .control⟩,
  ⟨.reflect .falling, "REFLECT_BWD", "!\\", .control⟩,
  ⟨.test .always, "SET_FLAG", "((", .control⟩,
  ⟨.test .never, "CLEAR_FLAG", "))", .control⟩,
  ⟨.test (.zero .a), "FLAG_ZERO_A", "(a", .control⟩,
  ⟨.test (.nonzero .a), "FLAG_NONZERO_A", ")a", .control⟩,
  ⟨.test (.zero .b), "FLAG_ZERO_B", "(b", .control⟩,
  ⟨.test (.nonzero .b), "FLAG_NONZERO_B", ")b", .control⟩,
  ⟨.test .equal, "FLAG_EQ", "(=", .control⟩,
  ⟨.test .unequal, "FLAG_NEQ", "(!", .control⟩,
  ⟨.test .unset, "FLAG_NOT", ")(", .control⟩,
  ⟨.flagTo .a, "FLAG_TO_A", "a(", .control⟩,
  ⟨.flagTo .b, "FLAG_TO_B", "b(", .control⟩,
  ⟨.cursorStep .left, "CURSOR_L", "#<", .cursor⟩,
  ⟨.cursorStep .right, "CURSOR_R", "#>", .cursor⟩,
  ⟨.cursorStep .up, "CURSOR_U", "#^", .cursor⟩,
  ⟨.cursorStep .down, "CURSOR_D", "#v", .cursor⟩,
  ⟨.cursorRun .left .a, "CURSOR_L_TIMES_A", "a<", .cursor⟩,
  ⟨.cursorRun .right .a, "CURSOR_R_TIMES_A", "a>", .cursor⟩,
  ⟨.cursorRun .up .a, "CURSOR_U_TIMES_A", "a^", .cursor⟩,
  ⟨.cursorRun .down .a, "CURSOR_D_TIMES_A", "av", .cursor⟩,
  ⟨.cursorRun .left .b, "CURSOR_L_TIMES_B", "b<", .cursor⟩,
  ⟨.cursorRun .right .b, "CURSOR_R_TIMES_B", "b>", .cursor⟩,
  ⟨.cursorRun .up .b, "CURSOR_U_TIMES_B", "b^", .cursor⟩,
  ⟨.cursorRun .down .b, "CURSOR_D_TIMES_B", "bv", .cursor⟩,
  ⟨.cursorHome, "CURSOR_HOME", "#0", .cursor⟩,
  ⟨.radiusFrom .a, "RADIUS_A", "ra", .selection⟩,
  ⟨.radiusFrom .b, "RADIUS_B", "rb", .selection⟩,
  ⟨.radiusReset, "RADIUS_RESET", "r0", .selection⟩,
  ⟨.radiusTo .a, "RADIUS_TO_A", "ar", .selection⟩,
  ⟨.radiusTo .b, "RADIUS_TO_B", "br", .selection⟩,
  ⟨.radiusGrow, "INC_RADIUS", "r+", .selection⟩,
  ⟨.radiusShrink, "DEC_RADIUS", "r-", .selection⟩,
  ⟨.writeCell .a, "CURSOR_WRITE_A", "ma", .selection⟩,
  ⟨.writeCell .b, "CURSOR_WRITE_B", "mb", .selection⟩,
  ⟨.readCell .a, "CURSOR_READ_A", "am", .selection⟩,
  ⟨.readCell .b, "CURSOR_READ_B", "bm", .selection⟩,
  ⟨.copy, "COPY", "cm", .selection⟩,
  ⟨.paste, "PASTE", "mc", .selection⟩]

def placeholder : String := "~~"

def entryAt (byte : UInt8) : Option TableEntry := table[byte.toNat]?

def ofByte? (byte : UInt8) : Option Instruction := (entryAt byte).map TableEntry.instruction

def lookup (mnemonic : String) : Except Fault (UInt8 × TableEntry) :=
  match table.zipIdx.find? fun row => row.1.mnemonic == mnemonic with
  | some (entry, place) => .ok (place.toUInt8, entry)
  | none => .error (.unknownMnemonic (.text mnemonic))

def byteOf (mnemonic : String) : Except Fault UInt8 := (lookup mnemonic).map Prod.fst

/-- The mnemonic that a value is, if it is a known one. Lists and records cannot even be
looked up. -/
def mnemonicOf (v : Value) : Except Fault String :=
  match v with
  | .text mnemonic => (lookup mnemonic).map fun _ => mnemonic
  | .list _ | .record _ => .error (.noLookup v)
  | v => .error (.unknownMnemonic v)

def ofMnemonic (mnemonic : String) : Except Fault Instruction :=
  (lookup mnemonic).map fun row => row.2.instruction

def resolveAll {α β : Type} (resolve : β → Except Fault α) : List β → Except Fault (List α)
  | [] => .ok []
  | mnemonic :: rest =>
      match resolve mnemonic with
      | .error fault => .error fault
      | .ok first =>
          match resolveAll resolve rest with
          | .error fault => .error fault
          | .ok others => .ok (first :: others)

def glyph (byte : UInt8) : String :=
  match entryAt byte with
  | some entry => entry.mnemonic
  | none => placeholder

/-- Bytes without a meaning count as special. -/
def categoryOf (byte : UInt8) : Category :=
  match entryAt byte with
  | some entry => entry.category
  | none => .special

def wallByte : UInt8 := 4

theorem ofByte?_wallByte : ofByte? wallByte = some wall := rfl

end Instruction
end Terrarium
