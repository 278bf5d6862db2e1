import Terrarium.Proofs.Instruction.InPlace

/-!
What an instruction leaves alone in its organism. Each one has a list of the traits it may change,
and changes no other, whether it comes to its end or fails on the way; the mnemonics that may change
a trait are read off the table.
-/

namespace Terrarium

/-- A trait of an organism that instructions leave alone or set, its instruction pointer apart. -/
inductive Trait where
  | direction
  | ax
  | bx
  | flag
  | cursor
  | radius
  | clipboard
  | lifespan
  | children
  | delay
  | phase
deriving DecidableEq

def Register.trait : Register → Trait
  | a => .ax
  | b => .bx

namespace Trait

def Same (before after : Organism) : Trait → Prop
  | direction => after.direction = before.direction
  | ax => after.ax = before.ax
  | bx => after.bx = before.bx
  | flag => after.flag = before.flag
  | cursor => after.cursor = before.cursor
  | radius => after.radius = before.radius
  | clipboard => after.clipboard = before.clipboard
  | lifespan => after.lifespan = before.lifespan
  | children => after.children = before.children
  | delay => after.delay = before.delay
  | phase => after.phase = before.phase

theorem Same.refl (o : Organism) (trait : Trait) : trait.Same o o := by cases trait <;> rfl

theorem Same.trans {o p q : Organism} {trait : Trait} (first : trait.Same o p)
    (second : trait.Same p q) : trait.Same o q := by
  cases trait <;> exact Eq.trans second first

/-- The mnemonics that may change a trait, without and with a cost for instructions. -/
def mnemonics (costs : Bool) : Trait → List String
  | direction =>
      ["!<", "!>", "!^", "!v", "?<", "?>", "?^", "?v", "!#", "!|", "!-", "!/", "!\\"]
  | ax =>
      ["0a", "ab", "a+", "a-", "+a", "-a", "a*", "aa", "a/", "a%", "a&", "a|", "a#", "a=", "a!",
        "a1", "a0", "::", "a(", "ar", "am"]
  | bx =>
      ["0b", "ba", "b+", "b-", "+b", "-b", "b*", "bb", "b/", "b%", "b&", "b|", "b#", "b=", "b!",
        "b1", "b0", "::", "b(", "br", "bm"]
  | flag => ["((", "))", "(a", ")a", "(b", ")b", "(=", "(!", ")(", "-="]
  | cursor =>
      ["#<", "#>", "#^", "#v", "a<", "a>", "a^", "av", "b<", "b>", "b^", "bv", "#0"]
  | radius => ["ra", "rb", "r0", "r+", "r-"]
  | clipboard => ["cm"]
  | lifespan => []
  | children => ["-=", "m="]
  | delay | phase =>
      [".a", ".b"] ++
        if costs then ["a<", "a>", "a^", "av", "b<", "b>", "b^", "bv", "mc"] else []

end Trait

def Instruction.footprint (costs : Bool) : Instruction → List Trait
  | .fork .flag => [.flag, .children]
  | .fork .cursor => [.children]
  | .calculate r _ | .flagTo r | .radiusTo r | .readCell r => [r.trait]
  | .swap => [.ax, .bx]
  | .wait _ => [.delay, .phase]
  | .turn _ | .turnIf _ | .reflect _ => [.direction]
  | .test _ => [.flag]
  | .cursorStep _ | .cursorHome => [.cursor]
  | .cursorRun _ _ => if costs then [.cursor, .delay, .phase] else [.cursor]
  | .radiusFrom _ | .radiusReset | .radiusGrow | .radiusShrink => [.radius]
  | .copy => [.clipboard]
  | .paste => if costs then [.delay, .phase] else []
  | .halt | .nop | .wall | .haltIf | .writeCell _ => []

namespace Organism

def Keeps (traits : List Trait) (before after : Organism) : Prop :=
  ∀ trait, trait ∉ traits → trait.Same before after

namespace Keeps
variable {traits more : List Trait} {o p q : Organism}

theorem refl (o : Organism) : o.Keeps traits o := fun trait _ => .refl o trait

theorem trans (first : o.Keeps traits p) (second : p.Keeps traits q) : o.Keeps traits q :=
  fun trait outside => (first trait outside).trans (second trait outside)

theorem mono (keeps : o.Keeps traits p) (inside : ∀ trait ∈ traits, trait ∈ more) :
    o.Keeps more p :=
  fun trait outside => keeps trait fun member => outside (inside trait member)

end Keeps

section Acts
variable (o : Organism) (g : Grid)

theorem keeps_setRegister (r : Register) (value : Int) :
    o.Keeps [r.trait] (o.setRegister r value) := by
  intro trait outside
  cases r <;> cases trait <;> first | rfl | simp [Register.trait] at outside

theorem keeps_setRadius (radius : Int) : o.Keeps [.radius] (o.setRadius radius) := by
  intro trait outside
  unfold setRadius
  split
  · cases trait <;> first | rfl | simp at outside
  · exact .refl o trait

theorem keeps_tryMoveCursor (target : Point) : o.Keeps [.cursor] (o.tryMoveCursor g target).1 := by
  intro trait outside
  unfold tryMoveCursor
  split
  · exact .refl o trait
  · cases trait <;> first | rfl | simp at outside

theorem keeps_walkCursor (direction : Direction) (left taken : Nat) :
    o.Keeps [.cursor] (walkCursor g direction left taken o).1 := by
  induction left generalizing taken o with
  | zero => exact .refl o
  | succ left ih =>
      have moved := o.keeps_tryMoveCursor g (g.step o.cursor direction 1)
      simp only [walkCursor]
      -- A cell that cannot be entered ends the walk, with the cursor where it is.
      split
      · next stepped =>
          rw [stepped] at moved
          exact moved.trans (ih _ _)
      · next stopped =>
          rw [stopped] at moved
          exact moved

theorem keeps_beginDelay (cycles : Int) :
    o.Keeps [.delay, .phase] (o.beginDelay cycles).state := by
  intro trait outside
  unfold beginDelay setPhase
  split
  · exact .refl o trait
  · split <;> cases trait <;> first | rfl | simp at outside

theorem keeps_takeChild : o.Keeps [.children] o.takeChild.1 := by
  intro trait outside
  unfold takeChild
  split
  · exact .refl o trait
  · split
    · exact .refl o trait
    · cases trait <;> first | rfl | simp at outside

theorem keeps_act (costs : Bool) (instruction : Instruction) :
    o.Keeps (instruction.footprint costs) (o.act g instruction) := by
  cases instruction with
  | calculate target operation => exact o.keeps_setRegister target _
  | flagTo r => exact o.keeps_setRegister r _
  | radiusTo r => exact o.keeps_setRegister r _
  | readCell r => exact o.keeps_setRegister r _
  | cursorStep direction => exact o.keeps_tryMoveCursor g _
  | cursorHome => exact o.keeps_tryMoveCursor g _
  | radiusFrom r => exact o.keeps_setRadius _
  | radiusGrow => exact o.keeps_setRadius _
  | radiusShrink => exact o.keeps_setRadius _
  | turnIf direction =>
      intro trait outside
      simp only [act]
      split
      · cases trait <;> first | rfl | simp [Instruction.footprint] at outside
      · exact .refl o trait
  | _ =>
      -- What is left sets its traits outright, or does nothing here.
      intro trait outside
      cases trait <;> first | rfl | simp [Instruction.footprint] at outside

end Acts
end Organism

namespace Scene
open Attempt
variable {s : Scene}

theorem keeps_delay (s : Scene) (cycles : Int) :
    s.organism.Keeps [.delay, .phase] (s.delay cycles).state.organism :=
  s.organism.keeps_beginDelay cycles

theorem act_keeps (s : Scene) (rules : Rules) (instruction : Instruction) :
    s.organism.Keeps (instruction.footprint rules.instructionCosts)
      (s.act rules instruction).state.organism := by
  cases instruction with
  | halt => exact .refl _
  | haltIf => exact .refl _
  | fork kind => exact .refl _
  | writeCell r => exact .refl _
  | wait r => exact keeps_delay s _
  | cursorRun direction r =>
      have moved : s.organism.Keeps [.cursor]
          (s.organism.moveCursor s.habitat.grid direction (s.organism.register r)).1 :=
        s.organism.keeps_walkCursor s.habitat.grid direction _ _
      simp only [act]
      split
      · next costs =>
          rw [Instruction.footprint, if_pos costs]
          exact (moved.mono (by simp)).trans ((keeps_delay _ _).mono (by simp))
      · next free =>
          rw [Instruction.footprint, if_neg free]
          exact moved
  | copy =>
      simp only [act]
      rcases s.copy_cases with ⟨_, _, copied⟩ | ⟨_, failed⟩
      · rw [copied]
        intro trait outside
        cases trait <;> first | rfl | simp [Instruction.footprint] at outside
      · rw [failed]
        exact .refl _
  | paste =>
      simp only [act]
      cases written : ((s.habitat.writeSquare rules.noise s.organism.cursor
          s.organism.clipboard).inside fun h => ({ s with habitat := h } : Scene)).answer with
      | error fault =>
          rw [andThen_of_error _ written]
          exact .refl _
      | ok _ =>
          rw [andThen_of_ok _ written]
          dsimp only
          split
          · next costs =>
              -- The delay is as long as the side of what is pasted, if that has one.
              rw [Instruction.footprint, if_pos costs]
              split
              · exact keeps_delay ⟨s.organism, _⟩ _
              · exact .refl _
          · exact .refl _
  | _ => exact s.organism.keeps_act s.habitat.grid _ _

theorem moveOn_keeps (s : Scene) (advance : Bool) (traits : List Trait) :
    s.organism.Keeps traits (s.moveOn advance).organism := by
  intro trait _
  unfold moveOn
  split
  · cases trait <;> rfl
  · exact .refl s.organism trait

theorem fork_keeps (s : Scene) (costs : Bool) (kind : ForkKind) :
    s.organism.Keeps ((Instruction.fork kind).footprint costs) (s.fork kind).state.organism := by
  have flagged : s.organism.Keeps ((Instruction.fork kind).footprint costs)
      (kind.flagged s.organism) := by
    intro trait outside
    cases kind <;> cases trait <;> first | rfl | simp [Instruction.footprint] at outside
  have taken := (kind.flagged s.organism).keeps_takeChild
  rw [(s.fork_eq kind).1]
  exact flagged.trans (taken.mono (by cases kind <;> simp [Instruction.footprint]))

theorem run_keeps (s : Scene) (rules : Rules) (advance : Bool) (instruction : Instruction) :
    s.organism.Keeps (instruction.footprint rules.instructionCosts)
      (s.run rules advance (some instruction)).state.organism := by
  have acted := act_keeps s rules instruction
  rcases s.run_cases rules advance instruction with ⟨same, _⟩ | ⟨_, stepped⟩ | ⟨kind, rfl, forked⟩
  · rwa [same]
  · rw [stepped]
    exact acted.trans (moveOn_keeps _ advance _)
  · rw [forked]
    exact (moveOn_keeps s advance _).trans (fork_keeps _ _ kind)

end Scene

namespace Instruction

theorem entry_of_byte {byte : UInt8} {instruction : Instruction}
    (decoded : ofByte? byte = some instruction) :
    ∃ entry ∈ table, entry.instruction = instruction ∧ entry.mnemonic = glyph byte := by
  obtain ⟨entry, found, rfl⟩ := Option.map_eq_some_iff.mp decoded
  refine ⟨entry, List.mem_of_getElem? found, rfl, ?_⟩
  simp [glyph, found]

theorem glyph_of_meaningless {byte : UInt8} (unmapped : ofByte? byte = none) :
    glyph byte = placeholder := by
  simp only [glyph, Option.map_eq_none_iff.mp unmapped]

/-- An instruction that is one row of the table is known by its mnemonic. -/
theorem decoded_iff_glyph {instruction : Instruction} {mnemonic : String}
    (row : ∀ entry ∈ table, entry.instruction = instruction ↔ entry.mnemonic = mnemonic)
    (meant : mnemonic ≠ placeholder) (byte : UInt8) :
    ofByte? byte = some instruction ↔ glyph byte = mnemonic := by
  constructor
  · intro decoded
    obtain ⟨entry, here, same, named⟩ := entry_of_byte decoded
    rw [← named]
    exact (row entry here).mp same
  · intro named
    cases decoded : ofByte? byte with
    | none => exact absurd (named.symm.trans (glyph_of_meaningless decoded)) meant
    | some other =>
        obtain ⟨entry, here, rfl, same⟩ := entry_of_byte decoded
        rw [(row entry here).mpr (same.trans named)]

theorem glyph_mem_mnemonics {byte : UInt8} {instruction : Instruction}
    (decoded : ofByte? byte = some instruction) (costs : Bool) {trait : Trait}
    (member : trait ∈ instruction.footprint costs) : glyph byte ∈ trait.mnemonics costs := by
  -- Of the whole language this is a fact about its table, looked up row by row.
  have rows : ∀ costs, ∀ entry ∈ table, ∀ trait ∈ entry.instruction.footprint costs,
      entry.mnemonic ∈ trait.mnemonics costs := by decide +kernel
  obtain ⟨entry, here, rfl, named⟩ := entry_of_byte decoded
  rw [← named]
  exact rows costs entry here trait member

end Instruction

/-- A trait is left alone by every byte whose mnemonic is not one of those that may change it. -/
theorem Scene.run_same (s : Scene) (rules : Rules) (advance : Bool) (byte : UInt8) (trait : Trait)
    (unnamed : Instruction.glyph byte ∉ trait.mnemonics rules.instructionCosts) :
    trait.Same s.organism (s.run rules advance (Instruction.ofByte? byte)).state.organism := by
  cases decoded : Instruction.ofByte? byte with
  | none => exact moveOn_keeps s advance [] trait (by simp)
  | some instruction =>
      apply run_keeps s rules advance instruction
      exact fun member => unnamed (Instruction.glyph_mem_mnemonics decoded _ member)

end Terrarium
