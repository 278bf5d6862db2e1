import Terrarium.Proofs.Instruction.Costs
import Terrarium.Proofs.Instruction.Reach

/-!
When the instruction pointer moves. An organism that was ready halts, or waits where it is, or has
gone one cell on when it has executed; and one that waits goes on at the end of its delay and not
before. Main statement: it is exactly one of these, which of them is told by the byte under the
pointer, and the step that a delay owes is taken by its last tick.
-/

namespace Terrarium

theorem Grid.step_of_sides {g h : Grid} (width : h.width = g.width) (height : h.height = g.height)
    (p : Point) (direction : Direction) (n : Int) : h.step p direction n = g.step p direction n :=
  normalize_of_sides width height _

namespace Organism
open Attempt

def tickAll (grids : List Grid) (o : Organism) : Attempt Organism Unit :=
  forEach (fun o g => (o.tickDelay g).map fun _ => ()) grids o

variable {o : Organism} {cycles : Nat}

theorem Waits.ticked (waits : o.Waits (cycles + 2)) (g : Grid) :
    o.tickDelay g = .done { o with delay := (cycles + 1 : Nat) } false ∧
      ({ o with delay := (cycles + 1 : Nat) } : Organism).Waits (cycles + 1) := by
  have delay : o.delay = (cycles + 2 : Nat) := waits.delay
  have one : o.delay - 1 = (cycles + 1 : Nat) := by omega
  have longer : 1 < o.delay := by omega
  rw [tickDelay_longer longer, one]
  exact ⟨rfl, rfl, waits.phase⟩

theorem tickAll_longer (waits : o.Waits cycles) {grids : List Grid}
    (fewer : grids.length < cycles) :
    tickAll grids o = .done { o with delay := (cycles - grids.length : Nat) } () := by
  induction grids generalizing o cycles with
  | nil =>
      rw [List.length_nil, Nat.sub_zero, ← waits.delay]
      rfl
  | cons g rest ih =>
      rw [List.length_cons] at fewer
      obtain ⟨left, rfl⟩ := Nat.exists_eq_add_of_le (show 2 ≤ cycles by omega)
      rw [Nat.add_comm 2 left] at waits fewer ⊢
      obtain ⟨first, later⟩ := waits.ticked g
      have remaining : left + 2 - (rest.length + 1) = left + 1 - rest.length := by omega
      rw [tickAll, forEach, first, List.length_cons, remaining]
      exact ih later (by omega)

/-- The last tick takes the step that the delay owes; all toruses have the same sides. -/
theorem tickAll_last (waits : o.Waits cycles) {grids : List Grid} {g : Grid}
    (some : 0 < cycles) (enough : grids.length = cycles)
    (shape : ∀ h ∈ grids, h.width = g.width ∧ h.height = g.height) :
    tickAll grids o = .done (o.rested g) () := by
  induction grids generalizing o cycles with
  | nil =>
      rw [List.length_nil] at enough
      omega
  | cons h rest ih =>
      rw [List.length_cons] at enough
      cases rest with
      | nil =>
          obtain rfl : cycles = 1 := enough.symm
          have alive : o.phase ≠ .dead := by rw [waits.phase]; simp
          have sides := shape h List.mem_cons_self
          have same : o.rested h = o.rested g := by
            simp only [rested, Grid.step_of_sides sides.1 sides.2]
          rw [tickAll, forEach, tickDelay_last alive waits.delay, same]
          rfl
      | cons next rest =>
          rw [List.length_cons] at enough
          obtain rfl : cycles = rest.length + 2 := enough.symm
          obtain ⟨first, later⟩ := waits.ticked h
          rw [tickAll, forEach, first]
          exact ih later (by omega) (by simp) fun h member => shape h (List.mem_cons_of_mem _ member)

end Organism

/-- What becomes of an organism by the instruction under its pointer. -/
inductive Sequel where
  | halts
  | waits (cycles : Nat)
  | goesOn

def Sequel.Holds (before : Scene) (effect : Effect) (after : Scene) : Sequel → Prop
  | halts => effect = .halt ∧ after = before
  | waits cycles => 0 < cycles ∧ after.organism.phase = .delaying ∧
      after.organism.delay = cycles ∧ after.organism.ip = before.organism.ip
  | goesOn => effect ≠ .halt ∧ after.organism.phase = .ready ∧ after.organism.ip =
      before.habitat.grid.step before.organism.ip after.organism.direction 1

/-- Of an organism that was ready no two of them hold. -/
theorem Sequel.Holds.unique {before after : Scene} {effect : Effect} {one other : Sequel}
    (ready : before.organism.phase = .ready) (holds : one.Holds before effect after)
    (holds' : other.Holds before effect after) : other = one := by
  cases one with
  | halts =>
      obtain ⟨halted, rfl⟩ := holds
      cases other with
      | halts => rfl
      | waits cycles => cases ready.symm.trans holds'.2.1
      | goesOn => exact absurd halted holds'.1
  | waits cycles =>
      obtain ⟨_, delaying, delay, _⟩ := holds
      cases other with
      | halts =>
          obtain ⟨_, rfl⟩ := holds'
          cases ready.symm.trans delaying
      | waits others =>
          obtain ⟨_, _, delay', _⟩ := holds'
          rw [Int.ofNat_inj.mp (delay'.symm.trans delay)]
      | goesOn => cases holds'.2.1.symm.trans delaying
  | goesOn =>
      obtain ⟨onwards, still, _⟩ := holds
      cases other with
      | halts => exact absurd holds'.1 onwards
      | waits cycles => cases still.symm.trans holds'.2.1
      | goesOn => rfl

namespace Scene
open Attempt Organism
variable {s : Scene} {rules : Rules} {effect : Effect} {cycles : Nat}

theorem moveOn_ip (waits : s.organism.Waits cycles) :
    (s.moveOn true).organism.ip =
      if cycles = 0 then s.habitat.grid.step s.organism.ip s.organism.direction 1
      else s.organism.ip := by
  by_cases none : cycles = 0
  · have ready : s.organism.phase = .ready := by rw [waits.phase, if_pos none]
    simp [moveOn, isDelaying, ready, none, advance]
  · have delaying : s.organism.phase = .delaying := by rw [waits.phase, if_neg none]
    simp [moveOn, isDelaying, delaying, none]

theorem moveOn_direction (s : Scene) (advance : Bool) :
    (s.moveOn advance).organism.direction = s.organism.direction :=
  moveOn_keeps s advance [] .direction (by simp)

theorem fork_direction (s : Scene) (kind : ForkKind) :
    (s.fork kind).state.organism.direction = s.organism.direction :=
  s.fork_keeps true kind .direction (by cases kind <;> decide)

/-- Whoever does not halt has taken its step, unless it waits before that. -/
theorem execute_ip (waits : s.organism.Waits 0) (ended : (s.execute rules).answer = .ok effect)
    (onwards : effect ≠ .halt) :
    (s.execute rules).state.organism.ip =
      if s.pause rules = 0 then s.habitat.grid.step s.organism.ip
        (s.execute rules).state.organism.direction 1
      else s.organism.ip := by
  have decoded : s.execute rules = s.run rules true s.next := rfl
  unfold pause
  rw [decoded] at ended ⊢
  generalize s.next = byte at ended ⊢
  cases byte with
  | none =>
      have moved := moveOn_ip waits
      simp only [run, done_andThen, done_state, moveOn_direction, Option.elim_none]
      exact moved
  | some instruction =>
      -- Whether the step is taken goes by the delay after the work, and it is taken on a torus
      -- that may have other cells by then but has the same sides.
      obtain ⟨outcome, acted, _⟩ := andThen_ok ended
      have waiting := act_waits waits acted
      have still := (act_stays s rules instruction).ip
      have sides := act_within s rules instruction
      have step := Grid.step_of_sides sides.width sides.height
      have moved := moveOn_ip waiting
      rw [still, step] at moved
      rw [Option.elim_some]
      rcases s.run_cases rules true instruction with ⟨_, halted | ⟨fault, failed⟩⟩ | ⟨_, stepped⟩ |
        ⟨kind, rfl, forked⟩
      · cases halted.symm.trans ended
        exact absurd rfl onwards
      · cases failed.symm.trans ended
      · rwa [stepped, moveOn_direction]
      · -- The step comes before the fork, which has nothing to do with it.
        rw [forked, fork_direction, moveOn_direction, (fork_stays _ kind).ip]
        exact moved

def glyph (s : Scene) : String := Instruction.glyph (s.habitat.grid.read s.organism.ip)

theorem next_iff_glyph {instruction : Instruction} {mnemonic : String}
    (row : ∀ entry ∈ Instruction.table,
      entry.instruction = instruction ↔ entry.mnemonic = mnemonic)
    (meant : mnemonic ≠ Instruction.placeholder) (s : Scene) :
    s.next = some instruction ↔ s.glyph = mnemonic :=
  Instruction.decoded_iff_glyph row meant _

theorem execute_halts_iff (s : Scene) (rules : Rules) :
    (s.execute rules).answer = .ok .halt ↔
      s.glyph = "@@" ∨ s.glyph = "?@" ∧ s.organism.flag = true := by
  have decoded : s.execute rules = s.run rules true s.next := rfl
  have halt : s.next = some .halt ↔ s.glyph = "@@" :=
    next_iff_glyph (by decide +kernel) (by decide) s
  have haltIf : s.next = some .haltIf ↔ s.glyph = "?@" :=
    next_iff_glyph (by decide +kernel) (by decide) s
  rw [decoded, ← halt, ← haltIf]
  cases s.next with
  | none => exact ⟨nofun, nofun⟩
  | some instruction => simp [run_halts_iff]

/-- The byte under the pointer makes its organism wait for so many cycles: for as long as a register
says or, where instructions have their costs, for the steps that a run of the cursor takes or the
side of the square that is pasted. -/
def Pauses (rules : Rules) (s : Scene) (cycles : Nat) : Prop :=
  s.glyph = ".a" ∧ s.organism.ax = cycles ∨ s.glyph = ".b" ∧ s.organism.bx = cycles ∨
  rules.instructionCosts = true ∧
    ((∃ direction r, s.next = some (.cursorRun direction r) ∧
      (s.organism.moveCursor s.habitat.grid direction (s.organism.register r)).2 = cycles) ∨
    s.glyph = "mc" ∧ s.organism.clipboardSide = .ok cycles)

theorem pauses_iff_asked (s : Scene) (rules : Rules) (cycles : Nat) :
    s.Pauses rules cycles ↔ ∃ instruction, s.next = some instruction ∧
      match instruction with
      | .wait r => s.organism.register r = cycles
      | .cursorRun direction r => rules.instructionCosts = true ∧
          (s.organism.moveCursor s.habitat.grid direction (s.organism.register r)).2 = cycles
      | .paste => rules.instructionCosts = true ∧ s.organism.clipboardSide = .ok cycles
      | _ => False := by
  have waitA : s.next = some (.wait .a) ↔ s.glyph = ".a" :=
    next_iff_glyph (by decide +kernel) (by decide) s
  have waitB : s.next = some (.wait .b) ↔ s.glyph = ".b" :=
    next_iff_glyph (by decide +kernel) (by decide) s
  have paste : s.next = some .paste ↔ s.glyph = "mc" :=
    next_iff_glyph (by decide +kernel) (by decide) s
  rw [Pauses, ← waitA, ← waitB, ← paste]
  constructor
  · rintro (⟨decoded, value⟩ | ⟨decoded, value⟩ | ⟨costs, ⟨direction, r, decoded, taken⟩ |
      ⟨decoded, side⟩⟩)
    · exact ⟨_, decoded, value⟩
    · exact ⟨_, decoded, value⟩
    · exact ⟨_, decoded, costs, taken⟩
    · exact ⟨_, decoded, costs, side⟩
  · rintro ⟨instruction, decoded, asked⟩
    cases instruction with
    | wait r =>
        cases r with
        | a => exact Or.inl ⟨decoded, asked⟩
        | b => exact Or.inr (Or.inl ⟨decoded, asked⟩)
    | cursorRun direction r =>
        exact Or.inr (Or.inr ⟨asked.1, Or.inl ⟨direction, r, decoded, asked.2⟩⟩)
    | paste => exact Or.inr (Or.inr ⟨asked.1, Or.inr ⟨decoded, asked.2⟩⟩)
    | _ => exact asked.elim

theorem pause_iff (nonneg : ∀ r, 0 ≤ s.organism.register r) (positive : 0 < cycles) :
    s.pause rules = cycles ↔ s.Pauses rules cycles := by
  rw [pauses_iff_asked, pause]
  cases s.next with
  | none => simp; omega
  | some instruction =>
      simp only [Option.elim_some, Option.some.injEq, exists_eq_left']
      cases instruction with
      | wait r =>
          have value := nonneg r
          simp only [asked]
          omega
      | cursorRun direction r =>
          cases costs : rules.instructionCosts with
          | false => simp [asked, costs]; omega
          | true => simp [asked, costs]
      | paste =>
          cases costs : rules.instructionCosts with
          | false => simp [asked, costs]; omega
          | true =>
              cases side : s.organism.clipboardSide with
              | error fault => simp [asked, costs, side]; omega
              | ok side => simp [asked, costs, side]
      | _ => simp [asked]; omega

/-- With the cycles of its delay, an organism that has executed is in one of the three ways. -/
theorem execute_sequel (waits : s.organism.Waits 0)
    (ended : (s.execute rules).answer = .ok effect) :
    (s.pause rules = 0 ∧ Sequel.halts.Holds s effect (s.execute rules).state) ∨
    (s.pause rules = 0 ∧ Sequel.goesOn.Holds s effect (s.execute rules).state) ∨
    (0 < s.pause rules ∧
      (Sequel.waits (s.pause rules)).Holds s effect (s.execute rules).state) := by
  have waiting := execute_waits waits ended
  by_cases halted : effect = .halt
  · obtain rfl := halted
    have still : (s.execute rules).state = s := run_halted ended
    have none : (0 : Int) = s.pause rules := by rw [← waiting.delay, still, waits.delay]; rfl
    exact Or.inl ⟨by omega, rfl, still⟩
  · have moved := execute_ip waits ended halted
    by_cases none : s.pause rules = 0
    · rw [none] at waiting
      rw [if_pos none] at moved
      exact Or.inr (Or.inl ⟨none, halted, waiting.ready, moved⟩)
    · have positive := Nat.pos_of_ne_zero none
      rw [if_neg none] at moved
      have delaying := waiting.phase
      rw [if_neg none] at delaying
      exact Or.inr (Or.inr ⟨positive, positive, delaying, waiting.delay, moved⟩)

/-- An organism that is ready and without a delay, with registers that are not negative, executes
without a fault. Exactly one of three things becomes of it: it halts, and nothing has changed; it
waits where it is; or it is ready and has taken one step in the direction it has then.
It halts exactly by the two bytes for that, and waits exactly for as long as its byte pauses it.
If it waits, ticks of its delay only count down as long as they are fewer, and the last
one takes the step. -/
theorem pointer_moves_once (s : Scene) (rules : Rules) (effect : Effect)
    (ready : s.organism.phase = .ready) (undelayed : s.organism.delay = 0)
    (nonneg : ∀ r, 0 ≤ s.organism.register r)
    (ended : (s.execute rules).answer = .ok effect) :
    let after := (s.execute rules).state
    (∃ sequel : Sequel, sequel.Holds s effect after ∧
      ∀ other : Sequel, other.Holds s effect after → other = sequel) ∧
    (Sequel.halts.Holds s effect after ↔
      s.glyph = "@@" ∨ s.glyph = "?@" ∧ s.organism.flag = true) ∧
    (∀ cycles, (Sequel.waits cycles).Holds s effect after ↔
      0 < cycles ∧ s.Pauses rules cycles) ∧
    (∀ cycles, (Sequel.waits cycles).Holds s effect after → ∀ grids : List Grid,
      (∀ g ∈ grids, g.width = s.habitat.grid.width ∧ g.height = s.habitat.grid.height) →
      (grids.length < cycles → tickAll grids after.organism =
        .done { after.organism with delay := (cycles - grids.length : Nat) } ()) ∧
      (grids.length = cycles → tickAll grids after.organism =
        .done { after.organism with
          delay := 0
          phase := .ready
          ip := s.habitat.grid.step s.organism.ip after.organism.direction 1 } ())) := by
  intro after
  have waits : s.organism.Waits 0 := ⟨undelayed, ready⟩
  -- It is in one of the ways, each with its pause; that no two hold then tells them by the pause.
  have found := execute_sequel waits ended
  refine ⟨?_, ?_, ?_, ?_⟩
  · rcases found with ⟨_, holds⟩ | ⟨_, holds⟩ | ⟨_, holds⟩ <;>
      exact ⟨_, holds, fun other => holds.unique ready⟩
  · rw [← execute_halts_iff s rules, ended]
    constructor
    · exact fun holds => by rw [holds.1]
    · intro same
      cases same
      exact ⟨rfl, run_halted ended⟩
  · intro cycles
    constructor
    · intro holds
      refine ⟨holds.1, (pause_iff nonneg holds.1).mp ?_⟩
      rcases found with ⟨_, other⟩ | ⟨_, other⟩ | ⟨_, other⟩
      · cases holds.unique ready other
      · cases holds.unique ready other
      · cases holds.unique ready other
        rfl
    · rintro ⟨positive, pauses⟩
      have exactly := (pause_iff nonneg positive).mpr pauses
      rcases found with ⟨none, _⟩ | ⟨none, _⟩ | ⟨_, holds⟩
      · omega
      · omega
      · rwa [exactly] at holds
  · rintro cycles ⟨positive, delaying, delay, still⟩ grids shape
    have waiting : after.organism.Waits cycles :=
      ⟨delay, by rw [delaying, if_neg (Nat.ne_of_gt positive)]⟩
    constructor
    · exact fun fewer => tickAll_longer waiting fewer
    · intro enough
      rw [tickAll_last waiting positive enough shape, rested, still]

/-- Three organisms with a two in a register: one on a halt, one on a wait, which two ticks end, and
one on a no-op. -/
theorem pointer_moves_once_twoCells :
    let scene (byte : UInt8) : Scene := ⟨{ Organism.newborn ⟨0, 0⟩ .right with ax := 2 }, {
      grid := Grid.uniform 2 1 (by decide) (by decide) byte
      generator := Generator.ofSeed 7 }⟩
    let waiting := ((scene 40).execute {}).state.organism
    let g := (scene 40).habitat.grid
    Sequel.halts.Holds (scene 0) .halt ((scene 0).execute {}).state ∧
      (Sequel.waits 2).Holds (scene 40) .proceed ((scene 40).execute {}).state ∧
      tickAll [g] waiting = .done { waiting with delay := 1 } () ∧
      tickAll [g, g] waiting =
        .done { waiting with delay := 0, phase := .ready, ip := ⟨1, 0⟩ } () ∧
      Sequel.goesOn.Holds (scene 1) .proceed ((scene 1).execute {}).state := by
  intro scene waiting g
  have nonneg (byte : UInt8) (r : Register) : 0 ≤ (scene byte).organism.register r := by
    cases r <;> simp [scene, Organism.newborn, Organism.register]
  obtain ⟨_, halts, _⟩ := pointer_moves_once (scene 0) {} .halt rfl rfl (nonneg 0) rfl
  obtain ⟨_, _, waits, ticks⟩ := pointer_moves_once (scene 40) {} .proceed rfl rfl (nonneg 40) rfl
  obtain ⟨⟨sequel, holds, _⟩, _⟩ :=
    pointer_moves_once (scene 1) {} .proceed rfl rfl (nonneg 1) rfl
  have two : (Sequel.waits 2).Holds (scene 40) .proceed ((scene 40).execute {}).state :=
    (waits 2).mpr ⟨by decide, Or.inl ⟨by decide +kernel, rfl⟩⟩
  have onwards : sequel = .goesOn := by
    cases sequel with
    | halts => cases holds.1
    | waits cycles => cases holds.2.1
    | goesOn => rfl
  have shape : ∀ h ∈ [g, g], h.width = g.width ∧ h.height = g.height := by simp
  exact ⟨halts.mpr (Or.inl (by decide +kernel)), two, (ticks 2 two [g] (by simp [g])).1 (by decide),
    (ticks 2 two [g, g] shape).2 rfl, onwards ▸ holds⟩

end Scene
end Terrarium
