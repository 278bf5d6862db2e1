import Terrarium.Proofs.Instruction.Children

/-!
What instruction costs do to one instruction. An organism that was ready has a longer delay and
owes the step that it would have taken at once; it answers the same, leaves the same habitat, and
is the same organism when the delay is over.
-/

namespace Terrarium

namespace Organism

/-- With so many cycles of a delay to go, ready if there are none. -/
structure Waits (cycles : Nat) (o : Organism) : Prop where
  delay : o.delay = cycles
  phase : o.phase = if cycles = 0 then .ready else .delaying

def delayed (cycles : Nat) (o : Organism) : Organism :=
  if cycles = 0 then o else { o with delay := cycles, phase := .delaying }

def settled (o : Organism) (g : Grid) : Organism := if o.isDelaying then o.rested g else o

variable {o p : Organism} {cycles : Nat}

theorem Waits.ready (waits : o.Waits 0) : o.phase = .ready := waits.phase

theorem Waits.delaying (waits : o.Waits (cycles + 1)) : o.phase = .delaying := waits.phase

theorem Waits.of_standing (waits : o.Waits cycles) (same : p.standing = o.standing) :
    p.Waits cycles where
  delay := (congrArg Standing.delay same).trans waits.delay
  phase := (congrArg Standing.phase same).trans waits.phase

theorem Waits.timed (waits : o.Waits cycles) : o.Timed := by
  unfold Timed
  rw [waits.phase, waits.delay]
  by_cases none : cycles = 0
  · simp [none]
  · simp [none, Nat.pos_of_ne_zero none]

theorem delayed_zero (o : Organism) : o.delayed 0 = o := rfl

theorem Waits.delayed (waits : o.Waits 0) (cycles : Nat) : (o.delayed cycles).Waits cycles := by
  unfold Organism.delayed
  split
  · next none => exact none ▸ waits
  · next some => exact ⟨rfl, by simp [some]⟩

theorem beginDelay_ready (ready : o.phase = .ready) (cycles : Int) :
    o.beginDelay cycles = .done (o.delayed cycles.toNat) () := by
  unfold beginDelay delayed setPhase
  by_cases none : cycles ≤ 0
  · simp [none, Int.toNat_of_nonpos none]
  · have some : cycles.toNat ≠ 0 := by omega
    have whole : (cycles.toNat : Int) = cycles := by omega
    simp [none, some, whole, ready, Phase.allows_eq, Phase.isTerminal]

theorem settled_ready (waits : o.Waits 0) (g : Grid) : o.settled g = o := by
  simp [settled, isDelaying, waits.ready]

theorem settled_delaying (waits : o.Waits (cycles + 1)) (g : Grid) : o.settled g = o.rested g := by
  simp [settled, isDelaying, waits.delaying]

theorem settled_waits (waits : o.Waits cycles) (g : Grid) : (o.settled g).Waits 0 := by
  cases cycles with
  | zero => rwa [settled_ready waits]
  | succ cycles =>
      rw [settled_delaying waits]
      exact ⟨rfl, rfl⟩

/-- The step that a delay owes is the one that is taken at once without it. -/
theorem settled_delayed (waits : o.Waits 0) (some : cycles ≠ 0) (g : Grid) :
    (o.delayed cycles).settled g = o.advance g := by
  have delay : o.delay = 0 := waits.delay
  simp [settled, isDelaying, delayed, some, rested, advance, delay, waits.ready]

end Organism

namespace Scene
open Attempt Organism

def delayed (cycles : Nat) (c : Scene) : Scene := { c with organism := c.organism.delayed cycles }

def settled (c : Scene) : Scene := { c with organism := c.organism.settled c.habitat.grid }

/-- The cycles that instruction costs add: the steps that a run of the cursor takes, the side of the
square that is pasted. -/
def surcharge (c : Scene) : Instruction → Nat
  | .cursorRun direction r =>
      (c.organism.moveCursor c.habitat.grid direction (c.organism.register r)).2
  | .paste => c.organism.clipboardSide.toOption.getD 0
  | _ => 0

variable {c : Scene} {noise : NoiseSettings} {rules : Rules} {instruction : Instruction}

theorem asked_costs (noise : NoiseSettings) (c : Scene) (instruction : Instruction) :
    (c.asked ⟨noise, true⟩ instruction).toNat =
      (c.asked ⟨noise, false⟩ instruction).toNat + c.surcharge instruction := by
  cases instruction with
  | paste =>
      cases side : c.organism.clipboardSide <;>
        simp [asked, surcharge, side, Except.toOption]
  | _ => simp [asked, surcharge]

theorem delay_ready (ready : c.organism.phase = .ready) (cycles : Int) :
    c.delay cycles = .done (c.delayed cycles.toNat) .proceed := by
  simp [delay, beginDelay_ready ready, Attempt.inside, Attempt.map, Attempt.done, Except.map,
    delayed]

theorem side_of_written {h : Habitat} {center : Point} {buffer : List UInt8}
    (written : (h.writeSquare noise center buffer).answer = .ok ()) :
    ∃ side, squareSide buffer.length = .ok side := by
  obtain ⟨landed, corrupted, placed⟩ := andThen_ok written
  have length := (Habitat.corrupt_length noise h buffer).value landed corrupted
  rw [← length]
  cases found : squareSide landed.length with
  | ok side => exact ⟨side, rfl⟩
  | error fault => simp [Grid.writeSquare, found] at placed

/-- Costs do nothing but to add a delay to an instruction that has succeeded. -/
theorem act_costs (ready : c.organism.phase = .ready) (noise : NoiseSettings)
    (instruction : Instruction) :
    c.act ⟨noise, true⟩ instruction = (c.act ⟨noise, false⟩ instruction).andThen fun t outcome =>
      .done (t.delayed (c.surcharge instruction)) outcome := by
  have free (attempt : Attempt Scene Outcome) :
      attempt = attempt.andThen fun t outcome => .done (t.delayed 0) outcome := by
    obtain ⟨_, _, answer⟩ := attempt
    cases answer <;> simp [andThen, Attempt.done, delayed, delayed_zero]
  cases instruction with
  | cursorRun direction r =>
      -- The steps do not touch the phase, so the delay is not refused.
      have moved := c.organism.standing_moveCursor c.habitat.grid direction (c.organism.register r)
      simp only [act, surcharge, ↓reduceIte]
      rw [delay_ready ((congrArg Standing.phase moved).trans ready)]
      rfl
  | paste =>
      simp only [act, surcharge, ↓reduceIte, andThen_assoc]
      apply andThen_congr
      intro _ written
      obtain ⟨side, found⟩ := side_of_written written
      simp only [clipboardSide, found, Except.toOption, Option.getD_some, Bool.false_eq_true,
        ↓reduceIte, done_andThen]
      refine delay_ready ?_ side
      exact ready
  | _ => exact free _

theorem act_waits_free (waits : c.organism.Waits 0) {outcome : Outcome}
    (ended : (c.act ⟨noise, false⟩ instruction).answer = .ok outcome) :
    (c.act ⟨noise, false⟩ instruction).state.organism.Waits
      (c.asked ⟨noise, false⟩ instruction).toNat := by
  cases instruction with
  | wait r =>
      simp only [act, delay_ready waits.ready]
      exact waits.delayed _
  | paste =>
      obtain ⟨_, written, _⟩ := andThen_ok ended
      simp only [act]
      rw [andThen_of_ok _ written]
      exact waits
  | copy =>
      simp only [act] at ended ⊢
      rcases c.copy_cases with ⟨_, _, copied⟩ | ⟨_, failed⟩
      · rw [copied]
        exact waits.of_standing rfl
      · rw [failed] at ended
        cases ended
  | cursorRun direction r => exact waits.of_standing (standing_moveCursor _ _ _ _)
  | writeCell r => exact waits
  | halt => exact waits
  | haltIf => exact waits
  | fork kind => exact waits
  | _ => exact waits.of_standing (standing_act _ _ _)

theorem free_of_surcharge (noise : NoiseSettings) (charged : c.surcharge instruction ≠ 0) :
    (c.asked ⟨noise, false⟩ instruction).toNat = 0 ∧
      ∀ outcome, (c.act ⟨noise, false⟩ instruction).answer = .ok outcome → outcome = .proceed := by
  cases instruction with
  | cursorRun direction r =>
      refine ⟨rfl, fun outcome ended => ?_⟩
      cases ended
      rfl
  | paste =>
      refine ⟨rfl, fun outcome ended => ?_⟩
      obtain ⟨_, _, rest⟩ := andThen_ok ended
      cases rest
      rfl
  | _ => exact absurd rfl charged

theorem act_waits (waits : c.organism.Waits 0) {outcome : Outcome}
    (ended : (c.act rules instruction).answer = .ok outcome) :
    (c.act rules instruction).state.organism.Waits (c.asked rules instruction).toNat := by
  obtain ⟨noise, costs⟩ := rules
  cases costs with
  | false => exact act_waits_free waits ended
  | true =>
      rw [act_costs waits.ready] at ended ⊢
      obtain ⟨middle, free, _⟩ := andThen_ok ended
      have before := act_waits_free waits free
      rw [andThen_of_ok _ free, asked_costs]
      by_cases charged : c.surcharge instruction = 0
      · rwa [charged]
      · rw [(free_of_surcharge noise charged).1] at before ⊢
        rw [Nat.zero_add]
        exact before.delayed _

/-- An instruction that fails may have been going to ask for a delay. -/
theorem act_waits_some (waits : c.organism.Waits 0) (rules : Rules) (instruction : Instruction) :
    ∃ cycles, (c.act rules instruction).state.organism.Waits cycles := by
  rcases act_standing c rules instruction with same | ⟨o, same, delayed⟩
  · exact ⟨0, waits.of_standing same⟩
  · have before : o.Waits 0 := waits.of_standing same
    rw [delayed, beginDelay_ready before.ready]
    exact ⟨_, before.delayed _⟩

theorem settled_moveOn_delayed (waits : c.organism.Waits 0) (cycles : Nat) :
    ((c.delayed cycles).moveOn true).settled = (c.moveOn true).settled := by
  cases cycles with
  | zero => rfl
  | succ cycles =>
      have resting := waits.delayed (cycles + 1)
      have still : (c.delayed (cycles + 1)).moveOn true = c.delayed (cycles + 1) := by
        simp [moveOn, delayed, isDelaying, resting.delaying]
      have stepped : c.moveOn true = { c with organism := c.organism.advance c.habitat.grid } := by
        simp [moveOn, isDelaying, waits.ready]
      have ready : (c.organism.advance c.habitat.grid).Waits 0 := waits.of_standing rfl
      rw [still, stepped]
      simp only [settled, delayed, settled_ready ready, settled_delayed waits (Nat.succ_ne_zero _)]

theorem run_costs (waits : c.organism.Waits 0) (noise : NoiseSettings)
    (instruction : Option Instruction) :
    let costly := c.run ⟨noise, true⟩ true instruction
    let free := c.run ⟨noise, false⟩ true instruction
    costly.answer = free.answer ∧ costly.state.settled = free.state.settled := by
  cases instruction with
  | none => exact ⟨rfl, rfl⟩
  | some instruction =>
      simp only [run]
      rw [act_costs waits.ready, andThen_assoc]
      cases ended : (c.act ⟨noise, false⟩ instruction).answer with
      | error fault =>
          rw [andThen_of_error _ ended, andThen_of_error _ ended]
          exact ⟨rfl, rfl⟩
      | ok outcome =>
          rw [andThen_of_ok _ ended, andThen_of_ok _ ended]
          simp only [done_andThen]
          by_cases charged : c.surcharge instruction = 0
          · rw [charged]
            exact ⟨rfl, rfl⟩
          · obtain ⟨none, proceeds⟩ := free_of_surcharge noise charged
            have before := act_waits_free waits ended
            rw [none] at before
            cases proceeds outcome ended
            exact ⟨rfl, settled_moveOn_delayed before _⟩

def next (c : Scene) : Option Instruction :=
  Instruction.ofByte? (c.habitat.grid.read c.organism.ip)

def pause (rules : Rules) (c : Scene) : Nat := c.next.elim 0 fun i => (c.asked rules i).toNat

theorem pause_costs (noise : NoiseSettings) (c : Scene) :
    c.pause ⟨noise, true⟩ = c.pause ⟨noise, false⟩ + c.next.elim 0 c.surcharge := by
  unfold pause
  cases c.next with
  | none => rfl
  | some instruction => exact asked_costs noise c instruction

theorem execute_waits (waits : c.organism.Waits 0) {effect : Effect}
    (ended : (c.execute rules).answer = .ok effect) :
    (c.execute rules).state.organism.Waits (c.pause rules) := by
  have decoded : c.execute rules = c.run rules true c.next := rfl
  unfold pause
  rw [decoded] at ended ⊢
  generalize c.next = byte at ended ⊢
  cases byte with
  | none => exact waits.of_standing (standing_moveOn c true)
  | some instruction =>
      obtain ⟨outcome, acted, _⟩ := andThen_ok ended
      have before := act_waits waits acted
      obtain ⟨delay, phase⟩ := run_delay c rules true instruction
      exact ⟨delay.trans before.delay, phase.trans before.phase⟩

theorem execute_waits_some (waits : c.organism.Waits 0) (rules : Rules) :
    ∃ cycles, (c.execute rules).state.organism.Waits cycles := by
  have decoded : c.execute rules = c.run rules true c.next := rfl
  rw [decoded]
  cases c.next with
  | none => exact ⟨0, waits.of_standing (standing_moveOn c true)⟩
  | some instruction =>
      obtain ⟨cycles, before⟩ := act_waits_some waits rules instruction
      obtain ⟨delay, phase⟩ := run_delay c rules true instruction
      exact ⟨cycles, delay.trans before.delay, phase.trans before.phase⟩

theorem execute_childless (childless : c.organism.children = some 0) (rules : Rules) :
    (c.execute rules).state.organism.children = some 0 ∧
      ∀ child, (c.execute rules).answer ≠ .ok (.spawn child) := by
  have none (child : Organism) : (c.execute rules).answer ≠ .ok (.spawn child) := by
    intro spawned
    obtain ⟨_, _, room⟩ := (run_spawns_iff c rules true _).mp ⟨child, spawned⟩
    exact room childless
  refine ⟨?_, none⟩
  cases ended : (c.execute rules).answer with
  | error fault => exact (run_stuck ended).trans childless
  | ok effect =>
      have spends := (run_spends c rules true _ effect ended).children
      rw [childless] at spends
      cases effect with
      | spawn child => exact absurd ended (none child)
      | _ => exact spends

def turn (rules : Rules) (c : Scene) : Option Scene :=
  match (c.execute rules).answer with
  | .ok .halt => none
  | _ => some (c.execute rules).state.settled

def turns (rules : Rules) : Nat → Scene → Option Scene
  | 0, c => some c
  | count + 1, c => (c.turn rules).bind (turns rules count)

def EndsAfter (rules : Rules) (count : Nat) (c : Scene) : Prop :=
  turns rules count c = none ∧ ∀ k < count, turns rules k c ≠ none

theorem endsAfter_halting (turned : c.turn rules = none) (count : Nat) :
    EndsAfter rules count c ↔ count = 1 := by
  have vanish (k : Nat) : turns rules (k + 1) c = none := by simp [turns, turned]
  constructor
  · rintro ⟨ended, before⟩
    rcases count with _ | _ | count
    · cases ended
    · rfl
    · exact absurd (vanish 0) (before 1 (by omega))
  · rintro rfl
    refine ⟨vanish 0, fun k early => ?_⟩
    cases Nat.lt_one_iff.mp early
    exact nofun

theorem endsAfter_turned {later : Scene} (turned : c.turn rules = some later) (count : Nat) :
    EndsAfter rules count c ↔ ∃ rest, EndsAfter rules rest later ∧ 1 + rest = count := by
  have onwards (k : Nat) : turns rules (k + 1) c = turns rules k later := by simp [turns, turned]
  constructor
  · rintro ⟨ended, before⟩
    cases count with
    | zero => cases ended
    | succ rest =>
        refine ⟨rest, ⟨(onwards rest).symm.trans ended, fun k early => ?_⟩, Nat.add_comm _ _⟩
        rw [← onwards]
        exact before (k + 1) (by omega)
  · rintro ⟨rest, ⟨ended, before⟩, rfl⟩
    rw [Nat.add_comm]
    refine ⟨(onwards rest).trans ended, fun k early => ?_⟩
    cases k with
    | zero => exact nofun
    | succ k =>
        rw [onwards]
        exact before k (by omega)

theorem turn_waits (waits : c.organism.Waits 0) {later : Scene}
    (turned : c.turn rules = some later) : later.organism.Waits 0 := by
  obtain ⟨cycles, after⟩ := execute_waits_some waits rules
  unfold turn at turned
  split at turned
  · cases turned
  · cases turned
    exact settled_waits after _

theorem turn_costs (waits : c.organism.Waits 0) (noise : NoiseSettings) :
    c.turn ⟨noise, true⟩ = c.turn ⟨noise, false⟩ := by
  obtain ⟨answer, state⟩ := run_costs waits noise c.next
  have answer : (c.execute ⟨noise, true⟩).answer = (c.execute ⟨noise, false⟩).answer := answer
  have state : (c.execute ⟨noise, true⟩).state.settled = (c.execute ⟨noise, false⟩).state.settled :=
    state
  simp only [turn, answer, state]

/-- Instruction costs make no difference to what becomes of an organism by its instructions. -/
theorem turns_costs (waits : c.organism.Waits 0) (noise : NoiseSettings) (count : Nat) :
    turns ⟨noise, true⟩ count c = turns ⟨noise, false⟩ count c := by
  induction count generalizing c with
  | zero => rfl
  | succ count ih =>
      rw [turns, turns, turn_costs waits]
      cases turned : c.turn ⟨noise, false⟩ with
      | none => rfl
      | some later => exact ih (turn_waits waits turned)

end Scene
end Terrarium
