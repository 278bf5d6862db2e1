import Terrarium.Proofs.Attempt.Chain
import Terrarium.Proofs.Organism.Standing

/-!
No instruction touches the lifespan of its organism or spoils its timing, also where it fails; a
child it asks for has the delay and the phase of its parent. Nobody is removed by an instruction,
so none is told of.
-/

namespace Terrarium

namespace Habitat
open Attempt

theorem corrupt_state (noise : NoiseSettings) (h : Habitat) (values : List UInt8) :
    ∃ g count, (h.corrupt noise values).state =
      { h with generator := g, writeErrors := h.writeErrors + count } := by
  have unchanged : ∃ g count, h =
      { h with generator := g, writeErrors := h.writeErrors + count } := ⟨h.generator, 0, rfl⟩
  unfold corrupt
  split
  · exact unchanged
  · exact unchanged
  · split
    · exact unchanged
    · dsimp only
      split
      · exact ⟨_, 0, rfl⟩
      · exact ⟨_, _, rfl⟩

theorem corrupt_discreet (noise : NoiseSettings) (h : Habitat) (values : List UInt8) :
    Discreet (h.corrupt noise values) := by
  unfold corrupt
  split
  · rfl
  · rfl
  · split
    · rfl
    · dsimp only
      split <;> rfl

theorem write_discreet (noise : NoiseSettings) (h : Habitat) (p : Point) (value : UInt8) :
    Discreet (h.write noise p value) :=
  (corrupt_discreet noise h [value]).andThen fun _ _ => rfl

theorem writeSquare_discreet (noise : NoiseSettings) (h : Habitat) (center : Point)
    (buffer : List UInt8) : Discreet (h.writeSquare noise center buffer) := by
  apply (corrupt_discreet noise h buffer).andThen
  intro h landed
  split <;> rfl

theorem cosmicRays_discreet (noise : NoiseSettings) (h : Habitat) :
    Discreet (h.cosmicRays noise) := by
  have counted : Discreet (h.strikeCount noise) := by
    unfold strikeCount
    dsimp only
    repeat' split
    all_goals rfl
  apply counted.andThen
  intro h count
  by_cases none : count = 0 <;> simp [Discreet, none, Event.removals]

end Habitat

theorem Organism.tickDelay_discreet (o : Organism) (g : Grid) :
    Attempt.Discreet (o.tickDelay g) := by
  unfold tickDelay setPhase
  dsimp only
  repeat' split
  all_goals rfl

def ForkKind.flagged (o : Organism) : ForkKind → Organism
  | flag => { o with flag := true }
  | cursor => o

/-- A child is a copy of its parent but for its flag, or for the place it starts from. -/
def ForkKind.child (parent : Organism) : ForkKind → Organism
  | flag => { parent with flag := false }
  | cursor => { parent with ip := parent.cursor }

def Effect.Inherits (parent : Organism) : Effect → Prop
  | .spawn child => child.delay = parent.delay ∧ child.phase = parent.phase
  | _ => True

namespace Scene
open Attempt

variable {s : Scene}

def Continues (before after : Scene) : Prop := before.organism.Continues after.organism

def asked (rules : Rules) (s : Scene) : Instruction → Int
  | .wait r => s.organism.register r
  | .cursorRun direction r =>
      if rules.instructionCosts then
        (s.organism.moveCursor s.habitat.grid direction (s.organism.register r)).2
      else 0
  | .paste =>
      match rules.instructionCosts, s.organism.clipboardSide with
      | true, .ok side => side
      | _, _ => 0
  | _ => 0

/-- An instruction leaves the standing of its organism alone, but it may end with a delay. -/
theorem act_standing (s : Scene) (rules : Rules) (instruction : Instruction) :
    (s.act rules instruction).state.organism.standing = s.organism.standing ∨
      ∃ o : Organism, o.standing = s.organism.standing ∧
        (s.act rules instruction).state.organism =
          (o.beginDelay (s.asked rules instruction)).state := by
  cases instruction with
  | halt => exact Or.inl rfl
  | haltIf => exact Or.inl rfl
  | fork kind => exact Or.inl rfl
  | wait r => exact Or.inr ⟨s.organism, rfl, rfl⟩
  | cursorRun direction r =>
      have moved := s.organism.standing_moveCursor s.habitat.grid direction (s.organism.register r)
      simp only [act, asked]
      split
      · exact Or.inr ⟨_, moved, rfl⟩
      · exact Or.inl moved
  | writeCell r => exact Or.inl rfl
  | copy =>
      simp only [act]
      rcases s.copy_cases with ⟨_, _, copied⟩ | ⟨_, failed⟩
      · rw [copied]
        exact Or.inl rfl
      · rw [failed]
        exact Or.inl rfl
  | paste =>
      simp only [act, asked]
      cases written : ((s.habitat.writeSquare rules.noise s.organism.cursor
          s.organism.clipboard).inside fun h => ({ s with habitat := h } : Scene)).answer with
      | error fault =>
          rw [andThen_of_error _ written]
          exact Or.inl rfl
      | ok _ =>
          rw [andThen_of_ok _ written]
          cases rules.instructionCosts with
          | false => exact Or.inl rfl
          | true =>
              cases s.organism.clipboardSide with
              | ok side => exact Or.inr ⟨s.organism, rfl, rfl⟩
              | error fault => exact Or.inl rfl
  | _ => exact Or.inl (Organism.standing_act _ _ _)

theorem act_continues (s : Scene) (rules : Rules) (instruction : Instruction) :
    (s.act rules instruction).Ensures s.Continues (fun _ => True) := by
  refine ⟨?_, fun _ _ => trivial⟩
  rcases act_standing s rules instruction with same | ⟨o, same, delayed⟩
  · exact .of_standing same
  · unfold Continues
    rw [delayed]
    exact (Organism.Continues.of_standing same).trans (.beginDelay o _)

theorem act_discreet (s : Scene) (rules : Rules) (instruction : Instruction) :
    Discreet (s.act rules instruction) := by
  have delayed (t : Scene) (cycles : Int) : Discreet (t.delay cycles) := by
    unfold Scene.delay Organism.beginDelay Organism.setPhase
    split
    · rfl
    · split <;> rfl
  cases instruction with
  | wait r => exact delayed s _
  | cursorRun direction r =>
      simp only [act]
      split
      · exact delayed _ _
      · rfl
  | writeCell r => exact Habitat.write_discreet _ _ _ _
  | copy =>
      simp only [act]
      rcases s.copy_cases with ⟨_, _, copied⟩ | ⟨_, failed⟩
      · rw [copied]
        rfl
      · rw [failed]
        rfl
  | paste =>
      have written : Discreet ((s.habitat.writeSquare rules.noise s.organism.cursor
          s.organism.clipboard).inside fun h => ({ s with habitat := h } : Scene)) :=
        Habitat.writeSquare_discreet _ _ _ _
      apply written.andThen
      intro t _
      split
      · split
        · exact delayed t _
        · rfl
      · rfl
  | _ => rfl

theorem moveOn_continues (s : Scene) (advance : Bool) : s.Continues (s.moveOn advance) := by
  unfold moveOn
  split
  · exact .of_standing rfl
  · exact .refl s.organism

/-- Only the instruction to fork asks for a child, and it does nothing before. -/
theorem act_grants (s : Scene) (rules : Rules) (instruction : Instruction) :
    (s.act rules instruction).Grants fun t outcome =>
      ∀ kind, outcome = .fork kind → t = s ∧ instruction = .fork kind := by
  have delayed (t : Scene) (cycles : Int) : (t.delay cycles).Grants fun u outcome =>
      ∀ kind, outcome = .fork kind → u = s ∧ instruction = .fork kind :=
    (Grants.anyway _).map fun _ _ _ _ other => by cases other
  have proceeding (t : Scene) : (Attempt.done t Outcome.proceed).Grants fun u outcome =>
      ∀ kind, outcome = .fork kind → u = s ∧ instruction = .fork kind :=
    .done fun _ other => by cases other
  cases instruction with
  | halt => exact .done fun _ other => by cases other
  | haltIf =>
      refine .done fun _ other => ?_
      split at other <;> cases other
  | fork kind => exact .done fun _ same => by cases same; exact ⟨rfl, rfl⟩
  | wait r => exact delayed s _
  | cursorRun direction r =>
      simp only [act]
      split
      · exact delayed _ _
      · exact proceeding _
  | writeCell r => exact (Grants.anyway _).map fun _ _ _ _ other => by cases other
  | copy =>
      simp only [act]
      rcases s.copy_cases with ⟨_, _, copied⟩ | ⟨_, failed⟩
      · rw [copied]
        exact proceeding _
      · rw [failed]
        exact .fail _ _
  | paste =>
      refine (Grants.anyway _).andThen fun t _ _ => ?_
      split
      · split
        · exact delayed t _
        · exact .fail _ _
      · exact proceeding t
  | _ => exact proceeding _

/-- What follows on the work of an instruction: nothing if it halts or fails, a step, or a fork with
the step before it. -/
theorem run_cases (s : Scene) (rules : Rules) (advance : Bool) (instruction : Instruction) :
    let acted := s.act rules instruction
    let ran := s.run rules advance (some instruction)
    (ran.state = acted.state ∧ (ran.answer = .ok .halt ∨ ∃ fault, ran.answer = .error fault)) ∨
    (ran.answer = .ok .proceed ∧ ran.state = acted.state.moveOn advance) ∨
    ∃ kind, instruction = .fork kind ∧ ran = (s.moveOn advance).fork kind := by
  simp only [run]
  cases answer : (s.act rules instruction).answer with
  | error fault =>
      rw [andThen_of_error _ answer]
      exact Or.inl ⟨rfl, Or.inr ⟨fault, rfl⟩⟩
  | ok outcome =>
      cases outcome with
      | halt =>
          rw [andThen_of_ok _ answer]
          exact Or.inl ⟨rfl, Or.inl rfl⟩
      | proceed =>
          rw [andThen_of_ok _ answer]
          exact Or.inr (Or.inl ⟨rfl, rfl⟩)
      | fork kind =>
          -- A fork is asked for before anything else is done.
          obtain ⟨_, rfl⟩ := act_grants s rules instruction _ answer kind rfl
          exact Or.inr (Or.inr ⟨kind, rfl, rfl⟩)

theorem standing_moveOn (s : Scene) (advance : Bool) :
    (s.moveOn advance).organism.standing = s.organism.standing := by
  unfold moveOn
  split <;> rfl

theorem fork_eq (s : Scene) (kind : ForkKind) :
    (s.fork kind).state = { s with organism := (kind.flagged s.organism).takeChild.1 } ∧
      (s.fork kind).answer = if s.organism.children = some 0 then .ok .proceed
        else .ok (.spawn (kind.child (kind.flagged s.organism).takeChild.1)) := by
  by_cases used : s.organism.children = some 0
  · cases kind <;> simp [fork, Organism.takeChild_eq, ForkKind.flagged, used]
  · cases kind <;> simp [fork, Organism.takeChild_eq, ForkKind.flagged, ForkKind.child, used]

theorem takeChild_delay (o : Organism) :
    o.takeChild.1.delay = o.delay ∧ o.takeChild.1.phase = o.phase := by
  unfold Organism.takeChild
  split
  · exact ⟨rfl, rfl⟩
  · split <;> exact ⟨rfl, rfl⟩

theorem fork_takes (s : Scene) (kind : ForkKind) :
    (s.fork kind).Ensures
      (fun t => ∃ parent : Organism, parent.standing = s.organism.standing ∧
        t.organism = parent.takeChild.1)
      (Effect.Inherits s.organism) := by
  obtain ⟨state, answer⟩ := s.fork_eq kind
  have standing : (kind.flagged s.organism).standing = s.organism.standing := by
    cases kind <;> rfl
  obtain ⟨delay, phase⟩ := takeChild_delay (kind.flagged s.organism)
  constructor
  · exact ⟨kind.flagged s.organism, standing, by rw [state]⟩
  · intro effect given
    rw [answer] at given
    split at given
    · cases given
      trivial
    · cases given
      cases kind <;> exact ⟨delay, phase⟩

theorem fork_continues (s : Scene) (kind : ForkKind) :
    (s.fork kind).Ensures s.Continues (Effect.Inherits s.organism) := by
  refine (fork_takes s kind).weaken ?_ fun _ inherits => inherits
  rintro t ⟨parent, same, taken⟩
  unfold Continues
  rw [taken]
  exact (Organism.Continues.of_standing same).trans (.takeChild parent)

theorem fork_delay (s : Scene) (kind : ForkKind) :
    (s.fork kind).state.organism.delay = s.organism.delay ∧
      (s.fork kind).state.organism.phase = s.organism.phase := by
  obtain ⟨parent, same, taken⟩ := (fork_takes s kind).state
  obtain ⟨delay, phase⟩ := takeChild_delay parent
  rw [taken, delay, phase]
  exact ⟨congrArg Organism.Standing.delay same, congrArg Organism.Standing.phase same⟩

theorem fork_discreet (s : Scene) (kind : ForkKind) : Discreet (s.fork kind) := by
  unfold fork
  dsimp only
  split <;> rfl

section Runs
variable (s : Scene) (rules : Rules) (advance : Bool) (instruction : Option Instruction)

theorem run_continues :
    (s.run rules advance instruction).Ensures s.Continues (Effect.Inherits s.organism) := by
  unfold run
  cases instruction with
  | none =>
      simp only [done_andThen]
      exact .done (moveOn_continues s advance) trivial
  | some instruction =>
      refine (act_continues s rules instruction).andThen_granted (act_grants s rules instruction) ?_
      intro t outcome reached unchanged
      cases outcome with
      | halt => exact .done reached trivial
      | proceed => exact .done (reached.trans (moveOn_continues t advance)) trivial
      | fork kind =>
          -- A fork is asked for before anything else is done.
          cases (unchanged kind rfl).1
          have standing := standing_moveOn s advance
          refine (fork_continues (s.moveOn advance) kind).weaken ?_ ?_
          · exact fun _ later => (moveOn_continues s advance).trans later
          · intro effect inherits
            cases effect with
            | spawn child =>
                exact ⟨inherits.1.trans (congrArg Organism.Standing.delay standing),
                  inherits.2.trans (congrArg Organism.Standing.phase standing)⟩
            | _ => trivial

theorem run_discreet : Discreet (s.run rules advance instruction) := by
  unfold run
  cases instruction with
  | none => rfl
  | some instruction =>
      apply (act_discreet s rules instruction).andThen
      intro t outcome
      cases outcome with
      | halt => rfl
      | proceed => rfl
      | fork kind => exact fork_discreet _ kind

end Runs

theorem execute_continues (s : Scene) (rules : Rules) :
    (s.execute rules).Ensures s.Continues (Effect.Inherits s.organism) :=
  run_continues s rules true _

theorem execute_discreet (s : Scene) (rules : Rules) : Discreet (s.execute rules) :=
  run_discreet s rules true _

theorem act_started {rules : Rules} {instruction : Instruction} (ready : s.organism.phase = .ready)
    (delaying : (s.act rules instruction).state.organism.phase = .delaying) :
    (s.act rules instruction).state.organism.delay = s.asked rules instruction := by
  rcases act_standing s rules instruction with same | ⟨o, same, delayed⟩
  · have phase := congrArg Organism.Standing.phase same
    cases (delaying.symm.trans phase).trans ready
  · have phase : o.phase = .ready := (congrArg Organism.Standing.phase same).trans ready
    rw [delayed] at delaying ⊢
    exact Organism.beginDelay_started phase delaying

theorem run_delay (s : Scene) (rules : Rules) (advance : Bool) (instruction : Instruction) :
    (s.run rules advance (some instruction)).state.organism.delay =
        (s.act rules instruction).state.organism.delay ∧
      (s.run rules advance (some instruction)).state.organism.phase =
        (s.act rules instruction).state.organism.phase := by
  have moved (t : Scene) : (t.moveOn advance).organism.delay = t.organism.delay ∧
      (t.moveOn advance).organism.phase = t.organism.phase :=
    ⟨congrArg Organism.Standing.delay (standing_moveOn t advance),
      congrArg Organism.Standing.phase (standing_moveOn t advance)⟩
  rcases s.run_cases rules advance instruction with ⟨same, _⟩ | ⟨_, stepped⟩ | ⟨kind, rfl, forked⟩
  · rw [same]
    exact ⟨rfl, rfl⟩
  · rw [stepped]
    exact moved _
  · obtain ⟨delay, phase⟩ := fork_delay (s.moveOn advance) kind
    rw [forked]
    exact ⟨delay.trans (moved s).1, phase.trans (moved s).2⟩

/-- An organism that is ready waits only for as long as the instruction it executes asks for. -/
theorem execute_started {rules : Rules} (ready : s.organism.phase = .ready)
    (delaying : (s.execute rules).state.organism.phase = .delaying) :
    ∃ instruction, Instruction.ofByte? (s.habitat.grid.read s.organism.ip) = some instruction ∧
      (s.execute rules).state.organism.delay = s.asked rules instruction := by
  unfold execute at delaying ⊢
  cases decoded : Instruction.ofByte? (s.habitat.grid.read s.organism.ip) with
  | none =>
      rw [decoded] at delaying
      have still := congrArg Organism.Standing.phase (standing_moveOn s true)
      cases (delaying.symm.trans still).trans ready
  | some instruction =>
      rw [decoded] at delaying
      obtain ⟨delay, phase⟩ := run_delay s rules true instruction
      exact ⟨instruction, rfl, delay.trans (act_started ready (phase.symm.trans delaying))⟩

end Scene
end Terrarium
