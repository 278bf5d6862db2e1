import Terrarium.Proofs.Simulation.Reseeding
import Terrarium.Simulation.RunLoop

/-!
What the seed is for. Main statement: simulations that are built alike but for their seeds stay
alike under the same deeds, for as long as noise is off and nobody is culled by lot, and their
generators stay where the seeds put them.
-/

namespace Terrarium

def Deed.call (deed : Deed) : Call := fun s => (s.act deed).map fun _ => ()

namespace Simulation
variable {s : Simulation} {seed : Nat} {g : Generator}

def QuietThroughout (s : Simulation) : List Deed → Prop
  | [] => s.Quiet
  | deed :: rest => s.Quiet ∧ (s.act deed).state.QuietThroughout rest

instance decidableQuietThroughout : ∀ (deeds : List Deed) (s : Simulation),
    Decidable (s.QuietThroughout deeds)
  | [], s => inferInstanceAs (Decidable s.Quiet)
  | deed :: rest, s =>
      have : Decidable ((s.act deed).state.QuietThroughout rest) :=
        decidableQuietThroughout rest (s.act deed).state
      inferInstanceAs (Decidable (s.Quiet ∧ (s.act deed).state.QuietThroughout rest))

theorem call_reseeded (quiet : s.Quiet) (deed : Deed) :
    deed.call (s.reseeded seed g) = (deed.call s).inside (reseeded seed g) := by
  cases apart : deed.isAboutSeed with
  | false => exact congrArg (Attempt.map fun _ => ()) (act_reseeded quiet deed apart)
  | true =>
      unfold Deed.isAboutSeed at apart
      split at apart
      · rfl
      · rfl
      · cases apart

theorem act_events_reseeded (quiet : s.Quiet) (deed : Deed) :
    ((s.reseeded seed g).act deed).events = (s.act deed).events := by
  have called : deed.call (s.reseeded seed g) = _ := call_reseeded quiet deed
  have events := congrArg Attempt.events called
  exact events

theorem QuietThroughout.after {deeds : List Deed} (quiet : s.QuietThroughout deeds) :
    (s.after deeds).Quiet := by
  induction deeds generalizing s with
  | nil => exact quiet
  | cons deed rest ih => exact ih quiet.2

theorem after_reseeded {deeds : List Deed} (quiet : s.QuietThroughout deeds) :
    (s.reseeded seed g).after deeds = (s.after deeds).reseeded seed g := by
  induction deeds generalizing s with
  | nil => rfl
  | cons deed rest ih =>
      have first : ((s.reseeded seed g).act deed).state = (s.act deed).state.reseeded seed g :=
        congrArg Attempt.state (call_reseeded quiet.1 deed)
      rw [after_cons, first, ih quiet.2, after_cons]

theorem calls_reseeded {deeds : List Deed} (quiet : s.QuietThroughout deeds) :
    Attempt.forEach (fun s call => call s) (deeds.map Deed.call) (s.reseeded seed g) =
      (Attempt.forEach (fun s call => call s) (deeds.map Deed.call) s).inside
        (reseeded seed g) := by
  induction deeds generalizing s with
  | nil => rfl
  | cons deed rest ih =>
      rw [List.map_cons, Attempt.forEach, Attempt.forEach, call_reseeded quiet.1]
      apply Attempt.inside_andThen
      intro _ _
      exact ih quiet.2

end Simulation

namespace Watched
open Simulation
variable {w : Watched} {seed : Nat} {g : Generator}

def reseeded (seed : Nat) (g : Generator) (w : Watched) : Watched :=
  { w with simulation := w.simulation.reseeded seed g }

def QuietInSleeps : List (List Deed) → Watched → Prop
  | [], w => w.simulation.Quiet
  | deeds :: rest, w =>
      let slept := (w.pass stepCycle).state
      w.simulation.Quiet ∧ slept.simulation.QuietThroughout deeds ∧
        QuietInSleeps rest (slept.act (deeds.map Deed.call)).state

theorem pass_setup (w : Watched) :
    (w.pass stepCycle).Ensures (fun v => SameSetup w.simulation v.simulation) (fun _ => True) := by
  have looped : (w.simulation.loopCycle stepCycle).Ensures (SameSetup w.simulation)
      (fun _ => True) := by
    unfold loopCycle
    dsimp only
    split <;> exact ⟨(SameSetup.refl _).stepCycle.state, fun _ _ => trivial⟩
  have passed : (w.simulation.pass stepCycle).Ensures (SameSetup w.simulation)
      (fun _ => True) := by
    unfold Simulation.pass
    split
    · exact .done (.refl _) trivial
    · split
      · exact .done (.refl _) trivial
      · split
        · exact ⟨.refl _, fun _ _ => trivial⟩
        · apply looped.andThen
          intro t _ same _
          unfold reportIfDue
          split <;> exact ⟨same, fun _ _ => trivial⟩
  have lifted : (w.lift (w.simulation.pass stepCycle)).Ensures
      (fun v => SameSetup w.simulation v.simulation) (fun _ => True) :=
    passed.inside fun _ same => same
  apply lifted.andThen
  intro v outcome same _
  cases outcome with
  | left => exact .done same trivial
  | asleep =>
      dsimp only
      split
      · exact .fail _ same
      · exact .done same trivial

theorem lift_reseeded {α : Type} (w : Watched) (attempt : Attempt Simulation α) :
    (w.reseeded seed g).lift (attempt.inside (Simulation.reseeded seed g)) =
      (w.lift attempt).inside (reseeded seed g) := rfl

theorem pass_reseeded (quiet : w.simulation.Quiet) :
    (w.reseeded seed g).pass stepCycle = (w.pass stepCycle).inside (reseeded seed g) := by
  have looped : (w.simulation.reseeded seed g).loopCycle stepCycle =
      (w.simulation.loopCycle stepCycle).inside (Simulation.reseeded seed g) := by
    unfold loopCycle
    rw [stepCycle_reseeded quiet]
    dsimp only [Attempt.inside]
    split <;> rfl
  have reported (s : Simulation) : (s.reseeded seed g).reportIfDue =
      s.reportIfDue.inside (Simulation.reseeded seed g) := by
    have due : every (s.reseeded seed g).cycle (s.reseeded seed g).settings.logInterval =
        every s.cycle s.settings.logInterval := rfl
    unfold reportIfDue
    rw [due]
    split <;> rfl
  have passed : (w.simulation.reseeded seed g).pass stepCycle =
      (w.simulation.pass stepCycle).inside (Simulation.reseeded seed g) := by
    have running : (w.simulation.reseeded seed g).running = w.simulation.running := rfl
    have paused : (w.simulation.reseeded seed g).paused = w.simulation.paused := rfl
    have cap : (w.simulation.reseeded seed g).reachedCap? = w.simulation.reachedCap? := rfl
    unfold Simulation.pass
    rw [running, paused, cap, looped]
    split
    · rfl
    · split
      · rfl
      · split
        · rfl
        · apply Attempt.inside_andThen
          intro _ _
          rw [reported]
          rfl
  have simulation : (w.reseeded seed g).simulation = w.simulation.reseeded seed g := rfl
  rw [pass, pass, simulation, passed, lift_reseeded]
  apply Attempt.inside_andThen
  intro outcome _
  cases outcome with
  | left => rfl
  | asleep =>
      have sleep (v : Watched) : (v.reseeded seed g).simulation.sleep = v.simulation.sleep := rfl
      dsimp only
      rw [sleep]
      split <;> rfl

theorem act_reseeded {deeds : List Deed} (quiet : w.simulation.QuietThroughout deeds) :
    (w.reseeded seed g).act (deeds.map Deed.call) =
      (w.act (deeds.map Deed.call)).inside (reseeded seed g) := by
  have simulation : (w.reseeded seed g).simulation = w.simulation.reseeded seed g := rfl
  rw [act, simulation, calls_reseeded quiet, lift_reseeded]
  rfl

theorem coast_reseeded (left : Nat) (quiet : w.simulation.Quiet) :
    coast stepCycle left (w.reseeded seed g) =
      (coast stepCycle left w).inside (reseeded seed g) := by
  have paused (v : Watched) :
      (v.reseeded seed g).simulation.paused = v.simulation.paused := rfl
  have settings (v : Watched) :
      (v.reseeded seed g).simulation.settings = v.simulation.settings := rfl
  -- A run that would not end by itself is stopped and left in one more pass.
  have stopped (v : Watched) (quiet : v.simulation.Quiet) :
      (({ v.reseeded seed g with simulation := (v.reseeded seed g).simulation.stop } :
        Watched).pass stepCycle).map (fun _ => ()) =
      ((({ v with simulation := v.simulation.stop } : Watched).pass stepCycle).map
        fun _ => ()).inside (reseeded seed g) := by
    have quiet : v.simulation.stop.Quiet := ⟨quiet.noise, quiet.certain⟩
    exact congrArg (Attempt.map fun _ => ())
      (pass_reseeded (w := { v with simulation := v.simulation.stop }) quiet)
  induction left generalizing w with
  | zero =>
      unfold coast
      rw [pass_reseeded quiet]
      apply Attempt.inside_andThen
      intro outcome _
      cases outcome with
      | left => rfl
      | asleep =>
          dsimp only
          rw [paused, settings]
          split
          · exact stopped _ (quiet.of_setup w.pass_setup.state)
          · rfl
  | succ left ih =>
      unfold coast
      rw [pass_reseeded quiet]
      apply Attempt.inside_andThen
      intro outcome _
      cases outcome with
      | left => rfl
      | asleep =>
          dsimp only
          rw [paused, settings]
          split
          · exact stopped _ (quiet.of_setup w.pass_setup.state)
          · exact ih (quiet.of_setup w.pass_setup.state)

theorem loop_reseeded {schedule : List (List Deed)} (quiet : QuietInSleeps schedule w) :
    loop stepCycle (schedule.map (List.map Deed.call)) (w.reseeded seed g) =
      (loop stepCycle (schedule.map (List.map Deed.call)) w).inside (reseeded seed g) := by
  induction schedule generalizing w with
  | nil => exact coast_reseeded _ quiet
  | cons deeds rest ih =>
      obtain ⟨quiet, called, later⟩ := quiet
      rw [List.map_cons, loop, loop, pass_reseeded quiet]
      apply Attempt.inside_andThen
      intro outcome _
      cases outcome with
      | left => rfl
      | asleep =>
          dsimp only
          rw [act_reseeded called]
          apply Attempt.inside_andThen
          intro _ _
          exact ih later

end Watched

namespace Simulation
variable {s t : Simulation} {seed : Nat} {g : Generator}

def started (s : Simulation) : Watched := ⟨{ s with running := true }, []⟩

theorem run_reseeded {schedule : List (List Deed)}
    (quiet : Watched.QuietInSleeps schedule s.started) :
    (s.reseeded seed g).run (schedule.map (List.map Deed.call)) =
      (s.run (schedule.map (List.map Deed.call))).inside (Watched.reseeded seed g) := by
  have looped : Watched.loop stepCycle (schedule.map (List.map Deed.call))
      (s.started.reseeded seed g) = _ := Watched.loop_reseeded quiet
  have run (u : Simulation) : u.run (schedule.map (List.map Deed.call)) =
      (Attempt.tell u.started .started).andThen fun w _ =>
        Watched.finish (Watched.loop stepCycle (schedule.map (List.map Deed.call)) w) := rfl
  have told : Attempt.tell (s.reseeded seed g).started .started =
      (Attempt.tell s.started .started).inside (Watched.reseeded seed g) := rfl
  rw [run, run, told]
  apply Attempt.inside_andThen
  intro _ _
  exact congrArg Watched.finish looped

structure SameButSeed (s t : Simulation) : Prop where
  grid : t.grid = s.grid
  population : t.population = s.population
  cycle : t.cycle = s.cycle
  metrics : t.metrics = s.metrics
  settings : t.settings = s.settings
  status : t.status = s.status

/-- The generator is as it was right after seeding. -/
def Undrawn (s : Simulation) : Prop := s.habitat.generator = Generator.ofSeed s.seed

theorem reseeded_sameButSeed (s : Simulation) : SameButSeed s (s.reseeded seed g) :=
  ⟨rfl, rfl, rfl, rfl, rfl, rfl⟩

theorem Undrawn.reseeded_self (undrawn : s.Undrawn) :
    s.reseeded s.seed (Generator.ofSeed s.seed) = s := by
  rw [← undrawn]
  rfl

theorem build_reseeded {world : WorldSettings} {settings : RunSettings} {remover : Remover}
    {other digitLimit : Option Nat} {offered offered' : Nat}
    (built : (build world settings remover offered digitLimit).answer = .ok s)
    (built' : (build { world with seed := other } settings remover offered' digitLimit).answer =
      .ok t) :
    s.Undrawn ∧ t = s.reseeded t.seed (Generator.ofSeed t.seed) := by
  unfold build at built built'
  cases laid : Grid.build world.width world.height world.fill.toNat with
  | error fault =>
      rw [laid] at built
      cases built
  | ok grid =>
      rw [laid] at built built'
      cases built
      cases built'
      exact ⟨rfl, rfl⟩

/-- With noise off and nobody culled by lot, two simulations that are built alike but for their seeds
stay alike under the same deeds and answer alike, unless they are asked for what was seeded; the
same goes for a run of the loop with deeds in its sleeps. Neither ever draws. -/
theorem seed_is_idle_without_chance {world : WorldSettings} {settings : RunSettings}
    {remover : Remover} {other digitLimit : Option Nat} {offered offered' : Nat}
    (built : (build world settings remover offered digitLimit).answer = .ok s)
    (built' : (build { world with seed := other } settings remover offered' digitLimit).answer =
      .ok t)
    {deeds : List Deed} (quiet : s.QuietThroughout deeds) :
    SameButSeed (s.after deeds) (t.after deeds) ∧
    (s.after deeds).Undrawn ∧ (t.after deeds).Undrawn ∧
    (∀ deed : Deed, ((t.after deeds).act deed).events = ((s.after deeds).act deed).events ∧
      (deed.isAboutSeed = false →
        ((t.after deeds).act deed).answer = ((s.after deeds).act deed).answer)) ∧
    (∀ schedule, Watched.QuietInSleeps schedule (s.after deeds).started →
      let ran := (s.after deeds).run (schedule.map (List.map Deed.call))
      let ran' := (t.after deeds).run (schedule.map (List.map Deed.call))
      SameButSeed ran.state.simulation ran'.state.simulation ∧
      ran.state.simulation.Undrawn ∧ ran'.state.simulation.Undrawn ∧
      ran'.state.sleeps = ran.state.sleeps ∧ ran'.events = ran.events ∧
        ran'.answer = ran.answer) := by
  obtain ⟨undrawn, twin⟩ := build_reseeded built built'
  -- Both are the first one reseeded, the first with its own seed.
  have own : s.after deeds = (s.after deeds).reseeded s.seed (Generator.ofSeed s.seed) := by
    rw [← after_reseeded quiet, undrawn.reseeded_self]
  have others : t.after deeds = (s.after deeds).reseeded t.seed (Generator.ofSeed t.seed) := by
    rw [← after_reseeded quiet, ← twin]
  refine ⟨?_, ?_, ?_, ?_, ?_⟩
  · rw [others]
    exact reseeded_sameButSeed _
  · rw [own]
    rfl
  · rw [others]
    rfl
  · intro deed
    rw [others]
    constructor
    · exact act_events_reseeded quiet.after deed
    · intro apart
      rw [act_reseeded quiet.after deed apart]
      rfl
  · intro schedule calm ran ran'
    have ownRun : ran = ran.inside (Watched.reseeded s.seed (Generator.ofSeed s.seed)) := by
      rw [← run_reseeded calm, ← own]
    have otherRun : ran' = ran.inside (Watched.reseeded t.seed (Generator.ofSeed t.seed)) := by
      rw [← run_reseeded calm, ← others]
    refine ⟨?_, ?_, ?_, ?_, ?_, ?_⟩
    · rw [otherRun]
      exact reseeded_sameButSeed _
    · rw [ownRun]
      rfl
    · rw [otherRun]
      rfl
    · rw [otherRun]
      rfl
    · rw [otherRun]
      rfl
    · rw [otherRun]
      rfl

/-- A program that writes, in a cycle and in focus. -/
theorem seed_is_idle_without_chance_twoCells :
    let s := twoCells
    let t := twoCells.reseeded 8 (Generator.ofSeed 8)
    let deeds : List Deed := [.perform (.writeInstruction ⟨0, 0⟩ "ma"),
      .perform (.spawn ⟨0, 0⟩ .right), .perform .step, .perform (.setFocus (some ⟨0, 0⟩)),
      .perform (.runFocused ["ma", "-="])]
    s.QuietThroughout deeds ∧ (s.after deeds).metrics.births = 1 ∧
      (t.after deeds).population = (s.after deeds).population ∧
      (t.after deeds).habitat.generator = Generator.ofSeed 8 := by
  intro s t deeds
  let world : WorldSettings := { width := 2, height := 1, fill := 0 }
  have built : (build world {} .oldest 7).answer = .ok s := rfl
  have built' : (build { world with seed := some 8 } {} .oldest 0).answer = .ok t := rfl
  have quiet : s.QuietThroughout deeds := by decide +kernel
  have births : (s.after deeds).metrics.births = 1 := by decide +kernel
  have seed : (t.after deeds).seed = 8 := by decide +kernel
  obtain ⟨same, _, undrawn, _⟩ := seed_is_idle_without_chance built built' quiet
  rw [Undrawn, seed] at undrawn
  exact ⟨quiet, births, same.population, undrawn⟩

end Simulation
end Terrarium
