import Terrarium.Batch
import Terrarium.Proofs.Simulation.ServedRun

/-!
A batch takes its run down in order, and only then it exports: what comes into the directory is
made from the simulation as a run left it that nothing can set going again.
-/

namespace Terrarium

/-- A cycle that meets a stray fails, and all others are those of a simulation without strays. -/
theorem Planted.cycle_of_ok {p : Planted} {s : Simulation} (ended : (p.cycle s).answer = .ok ()) :
    p.cycle s = s.stepCycle := by
  unfold Planted.cycle at ended ⊢
  split
  · rfl
  · next stray met =>
      rw [met] at ended
      obtain ⟨_, _, failed⟩ := Attempt.andThen_ok ended
      cases failed

theorem Planted.cycle_paced (p : Planted) : Paced p.cycle :=
  Simulation.stepCycle_paced.of_ok fun _ => cycle_of_ok

namespace Batch
open Shutdown

namespace Work
variable {w : Work} {d : Document} {moments : List Moment}

theorem served_stopped (w : Work) (moments : List Moment) :
    (w.served moments).Stopped w.planted.cycle :=
  Served.whole_stopped w.planted.cycle_paced w.simulation moments

def afterRun (w : Work) (moments : List Moment) : Work :=
  w.withSimulation (w.served moments).watched.simulation

/-- Nothing is exported, or the run has told all it tells before the exporting begins. -/
theorem perform_exports (w : Work) (d : Document) (moments : List Moment) :
    (w.perform d moments).state.directory = w.directory ∨
      ∃ opening, (w.perform d moments).events = opening ++ (w.served moments).told ++
          .batch .exporting :: ((w.afterRun moments).exports d).events ∧
        (w.perform d moments).state = ((w.afterRun moments).exports d).state := by
  have told {line : BatchLine} {next : Work → Unit → Attempt Work Unit} :
      (w.tell line).andThen next =
        ⟨(next w ()).state, .batch line :: (next w ()).events, (next w ()).answer⟩ := rfl
  unfold perform
  cases asked : setting d "run" "max_cycles" with
  | error fault => exact .inl rfl
  | ok limit =>
      simp only [told, reading]
      cases ran : (w.run moments).answer with
      | error fault =>
          rw [Attempt.andThen_of_error _ ran]
          exact .inl rfl
      | ok _ =>
          rw [Attempt.andThen_of_ok _ ran]
          exact .inr ⟨[.batch (.seed w.simulation.seed), .batch (.cycleLimit limit), .batch .running],
            rfl, rfl⟩

end Work

/-- A batch whose exports come after all that its run tells, and are made of what the run has
left. -/
structure ExportsAfterRun (d : Document) (offered : Nat) (moments : List Moment) (w : Work) :
    Prop where
  built : (Planted.ofDocument d offered).answer = .ok w.planted
  told : ∃ opening closing, (run d offered moments).events =
    opening ++ (w.served moments).told ++
      .batch .exporting :: ((w.afterRun moments).exports d).events ++ closing
  state : (run d offered moments).state = ((w.afterRun moments).exports d).state.directory

theorem run_of_built {d : Document} {offered : Nat} {planted : Planted}
    (built : (Planted.ofDocument d offered).answer = .ok planted) (moments : List Moment) :
    let worked := Work.perform { planted := planted, directory := {} } d moments
    (run d offered moments).state = worked.state.directory ∧
      ∃ opening closing, (run d offered moments).events = opening ++ worked.events ++ closing := by
  intro worked
  unfold run
  dsimp only
  rw [built]
  exact ⟨rfl, _, _, rfl⟩

theorem run_exports (d : Document) (offered : Nat) (moments : List Moment) :
    (run d offered moments).state = {} ∨ ∃ w, ExportsAfterRun d offered moments w := by
  cases built : (Planted.ofDocument d offered).answer with
  | error fault =>
      refine .inl ?_
      simp only [run, built]
  | ok planted =>
      obtain ⟨state, opening, closing, events⟩ := run_of_built built moments
      obtain kept | ⟨prelude, told, worked⟩ :=
        Work.perform_exports { planted := planted, directory := {} } d moments
      · exact .inl (state.trans kept)
      · refine .inr ⟨_, built, ⟨opening ++ prelude, closing, ?_⟩,
          state.trans (congrArg Work.directory worked)⟩
        rw [events, told]
        simp only [List.append_assoc]

/-- Serving takes its tasks down in order, whatever they are and whatever occurs. A batch serves
its run in this way, however it is disturbed: when serving is finished the loop has been left for
good, it comes to that in the end, and nothing is exported before. -/
theorem takes_down_in_order :
    (∀ (callbacks grace : Nat) (tasks : List Progress) (schedule : List Occurrence),
      Wakes tasks schedule → Service.TakenDown callbacks grace tasks schedule
        ((Service.start callbacks grace tasks).run schedule)) ∧
    (∀ (w : Work) (moments : List Moment),
      let served := moments.foldl (Served.meet w.planted.cycle)
        (Served.start w.planted.cycle w.simulation)
      served.Coherent ∧ (served.service.isFinished = true → served.Stopped w.planted.cycle) ∧
        (w.served moments).Coherent ∧ (w.served moments).Stopped w.planted.cycle) ∧
    ∀ (d : Document) (offered : Nat) (moments : List Moment),
      (run d offered moments).state = {} ∨ ∃ w, ExportsAfterRun d offered moments w := by
  refine ⟨fun callbacks grace tasks schedule => Service.start_takenDown, fun w moments => ?_,
    run_exports⟩
  have coherent := Served.meets_coherent w.planted.cycle w.simulation moments
  exact ⟨coherent, coherent.stops, Served.whole_coherent _ _ moments, w.served_stopped moments⟩

/-- Two tasks and a signal: the first fails within the grace period, the second is cancelled. -/
theorem takes_down_in_order_twoTasks :
    let tasks : List Progress := [none, none]
    let schedule : List Occurrence :=
      [.signal .terminate, .ends 0 (.failed "ValueError" "refused"), .elapses 20,
        .ends 1 .cancelled]
    let served := (Service.start 2 20 tasks).run schedule
    Wakes tasks schedule ∧ Service.TakenDown 2 20 tasks schedule served ∧
      served.actions = [.listen .interrupt, .listen .terminate, .wake, .call 0, .call 1, .cancel 1,
        .ignore .interrupt, .ignore .terminate] ∧
      served.raised = some ("ValueError", "refused") := by
  intro tasks schedule served
  have wakes : Wakes tasks schedule := .inl ⟨.terminate, by decide⟩
  exact ⟨wakes, takes_down_in_order.1 2 20 tasks schedule wakes, by decide, by decide⟩

end Batch
end Terrarium
