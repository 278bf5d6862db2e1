import Terrarium.Proofs.Shutdown.Stages

/-!
When the wait is over. Main statement: at once with the first signal or the first ending of a
task that was running when the wait began, and with nothing else; the stop callbacks are called
then. A task that was over before is not waited for, so a failure that is there from the
beginning is not raised before something else ends the wait.
-/

namespace Terrarium.Shutdown
namespace Service
variable {s : Service}

theorem hear_waits (s : Service) (occurrence : Occurrence) :
    (s.hear occurrence).waits = s.waits := by
  rw [waits, hear_stage, ← waits]

theorem closeIfOver_woken (woken : s.waits = false) : s.closeIfOver.waits = false := by
  unfold closeIfOver
  split
  · rfl
  · exact woken

/-- The wait is over once and for all. -/
theorem occur_woken (woken : s.waits = false) (occurrence : Occurrence) :
    (s.occur occurrence).waits = false := by
  have heard := (hear_waits s occurrence).trans woken
  cases stage : s.stage with
  | waiting watched => simp [waits_of_waiting stage] at woken
  | granting left =>
      rw [occur_of_granting stage]
      cases occurrence with
      | signal signal => exact woken
      | ends task ending => exact closeIfOver_woken heard
      | elapses ticks => dsimp only; split <;> rfl
  | reaping =>
      rw [occur_of_reaping stage]
      cases occurrence with
      | ends task ending => exact closeIfOver_woken heard
      | _ => exact woken
  | finished raised =>
      rw [occur_of_finished stage]
      exact heard

theorem occur_signal_woken (s : Service) (signal : Signal) :
    (s.occur (.signal signal)).waits = false := by
  cases stage : s.stage with
  | waiting watched =>
      rw [occur_of_waiting stage]
      exact closeIfOver_woken rfl
  | _ => exact occur_woken (by rw [waits, stage]) _

theorem waits_of_occur {occurrence : Occurrence} (going : (s.occur occurrence).waits = true) :
    s.waits = true :=
  Bool.of_not_eq_false fun woken => by simp [occur_woken woken] at going

theorem run_woken (woken : s.waits = false) (schedule : List Occurrence) :
    (s.run schedule).waits = false := by
  induction schedule generalizing s with
  | nil => exact woken
  | cons occurrence rest ih => exact ih (occur_woken woken occurrence)

theorem run_waits {watched : List Nat} (stage : s.stage = .waiting watched)
    (schedule : List Occurrence) :
    (s.run schedule).waits = !schedule.any (·.rouses watched) := by
  induction schedule generalizing s with
  | nil => simpa [run] using waits_of_waiting stage
  | cons occurrence rest ih =>
      rw [List.any_cons, run_cons, occur_of_waiting stage]
      split
      · next rousing =>
          have woken : (s.hear occurrence).wake.closeIfOver.waits = false := closeIfOver_woken rfl
          simp [rousing, run_woken woken]
      · next quiet => simp [quiet, ih ((hear_stage s occurrence).trans stage)]

theorem rouses_iff {watched : List Nat} {schedule : List Occurrence} :
    schedule.any (·.rouses watched) ↔
      (∃ signal, .signal signal ∈ schedule) ∨ ∃ i ending, i ∈ watched ∧ .ends i ending ∈ schedule := by
  rw [List.any_eq_true]
  constructor
  · rintro ⟨occurrence, member, rousing⟩
    cases occurrence with
    | signal signal => exact .inl ⟨signal, member⟩
    | ends task ending => exact .inr ⟨task, ending, by simpa [Occurrence.rouses] using rousing, member⟩
    | elapses ticks => cases rousing
  · rintro (⟨signal, member⟩ | ⟨i, ending, watching, member⟩)
    · exact ⟨_, member, rfl⟩
    · exact ⟨_, member, by simpa [Occurrence.rouses] using watching⟩

theorem start_run_woken {callbacks grace : Nat} {tasks : List Progress}
    {schedule : List Occurrence} :
    ((start callbacks grace tasks).run schedule).waits = false ↔
      (∃ signal, .signal signal ∈ schedule) ∨
        ∃ i ending, tasks[i]? = some none ∧ .ends i ending ∈ schedule := by
  have waits := run_waits (s := start callbacks grace tasks) rfl schedule
  rw [waits]
  simp only [Bool.not_eq_false', rouses_iff, mem_running]

theorem Orderly.called {callbacks grace : Nat} (orderly : Orderly callbacks grace s) :
    s.called = if s.waits then [] else List.range callbacks := by
  split
  · next going =>
      cases stage : s.stage with
      | waiting watched => simp [Service.called, orderly.at_waiting stage, Signal.all]
      | _ => simp [waits, stage] at going
  · next woken => exact called_of_actions (orderly.actions_of_woken (by simpa using woken))

/-- For every schedule of what occurs: the wait is over just when it holds a signal or an
ending of a task that was running at the beginning, and until then no callback is called. -/
theorem wait_ends_with_signal_or_watched_end (callbacks grace : Nat) (tasks : List Progress)
    (schedule : List Occurrence) :
    let served := (start callbacks grace tasks).run schedule
    (served.waits = false ↔
      (∃ signal, .signal signal ∈ schedule) ∨
        ∃ i ending, tasks[i]? = some none ∧ .ends i ending ∈ schedule) ∧
      served.called = if served.waits then [] else List.range callbacks :=
  ⟨start_run_woken, (run_orderly callbacks grace tasks schedule).called⟩

/-- A task that failed before the wait does not end it, and its failure is not raised: nothing
is, however long the wait goes on. -/
theorem failed_task_is_waited_beside :
    let failed : Progress := some (.failed "RuntimeError" "boom")
    let served := (start 1 20 [failed]).run [.elapses 1000]
    served.waits = true ∧ served.called = [] ∧ served.raised = none ∧
      ¬ ∀ (callbacks grace : Nat) (tasks : List Progress) (schedule : List Occurrence),
        ((∃ signal, .signal signal ∈ schedule) ∨
          ∃ progress ∈ ((start callbacks grace tasks).run schedule).tasks, progress ≠ none) →
        ((start callbacks grace tasks).run schedule).waits = false := by
  intro failed served
  have going : served.waits = true := by decide
  refine ⟨going, by decide, by decide, fun claimed => ?_⟩
  have woken := claimed 1 20 [failed] [.elapses 1000] (.inr ⟨failed, by decide, by decide⟩)
  rw [going] at woken
  cases woken

end Service
end Terrarium.Shutdown
