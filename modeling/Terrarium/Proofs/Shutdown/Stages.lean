import Mathlib.Data.List.Basic
import Terrarium.Shutdown

/-!
Serving goes through its stages in order. What it has done by each of them is a fixed text: the
signals are listened to, then comes the waking with all stop callbacks, then the cancelling, and
last the signals are ignored. A task has the first of its endings, whatever the stage.
-/

namespace Terrarium.Shutdown

theorem mem_running {tasks : List Progress} {i : Nat} :
    i ∈ running tasks ↔ tasks[i]? = some none := by
  constructor
  · intro member
    obtain ⟨⟨progress, j⟩, inside, found⟩ := List.mem_filterMap.mp member
    cases progress with
    | some _ => cases found
    | none =>
        obtain rfl : j = i := Option.some.inj found
        exact List.mem_zipIdx_iff_getElem?.mp inside
  · intro found
    exact List.mem_filterMap.mpr ⟨(none, i), List.mem_zipIdx_iff_getElem?.mpr found, rfl⟩

theorem running_eq_nil {tasks : List Progress} :
    running tasks = [] ↔ ∀ progress ∈ tasks, progress ≠ none := by
  rw [List.eq_nil_iff_forall_not_mem]
  constructor
  · rintro gone progress member rfl
    obtain ⟨i, found⟩ := List.mem_iff_getElem?.mp member
    exact gone i (mem_running.mpr found)
  · intro gone i member
    exact gone none (List.mem_of_getElem? (mem_running.mp member)) rfl

theorem settle_get (tasks : List Progress) (task : Nat) (ending : Ending) (i : Nat) :
    (settle tasks task ending)[i]? =
      if task = i then tasks[i]?.map fun progress => some (progress.getD ending)
      else tasks[i]? := by
  rw [settle, List.getElem?_modify]
  split <;> simp

def Occurrence.ending? (i : Nat) : Occurrence → Option Ending
  | .ends task ending => if task = i then some ending else none
  | _ => none

def firstEnding? (i : Nat) (schedule : List Occurrence) : Option Ending :=
  schedule.findSome? (Occurrence.ending? i)

theorem firstEnding?_isSome {i : Nat} {schedule : List Occurrence} :
    (firstEnding? i schedule).isSome ↔ ∃ ending, .ends i ending ∈ schedule := by
  rw [firstEnding?, List.findSome?_isSome_iff]
  constructor
  · rintro ⟨occurrence, member, found⟩
    cases occurrence with
    | ends task ending =>
        by_cases same : task = i
        · exact ⟨ending, same ▸ member⟩
        · simp [Occurrence.ending?, same] at found
    | _ => simp [Occurrence.ending?] at found
  · rintro ⟨ending, member⟩
    exact ⟨_, member, by simp [Occurrence.ending?]⟩

def elapsed : List Occurrence → Nat
  | [] => 0
  | .elapses ticks :: rest => ticks + elapsed rest
  | _ :: rest => elapsed rest

theorem elapsed_cons (occurrence : Occurrence) (rest : List Occurrence) :
    elapsed (occurrence :: rest) = elapsed [occurrence] + elapsed rest := by
  cases occurrence <;> simp [elapsed]

namespace Service
variable {s : Service}

theorem run_append (s : Service) (first rest : List Occurrence) :
    s.run (first ++ rest) = (s.run first).run rest := List.foldl_append

theorem run_cons (s : Service) (occurrence : Occurrence) (rest : List Occurrence) :
    s.run (occurrence :: rest) = (s.occur occurrence).run rest := rfl

theorem run_concat (s : Service) (schedule : List Occurrence) (occurrence : Occurrence) :
    s.run (schedule ++ [occurrence]) = (s.run schedule).occur occurrence := by
  rw [run_append]
  rfl

@[simp] theorem closeIfOver_tasks (s : Service) : s.closeIfOver.tasks = s.tasks := by
  unfold closeIfOver
  split <;> rfl

@[simp] theorem hear_stage (s : Service) (occurrence : Occurrence) :
    (s.hear occurrence).stage = s.stage := by
  cases occurrence <;> rfl

@[simp] theorem hear_actions (s : Service) (occurrence : Occurrence) :
    (s.hear occurrence).actions = s.actions := by
  cases occurrence <;> rfl

theorem occur_of_waiting {watched : List Nat} (stage : s.stage = .waiting watched)
    (occurrence : Occurrence) :
    s.occur occurrence =
      if occurrence.rouses watched then (s.hear occurrence).wake.closeIfOver
      else s.hear occurrence := by
  simp only [occur, hear_stage, stage]

theorem occur_of_granting {left : Nat} (stage : s.stage = .granting left)
    (occurrence : Occurrence) :
    s.occur occurrence =
      match occurrence with
      | .signal _ => s
      | .ends _ _ => (s.hear occurrence).closeIfOver
      | .elapses ticks =>
          if left ≤ ticks then s.cancelLate else { s with stage := .granting (left - ticks) } := by
  cases occurrence <;> simp only [occur, hear_stage, stage] <;> rfl

theorem occur_of_reaping (stage : s.stage = .reaping) (occurrence : Occurrence) :
    s.occur occurrence =
      match occurrence with
      | .ends _ _ => (s.hear occurrence).closeIfOver
      | _ => s := by
  cases occurrence <;> simp only [occur, hear_stage, stage] <;> rfl

theorem occur_of_finished {raised : Option (String × String)} (stage : s.stage = .finished raised)
    (occurrence : Occurrence) : s.occur occurrence = s.hear occurrence := by
  cases occurrence <;> simp only [occur, hear_stage, stage]

theorem occur_eq_hear (s : Service) (occurrence : Occurrence) :
    (s.occur occurrence).tasks = (s.hear occurrence).tasks := by
  cases stage : s.stage with
  | waiting watched =>
      rw [occur_of_waiting stage]
      split <;> simp [wake]
  | granting left =>
      rw [occur_of_granting stage]
      cases occurrence with
      | signal signal => rfl
      | ends task ending => simp
      | elapses ticks => dsimp only; split <;> rfl
  | reaping =>
      rw [occur_of_reaping stage]
      cases occurrence <;> simp [hear]
  | finished raised => rw [occur_of_finished stage]

theorem occur_tasks (s : Service) (occurrence : Occurrence) (i : Nat) :
    (s.occur occurrence).tasks[i]? =
      s.tasks[i]?.map fun progress => progress.or (occurrence.ending? i) := by
  rw [occur_eq_hear]
  cases occurrence with
  | ends task ending =>
      simp only [hear, settle_get]
      by_cases same : task = i
      · rw [if_pos same]
        congr 1
        funext progress
        cases progress <;> simp [Occurrence.ending?, same]
      · simp [Occurrence.ending?, same]
  | _ => simp [hear, Occurrence.ending?]

theorem run_tasks (s : Service) (schedule : List Occurrence) (i : Nat) :
    (s.run schedule).tasks[i]? =
      s.tasks[i]?.map fun progress => progress.or (firstEnding? i schedule) := by
  induction schedule generalizing s with
  | nil => simp [run, firstEnding?]
  | cons occurrence rest ih =>
      rw [run_cons, ih, occur_tasks, Option.map_map]
      congr 1
      funext progress
      cases progress <;> cases found : occurrence.ending? i <;> simp [firstEnding?, found]

theorem running_run {schedule : List Occurrence} {i : Nat} :
    i ∈ running (s.run schedule).tasks ↔
      i ∈ running s.tasks ∧ ∀ ending, .ends i ending ∉ schedule := by
  rw [mem_running, mem_running, run_tasks]
  have none_iff : firstEnding? i schedule = none ↔ ∀ ending, .ends i ending ∉ schedule := by
    rw [← Option.not_isSome_iff_eq_none, firstEnding?_isSome, not_exists]
  rw [← none_iff]
  constructor
  · intro found
    obtain ⟨progress, was, ended⟩ := Option.map_eq_some_iff.mp found
    rw [Option.or_eq_none_iff] at ended
    rw [was, ended.1]
    exact ⟨rfl, ended.2⟩
  · rintro ⟨found, never⟩
    simp [found, never]

/-- What has been done once the stop callbacks have been called. -/
def opening (callbacks : Nat) : List Action :=
  Signal.all.map .listen ++ .wake :: (List.range callbacks).map .call

/-- Serving as it is set up, with what it has done by its stage. -/
structure Orderly (callbacks grace : Nat) (s : Service) : Prop where
  calls : s.callbacks = callbacks
  period : s.grace = grace
  done : match s.stage with
    | .waiting _ => s.actions = Signal.all.map .listen
    | .granting left => s.actions = opening callbacks ∧ running s.tasks ≠ [] ∧ left ≤ grace
    | .reaping => ∃ late : List Nat, s.actions = opening callbacks ++ late.map .cancel ∧
        running s.tasks ≠ [] ∧ ∀ i ∈ running s.tasks, i ∈ late
    | .finished raised => ∃ late : List Nat,
        s.actions = opening callbacks ++ late.map .cancel ++ Signal.all.map .ignore ∧
          running s.tasks = [] ∧ raised = s.tasks.findSome? failure?

theorem start_orderly (callbacks grace : Nat) (tasks : List Progress) :
    Orderly callbacks grace (start callbacks grace tasks) := ⟨rfl, rfl, rfl⟩

theorem running_hear {occurrence : Occurrence} {i : Nat}
    (member : i ∈ running (s.hear occurrence).tasks) : i ∈ running s.tasks := by
  rw [← occur_eq_hear] at member
  exact (running_run.mp (show i ∈ running (s.run [occurrence]).tasks from member)).1

theorem hear_of_over (gone : running s.tasks = []) (occurrence : Occurrence) :
    (s.hear occurrence).tasks = s.tasks := by
  apply List.ext_getElem?
  intro i
  rw [← occur_eq_hear, occur_tasks]
  cases found : s.tasks[i]? with
  | none => rfl
  | some progress =>
      cases progress with
      | none => exact absurd rfl (running_eq_nil.mp gone _ (List.mem_of_getElem? found))
      | some ending => rfl

namespace Orderly
variable {callbacks grace : Nat}

theorem at_waiting {watched : List Nat} (orderly : Orderly callbacks grace s)
    (stage : s.stage = .waiting watched) : s.actions = Signal.all.map .listen := by
  simpa only [stage] using orderly.done

theorem at_granting {left : Nat} (orderly : Orderly callbacks grace s)
    (stage : s.stage = .granting left) :
    s.actions = opening callbacks ∧ running s.tasks ≠ [] ∧ left ≤ grace := by
  simpa only [stage] using orderly.done

theorem at_reaping (orderly : Orderly callbacks grace s) (stage : s.stage = .reaping) :
    ∃ late : List Nat, s.actions = opening callbacks ++ late.map .cancel ∧
      running s.tasks ≠ [] ∧ ∀ i ∈ running s.tasks, i ∈ late := by
  simpa only [stage] using orderly.done

theorem at_finished {raised : Option (String × String)} (orderly : Orderly callbacks grace s)
    (stage : s.stage = .finished raised) :
    ∃ late : List Nat, s.actions = opening callbacks ++ late.map .cancel ++
        Signal.all.map .ignore ∧
      running s.tasks = [] ∧ raised = s.tasks.findSome? failure? := by
  simpa only [stage] using orderly.done

theorem closeIfOver (late : List Nat) (calls : s.callbacks = callbacks) (period : s.grace = grace)
    (actions : s.actions = opening callbacks ++ late.map .cancel)
    (kept : running s.tasks ≠ [] → Orderly callbacks grace s) :
    Orderly callbacks grace s.closeIfOver := by
  unfold Service.closeIfOver
  split
  · next gone => exact ⟨calls, period, late, by simp [close, actions], gone, rfl⟩
  · next left => exact kept left

theorem hear_calls (orderly : Orderly callbacks grace s) (occurrence : Occurrence) :
    (s.hear occurrence).callbacks = callbacks := by
  cases occurrence <;> exact orderly.calls

theorem hear_period (orderly : Orderly callbacks grace s) (occurrence : Occurrence) :
    (s.hear occurrence).grace = grace := by
  cases occurrence <;> exact orderly.period

theorem occur (orderly : Orderly callbacks grace s) (occurrence : Occurrence) :
    Orderly callbacks grace (s.occur occurrence) := by
  have calls := orderly.hear_calls occurrence
  have period := orderly.hear_period occurrence
  cases stage : s.stage with
  | waiting watched =>
      have listening := orderly.at_waiting stage
      rw [occur_of_waiting stage]
      split
      · have actions : (s.hear occurrence).wake.actions = opening callbacks := by
          simp [wake, opening, listening, calls]
        exact .closeIfOver [] calls period (by simp [actions]) fun left =>
          ⟨calls, period, actions, left, Nat.le_of_eq period⟩
      · exact ⟨calls, period, by simp only [hear_stage, stage, hear_actions, listening]⟩
  | granting left =>
      obtain ⟨actions, unfinished, within⟩ := orderly.at_granting stage
      rw [occur_of_granting stage]
      cases occurrence with
      | signal signal => exact orderly
      | ends task ending =>
          exact .closeIfOver [] calls period (by simp [actions]) fun left =>
            ⟨calls, period, by
              simp only [hear_stage, stage, hear_actions]
              exact ⟨actions, left, within⟩⟩
      | elapses ticks =>
          dsimp only
          split
          · exact ⟨calls, period, running s.tasks, by simp [cancelLate, actions], unfinished,
              fun _ member => member⟩
          · exact ⟨calls, period, actions, unfinished, Nat.le_trans (Nat.sub_le _ _) within⟩
  | reaping =>
      obtain ⟨late, actions, _, within⟩ := orderly.at_reaping stage
      rw [occur_of_reaping stage]
      cases occurrence with
      | ends task ending =>
          exact .closeIfOver late calls period (by simpa using actions) fun left =>
            ⟨calls, period, by
              simp only [hear_stage, stage, hear_actions]
              exact ⟨late, actions, left, fun i member => within i (running_hear member)⟩⟩
      | _ => exact orderly
  | finished raised =>
      have done := orderly.at_finished stage
      rw [occur_of_finished stage]
      refine ⟨calls, period, ?_⟩
      simp only [hear_stage, stage, hear_actions, hear_of_over done.choose_spec.2.1]
      exact done

end Orderly

theorem waits_of_waiting {watched : List Nat} (stage : s.stage = .waiting watched) :
    s.waits = true := by
  rw [waits, stage]

section Woken
variable {callbacks grace : Nat} {late : List Nat} {signals : List Signal}

theorem called_of_actions (actions : s.actions =
    opening callbacks ++ late.map .cancel ++ signals.map .ignore) :
    s.called = List.range callbacks := by
  simp [called, actions, opening, Signal.all, List.filterMap_map]

theorem cancelled_of_actions (actions : s.actions =
    opening callbacks ++ late.map .cancel ++ signals.map .ignore) : s.cancelled = late := by
  simp [cancelled, actions, opening, Signal.all, List.filterMap_map]

theorem Orderly.actions_of_woken (orderly : Orderly callbacks grace s) (woken : s.waits = false) :
    s.actions = opening callbacks ++ s.cancelled.map .cancel ++
      (if s.isFinished then Signal.all else []).map .ignore := by
  have shown (late : List Nat) (actions : s.actions = opening callbacks ++ late.map .cancel ++
      (if s.isFinished then Signal.all else []).map .ignore) :
      s.actions = opening callbacks ++ s.cancelled.map .cancel ++
        (if s.isFinished then Signal.all else []).map .ignore := by
    rwa [cancelled_of_actions actions]
  cases stage : s.stage with
  | waiting watched => simp [waits_of_waiting stage] at woken
  | granting left => exact shown [] (by simp [isFinished, stage, (orderly.at_granting stage).1])
  | reaping =>
      obtain ⟨late, actions, _⟩ := orderly.at_reaping stage
      exact shown late (by simp [isFinished, stage, actions])
  | finished raised =>
      obtain ⟨late, actions, _⟩ := orderly.at_finished stage
      exact shown late (by simp [isFinished, stage, actions])

end Woken

theorem Orderly.run {callbacks grace : Nat} (orderly : Orderly callbacks grace s)
    (schedule : List Occurrence) : Orderly callbacks grace (s.run schedule) := by
  induction schedule generalizing s with
  | nil => exact orderly
  | cons occurrence rest ih => exact ih (orderly.occur occurrence)

/-- Whatever occurs, serving is in order. -/
theorem run_orderly (callbacks grace : Nat) (tasks : List Progress) (schedule : List Occurrence) :
    Orderly callbacks grace ((start callbacks grace tasks).run schedule) :=
  (start_orderly callbacks grace tasks).run schedule

end Service
end Terrarium.Shutdown
