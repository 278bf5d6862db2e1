import Terrarium.Proofs.Shutdown.Wait

/-!
Serving ends in order. A task is cancelled just when it has not ended by the time the grace
period is over, serving is finished just when every task is over, it raises what the first
failed task failed with, and no signal is listened to after that.
-/

namespace Terrarium.Shutdown

def Wakes (tasks : List Progress) (schedule : List Occurrence) : Prop :=
  (∃ signal, .signal signal ∈ schedule) ∨
    ∃ i ending, tasks[i]? = some none ∧ .ends i ending ∈ schedule

def Unfinished (tasks : List Progress) (schedule : List Occurrence) (i : Nat) : Prop :=
  tasks[i]? = some none ∧ ∀ ending, .ends i ending ∉ schedule

theorem Unfinished.before {tasks : List Progress} {first rest : List Occurrence} {i : Nat}
    (left : Unfinished tasks (first ++ rest) i) : Unfinished tasks first i :=
  ⟨left.1, fun ending member => left.2 ending (List.mem_append_left _ member)⟩

def Fails (tasks : List Progress) (schedule : List Occurrence) (i : Nat)
    (kind message : String) : Prop :=
  tasks[i]?.map (·.or (firstEnding? i schedule)) = some (some (.failed kind message))

/-- A schedule in which the grace period comes to its end: what wakes is in `opening`, and the
period is over with the last ticks. -/
structure GraceOver (grace : Nat) (tasks : List Progress) (schedule opening period : List Occurrence)
    (ticks : Nat) (rest : List Occurrence) : Prop where
  whole : schedule = opening ++ period ++ .elapses ticks :: rest
  wakes : Wakes tasks opening
  gone : grace ≤ elapsed period + ticks

namespace Service
variable {s : Service} {callbacks grace : Nat} {tasks : List Progress}
  {schedule : List Occurrence} {i : Nat}

theorem start_running :
    i ∈ running ((start callbacks grace tasks).run schedule).tasks ↔
      Unfinished tasks schedule i := by
  rw [running_run, mem_running]
  rfl

theorem start_wakes :
    ((start callbacks grace tasks).run schedule).waits = false ↔ Wakes tasks schedule :=
  start_run_woken

theorem closeIfOver_granting {left : Nat} (stage : s.closeIfOver.stage = .granting left) :
    s.stage = .granting left := by
  unfold closeIfOver at stage
  split at stage
  · cases stage
  · exact stage

/-- The period has less left than before by the ticks that have passed, or it has just begun. -/
theorem occur_granting {occurrence : Occurrence} {left : Nat}
    (stage : (s.occur occurrence).stage = .granting left) :
    s.stage = .granting (left + elapsed [occurrence]) ∨ s.waits = true ∧ left = s.grace := by
  cases was : s.stage with
  | waiting watched =>
      rw [occur_of_waiting was] at stage
      refine .inr ⟨waits_of_waiting was, ?_⟩
      split at stage
      · have granted := closeIfOver_granting stage
        cases occurrence <;> exact (Stage.granting.inj granted).symm
      · simp [was] at stage
  | granting before =>
      rw [occur_of_granting was] at stage
      refine .inl ?_
      cases occurrence with
      | signal signal => simpa [elapsed, was] using stage
      | ends task ending => simpa [elapsed, was] using closeIfOver_granting stage
      | elapses ticks =>
          dsimp only at stage
          split at stage
          · cases stage
          · have less : before - ticks = left := Stage.granting.inj stage
            have whole : before = left + elapsed [.elapses ticks] := by
              simp only [elapsed]
              omega
            rw [whole]
  | reaping =>
      rw [occur_of_reaping was] at stage
      cases occurrence with
      | ends task ending => simpa [was] using closeIfOver_granting stage
      | _ => simp [was] at stage
  | finished raised =>
      rw [occur_of_finished was, hear_stage, was] at stage
      cases stage

/-- What is left of the period and what has passed of it make up the whole of it. -/
theorem Orderly.run_granting (orderly : Orderly callbacks grace s) {left : Nat}
    (stage : (s.run schedule).stage = .granting left) :
    s.stage = .granting (left + elapsed schedule) ∨ s.waits = true ∧
      ∃ opening period, schedule = opening ++ period ∧ (s.run opening).waits = false ∧
        left + elapsed period = grace := by
  induction schedule generalizing s with
  | nil => exact .inl stage
  | cons occurrence rest ih =>
      rcases ih (orderly.occur occurrence) stage with
        next | ⟨going, opening, period, rfl, woken, passed⟩
      · rcases occur_granting next with before | ⟨waiting, whole⟩
        · refine .inl (before.trans ?_)
          rw [elapsed_cons occurrence rest, Nat.add_assoc, Nat.add_comm (elapsed rest)]
        · have woken : (s.occur occurrence).waits = false := by rw [waits, next]
          exact .inr ⟨waiting, [occurrence], rest, rfl, woken, whole.trans orderly.period⟩
      · exact .inr ⟨waits_of_occur going, occurrence :: opening, period, rfl, woken, passed⟩

@[simp] theorem hear_cancelled (s : Service) (occurrence : Occurrence) :
    (s.hear occurrence).cancelled = s.cancelled := by
  rw [cancelled, hear_actions, ← cancelled]

@[simp] theorem wake_cancelled (s : Service) : s.wake.cancelled = s.cancelled := by
  simp [cancelled, wake, List.filterMap_map]

@[simp] theorem closeIfOver_cancelled (s : Service) : s.closeIfOver.cancelled = s.cancelled := by
  unfold closeIfOver
  split
  · simp [cancelled, close, List.filterMap_map]
  · rfl

@[simp] theorem cancelLate_cancelled (s : Service) :
    s.cancelLate.cancelled = s.cancelled ++ running s.tasks := by
  simp [cancelled, cancelLate, List.filterMap_map]

theorem mem_occur_cancelled {occurrence : Occurrence} :
    i ∈ (s.occur occurrence).cancelled ↔ i ∈ s.cancelled ∨ ∃ ticks left,
      occurrence = .elapses ticks ∧ s.stage = .granting left ∧ left ≤ ticks ∧
        i ∈ running s.tasks := by
  cases stage : s.stage with
  | waiting watched =>
      rw [occur_of_waiting stage]
      split <;> simp
  | granting left =>
      rw [occur_of_granting stage]
      cases occurrence with
      | signal signal => simp
      | ends task ending => simp
      | elapses ticks =>
          dsimp only
          split
          · next gone => simp [gone]
          · next going => simp [cancelled, going]
  | reaping =>
      rw [occur_of_reaping stage]
      cases occurrence <;> simp
  | finished raised =>
      rw [occur_of_finished stage]
      simp

theorem run_cancelled_mono {rest : List Occurrence} (member : i ∈ s.cancelled) :
    i ∈ (s.run rest).cancelled := by
  induction rest generalizing s with
  | nil => exact member
  | cons occurrence rest ih => exact ih (mem_occur_cancelled.mpr (.inl member))

/-- Whoever is cancelled is so at an end of the grace period. -/
theorem mem_run_cancelled (member : i ∈ (s.run schedule).cancelled) :
    i ∈ s.cancelled ∨ ∃ before ticks left rest, schedule = before ++ .elapses ticks :: rest ∧
      (s.run before).stage = .granting left ∧ left ≤ ticks ∧ i ∈ running (s.run before).tasks := by
  induction schedule generalizing s with
  | nil => exact .inl member
  | cons occurrence rest ih =>
      rcases ih member with now | ⟨before, ticks, left, later, rfl, found⟩
      · rcases mem_occur_cancelled.mp now with already | ⟨ticks, left, rfl, found⟩
        · exact .inl already
        · exact .inr ⟨[], ticks, left, rest, rfl, found⟩
      · exact .inr ⟨occurrence :: before, ticks, left, later, rfl, found⟩

/-- A task that is running when the grace period is over is among the cancelled after that. -/
theorem Orderly.cancels_late (orderly : Orderly callbacks grace s) {period : List Occurrence}
    {ticks : Nat} (woken : s.waits = false) (gone : grace ≤ elapsed period + ticks)
    (late : i ∈ running (s.run period).tasks) :
    i ∈ ((s.run period).occur (.elapses ticks)).cancelled := by
  have later := orderly.run period
  cases stage : (s.run period).stage with
  | waiting watched =>
      have going := waits_of_waiting stage
      rw [run_woken woken] at going
      cases going
  | granting left =>
      rcases orderly.run_granting stage with began | ⟨waiting, _⟩
      · have within := (orderly.at_granting began).2.2
        exact mem_occur_cancelled.mpr (.inr ⟨ticks, left, rfl, stage, by omega, late⟩)
      · rw [woken] at waiting
        cases waiting
  | reaping =>
      obtain ⟨victims, actions, _, within⟩ := later.at_reaping stage
      have all : (s.run period).actions = opening callbacks ++ victims.map .cancel ++
          ([] : List Signal).map .ignore := by simpa using actions
      refine mem_occur_cancelled.mpr (.inl ?_)
      rw [cancelled_of_actions all]
      exact within i late
  | finished raised =>
      obtain ⟨_, _, gone, _⟩ := later.at_finished stage
      rw [gone] at late
      cases late

theorem start_cancelled :
    i ∈ ((start callbacks grace tasks).run schedule).cancelled ↔
      ∃ opening period ticks rest, GraceOver grace tasks schedule opening period ticks rest ∧
        Unfinished tasks (opening ++ period) i := by
  constructor
  · intro member
    rcases mem_run_cancelled member with never | ⟨before, ticks, left, rest, rfl, stage, gone, late⟩
    · simp [cancelled, start, Signal.all] at never
    · rcases (start_orderly callbacks grace tasks).run_granting stage with
        never | ⟨_, opening, period, rfl, woken, passed⟩
      · cases never
      · exact ⟨opening, period, ticks, rest, ⟨rfl, start_wakes.mp woken, by omega⟩,
          start_running.mp late⟩
  · rintro ⟨opening, period, ticks, rest, ⟨rfl, wakes, gone⟩, late⟩
    have orderly := run_orderly callbacks grace tasks opening
    rw [run_append, run_cons, run_append]
    apply run_cancelled_mono
    apply orderly.cancels_late (start_wakes.mpr wakes) gone
    rw [← run_append]
    exact start_running.mpr late

theorem Orderly.isFinished_iff (orderly : Orderly callbacks grace s) (woken : s.waits = false) :
    s.isFinished = true ↔ running s.tasks = [] := by
  cases stage : s.stage with
  | waiting watched => simp [waits_of_waiting stage] at woken
  | granting left => simp [isFinished, stage, (orderly.at_granting stage).2.1]
  | reaping =>
      obtain ⟨_, _, unfinished, _⟩ := orderly.at_reaping stage
      simp [isFinished, stage, unfinished]
  | finished raised =>
      obtain ⟨_, _, gone, _⟩ := orderly.at_finished stage
      simp [isFinished, stage, gone]

theorem Orderly.raised (orderly : Orderly callbacks grace s) (finished : s.isFinished = true) :
    s.raised = s.tasks.findSome? failure? := by
  cases stage : s.stage with
  | finished raised =>
      obtain ⟨_, _, _, first⟩ := orderly.at_finished stage
      rw [Service.raised, stage, first]
  | _ => simp [isFinished, stage] at finished

theorem heed_unmoved (action : Nat → Action)
    (unmoved : ∀ item signals, Action.heed signals (action item) = signals) (items : List Nat)
    (signals : List Signal) : (items.map action).foldl Action.heed signals = signals := by
  induction items with
  | nil => rfl
  | cons item rest ih => rw [List.map_cons, List.foldl_cons, unmoved, ih]

theorem Orderly.listening (orderly : Orderly callbacks grace s) (woken : s.waits = false) :
    listening s.actions = if s.isFinished then [] else Signal.all := by
  have calls := heed_unmoved .call fun _ _ => rfl
  have cancels := heed_unmoved .cancel fun _ _ => rfl
  rw [Shutdown.listening, orderly.actions_of_woken woken, opening]
  simp only [List.foldl_append, List.foldl_cons, calls, cancels]
  split <;> decide

theorem failure?_eq_some {progress : Progress} {kind message : String} :
    failure? progress = some (kind, message) ↔ progress = some (.failed kind message) := by
  unfold failure?
  split <;> simp_all

theorem findSome?_failure? {kind message : String} :
    tasks.findSome? failure? = some (kind, message) ↔
      ∃ i : Nat, tasks[i]? = some (some (Ending.failed kind message)) ∧
        ∀ j < i, ∀ kind' message', tasks[j]? ≠ some (some (Ending.failed kind' message')) := by
  rw [List.findSome?_eq_some_iff]
  constructor
  · rintro ⟨before, progress, after, rfl, failed, unfailed⟩
    refine ⟨before.length, ?_, fun j early kind' message' found => ?_⟩
    · rw [List.getElem?_append_right (Nat.le_refl _), Nat.sub_self, List.getElem?_cons_zero,
        failure?_eq_some.mp failed]
    · rw [List.getElem?_append_left early] at found
      have silent := unfailed _ (List.mem_of_getElem? found)
      rw [failure?_eq_some.mpr rfl] at silent
      cases silent
  · rintro ⟨i, failed, unfailed⟩
    obtain ⟨inside, at_⟩ := List.getElem?_eq_some_iff.mp failed
    refine ⟨tasks.take i, _, tasks.drop (i + 1), ?_, failure?_eq_some.mpr at_, ?_⟩
    · rw [List.getElem_cons_drop, List.take_append_drop]
    · intro progress member
      cases found : failure? progress with
      | none => rfl
      | some failure =>
          obtain ⟨j, early, at_j⟩ := List.mem_take_iff_getElem.mp member
          have failed_j := failure?_eq_some.mp (at_j ▸ found)
          refine absurd ?_ (unfailed j (by omega) failure.1 failure.2)
          rw [List.getElem?_eq_getElem (by omega), failed_j]

theorem findSome?_failure?_none :
    tasks.findSome? failure? = none ↔
      ∀ (i : Nat) (kind message : String), tasks[i]? ≠ some (some (Ending.failed kind message)) := by
  rw [List.findSome?_eq_none_iff]
  constructor
  · intro unfailed i kind message found
    have silent := unfailed _ (List.mem_of_getElem? found)
    rw [failure?_eq_some.mpr rfl] at silent
    cases silent
  · intro unfailed progress member
    cases found : failure? progress with
    | none => rfl
    | some failure =>
        obtain ⟨i, at_⟩ := List.mem_iff_getElem?.mp member
        rw [failure?_eq_some.mp found] at at_
        exact absurd at_ (unfailed i _ _)

structure TakenDown (callbacks grace : Nat) (tasks : List Progress) (schedule : List Occurrence)
    (served : Service) : Prop where
  actions : served.actions =
    Signal.all.map .listen ++ .wake :: (List.range callbacks).map .call ++
      served.cancelled.map .cancel ++ (if served.isFinished then Signal.all else []).map .ignore
  cancelled : ∀ i, i ∈ served.cancelled ↔ ∃ opening period ticks rest,
    GraceOver grace tasks schedule opening period ticks rest ∧
      Unfinished tasks (opening ++ period) i
  finished : served.isFinished = true ↔ ∀ i, ¬ Unfinished tasks schedule i
  finishes : ∀ opening period ticks rest, GraceOver grace tasks schedule opening period ticks rest →
    (∀ i ∈ served.cancelled, ¬ Unfinished tasks schedule i) → served.isFinished = true
  raised : served.isFinished = true → ∀ kind message, served.raised = some (kind, message) ↔
    ∃ i, Fails tasks schedule i kind message ∧
      ∀ j < i, ∀ kind' message', ¬ Fails tasks schedule j kind' message'
  silent : served.isFinished = true →
    (served.raised = none ↔ ∀ i kind message, ¬ Fails tasks schedule i kind message)
  listening : listening served.actions = if served.isFinished then [] else Signal.all

theorem start_fails {kind message : String} :
    ((start callbacks grace tasks).run schedule).tasks[i]? = some (some (.failed kind message)) ↔
      Fails tasks schedule i kind message := by
  rw [run_tasks]
  rfl

/-- Whatever occurs, serving takes its tasks down in order once its wait is over. -/
theorem start_takenDown (wakes : Wakes tasks schedule) :
    TakenDown callbacks grace tasks schedule ((start callbacks grace tasks).run schedule) := by
  have orderly := run_orderly callbacks grace tasks schedule
  have woken : ((start callbacks grace tasks).run schedule).waits = false := start_wakes.mpr wakes
  have finished : ((start callbacks grace tasks).run schedule).isFinished = true ↔
      ∀ i, ¬ Unfinished tasks schedule i := by
    rw [orderly.isFinished_iff woken, List.eq_nil_iff_forall_not_mem]
    exact forall_congr' fun i => not_congr start_running
  refine ⟨orderly.actions_of_woken woken, fun i => start_cancelled, finished, ?_, ?_, ?_,
    orderly.listening woken⟩
  · intro opening period ticks rest graceOver ended
    refine finished.mpr fun i left => ended i ?_ left
    rw [graceOver.whole] at left
    exact start_cancelled.mpr ⟨opening, period, ticks, rest, graceOver, left.before⟩
  · intro closed kind message
    rw [orderly.raised closed, findSome?_failure?]
    simp only [Ne, start_fails]
  · intro closed
    rw [orderly.raised closed, findSome?_failure?_none]
    simp only [Ne, start_fails]

end Service
end Terrarium.Shutdown
