import Terrarium.Proofs.Shutdown.Order
import Terrarium.Proofs.Simulation.RunLoop
import Terrarium.Simulation.ServedRun

/-!
A served run comes to its end, and serving is finished exactly when the loop has been left. From
then on nothing moves it any more: the simulation has been stopped, and no turn makes another
pass.
-/

namespace Terrarium
open Shutdown

/-- What a cycle of the loop has to be like for a capped run to end: one that succeeds counts
itself, and leaves the cap and the flags as they are. -/
structure Paced (cycle : Simulation → Attempt Simulation Unit) : Prop where
  counts : ∀ s, (cycle s).answer = .ok () → (cycle s).state.cycle = s.cycle + 1
  settings : ∀ s, (cycle s).answer = .ok () → (cycle s).state.settings = s.settings
  paused : ∀ s, (cycle s).answer = .ok () → (cycle s).state.paused = s.paused

theorem Paced.of_ok {cycle cycle' : Simulation → Attempt Simulation Unit} (paced : Paced cycle)
    (same : ∀ s, (cycle' s).answer = .ok () → cycle' s = cycle s) : Paced cycle' where
  counts s ended := same s ended ▸ paced.counts s (same s ended ▸ ended)
  settings s ended := same s ended ▸ paced.settings s (same s ended ▸ ended)
  paused s ended := same s ended ▸ paced.paused s (same s ended ▸ ended)

namespace Simulation
variable {s : Simulation} {cycle : Simulation → Attempt Simulation Unit}

theorem stepCycle_paced : Paced stepCycle where
  counts s ended := (stepCycle_counts s).2 ended
  settings s _ := (SameSetup.refl s).stepCycle.state.settings
  paused s _ := by
    have same := stepCycle_guised (g := ⟨.steady, s.running, s.paused, id⟩) s
    exact congrArg (fun attempt => attempt.state.paused) same

theorem reportIfDue_state (s : Simulation) : s.reportIfDue.state = s := by
  unfold reportIfDue
  split <;> rfl

theorem pass_asleep (asleep : (s.pass cycle).answer = .ok .asleep) :
    s.running = true ∧ (s.paused = true ∧ (s.pass cycle).state = s ∨
      s.paused = false ∧ s.reachedCap? = none ∧ (cycle s).answer = .ok () ∧
        (s.pass cycle).state = (cycle s).state) := by
  by_cases starts : s.Starts
  · refine ⟨starts.running, .inr ⟨starts.awake, reachedCap?_eq_none_iff.mpr starts.below, ?_⟩⟩
    rw [pass_of_starts cycle starts] at asleep ⊢
    cases answer : (cycle s).answer with
    | error cause =>
        have failed : (s.loopCycle cycle).answer =
            .error (.cycleFailed (cycle s).state.cycle cause) := by simp [loopCycle, answer]
        rw [Attempt.andThen_of_error _ failed] at asleep
        cases asleep
    | ok _ =>
        have stepped : s.loopCycle cycle = cycle s := by simp [loopCycle, answer]
        rw [stepped, Attempt.andThen_of_ok _ answer]
        exact ⟨rfl, reportIfDue_state _⟩
  · unfold pass at asleep ⊢
    cases running : s.running with
    | false => simp [running] at asleep
    | true =>
        refine ⟨rfl, ?_⟩
        cases paused : s.paused with
        | true => exact .inl ⟨rfl, rfl⟩
        | false =>
            cases reached : s.reachedCap? with
            | none => exact absurd ⟨running, paused, reachedCap?_eq_none_iff.mp reached⟩ starts
            | some cap => simp [running, paused, reached, Attempt.tell, Except.map] at asleep

end Simulation

theorem Watched.pass_asleep {cycle : Simulation → Attempt Simulation Unit} {w : Watched}
    (asleep : (w.pass cycle).answer = .ok .asleep) :
    (w.simulation.pass cycle).answer = .ok .asleep ∧
      (w.pass cycle).state.simulation = (w.simulation.pass cycle).state := by
  unfold Watched.pass at asleep ⊢
  obtain ⟨outcome, passed, slept⟩ := Attempt.andThen_ok asleep
  rw [Attempt.andThen_of_ok _ passed]
  cases outcome with
  | left => cases slept
  | asleep =>
      refine ⟨passed, ?_⟩
      dsimp only at slept ⊢
      split
      · next fault refused => simp [refused] at slept
      · rfl

namespace Served
variable {v : Served} {cycle : Simulation → Attempt Simulation Unit}

@[simp] theorem react_service (v : Served) (occurrence : Occurrence) :
    (v.react occurrence).service = v.service.occur occurrence := by
  unfold react
  dsimp only
  split <;> rfl

@[simp] theorem react_told (v : Served) (occurrence : Occurrence) :
    (v.react occurrence).told = v.told := by
  unfold react
  dsimp only
  split <;> rfl

@[simp] theorem react_fault (v : Served) (occurrence : Occurrence) :
    (v.react occurrence).fault = v.fault := by
  unfold react
  dsimp only
  split <;> rfl

theorem react_idle (idle : v.service.waits = false → v.watched.simulation.running = false)
    {occurrence : Occurrence} (woken : (v.react occurrence).service.waits = false) :
    (v.react occurrence).watched.simulation.running = false := by
  rw [react_service] at woken
  unfold react
  dsimp only
  split
  · rfl
  · next kept =>
      apply idle
      cases going : v.service.waits with
      | false => rfl
      | true => simp [going, woken] at kept

/-- The simulation is stopped once the wait is over, a loop that is over has said so last, and
the task has failed just when there is a fault. -/
structure Coherent (v : Served) : Prop where
  served : ∃ schedule, v.service = (Service.start 1 5000 [none]).run schedule
  idle : v.service.waits = false → v.watched.simulation.running = false
  left : v.loopOver = true → ∃ told count, v.told = told ++ [.stopped count]
  failed : v.service.tasks.findSome? failure? = v.fault.map fun fault => (fault.kind, fault.message)

theorem loopOver_iff : v.loopOver = true ↔ running v.service.tasks = [] := List.isEmpty_iff

theorem tasks_of_run (schedule : List Occurrence) :
    ((Service.start 1 5000 [none]).run schedule).tasks = [firstEnding? 0 schedule] := by
  apply List.ext_getElem?
  intro i
  rw [Service.run_tasks]
  cases i <;> simp [Service.start]

namespace Coherent

theorem orderly (coherent : v.Coherent) : Service.Orderly 1 5000 v.service := by
  obtain ⟨schedule, served⟩ := coherent.served
  rw [served]
  exact Service.run_orderly 1 5000 [none] schedule

theorem woken (coherent : v.Coherent) (gone : v.loopOver = true) : v.service.waits = false := by
  obtain ⟨schedule, served⟩ := coherent.served
  rw [loopOver_iff, served, tasks_of_run] at gone
  rw [served, Service.start_wakes]
  cases ended : firstEnding? 0 schedule with
  | none => simp [ended, running] at gone
  | some ending =>
      obtain ⟨ending, member⟩ := firstEnding?_isSome.mp (by rw [ended]; rfl)
      exact .inr ⟨0, ending, rfl, member⟩

theorem isFinished_iff (coherent : v.Coherent) :
    v.service.isFinished = true ↔ v.loopOver = true := by
  rw [loopOver_iff]
  constructor
  · intro finished
    refine (coherent.orderly.isFinished_iff ?_).mp finished
    cases stage : v.service.stage with
    | finished raised => rw [Service.waits, stage]
    | _ => simp [Service.isFinished, stage] at finished
  · intro gone
    exact (coherent.orderly.isFinished_iff (coherent.woken (loopOver_iff.mpr gone))).mpr gone

theorem stopped (coherent : v.Coherent) (gone : v.loopOver = true) :
    v.watched.simulation.running = false := coherent.idle (coherent.woken gone)

theorem answer_eq (coherent : v.Coherent) (finished : v.service.isFinished = true) :
    v.answer = match v.fault with
      | some fault => .error fault
      | none => .ok () := by
  have raised := (coherent.orderly.raised finished).trans coherent.failed
  unfold answer
  cases fault : v.fault <;> simp [raised, fault]

theorem occurred (coherent : v.Coherent) (occurrence : Occurrence) :
    ∃ schedule, v.service.occur occurrence = (Service.start 1 5000 [none]).run schedule := by
  obtain ⟨schedule, served⟩ := coherent.served
  exact ⟨schedule ++ [occurrence], by rw [Service.run_concat, served]⟩

theorem react (coherent : v.Coherent) {occurrence : Occurrence}
    (outside : ∀ i, occurrence.ending? i = none) : (v.react occurrence).Coherent := by
  have tasks : (v.service.occur occurrence).tasks = v.service.tasks := by
    apply List.ext_getElem?
    intro i
    rw [Service.occur_tasks, outside]
    simp
  constructor
  · rw [react_service]
    exact coherent.occurred occurrence
  · exact react_idle coherent.idle
  · intro gone
    rw [loopOver, react_service, tasks] at gone
    rw [react_told]
    exact coherent.left gone
  · rw [react_service, tasks, react_fault]
    exact coherent.failed

end Coherent

theorem tasks_of_going (served : ∃ schedule, v.service = (Service.start 1 5000 [none]).run schedule)
    (going : v.loopOver = false) : v.service.tasks = [none] := by
  obtain ⟨schedule, served⟩ := served
  unfold loopOver at going
  rw [served, tasks_of_run] at going ⊢
  cases ended : firstEnding? 0 schedule with
  | none => rfl
  | some ending => simp [ended, running] at going

theorem leave_coherent
    (served : ∃ schedule, v.service = (Service.start 1 5000 [none]).run schedule)
    (going : v.loopOver = false) (run : Attempt Watched Unit) (ending : Ending)
    (failed : failure? (some ending) = v.fault.map fun fault => (fault.kind, fault.message)) :
    (v.leave run ending).Coherent ∧ (v.leave run ending).loopOver = true := by
  have tasks : (v.service.occur (.ends 0 ending)).tasks = [some ending] := by
    apply List.ext_getElem?
    intro i
    rw [Service.occur_tasks, tasks_of_going served going]
    cases i <;> simp [Occurrence.ending?]
  unfold Served.leave
  constructor
  · constructor
    · obtain ⟨schedule, served⟩ := served
      exact ⟨schedule ++ [.ends 0 ending], by rw [react_service, Service.run_concat, ← served]⟩
    · exact react_idle fun _ => rfl
    · intro _
      rw [react_told]
      exact ⟨v.told ++ run.events, run.state.simulation.cycle, by simp [Watched.finish]⟩
    · rw [react_service, tasks, react_fault]
      simpa using failed
  · rw [loopOver, react_service, tasks]
    rfl

theorem pass_of_asleep (asleep : (v.watched.pass cycle).answer = .ok .asleep) :
    v.pass cycle = { v with
      watched := (v.watched.pass cycle).state
      told := v.told ++ (v.watched.pass cycle).events } := by
  simp only [pass, asleep]

theorem pass_of_left (left : (v.watched.pass cycle).answer = .ok .left) :
    v.pass cycle = v.leave { v.watched.pass cycle with answer := .ok () } .done := by
  simp only [pass, left]

theorem pass_of_error {fault : Fault} (failed : (v.watched.pass cycle).answer = .error fault) :
    v.pass cycle = ({ v with fault := some fault } : Served).leave
      { v.watched.pass cycle with answer := .error fault } (.failed fault.kind fault.message) := by
  simp only [pass, failed]

namespace Coherent

theorem unfailed (coherent : v.Coherent) (going : v.loopOver = false) : v.fault = none := by
  have failed := coherent.failed
  rw [tasks_of_going coherent.served going] at failed
  simpa [failure?] using failed.symm

theorem pass (coherent : v.Coherent) (going : v.loopOver = false) :
    (v.pass cycle).Coherent ∧
      ((v.pass cycle).loopOver = true ∨ (v.watched.pass cycle).answer = .ok .asleep) := by
  cases answer : (v.watched.pass cycle).answer with
  | error fault =>
      rw [pass_of_error answer]
      have left := leave_coherent (v := { v with fault := some fault }) coherent.served going
        { v.watched.pass cycle with answer := .error fault } (.failed fault.kind fault.message) rfl
      exact ⟨left.1, .inl left.2⟩
  | ok outcome =>
      cases outcome with
      | left =>
          rw [pass_of_left answer]
          have left := leave_coherent coherent.served going
            { v.watched.pass cycle with answer := .ok () } .done
            (by rw [coherent.unfailed going]; rfl)
          exact ⟨left.1, .inl left.2⟩
      | asleep =>
          rw [pass_of_asleep answer]
          refine ⟨⟨coherent.served, fun woken => ?_, fun gone => ?_, coherent.failed⟩, .inr rfl⟩
          · have running := (Simulation.pass_asleep (Watched.pass_asleep answer).1).1
            rw [coherent.idle woken] at running
            cases running
          · rw [show v.loopOver = true from gone] at going
            cases going

theorem turn (coherent : v.Coherent) : (v.turn cycle).Coherent := by
  unfold Served.turn
  split
  · exact coherent
  · next going =>
      have going : v.loopOver = false := by simpa using going
      split
      · exact (leave_coherent coherent.served going _ _ (by rw [coherent.unfailed going]; rfl)).1
      · exact (coherent.pass going).1

theorem meet (coherent : v.Coherent) (moment : Moment) : (v.meet cycle moment).Coherent := by
  cases moment with
  | turn => exact coherent.turn
  | signal signal => exact coherent.react fun _ => rfl
  | elapses ticks => exact coherent.react fun _ => rfl

theorem meets (coherent : v.Coherent) (moments : List Moment) :
    (moments.foldl (Served.meet cycle) v).Coherent := by
  induction moments generalizing v with
  | nil => exact coherent
  | cons moment rest ih => exact ih (coherent.meet moment)

/-- When serving is finished, nothing moves the run any more. -/
theorem still (coherent : v.Coherent) (finished : v.service.isFinished = true) (moment : Moment) :
    v.meet cycle moment = v := by
  have gone := coherent.isFinished_iff.mp finished
  have unmoved {occurrence : Occurrence} (unheard : v.service.hear occurrence = v.service) :
      v.react occurrence = v := by
    have same : v.service.occur occurrence = v.service := by
      cases stage : v.service.stage with
      | finished raised => rw [Service.occur_of_finished stage, unheard]
      | _ => simp [Service.isFinished, stage] at finished
    unfold Served.react
    rw [same, coherent.woken gone]
    rfl
  cases moment with
  | turn => simp only [Served.meet, Served.turn, gone, if_true]
  | signal signal => exact unmoved rfl
  | elapses ticks => exact unmoved rfl

end Coherent

theorem turns_of_finished (finished : v.service.isFinished = true) (left : Nat) :
    v.turns cycle left = v := by
  cases left with
  | zero => rfl
  | succ left => rw [turns, if_pos finished]

theorem turns_eq (cycle : Simulation → Attempt Simulation Unit) (left : Nat) (v : Served) :
    ∃ count, v.turns cycle left = (List.replicate count Moment.turn).foldl (meet cycle) v := by
  induction left generalizing v with
  | zero => exact ⟨0, rfl⟩
  | succ left ih =>
      rw [turns]
      split
      · exact ⟨0, rfl⟩
      · obtain ⟨count, same⟩ := ih (v.turn cycle)
        exact ⟨count + 1, same⟩

theorem cyclesLeft_of_asleep (paced : Paced cycle) {w : Watched}
    (asleep : (w.pass cycle).answer = .ok .asleep)
    (ends : w.simulation.paused = false ∧ w.simulation.settings.maxCycles.isSome = true) :
    (w.pass cycle).state.cyclesLeft < w.cyclesLeft ∧
      (w.pass cycle).state.simulation.paused = false ∧
        (w.pass cycle).state.simulation.settings.maxCycles.isSome = true := by
  obtain ⟨slept, state⟩ := Watched.pass_asleep asleep
  obtain ⟨paused, _⟩ | ⟨_, below, ended, stepped⟩ := (Simulation.pass_asleep slept).2
  · rw [ends.1] at paused
    cases paused
  · have counted := paced.counts _ ended
    have settings := paced.settings _ ended
    have paused := paced.paused _ ended
    have after := state.trans stepped
    obtain ⟨cap, capped⟩ := Option.isSome_iff_exists.mp ends.2
    have room := Simulation.reachedCap?_eq_none_iff.mp below cap capped
    unfold Watched.cyclesLeft
    rw [after, settings, paused, counted, capped]
    exact ⟨by simp only [Option.getD_some]; omega, ends.1, rfl⟩

theorem turn_of_going (coherent : v.Coherent) (going : v.loopOver = false)
    (on : ¬ (v.turn cycle).loopOver = true) :
    (v.watched.pass cycle).answer = .ok .asleep ∧
      v.turn cycle = { v with
        watched := (v.watched.pass cycle).state
        told := v.told ++ (v.watched.pass cycle).events } := by
  unfold turn at on ⊢
  rw [going] at on ⊢
  simp only [Bool.false_eq_true, if_false] at on ⊢
  split at on
  · exact absurd (leave_coherent coherent.served going _ _ (by rw [coherent.unfailed going]; rfl)).2 on
  · next uncancelled =>
      rw [if_neg uncancelled]
      obtain gone | asleep := (coherent.pass going).2
      · exact absurd gone on
      · exact ⟨asleep, pass_of_asleep asleep⟩

/-- A run that would end by itself, or has been told to, ends within the cycles it has left. -/
theorem Coherent.turns_finish (paced : Paced cycle) {left : Nat} (coherent : v.Coherent)
    (ends : v.service.waits = true →
      v.watched.simulation.paused = false ∧ v.watched.simulation.settings.maxCycles.isSome = true)
    (enough : v.watched.cyclesLeft < left) : (v.turns cycle left).service.isFinished = true := by
  induction left generalizing v with
  | zero => omega
  | succ left ih =>
      rw [turns]
      split
      · next finished => exact finished
      · next unfinished =>
          have going : v.loopOver = false := by
            rw [coherent.isFinished_iff] at unfinished
            simpa using unfinished
          have next : (v.turn cycle).Coherent := coherent.turn
          by_cases gone : (v.turn cycle).loopOver = true
          · have finished := next.isFinished_iff.mpr gone
            rw [turns_of_finished finished]
            exact finished
          · obtain ⟨asleep, passed⟩ := turn_of_going coherent going gone
            have running := (Simulation.pass_asleep (Watched.pass_asleep asleep).1).1
            have waits : v.service.waits = true := by
              cases waits : v.service.waits with
              | true => rfl
              | false => rw [coherent.idle waits] at running; cases running
            obtain ⟨less, kept⟩ := cyclesLeft_of_asleep paced asleep (ends waits)
            rw [passed] at next ⊢
            exact ih next (fun _ => kept) (by simp only; omega)

theorem start_coherent (cycle : Simulation → Attempt Simulation Unit) (s : Simulation) :
    (start cycle s).Coherent :=
  Coherent.turn ⟨⟨[], rfl⟩, fun woken => (by cases woken), fun gone => (by cases gone), rfl⟩

theorem meets_coherent (cycle : Simulation → Attempt Simulation Unit) (s : Simulation)
    (moments : List Moment) : (moments.foldl (meet cycle) (start cycle s)).Coherent :=
  (start_coherent cycle s).meets moments

theorem whole_eq (cycle : Simulation → Attempt Simulation Unit) (s : Simulation)
    (moments : List Moment) :
    ∃ more, whole cycle s moments = (moments ++ more).foldl (meet cycle) (start cycle s) := by
  unfold whole rest
  generalize reached : moments.foldl (meet cycle) (start cycle s) = v
  obtain ⟨count, same⟩ := turns_eq cycle
    ((if v.endless then v.react (.signal .interrupt) else v).watched.cyclesLeft + 1)
    (if v.endless then v.react (.signal .interrupt) else v)
  refine ⟨(if v.endless then [.signal .interrupt] else []) ++ List.replicate count .turn, ?_⟩
  rw [same, List.foldl_append, List.foldl_append, reached]
  split <;> rfl

theorem whole_finished (paced : Paced cycle) (s : Simulation) (moments : List Moment) :
    (whole cycle s moments).service.isFinished = true := by
  have coherent := meets_coherent cycle s moments
  unfold whole rest
  generalize moments.foldl (meet cycle) (start cycle s) = v at coherent
  dsimp only
  split
  · have signalled : (v.react (.signal .interrupt)).Coherent := coherent.react fun _ => rfl
    refine signalled.turns_finish paced (fun waits => ?_) (Nat.lt_succ_self _)
    rw [react_service, Service.occur_signal_woken] at waits
    cases waits
  · next ends =>
      refine coherent.turns_finish paced (fun _ => ?_) (Nat.lt_succ_self _)
      simp only [endless, Bool.or_eq_true, not_or, Bool.not_eq_true, Option.isNone_iff_eq_none] at ends
      exact ⟨ends.1, Option.isSome_iff_ne_none.mpr ends.2⟩

/-- A run that has been taken down: nothing sets its loop going again, and it is known whether
it has failed. -/
structure Stopped (cycle : Simulation → Attempt Simulation Unit) (v : Served) : Prop where
  finished : v.service.isFinished = true
  idle : v.watched.simulation.running = false
  told : ∃ told count, v.told = told ++ [.stopped count]
  still : ∀ moment, v.meet cycle moment = v
  answer : v.answer = match v.fault with
    | some fault => .error fault
    | none => .ok ()

theorem Coherent.stops (coherent : v.Coherent) (finished : v.service.isFinished = true) :
    v.Stopped cycle :=
  have gone := coherent.isFinished_iff.mp finished
  ⟨finished, coherent.stopped gone, coherent.left gone, coherent.still finished,
    coherent.answer_eq finished⟩

theorem whole_coherent (cycle : Simulation → Attempt Simulation Unit) (s : Simulation)
    (moments : List Moment) : (whole cycle s moments).Coherent := by
  obtain ⟨more, reached⟩ := whole_eq cycle s moments
  rw [reached]
  exact meets_coherent cycle s _

/-- However it is disturbed, a run is taken down in the end. -/
theorem whole_stopped (paced : Paced cycle) (s : Simulation) (moments : List Moment) :
    (whole cycle s moments).Stopped cycle :=
  (whole_coherent cycle s moments).stops (whole_finished paced s moments)

end Served
end Terrarium
