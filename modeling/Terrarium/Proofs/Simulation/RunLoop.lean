import Terrarium.Simulation.RunLoop
import Terrarium.Proofs.Simulation.Failure
import Terrarium.Proofs.Simulation.Guise

/-!
The run loop does nothing but start cycles. Main statement: whatever is called in its sleeps, the
loop sees and leaves the world as so many plain cycles make it; it starts one only while it is
running, awake and below its cap, and it is not running once it has been left.
-/

namespace Terrarium

inductive Control where
  | pause
  | resume
  | stop
deriving DecidableEq

namespace Control

def operation : Control → Operation
  | pause => .pause
  | resume => .resume
  | stop => .stop

def call (control : Control) : Call := fun s => (s.perform control.operation).map fun _ => ()

def apply (s : Simulation) (control : Control) : Simulation := (control.call s).state

end Control

namespace Simulation
variable {s : Simulation}

def posed (running paused : Bool) (s : Simulation) : Simulation :=
  { s with running := running, paused := paused }

theorem stepCycles_posed (running paused : Bool) (count : Nat) (s : Simulation) :
    stepCycles count (s.posed running paused) =
      (stepCycles count s).inside (posed running paused) :=
  stepCycles_guised (g := ⟨.steady, running, paused, id⟩) count s

theorem controls_pose (controls : List Control) (s : Simulation) :
    ∃ running paused, controls.foldl Control.apply s = s.posed running paused := by
  induction controls generalizing s with
  | nil => exact ⟨s.running, s.paused, rfl⟩
  | cons control rest ih =>
      obtain ⟨running, paused, posed⟩ := ih (control.apply s)
      refine ⟨running, paused, posed.trans ?_⟩
      cases control <;> rfl

/-- Nothing that may be called sets a loop running. -/
theorem controls_idle (controls : List Control) (idle : s.running = false) :
    (controls.foldl Control.apply s).running = false := by
  induction controls generalizing s with
  | nil => exact idle
  | cons control rest ih =>
      apply ih
      cases control with
      | stop => rfl
      | _ => exact idle

theorem controls_stopped {controls : List Control} (stopped : .stop ∈ controls) :
    (controls.foldl Control.apply s).running = false := by
  obtain ⟨before, after, rfl⟩ := List.append_of_mem stopped
  rw [List.foldl_append]
  exact controls_idle after rfl

def Counts (n : Nat) (attempt : Attempt Simulation Unit) : Prop :=
  attempt.state.cycle ≤ n + 1 ∧ (attempt.answer = .ok () → attempt.state.cycle = n + 1)

theorem Counts.andThen {n : Nat} {α : Type} {first : Attempt Simulation α}
    {next : Simulation → α → Attempt Simulation Unit} (head : first.state.cycle = n)
    (tail : ∀ t value, t.cycle = n → Counts n (next t value)) : Counts n (first.andThen next) := by
  cases answer : first.answer with
  | error fault =>
      rw [Attempt.andThen_of_error next answer]
      exact ⟨by dsimp only; omega, fun ended => by cases ended⟩
  | ok value =>
      rw [Attempt.andThen_of_ok next answer]
      exact tail first.state value head

theorem stepCycle_counts (s : Simulation) : Counts s.cycle s.stepCycle := by
  have deduped (t : Simulation) : t.dedupIfDue.state.cycle = t.cycle := by
    unfold dedupIfDue
    split <;> rfl
  rw [stepCycle_eq_untilCull]
  apply Counts.andThen (untilCull_cycle s)
  intro t _ same
  have culled : t.enforceMax.state.cycle = s.cycle := same
  apply Counts.andThen culled
  intro t _ same
  have charged : (t.charge s.ready).state.cycle = s.cycle := same
  apply Counts.andThen charged
  intro t _ same
  have counted := deduped { t with cycle := t.cycle + 1 }
  unfold finish
  cases answer : ({ t with cycle := t.cycle + 1 } : Simulation).dedupIfDue.answer with
  | error fault =>
      rw [Attempt.andThen_of_error _ answer]
      exact ⟨by dsimp only at counted ⊢; omega, fun ended => by cases ended⟩
  | ok _ =>
      rw [Attempt.andThen_of_ok _ answer]
      have ended : (({ t with cycle := t.cycle + 1 } : Simulation).dedupIfDue.state.syncMetrics).cycle
          = s.cycle + 1 := by
        rw [← same]
        exact counted
      exact ⟨Nat.le_of_eq ended, fun _ => ended⟩

/-- A look at which the loop starts a cycle. -/
structure Starts (s : Simulation) : Prop where
  running : s.running = true
  awake : s.paused = false
  below : ∀ cap, s.settings.maxCycles = some cap → s.cycle < cap

theorem reachedCap?_eq_none_iff :
    s.reachedCap? = none ↔ ∀ cap, s.settings.maxCycles = some cap → s.cycle < cap := by
  simp [reachedCap?, Option.filter_eq_none_iff]

theorem reachedCap?_eq_some_iff {cap : Nat} :
    s.reachedCap? = some cap ↔ s.settings.maxCycles = some cap ∧ cap ≤ s.cycle := by
  simp [reachedCap?, Option.filter_eq_some_iff]

instance (s : Simulation) : Decidable s.Starts :=
  decidable_of_iff (s.running = true ∧ s.paused = false ∧ s.reachedCap? = none) (by
    rw [reachedCap?_eq_none_iff]
    exact ⟨fun ⟨running, awake, below⟩ => ⟨running, awake, below⟩,
      fun ⟨running, awake, below⟩ => ⟨running, awake, below⟩⟩)

def looked (s : Simulation) : Attempt Simulation Unit :=
  if s.Starts then s.stepCycle else .done s ()

/-- How the loop is left at a look, the state it is left in and what it answers. -/
inductive Leaves (s : Simulation) : Simulation → Except Fault Unit → Prop
  | stopped (stopped : s.running = false) : Leaves s s (.ok ())
  | capped {cap : Nat} (running : s.running = true) (awake : s.paused = false)
      (capped : s.settings.maxCycles = some cap) (reached : cap ≤ s.cycle) : Leaves s s (.ok ())
  | failed {cause : Fault} (starts : s.Starts) (failed : s.stepCycle.answer = .error cause) :
      Leaves s s.stepCycle.state (.error (.cycleFailed s.stepCycle.state.cycle cause))
  | sleepless (ended : s.looked.answer = .ok ())
      (endless : s.looked.state.sleep = .error .quotientTooLarge) :
      Leaves s s.looked.state (.error .quotientTooLarge)

theorem Leaves.looked {t : Simulation} {answer : Except Fault Unit} (leaves : s.Leaves t answer) :
    t = s.looked.state := by
  unfold Simulation.looked
  cases leaves with
  | stopped stopped =>
      rw [if_neg fun starts => by simp [starts.running] at stopped]
      rfl
  | capped running awake capped reached =>
      rw [if_neg fun starts => Nat.not_lt_of_ge reached (starts.below _ capped)]
      rfl
  | failed starts failed => rw [if_pos starts]
  | sleepless ended endless => rfl

theorem Leaves.capped_of_running {t : Simulation} (leaves : s.Leaves t (.ok ()))
    (running : s.running = true) :
    t = s ∧ ∃ cap, s.settings.maxCycles = some cap ∧ cap ≤ s.cycle := by
  cases leaves with
  | stopped stopped =>
      rw [running] at stopped
      cases stopped
  | capped _ _ capped reached => exact ⟨rfl, _, capped, reached⟩

def cyclesStarted (looks : List Simulation) : Nat := looks.countP fun s => s.Starts

theorem looked_eq (s : Simulation) : s.looked = stepCycles (cyclesStarted [s]) s := by
  unfold looked cyclesStarted
  split
  · next starts =>
      have last : (fun next (_ : Unit) => stepCycles 0 next) = fun next _ => .done next () := rfl
      have whole : s.stepCycle.andThen (fun next _ => .done next ()) = s.stepCycle := by
        cases answer : s.stepCycle.answer with
        | error fault =>
            rw [Attempt.andThen_of_error _ answer, ← answer]
        | ok value =>
            rw [Attempt.andThen_of_ok _ answer]
            simp [← answer]
      simp [starts, stepCycles_succ, last, whole]
  · next starts => simp [starts, stepCycles, Attempt.repeated]

theorem looked_cycle_le {cap : Nat} (capped : s.settings.maxCycles = some cap)
    (below : s.cycle ≤ cap) : s.looked.state.cycle ≤ cap := by
  unfold looked
  split
  · next starts =>
      have counted := (stepCycle_counts s).1
      have room := starts.below cap capped
      omega
  · exact below

theorem stepCycles_setup (count : Nat) (s : Simulation) : SameSetup s (stepCycles count s).state :=
  (Attempt.Ensures.repeated (fun _ (same : SameSetup s _) => same.stepCycle) count s (.refl s)).state

theorem looked_setup (s : Simulation) : SameSetup s s.looked.state := by
  unfold looked
  split
  · exact (SameSetup.refl s).stepCycle.state
  · exact .refl s

theorem pass_of_starts (cycle : Simulation → Attempt Simulation Unit) (starts : s.Starts) :
    s.pass cycle = (s.loopCycle cycle).andThen fun s _ => s.reportIfDue.map fun _ => .asleep := by
  simp [pass, starts.running, starts.awake, reachedCap?_eq_none_iff.mpr starts.below]

/-- A pass depends on the cycle only where it starts one. -/
theorem pass_congr {cycle : Simulation → Attempt Simulation Unit}
    (same : s.Starts → cycle s = s.stepCycle) : s.pass cycle = s.pass stepCycle := by
  by_cases starts : s.Starts
  · rw [pass_of_starts cycle starts, pass_of_starts stepCycle starts, loopCycle, loopCycle,
      same starts]
  · unfold pass
    split
    · rfl
    · next running =>
        split
        · rfl
        · next awake =>
            split
            · rfl
            · next below =>
                exact absurd ⟨by simpa using running, by simpa using awake,
                  reachedCap?_eq_none_iff.mp below⟩ starts

/-- A pass goes to sleep with the world as the look left it, or leaves the loop. -/
theorem pass_cases (s : Simulation) :
    ((s.pass stepCycle).answer = .ok .asleep ∧ s.running = true ∧ (s.Starts ∨ s.paused = true) ∧
        s.looked.answer = .ok () ∧ (s.pass stepCycle).state = s.looked.state) ∨
      ((s.pass stepCycle).answer ≠ .ok .asleep ∧
        s.Leaves (s.pass stepCycle).state ((s.pass stepCycle).answer.map fun _ => ())) := by
  by_cases starts : s.Starts
  · have looked : s.looked = s.stepCycle := if_pos starts
    rw [pass_of_starts stepCycle starts, looked]
    have reported (t : Simulation) : (t.reportIfDue.map fun _ => Pass.asleep).answer = .ok .asleep ∧
        t.reportIfDue.state = t := by
      unfold reportIfDue
      split <;> exact ⟨rfl, rfl⟩
    cases answer : s.stepCycle.answer with
    | error cause =>
        have failed : (s.loopCycle stepCycle).answer =
            .error (.cycleFailed s.stepCycle.state.cycle cause) := by simp [loopCycle, answer]
        have state : (s.loopCycle stepCycle).state = s.stepCycle.state := by simp [loopCycle, answer]
        rw [Attempt.andThen_of_error _ failed, state]
        exact Or.inr ⟨by simp, .failed starts answer⟩
    | ok _ =>
        have stepped : s.loopCycle stepCycle = s.stepCycle := by simp [loopCycle, answer]
        rw [stepped, Attempt.andThen_of_ok _ answer]
        exact Or.inl ⟨(reported _).1, starts.running, Or.inl starts, rfl, (reported _).2⟩
  · have looked : s.looked = .done s () := if_neg starts
    rw [looked]
    unfold pass
    cases running : s.running with
    | false => exact Or.inr ⟨by simp, .stopped running⟩
    | true =>
        cases paused : s.paused with
        | true => exact Or.inl ⟨rfl, rfl, Or.inr rfl, rfl, rfl⟩
        | false =>
            cases cap : s.reachedCap? with
            | none => exact absurd ⟨running, paused, reachedCap?_eq_none_iff.mp cap⟩ starts
            | some cap' =>
                obtain ⟨capped, reached⟩ := reachedCap?_eq_some_iff.mp cap
                exact Or.inr ⟨by simp [Attempt.tell, Except.map], .capped running paused capped reached⟩

end Simulation

namespace Watched
open Simulation
variable {w : Watched}

theorem pass_congr {cycle : Simulation → Attempt Simulation Unit}
    (same : w.simulation.Starts → cycle w.simulation = w.simulation.stepCycle) :
    w.pass cycle = w.pass stepCycle := by
  unfold pass
  rw [Simulation.pass_congr same]

theorem pass_cases (w : Watched) :
    ((w.pass stepCycle).answer = .ok .asleep ∧ w.simulation.running = true ∧
        (w.simulation.Starts ∨ w.simulation.paused = true) ∧ w.simulation.looked.answer = .ok () ∧
        (w.pass stepCycle).state.simulation = w.simulation.looked.state) ∨
      ((w.pass stepCycle).answer ≠ .ok .asleep ∧ w.simulation.Leaves
        (w.pass stepCycle).state.simulation ((w.pass stepCycle).answer.map fun _ => ())) := by
  rcases w.simulation.pass_cases with ⟨asleep, running, why, looked, state⟩ | ⟨awake, leaves⟩
  · have passed : (w.lift (w.simulation.pass stepCycle)).answer = .ok .asleep := asleep
    rw [pass, Attempt.andThen_of_ok _ passed]
    have simulation : (w.lift (w.simulation.pass stepCycle)).state.simulation =
        w.simulation.looked.state := state
    dsimp only
    cases sleep : (w.lift (w.simulation.pass stepCycle)).state.simulation.sleep with
    | ok sleep => exact Or.inl ⟨rfl, running, why, looked, simulation⟩
    | error fault =>
        refine Or.inr ⟨by simp, ?_⟩
        have endless : fault = .quotientTooLarge := by
          unfold Simulation.sleep at sleep
          split at sleep
          · cases sleep
            rfl
          · cases sleep
        subst endless
        rw [simulation] at sleep
        have left : w.simulation.Leaves w.simulation.looked.state (.error .quotientTooLarge) :=
          .sleepless looked sleep
        rw [← simulation] at left
        exact left
  · refine Or.inr ?_
    cases answer : (w.simulation.pass stepCycle).answer with
    | error fault =>
        have passed : (w.lift (w.simulation.pass stepCycle)).answer = .error fault := answer
        rw [answer] at leaves
        rw [pass, Attempt.andThen_of_error _ passed]
        exact ⟨by simp, leaves⟩
    | ok outcome =>
        cases outcome with
        | asleep => exact absurd answer awake
        | left =>
            have passed : (w.lift (w.simulation.pass stepCycle)).answer = .ok .left := answer
            rw [answer] at leaves
            rw [pass, Attempt.andThen_of_ok _ passed]
            exact ⟨by simp, leaves⟩

def controlled (controls : List Control) (w : Watched) : Watched :=
  { w with simulation := controls.foldl Control.apply w.simulation }

theorem act_controls (controls : List Control) (w : Watched) :
    w.act (controls.map Control.call) = .done (w.controlled controls) () := by
  have called (s : Simulation) :
      Attempt.forEach (fun s call => call s) (controls.map Control.call) s =
        .done (controls.foldl Control.apply s) () := by
    induction controls generalizing s with
    | nil => rfl
    | cons control rest ih =>
        have first : control.call s = .done (control.apply s) () := by cases control <;> rfl
        rw [List.map_cons, Attempt.forEach, first, Attempt.done_andThen]
        exact ih _
  rw [act, called]
  rfl

def coastingLooks : Nat → Watched → List Simulation
  | left, w =>
      let slept := w.pass stepCycle
      w.simulation ::
        match slept.answer with
        | .ok .asleep =>
            let s := slept.state.simulation
            if s.paused || s.settings.maxCycles.isNone then [s.stop]
            else
              match left with
              | 0 => []
              | left + 1 => coastingLooks left slept.state
        | _ => []

def looks : List (List Control) → Watched → List Simulation
  | [], w => coastingLooks w.cyclesLeft w
  | controls :: rest, w =>
      let slept := w.pass stepCycle
      w.simulation ::
        match slept.answer with
        | .ok .asleep => looks rest (slept.state.controlled controls)
        | _ => []

/-- From one look to the next: the cycle, if one is started, and what is called in the sleep. A
loop in which nobody acts any more may be stopped. -/
def Follows (schedule : List (List Control)) (i : Nat) (look next : Simulation) : Prop :=
  match schedule[i]? with
  | some controls => next = controls.foldl Control.apply look.looked.state
  | none => next = look.looked.state ∨ next = look.looked.state.stop

/-- The looks of a loop that starts with `s`, against plain cycles from `s` on. -/
structure Itinerary (s : Simulation) (looks : List Simulation) (final : Simulation)
    (answer : Except Fault Unit) : Prop where
  paced : ∀ i look, looks[i]? = some look →
    (stepCycles (cyclesStarted (looks.take i)) s).answer = .ok () ∧
      ∃ running paused, look =
        (stepCycles (cyclesStarted (looks.take i)) s).state.posed running paused
  ended : ∃ running paused,
    final = (stepCycles (cyclesStarted looks) s).state.posed running paused
  leaves : ∃ last, looks.getLast? = some last ∧ last.Leaves final answer
  bounded : ∀ cap, s.settings.maxCycles = some cap → s.cycle ≤ cap → final.cycle ≤ cap

namespace Itinerary
variable {s t final : Simulation} {rest : List Simulation} {answer : Except Fault Unit}

theorem last (leaves : s.Leaves final answer) : Itinerary s [s] final answer := by
  have left := leaves.looked
  refine ⟨?_, ?_, ⟨s, rfl, leaves⟩, ?_⟩
  · intro i look found
    cases i with
    | zero =>
        cases found
        exact ⟨rfl, s.running, s.paused, rfl⟩
    | succ i => simp at found
  · refine ⟨final.running, final.paused, ?_⟩
    rw [← looked_eq, ← left]
    rfl
  · intro cap capped below
    rw [left]
    exact looked_cycle_le capped below

theorem stepCycles_onwards (ended : s.looked.answer = .ok ()) (rest : List Simulation) :
    (stepCycles (cyclesStarted (s :: rest)) s).state =
        (stepCycles (cyclesStarted rest) s.looked.state).state ∧
      (stepCycles (cyclesStarted (s :: rest)) s).answer =
        (stepCycles (cyclesStarted rest) s.looked.state).answer := by
  have split : cyclesStarted ([s] ++ rest) = cyclesStarted [s] + cyclesStarted rest :=
    List.countP_append
  have first : stepCycles (cyclesStarted [s]) s = s.looked := s.looked_eq.symm
  have whole : stepCycles (cyclesStarted (s :: rest)) s =
      s.looked.andThen fun next _ => stepCycles (cyclesStarted rest) next := by
    rw [← first, ← List.singleton_append, split]
    exact Attempt.repeated_add stepCycle _ _ s
  rw [whole, Attempt.andThen_of_ok _ ended]
  exact ⟨rfl, rfl⟩

theorem cons (ended : s.looked.answer = .ok ())
    (called : ∃ running paused, t = s.looked.state.posed running paused)
    (itinerary : Itinerary t rest final answer) : Itinerary s (s :: rest) final answer := by
  obtain ⟨running, paused, rfl⟩ := called
  -- Flags that were set in the sleep do not matter to the cycles after it.
  have onwards (looks : List Simulation) :=
    stepCycles_posed running paused (cyclesStarted looks) s.looked.state
  refine ⟨?_, ?_, ?_, ?_⟩
  · intro i look found
    cases i with
    | zero =>
        cases found
        exact ⟨rfl, s.running, s.paused, rfl⟩
    | succ i =>
        obtain ⟨complete, running', paused', seen⟩ := itinerary.paced i look (by simpa using found)
        rw [onwards] at complete seen
        obtain ⟨state, outcome⟩ := stepCycles_onwards ended (rest.take i)
        rw [List.take_succ_cons, state, outcome]
        exact ⟨complete, running', paused', seen⟩
  · obtain ⟨running', paused', left⟩ := itinerary.ended
    rw [onwards] at left
    rw [(stepCycles_onwards ended rest).1]
    exact ⟨running', paused', left⟩
  · obtain ⟨last, found, leaves⟩ := itinerary.leaves
    exact ⟨last, by simp [List.getLast?_cons, found], leaves⟩
  · intro cap capped below
    have settings : s.looked.state.settings = s.settings := s.looked_setup.settings
    exact itinerary.bounded cap (by rw [← capped, ← settings]; rfl) (looked_cycle_le capped below)

end Itinerary

theorem idle_itinerary (idle : w.simulation.running = false) :
    Itinerary w.simulation [w.simulation] (w.pass stepCycle).state.simulation
      ((w.pass stepCycle).answer.map fun _ => ()) := by
  rcases w.pass_cases with ⟨_, running, _⟩ | ⟨_, leaves⟩
  · rw [idle] at running
    cases running
  · exact .last leaves

theorem last_itinerary {next : Watched → Pass → Attempt Watched Unit}
    (exit : ∀ v, next v .left = .done v ()) (awake : (w.pass stepCycle).answer ≠ .ok .asleep)
    (leaves : w.simulation.Leaves (w.pass stepCycle).state.simulation
      ((w.pass stepCycle).answer.map fun _ => ())) :
    Itinerary w.simulation [w.simulation] ((w.pass stepCycle).andThen next).state.simulation
      ((w.pass stepCycle).andThen next).answer := by
  cases answer : (w.pass stepCycle).answer with
  | error fault =>
      rw [answer] at leaves
      rw [Attempt.andThen_of_error _ answer]
      exact .last leaves
  | ok outcome =>
      cases outcome with
      | asleep => exact absurd answer awake
      | left =>
          rw [answer] at leaves
          rw [Attempt.andThen_of_ok _ answer, exit]
          exact .last leaves

theorem looks_awake (awake : (w.pass stepCycle).answer ≠ .ok .asleep)
    (schedule : List (List Control)) (left : Nat) :
    looks schedule w = [w.simulation] ∧ coastingLooks left w = [w.simulation] := by
  have alone (left : Nat) : coastingLooks left w = [w.simulation] := by
    unfold coastingLooks
    dsimp only
    split
    · contradiction
    · rfl
  refine ⟨?_, alone left⟩
  cases schedule with
  | nil => exact alone w.cyclesLeft
  | cons controls rest =>
      unfold looks
      dsimp only
      split
      · contradiction
      · rfl

/-- A loop that goes to sleep awake has counted a cycle, and was below its cap. -/
theorem pass_counted (asleep : (w.pass stepCycle).answer = .ok .asleep)
    (awake : (w.pass stepCycle).state.simulation.paused = false) :
    (w.pass stepCycle).state.simulation.cycle = w.simulation.cycle + 1 ∧
      ∀ cap, w.simulation.settings.maxCycles = some cap → w.simulation.cycle < cap := by
  rcases w.pass_cases with ⟨_, _, starts | paused, ended, state⟩ | ⟨left, _⟩
  · have looked : w.simulation.looked = w.simulation.stepCycle := if_pos starts
    rw [state, looked]
    rw [looked] at ended
    exact ⟨w.simulation.stepCycle_counts.2 ended, starts.below⟩
  · have looked : w.simulation.looked = .done w.simulation () :=
      if_neg fun starts => by simp [starts.awake] at paused
    rw [state, looked] at awake
    exact absurd paused (by simpa using awake)
  · exact absurd asleep left

/-- Below the cap there is always a cycle left, so the count never ends a run. -/
theorem coast_itinerary (left : Nat) (w : Watched)
    (room : ∀ cap, w.simulation.settings.maxCycles = some cap → cap - w.simulation.cycle ≤ left) :
    Itinerary w.simulation (coastingLooks left w) (coast stepCycle left w).state.simulation
      (coast stepCycle left w).answer := by
  induction left using Nat.strongRecOn generalizing w with
  | ind left ih =>
      rcases w.pass_cases with ⟨asleep, _, _, ended, state⟩ | ⟨awake, leaves⟩
      · have settings : (w.pass stepCycle).state.simulation.settings = w.simulation.settings := by
          rw [state, w.simulation.looked_setup.settings]
        unfold coast coastingLooks
        rw [Attempt.andThen_of_ok _ asleep]
        simp only [asleep]
        split
        · have idle := idle_itinerary (w := { (w.pass stepCycle).state with
              simulation := (w.pass stepCycle).state.simulation.stop }) rfl
          exact .cons ended ⟨false, _, by rw [← state]; rfl⟩ idle
        · next free =>
            rw [Bool.not_eq_true, Bool.or_eq_false_iff, Option.isNone_eq_false_iff,
              Option.isSome_iff_exists] at free
            obtain ⟨awake, cap, capped⟩ := free
            rw [settings] at capped
            obtain ⟨counted, below⟩ := pass_counted asleep awake
            have below := below cap capped
            have enough := room cap capped
            cases left with
            | zero => omega
            | succ left =>
                have later := ih left (Nat.lt_succ_self left) (w.pass stepCycle).state (by
                  intro cap' capped'
                  rw [settings, capped] at capped'
                  cases capped'
                  omega)
                exact .cons ended ⟨_, _, state⟩ later
      · rw [(looks_awake awake [] left).2]
        unfold coast
        exact last_itinerary (fun _ => rfl) awake leaves

theorem loop_itinerary (schedule : List (List Control)) (w : Watched) :
    Itinerary w.simulation (looks schedule w)
      (loop stepCycle (schedule.map (List.map Control.call)) w).state.simulation
      (loop stepCycle (schedule.map (List.map Control.call)) w).answer := by
  induction schedule generalizing w with
  | nil =>
      refine coast_itinerary _ w fun cap capped => ?_
      simp [cyclesLeft, capped]
  | cons controls rest ih =>
      rcases w.pass_cases with ⟨asleep, _, _, ended, state⟩ | ⟨awake, leaves⟩
      · rw [List.map_cons, loop, looks]
        rw [Attempt.andThen_of_ok _ asleep]
        simp only [asleep, act_controls, Attempt.done_andThen]
        obtain ⟨running, paused, posed⟩ := controls_pose controls (w.pass stepCycle).state.simulation
        refine .cons ended ⟨running, paused, ?_⟩ (ih (controlled controls (w.pass stepCycle).state))
        rw [← state, ← posed]
        rfl
      · rw [(looks_awake awake _ 0).1]
        exact last_itinerary (fun _ => rfl) awake leaves

theorem coastingLooks_head (left : Nat) (w : Watched) :
    (coastingLooks left w)[0]? = some w.simulation := by
  unfold coastingLooks
  rfl

theorem looks_head (schedule : List (List Control)) (w : Watched) :
    (looks schedule w)[0]? = some w.simulation := by
  cases schedule with
  | nil => exact coastingLooks_head w.cyclesLeft w
  | cons controls rest => rfl

theorem looks_idle (idle : w.simulation.running = false) (schedule : List (List Control)) :
    looks schedule w = [w.simulation] := by
  rcases w.pass_cases with ⟨_, running, _⟩ | ⟨awake, _⟩
  · rw [idle] at running
    cases running
  · exact (looks_awake awake schedule 0).1

theorem coastingLooks_follow {left i : Nat} {look next : Simulation}
    (seen : (coastingLooks left w)[i]? = some look)
    (following : (coastingLooks left w)[i + 1]? = some next) :
    next = look.looked.state ∨ next = look.looked.state.stop := by
  induction left using Nat.strongRecOn generalizing w i with
  | ind left ih =>
      rcases w.pass_cases with ⟨asleep, _, _, _, state⟩ | ⟨awake, _⟩
      · unfold coastingLooks at seen following
        simp only [asleep, List.getElem?_cons_succ] at seen following
        split at following
        · cases i with
          | zero =>
              cases seen
              cases following
              rw [state]
              exact Or.inr rfl
          | succ i => simp at following
        · next free =>
            rw [if_neg free] at seen
            cases left with
            | zero => simp at following
            | succ left =>
                dsimp only at seen following
                cases i with
                | zero =>
                    cases seen
                    rw [coastingLooks_head] at following
                    cases following
                    exact Or.inl state
                | succ i => exact ih left (Nat.lt_succ_self left) seen following
      · rw [(looks_awake awake [] left).2] at following
        simp at following

theorem looks_follow {schedule : List (List Control)} {i : Nat} {look next : Simulation}
    (seen : (looks schedule w)[i]? = some look)
    (following : (looks schedule w)[i + 1]? = some next) : Follows schedule i look next := by
  induction schedule generalizing w i with
  | nil => exact coastingLooks_follow seen following
  | cons controls rest ih =>
      rcases w.pass_cases with ⟨asleep, _, _, _, state⟩ | ⟨awake, _⟩
      · unfold looks at seen following
        simp only [asleep, List.getElem?_cons_succ] at seen following
        cases i with
        | zero =>
            rw [looks_head] at following
            cases seen
            cases following
            exact congrArg (controls.foldl Control.apply) state
        | succ i => exact ih seen following
      · rw [(looks_awake awake _ 0).1] at following
        simp at following

theorem looks_stopped {schedule : List (List Control)} {i j : Nat} {controls : List Control}
    {look : Simulation} (called : schedule[i]? = some controls) (stopped : .stop ∈ controls)
    (later : i < j) (seen : (looks schedule w)[j]? = some look) : look.running = false := by
  induction schedule generalizing w i j with
  | nil => simp at called
  | cons first rest ih =>
      obtain ⟨j, rfl⟩ : ∃ k, j = k + 1 := ⟨j - 1, by omega⟩
      rcases w.pass_cases with ⟨asleep, _, _, _, _⟩ | ⟨awake, _⟩
      · unfold looks at seen
        simp only [asleep, List.getElem?_cons_succ] at seen
        cases i with
        | zero =>
            cases called
            have idle : ((w.pass stepCycle).state.controlled controls).simulation.running = false :=
              controls_stopped stopped
            rw [looks_idle idle, List.getElem?_singleton] at seen
            split at seen
            · cases seen
              exact idle
            · cases seen
        | succ i => exact ih (by simpa using called) (by omega) seen
      · rw [(looks_awake awake _ 0).1] at seen
        simp at seen

theorem coast_congr {cycle : Simulation → Attempt Simulation Unit} {left : Nat}
    (same : ∀ look ∈ coastingLooks left w, look.Starts → cycle look = look.stepCycle) :
    coast cycle left w = coast stepCycle left w := by
  induction left using Nat.strongRecOn generalizing w with
  | ind left ih =>
      have first : w.pass cycle = w.pass stepCycle :=
        pass_congr (same w.simulation (by unfold coastingLooks; exact List.mem_cons_self))
      unfold coast
      rw [first]
      apply Attempt.andThen_congr
      intro outcome asleep
      cases outcome with
      | left => rfl
      | asleep =>
          unfold coastingLooks at same
          simp only [asleep] at same
          dsimp only
          split
          · next stuck =>
              rw [if_pos stuck] at same
              rw [pass_congr (w := { (w.pass stepCycle).state with
                simulation := (w.pass stepCycle).state.simulation.stop })
                (same _ (by simp))]
          · next free =>
              rw [if_neg free] at same
              cases left with
              | zero => rfl
              | succ left =>
                  exact ih left (Nat.lt_succ_self left) fun look seen =>
                    same look (List.mem_cons_of_mem _ seen)

theorem loop_congr {cycle : Simulation → Attempt Simulation Unit} {schedule : List (List Control)}
    (same : ∀ look ∈ looks schedule w, look.Starts → cycle look = look.stepCycle) :
    loop cycle (schedule.map (List.map Control.call)) w =
      loop stepCycle (schedule.map (List.map Control.call)) w := by
  induction schedule generalizing w with
  | nil => exact coast_congr same
  | cons controls rest ih =>
      have first : w.pass cycle = w.pass stepCycle :=
        pass_congr (same w.simulation (by unfold looks; exact List.mem_cons_self))
      rw [List.map_cons, loop, loop, first]
      apply Attempt.andThen_congr
      intro outcome asleep
      cases outcome with
      | left => rfl
      | asleep =>
          unfold looks at same
          simp only [asleep] at same
          simp only [act_controls, Attempt.done_andThen]
          exact ih fun look seen => same look (List.mem_cons_of_mem _ seen)

end Watched

namespace Simulation

def looks (s : Simulation) (schedule : List (List Control)) : List Simulation :=
  Watched.looks schedule ⟨{ s with running := true }, []⟩

/-- A run of the loop starts plain cycles and does nothing else to the world, whatever is called in
its sleeps. It starts them where it is running, awake and below its cap, none of them after a stop.
It leaves when it was stopped, has reached its cap or is failed by a cycle (or a sleep without
end), and is not running then. -/
theorem run_is_stepCycles (s : Simulation) (schedule : List (List Control)) :
    let calls := schedule.map (List.map Control.call)
    let ran := s.run calls
    let looks := s.looks schedule
    let plain (seen : List Simulation) := stepCycles (cyclesStarted seen) s
    looks[0]? = some { s with running := true } ∧
    (∀ (i : Nat) look next, looks[i]? = some look → looks[i + 1]? = some next →
      Watched.Follows schedule i look next) ∧
    (∀ (i : Nat) look, looks[i]? = some look → (plain (looks.take i)).answer = .ok () ∧
      ∃ running paused, look = (plain (looks.take i)).state.posed running paused) ∧
    (∃ paused, ran.state.simulation = (plain looks).state.posed false paused) ∧
    (∀ cycle, (∀ look ∈ looks, look.Starts → cycle look = look.stepCycle) →
      s.runAs cycle calls = ran) ∧
    (∀ (i : Nat) controls, schedule[i]? = some controls → .stop ∈ controls →
      ∀ (j : Nat) look, i < j → looks[j]? = some look → look.running = false) ∧
    (∃ last left, looks.getLast? = some last ∧ last.Leaves left ran.answer ∧
      ran.state.simulation = left.stop ∧
      ∀ cap, s.settings.maxCycles = some cap → s.cycle < cap → last.running = true →
        ran.answer = .ok () → ran.state.simulation.cycle = cap) := by
  intro calls ran looks plain
  let started : Watched := ⟨{ s with running := true }, []⟩
  have itinerary := Watched.loop_itinerary schedule started
  have finished : ran.state.simulation =
      (Watched.loop stepCycle calls started).state.simulation.stop := rfl
  have answered : ran.answer = (Watched.loop stepCycle calls started).answer := rfl
  have fromStart (count : Nat) : stepCycles count started.simulation =
      (stepCycles count s).inside (posed true s.paused) := stepCycles_posed true s.paused count s
  refine ⟨Watched.looks_head schedule started, fun i look next => Watched.looks_follow, ?_, ?_, ?_,
    fun i controls called stopped j look later => Watched.looks_stopped called stopped later, ?_⟩
  · intro i look seen
    obtain ⟨complete, running, paused, same⟩ := itinerary.paced i look seen
    rw [fromStart] at complete same
    exact ⟨complete, running, paused, same⟩
  · obtain ⟨running, paused, same⟩ := itinerary.ended
    rw [fromStart] at same
    exact ⟨paused, by rw [finished, same]; rfl⟩
  · intro cycle same
    have looped : Watched.loop cycle calls started = Watched.loop stepCycle calls started :=
      Watched.loop_congr same
    have run (cycle : Simulation → Attempt Simulation Unit) : s.runAs cycle calls =
        (Attempt.tell started .started).andThen fun w _ =>
          Watched.finish (Watched.loop cycle calls w) := rfl
    rw [run]
    exact congrArg (fun loop => (Attempt.tell started .started).andThen fun _ _ =>
      Watched.finish loop) looped
  · obtain ⟨last, found, leaves⟩ := itinerary.leaves
    refine ⟨last, _, found, by rw [answered]; exact leaves, finished, ?_⟩
    intro cap capped below running ended
    rw [← answered, ended] at leaves
    obtain ⟨left, cap', capped', reached⟩ := leaves.capped_of_running running
    -- The settings are those of the start, so there is one cap; it was not passed.
    have settings : last.settings = s.settings := by
      rw [List.getLast?_eq_getElem?] at found
      obtain ⟨_, _, _, rfl⟩ := itinerary.paced _ last found
      rw [fromStart]
      exact (stepCycles_setup _ s).settings
    rw [settings, capped] at capped'
    cases capped'
    have bounded := itinerary.bounded cap capped (Nat.le_of_lt below)
    rw [finished]
    rw [left] at bounded ⊢
    exact Nat.le_antisymm bounded reached

end Simulation
end Terrarium
