import Terrarium.Proofs.Simulation.Ledger
import Terrarium.Proofs.Simulation.Reachability

/-!
Runs of a simulation as lists of deeds, with what they tell. A deed that fails does not end a
run. A run whose cycles all come to their end is the same as the one that asks for each of them
by itself.
-/

namespace Terrarium

inductive Deed where
  | perform (operation : Operation)
  | assign (field : RunField) (v : Value)
  | start

namespace Deed

def isFacade : Deed → Bool
  | perform operation => operation.isFacade
  | _ => true

def cycles : Deed → Nat
  | perform .step => 1
  | perform (.runCycles count) => count.toNat
  | _ => 0

def unrolled : Deed → List Deed
  | perform (.runCycles count) => List.replicate count.toNat (perform .step)
  | deed => [deed]

end Deed

namespace Simulation
open Population Attempt

def act (s : Simulation) : Deed → Attempt Simulation Answer
  | .perform operation => s.perform operation
  | .assign field v => (s.assign field v).map fun _ => .nothing
  | .start => .done { s with running := true } .nothing

def after (s : Simulation) (deeds : List Deed) : Simulation :=
  deeds.foldl (fun s deed => (s.act deed).state) s

def told (s : Simulation) : List Deed → List Event
  | [] => []
  | deed :: rest => (s.act deed).events ++ (s.act deed).state.told rest

def Unfailing (s : Simulation) : List Deed → Prop
  | [] => True
  | deed :: rest => (s.act deed).succeeded = true ∧ (s.act deed).state.Unfailing rest

def CyclesComplete (s : Simulation) : List Deed → Prop
  | [] => True
  | deed :: rest =>
      (0 < deed.cycles → (s.act deed).succeeded = true) ∧ (s.act deed).state.CyclesComplete rest

section Lists
variable (s : Simulation) (deed : Deed) (first second : List Deed)

@[simp] theorem after_nil : s.after [] = s := rfl

@[simp] theorem after_cons : s.after (deed :: first) = (s.act deed).state.after first := rfl

theorem after_append : s.after (first ++ second) = (s.after first).after second :=
  List.foldl_append

theorem told_append : s.told (first ++ second) = s.told first ++ (s.after first).told second := by
  induction first generalizing s with
  | nil => rfl
  | cons deed rest ih => simp only [List.cons_append, told, ih, after_cons, List.append_assoc]

theorem cyclesComplete_append : s.CyclesComplete (first ++ second) ↔
    s.CyclesComplete first ∧ (s.after first).CyclesComplete second := by
  induction first generalizing s with
  | nil => simp [CyclesComplete]
  | cons deed rest ih => simp only [List.cons_append, CyclesComplete, ih, after_cons, and_assoc]

end Lists

theorem Reaches.act {s t : Simulation} (reached : s.Reaches t) {deed : Deed}
    (facade : deed.isFacade = true) : s.Reaches (t.act deed).state := by
  cases deed with
  | perform operation => exact reached.perform operation facade
  | assign field v => exact reached.assign field v
  | start => exact reached.start

theorem Reaches.after {s t : Simulation} (reached : s.Reaches t) {deeds : List Deed}
    (facade : ∀ deed ∈ deeds, deed.isFacade = true) : s.Reaches (t.after deeds) := by
  induction deeds generalizing t with
  | nil => exact reached
  | cons deed rest ih =>
      exact ih (reached.act (facade deed List.mem_cons_self))
        fun other later => facade other (List.mem_cons_of_mem _ later)

/-- Whatever can be reached is reached by a run. -/
theorem Reaches.run {s t : Simulation} (reached : s.Reaches t) :
    ∃ deeds, (∀ deed ∈ deeds, deed.isFacade = true) ∧ t = s.after deeds := by
  have onwards {u : Simulation} (deed : Deed) (facade : deed.isFacade = true)
      (earlier : ∃ deeds, (∀ deed ∈ deeds, deed.isFacade = true) ∧ u = s.after deeds) :
      ∃ deeds, (∀ deed ∈ deeds, deed.isFacade = true) ∧ (u.act deed).state = s.after deeds := by
    obtain ⟨deeds, all, rfl⟩ := earlier
    refine ⟨deeds ++ [deed], ?_, ?_⟩
    · simpa [or_imp, forall_and] using ⟨all, facade⟩
    · rw [after_append]
      rfl
  induction reached with
  | refl => exact ⟨[], by simp, rfl⟩
  | perform _ operation facade ih => exact onwards (.perform operation) facade ih
  | assign _ field v ih => exact onwards (.assign field v) rfl ih
  | start _ ih => exact onwards .start rfl ih

theorem stepCycles_succ (count : Nat) (s : Simulation) :
    stepCycles (count + 1) s = s.stepCycle.andThen fun next _ => stepCycles count next := rfl

theorem stepCycles_add (first second : Nat) (s : Simulation) :
    stepCycles (first + second) s =
      (stepCycles first s).andThen fun next _ => stepCycles second next :=
  repeated_add stepCycle first second s

theorem steps_of_stepCycles (count : Nat) (s : Simulation)
    (completed : (stepCycles count s).answer = .ok ()) :
    s.after (List.replicate count (.perform .step)) = (stepCycles count s).state ∧
      s.told (List.replicate count (.perform .step)) = (stepCycles count s).events ∧
      s.CyclesComplete (List.replicate count (.perform .step)) := by
  induction count generalizing s with
  | zero => exact ⟨rfl, rfl, trivial⟩
  | succ count ih =>
      obtain ⟨_, first, rest⟩ := andThen_ok completed
      obtain ⟨state, events, complete⟩ := ih _ rest
      have whole := andThen_of_ok (fun next _ => stepCycles count next) first
      rw [stepCycles_succ, whole]
      refine ⟨state, congrArg (s.stepCycle.events ++ ·) events, ?_, complete⟩
      intro _
      exact (succeeded_iff _).mpr ⟨.nothing, by simp [act, perform, first, Except.map]⟩

theorem runCycles_unrolled (s : Simulation) (count : Int)
    (complete : 0 < count.toNat → (s.runCycles count).succeeded = true) :
    s.after (List.replicate count.toNat (.perform .step)) = (s.runCycles count).state ∧
      Event.removals (s.told (List.replicate count.toNat (.perform .step))) =
        Event.removals (s.runCycles count).events ∧
      s.CyclesComplete (List.replicate count.toNat (.perform .step)) := by
  unfold runCycles runCyclesAs at complete ⊢
  by_cases negative : count < 0
  · have none : count.toNat = 0 := by omega
    simp [negative, none, Attempt.fail, told, CyclesComplete]
  · simp only [negative, ↓reduceIte] at complete ⊢
    have ran : (stepCycles count.toNat s).answer = .ok () := by
      cases number : count.toNat with
      | zero => rfl
      | succ more =>
          obtain ⟨_, answer⟩ := (succeeded_iff _).mp (complete (by omega))
          obtain ⟨_, ran, _⟩ := andThen_ok answer
          rw [← number]
          exact ran
    obtain ⟨state, events, steps⟩ := steps_of_stepCycles count.toNat s ran
    rw [andThen_of_ok _ (by exact ran), state, events]
    refine ⟨rfl, ?_, steps⟩
    simp [Attempt.tell, Event.removals, stepCycles]

/-- A deed and what it comes to with its cycles asked for one by one. -/
theorem act_unrolled (s : Simulation) (deed : Deed)
    (complete : 0 < deed.cycles → (s.act deed).succeeded = true) :
    s.after deed.unrolled = (s.act deed).state ∧
      Event.removals (s.told deed.unrolled) = Event.removals (s.act deed).events ∧
      s.CyclesComplete deed.unrolled := by
  have alone : s.after [deed] = (s.act deed).state ∧
      Event.removals (s.told [deed]) = Event.removals (s.act deed).events ∧
      s.CyclesComplete [deed] :=
    ⟨rfl, by simp [told], complete, trivial⟩
  cases deed with
  | perform operation =>
      cases operation with
      | runCycles count =>
          apply runCycles_unrolled s count
          intro some
          exact ((s.runCycles count).succeeded_map _).symm.trans (complete some)
      | _ => exact alone
  | assign field v => exact alone
  | start => exact alone

theorem run_unrolled (s : Simulation) (deeds : List Deed) (complete : s.CyclesComplete deeds) :
    s.after (deeds.flatMap Deed.unrolled) = s.after deeds ∧
      Event.removals (s.told (deeds.flatMap Deed.unrolled)) = Event.removals (s.told deeds) ∧
      s.CyclesComplete (deeds.flatMap Deed.unrolled) := by
  induction deeds generalizing s with
  | nil => exact ⟨rfl, rfl, trivial⟩
  | cons deed rest ih =>
      -- Both runs are in the same state after the first deed, so the rest starts alike.
      obtain ⟨state, removals, first⟩ := act_unrolled s deed complete.1
      obtain ⟨state', removals', later⟩ := ih (s.act deed).state complete.2
      rw [List.flatMap_cons, after_append, told_append, cyclesComplete_append, state]
      refine ⟨state', ?_, first, later⟩
      simp only [told, Event.removals_append, removals, removals']

theorem single_of_unrolled {deed single : Deed} (member : single ∈ deed.unrolled) :
    (single = .perform .step ∨ single.cycles = 0) ∧
      (deed.isFacade = true → single.isFacade = true) := by
  unfold Deed.unrolled at member
  split at member
  · cases List.eq_of_mem_replicate member
    exact ⟨Or.inl rfl, fun _ => rfl⟩
  · next whole =>
      cases List.mem_singleton.mp member
      refine ⟨?_, id⟩
      cases deed with
      | perform operation =>
          cases operation with
          | step => exact Or.inl rfl
          | runCycles count => exact absurd rfl (whole count)
          | _ => exact Or.inr rfl
      | assign field v => exact Or.inr rfl
      | start => exact Or.inr rfl

section Ledgers
variable {law : Law} {s : Simulation}

theorem announce_discreet (s : Simulation) (knob : Knob) (v : Value) :
    Discreet (s.announce knob v) := by
  unfold announce
  split <;> rfl

/-- A deed that asks for no cycle moves the organism in focus or has it run instructions, and removes
for two causes only. Either it leaves the settings alone or everyone. -/
theorem act_ledger_of (prepared : s.Prepared) (limits : law.limits = s.settings.limits)
    {deed : Deed} (facade : deed.isFacade = true) (apart : deed.cycles = 0)
    (moves : ∀ slot before after, after.standing = before.standing → law.change slot before after)
    (focused : ∀ mnemonics, deed = .perform (.runFocused mnemonics) →
      Along (Books law) s (s.runFocused mnemonics))
    (kills : ∀ slot, law.leave slot .kill) (dedups : ∀ slot, law.leave slot .dedup) :
    Ledger law s (s.act deed).events (s.act deed).state ∧
      ((s.act deed).state.settings = s.settings ∨
        (s.act deed).state.population = s.population ∧
          Event.removals (s.act deed).events = []) := by
  have booked {attempt : Attempt Simulation Answer} (along : Along (Books law) s attempt) :
      Ledger law s attempt.events attempt.state ∧ (attempt.state.settings = s.settings ∨
        attempt.state.population = s.population ∧ Event.removals attempt.events = []) :=
    ⟨(along prepared limits).1, Or.inl (along prepared limits).2⟩
  have still {α : Type} {attempt : Attempt Simulation α}
      (population : attempt.state.population = s.population)
      (metrics : attempt.state.metrics = s.metrics) (silent : Discreet attempt) :
      Ledger law s attempt.events attempt.state ∧ (attempt.state.settings = s.settings ∨
        attempt.state.population = s.population ∧ Event.removals attempt.events = []) :=
    ⟨.unmoved population (by rw [metrics]) (by simp [metrics]) silent, Or.inr ⟨population, silent⟩⟩
  have assigned (field : RunField) (v : Value) :
      (s.assign field v).state.population = s.population ∧
        (s.assign field v).state.metrics = s.metrics ∧ Discreet (s.assign field v) := by
    unfold Simulation.assign
    split <;> exact ⟨rfl, rfl, rfl⟩
  cases deed with
  | assign field v =>
      obtain ⟨population, metrics, silent⟩ := assigned field v
      exact still population metrics silent
  | start => exact still rfl rfl rfl
  | perform operation =>
      cases operation with
      | step => cases apart
      | runCycles count =>
          have none : count.toNat = 0 := apart
          have nothing : (s.runCycles count).state = s ∧ Discreet (s.runCycles count) := by
            by_cases negative : count < 0 <;>
              simp [runCycles, runCyclesAs, negative, none, repeated, Attempt.tell, Attempt.fail,
                Discreet, Event.removals]
          obtain ⟨same, silent⟩ := nothing
          exact still (congrArg population same) (congrArg metrics same) silent
      | insert o => cases facade
      | spawn p direction => exact booked ((spawn_books p direction).map _)
      | writeByte p value =>
          simp only [act, perform, Simulation.writeByte]
          split <;> exact still rfl rfl rfl
      | writeInstruction p mnemonic =>
          simp only [act, perform, Simulation.writeInstruction]
          split <;> exact still rfl rfl rfl
      | writeInstructions p mnemonics =>
          simp only [act, perform, Simulation.writeInstructions]
          split <;> exact still rfl rfl rfl
      | setFocus slot => exact booked ((setFocus_books slot).map _)
      | focusOrdinal ordinal => exact booked ((setFocus_books _).map _)
      | killFocused => exact booked ((killFocused_books kills).map _)
      | moveCursor direction steps =>
          exact booked ((moveCursor_books direction steps moves).map _)
      | moveIp direction steps => exact booked ((moveIp_books direction steps moves).map _)
      | runFocused mnemonics => exact booked ((focused mnemonics rfl).map _)
      | dedup => exact booked ((dedup_books dedups).map _)
      | set knob v =>
          obtain ⟨population, metrics, silent⟩ := assigned knob.field
            (if knob = .autoDedupPeriod ∧ v.isEmpty then .int 0 else v)
          rw [← set_state] at population metrics
          exact still population metrics (silent.andThen fun t _ => t.announce_discreet knob _)
      | setSpeed v =>
          obtain ⟨population, metrics, silent⟩ := assigned .cycleSpeed v
          exact still population metrics silent
      | _ => exact still rfl rfl rfl

theorem act_ledger_apart (prepared : s.Prepared) (limits : law.limits = s.settings.limits)
    {deed : Deed} (facade : deed.isFacade = true) (apart : deed.cycles = 0)
    (changes : ∀ slot before after, before.Continues after → law.change slot before after)
    (kills : ∀ slot, law.leave slot .kill) (dedups : ∀ slot, law.leave slot .dedup) :
    Ledger law s (s.act deed).events (s.act deed).state ∧
      ((s.act deed).state.settings = s.settings ∨
        (s.act deed).state.population = s.population ∧
          Event.removals (s.act deed).events = []) :=
  act_ledger_of prepared limits facade apart
    (fun slot before after same => changes slot before after (.of_standing same))
    (fun mnemonics _ => runFocused_books mnemonics
      fun slot before after _ _ => changes slot before after)
    kills dedups

end Ledgers

theorem freely_stepCycle (s : Simulation) (limits : Limits) :
    Along (Books (freely limits)) s s.stepCycle :=
  stepCycle_books (fun _ _ _ _ => trivial) (fun _ _ _ => trivial) (fun _ _ => trivial)
    (fun _ => trivial) (fun _ _ => trivial) fun _ => trivial

theorem freely_stepCycles (count : Nat) (s : Simulation) (limits : Limits) :
    Along (Books (freely limits)) s (stepCycles count s) :=
  (books_chain _).repeated (fun s => freely_stepCycle s limits) count s

theorem freely_runCycles (s : Simulation) (count : Int) (limits : Limits) :
    Along (Books (freely limits)) s (s.runCycles count) := by
  unfold runCycles runCyclesAs
  split
  · exact (books_chain _).fail s _
  · apply (books_chain _).andThen (freely_stepCycles count.toNat s limits)
    intro _ _
    exact books_of_unmoved rfl rfl rfl rfl

theorem act_ledger {s : Simulation} (prepared : s.Prepared) {deed : Deed}
    (facade : deed.isFacade = true) :
    Ledger (freely s.settings.limits) s (s.act deed).events (s.act deed).state := by
  by_cases apart : deed.cycles = 0
  · exact (act_ledger_apart prepared rfl facade apart (fun _ _ _ _ => trivial) (fun _ => trivial)
      fun _ => trivial).1
  · cases deed with
    | perform operation =>
        cases operation with
        | step => exact (freely_stepCycle s _).map _ prepared rfl |>.1
        | runCycles count => exact (freely_runCycles s count _).map _ prepared rfl |>.1
        | _ => exact absurd rfl apart
    | _ => exact absurd rfl apart

theorem Fresh.prepared {s : Simulation} (new : Fresh s) : s.Prepared := by
  obtain ⟨empty, _⟩ := new.start
  constructor
  · rw [empty]
    exact empty_tidy
  · simp [empty, Population.empty]

theorem Prepared.after {s : Simulation} (prepared : s.Prepared) {deeds : List Deed}
    (facade : ∀ deed ∈ deeds, deed.isFacade = true) : (s.after deeds).Prepared := by
  induction deeds generalizing s with
  | nil => exact prepared
  | cons deed rest ih =>
      exact ih ((act_ledger prepared (facade deed List.mem_cons_self)).prepared prepared)
        fun other later => facade other (List.mem_cons_of_mem _ later)

theorem Reachable.prepared {s : Simulation} (reachable : Reachable s) : s.Prepared := by
  obtain ⟨fresh, new, reached⟩ := reachable
  obtain ⟨deeds, facade, rfl⟩ := reached.run
  exact new.prepared.after facade

end Simulation
end Terrarium
