import Terrarium.Proofs.Population.Attention
import Terrarium.Proofs.Simulation.Budget

/-!
The focus over a run. Only two requests name a focus; whatever else is asked of a simulation, the
focus stays with its organism until that one is removed. Main statement: in every state that can be
reached the focus is the one that was named last, as long as its organism is live.
-/

namespace Terrarium.Simulation
open Population Attempt
variable {s t : Simulation}

def Unasked (s t : Simulation) : Prop := Steadily s.population t.population

theorem adopt_unasked (s : Simulation) (child : Organism) : Unasked s (s.adopt child).state := by
  by_cases dead : child.phase = .dead
  · rw [adopt_dead s dead]
    exact .refl _
  · rw [adopt_alive s dead]
    exact .enter dead

theorem adoptAll_unasked (unasked : Unasked s t) (children : List Organism) :
    (adoptAll children t).Ensures (Unasked s) (fun _ => True) := by
  induction children generalizing t with
  | nil => exact .done unasked trivial
  | cons child rest ih =>
      have adopted : (t.adopt child).Ensures (Unasked s) (fun _ => True) :=
        ⟨unasked.trans (adopt_unasked t child), fun _ _ => trivial⟩
      apply adopted.andThen
      intro u _ unasked _
      exact (ih unasked).map fun _ _ => trivial

theorem withFocused_unasked {o : Organism} (found : s.population.focused? = some o)
    (p : Organism) : Unasked s (s.withFocused p) := by
  obtain ⟨slot, _, here, place⟩ := focused_found found
  rw [place]
  exact .change (mem_slots_of_get? here) p

theorem runFocused_unasked (s : Simulation) (mnemonics : List String) :
    (s.runFocused mnemonics).Ensures (Unasked s) (fun _ => True) := by
  unfold runFocused
  split
  · exact .fail _ (.refl _)
  · split
    · exact .done (.refl _) trivial
    · next program _ _ o found =>
        have placed : ((runInPlace s.rules program ⟨o, s.habitat⟩).inside fun scene =>
            ({ s.withFocused scene.organism with habitat := scene.habitat } : Simulation)).Ensures
              (Unasked s) (fun _ => True) :=
          ⟨withFocused_unasked found _, fun _ _ => trivial⟩
        apply placed.andThen
        intro t effects unasked _
        apply (adoptAll_unasked unasked _).andThen
        intro t spawned unasked _
        exact ⟨unasked, fun _ _ => trivial⟩

theorem stepCycle_unasked (reachable : Reachable s) : Unasked s s.stepCycle.state := by
  have tidy := reachable.prepared.tidy
  obtain ⟨moves, trail, cycling, _⟩ :=
    (stepCycle_course tidy (ready_eq reachable.sound)).state.moves
  refine ⟨moves, trail, ?_⟩
  intro move member
  have permitted := cycling move member
  cases move with
  | look focus => exact permitted
  | _ => trivial

theorem stepCycles_unasked (reachable : Reachable s) (count : Nat) :
    Unasked s (stepCycles count s).state := by
  have start : Reachable s ∧ Unasked s s := ⟨reachable, .refl _⟩
  refine (Attempt.Ensures.repeated (P := fun t => Reachable t ∧ Unasked s t) ?_ count s start).state.2
  rintro t ⟨reached, unasked⟩
  have onwards := reached.onwards (Reaches.refl.stepCycle).state
  exact ⟨⟨onwards, unasked.trans (stepCycle_unasked reached)⟩, fun _ _ => trivial⟩

theorem killFocused_unasked (tidy : s.population.Tidy) : Unasked s s.killFocused.state := by
  obtain ⟨moves, account, kills, _⟩ := killFocused_account s.population tidy
  refine ⟨moves, account.trail, ?_⟩
  intro move member
  obtain ⟨slot, rfl⟩ := kills move member
  trivial

def wanted? (s : Simulation) : Deed → Option (Option SlotId)
  | .perform (.setFocus slot) => some slot
  | .perform (.focusOrdinal ordinal) => some (s.population.slotFor ordinal)
  | _ => none

def naming? (s : Simulation) (deed : Deed) : Option (Option SlotId) :=
  (s.wanted? deed).filter fun slot => (s.population.setFocus slot).2

def namings (s : Simulation) : List Deed → List (Option SlotId)
  | [] => []
  | deed :: rest => (s.naming? deed).toList ++ (s.act deed).state.namings rest

section Deeds
variable {deed : Deed}

theorem act_wanted {slot : Option SlotId} (wanted : s.wanted? deed = some slot) :
    (s.act deed).state = { s with population := (s.population.setFocus slot).1 } := by
  unfold wanted? at wanted
  split at wanted
  · cases wanted
    rfl
  · cases wanted
    rfl
  · cases wanted

/-- A deed that names no focus does not touch it. -/
theorem act_unasked (reachable : Reachable s) (facade : deed.isFacade = true)
    (unnamed : s.naming? deed = none) : Unasked s (s.act deed).state := by
  have tidy := reachable.prepared.tidy
  -- A request that is refused changes nothing at all.
  have refused {slot : Option SlotId} (wanted : s.wanted? deed = some slot) :
      Unasked s (s.act deed).state := by
    have refusal : (s.population.setFocus slot).2 = false := by
      simpa [naming?, wanted, Option.filter] using unnamed
    rw [act_wanted wanted, setFocus_refused refusal]
    exact .refl _
  cases deed with
  | assign field v =>
      simp only [act, Simulation.assign]
      split <;> exact .refl _
  | start => exact .refl _
  | perform operation =>
      cases operation with
      | step => exact stepCycle_unasked reachable
      | runCycles count =>
          have state : (s.act (.perform (.runCycles count))).state = _ := s.runCycles_state count
          rw [state]
          exact stepCycles_unasked reachable count.toNat
      | spawn p direction =>
          simp only [act, perform, Simulation.spawn, spawn_eq]
          exact .enter (by simp [Organism.newborn, Organism.within])
      | insert o => cases facade
      | writeByte p value =>
          simp only [act, perform, writeByte]
          split <;> exact .refl _
      | writeInstruction p mnemonic =>
          simp only [act, perform, writeInstruction]
          split <;> exact .refl _
      | writeInstructions p mnemonics =>
          simp only [act, perform, writeInstructions]
          split <;> exact .refl _
      | setFocus slot => exact refused rfl
      | focusOrdinal ordinal => exact refused rfl
      | killFocused => exact killFocused_unasked tidy
      | dedup => exact .of_leaves (dedup_account s.population tidy).1
      | moveCursor direction steps =>
          simp only [act, perform, moveCursor]
          split
          · exact .refl _
          · next o found => exact withFocused_unasked found _
      | moveIp direction steps =>
          simp only [act, perform, moveIp]
          split
          · exact .refl _
          · next o found => exact withFocused_unasked found _
      | runFocused mnemonics => exact (runFocused_unasked s mnemonics).state
      | set knob v =>
          simp only [act, perform, Attempt.map_state, Simulation.set_state, Simulation.assign]
          split <;> exact .refl _
      | setSpeed v =>
          simp only [act, perform, Simulation.setSpeed, Simulation.assign]
          split <;> exact .refl _
      | _ => exact .refl _

/-- What a deed names is a handle that is live, or none at all, and the focus from then on. -/
theorem act_names {slot : Option SlotId} (named : s.naming? deed = some slot) :
    (s.act deed).state = { s with population := { s.population with focus := slot } } ∧
      ∀ handle, slot = some handle → handle ∈ s.population.slots := by
  obtain ⟨wanted, granted⟩ := Option.filter_eq_some_iff.mp named
  exact ⟨by rw [act_wanted wanted, setFocus_granted granted], (setFocus_granted_iff slot).mp granted⟩

theorem act_focus (reachable : Reachable s) (facade : deed.isFacade = true) :
    (s.act deed).state.focus =
      ((s.naming? deed).getD s.focus).filter (· ∈ (s.act deed).state.population.slots) := by
  cases named : s.naming? deed with
  | none => exact (act_unasked reachable facade named).focus reachable.prepared.tidy
  | some slot =>
      obtain ⟨state, live⟩ := act_names named
      have slots : (s.act deed).state.population.slots = s.population.slots := by rw [state]; rfl
      rw [slots, state]
      cases slot with
      | none => rfl
      | some handle => simp [Simulation.focus, Option.filter, live handle rfl]

/-- The focus is lost with its organism, or given up. -/
theorem act_unfocuses_iff (reachable : Reachable s) (facade : deed.isFacade = true)
    {slot : SlotId} (focus : s.focus = some slot) :
    (s.act deed).state.focus = none ↔
      s.naming? deed = some none ∨ ∃ cause, (slot, cause) ∈ removals (s.act deed).events := by
  have prepared := reachable.prepared
  have ledger := act_ledger prepared facade
  have live := prepared.tidy.focused slot focus
  have after := act_focus reachable facade
  obtain ⟨o, found⟩ := get?_of_mem_slots live
  -- Whoever is live stays, and nothing is told of it, or it leaves for good and is told of.
  have removed_iff : (∃ cause, (slot, cause) ∈ removals (s.act deed).events) ↔
      slot ∉ (s.act deed).state.population.slots := by
    cases ledger.fate (fun _ => True) prepared (fun _ _ _ _ _ => trivial) found trivial with
    | stays here _ untold =>
        exact iff_of_false (fun ⟨cause, told⟩ => untold cause told)
          (not_not_intro (mem_slots_of_get? here))
    | @leaves cause gone _ named =>
        exact iff_of_true ⟨cause, (named cause).mpr rfl⟩ fun live =>
          (ledger.prepared prepared).tidy.not_spent live gone
  rw [removed_iff, after]
  cases named : s.naming? deed with
  | none => simp [focus, Option.filter_eq_none_iff]
  | some other =>
      obtain ⟨state, handles⟩ := act_names named
      have slots : (s.act deed).state.population.slots = s.population.slots := by rw [state]; rfl
      rw [slots]
      cases other with
      | none => simp
      | some handle => simp [handles handle rfl, live]

end Deeds

/-- The focus is on whoever was named last, as long as that organism is live. -/
structure Attends (s : Simulation) (named : Option SlotId) : Prop where
  focus : s.focus = named.filter (· ∈ s.population.slots)
  known : ∀ slot, named = some slot → s.population.Known slot

theorem Attends.act {named : Option SlotId} (attends : s.Attends named) (reachable : Reachable s)
    {deed : Deed} (facade : deed.isFacade = true) :
    (s.act deed).state.Attends ((s.naming? deed).getD named) := by
  have prepared := reachable.prepared
  have ledger := act_ledger prepared facade
  have after := act_focus reachable facade
  cases asked : s.naming? deed with
  | some other =>
      obtain ⟨state, live⟩ := act_names asked
      rw [asked] at after
      refine ⟨after, fun slot same => Or.inl ?_⟩
      rw [state]
      exact live slot same
  | none =>
      rw [asked] at after
      refine ⟨?_, fun slot same => ledger.known prepared (attends.known slot same)⟩
      rw [after, Option.getD_none, attends.focus, Option.getD_none]
      cases named with
      | none => rfl
      | some slot =>
          -- Whoever was gone before the deed is not there after it.
          have stays : slot ∈ (s.act deed).state.population.slots → slot ∈ s.population.slots := by
            intro live
            apply (attends.known slot rfl).resolve_right
            intro gone
            exact (ledger.prepared prepared).tidy.not_spent live (ledger.spent prepared gone).1
          by_cases live : slot ∈ s.population.slots
          · simp [Option.filter, live]
          · simp [Option.filter, live, mt stays live]

theorem Attends.after {named : Option SlotId} (attends : s.Attends named) (reachable : Reachable s)
    {deeds : List Deed} (facade : ∀ deed ∈ deeds, deed.isFacade = true) :
    (s.after deeds).Attends ((s.namings deeds).getLast?.getD named) := by
  induction deeds generalizing s named with
  | nil => exact attends
  | cons deed rest ih =>
      have first := facade deed List.mem_cons_self
      have later := ih (attends.act reachable first) (reachable.onwards (Reaches.refl.act first))
        fun other member => facade other (List.mem_cons_of_mem _ member)
      have last : (s.namings (deed :: rest)).getLast?.getD named =
          ((s.act deed).state.namings rest).getLast?.getD ((s.naming? deed).getD named) := by
        rw [namings, List.getLast?_append]
        cases s.naming? deed <;> cases ((s.act deed).state.namings rest).getLast? <;> rfl
      rw [last]
      exact later

theorem Fresh.attends {fresh : Simulation} (new : Fresh fresh) : fresh.Attends none := by
  obtain ⟨empty, _⟩ := new.start
  refine ⟨?_, by simp⟩
  rw [Simulation.focus, empty]
  rfl

theorem spent_after (prepared : s.Prepared) {slot : SlotId} (gone : s.population.Spent slot)
    {deeds : List Deed} (facade : ∀ deed ∈ deeds, deed.isFacade = true) :
    (s.after deeds).population.Spent slot := by
  induction deeds generalizing s with
  | nil => exact gone
  | cons deed rest ih =>
      have ledger := act_ledger prepared (facade deed List.mem_cons_self)
      exact ih (ledger.prepared prepared) (ledger.spent prepared gone).1
        fun other later => facade other (List.mem_cons_of_mem _ later)

theorem known_after (prepared : s.Prepared) {slot : SlotId} (known : s.population.Known slot)
    {deeds : List Deed} (facade : ∀ deed ∈ deeds, deed.isFacade = true) :
    (s.after deeds).population.Known slot := by
  induction deeds generalizing s with
  | nil => exact known
  | cons deed rest ih =>
      have ledger := act_ledger prepared (facade deed List.mem_cons_self)
      exact ih (ledger.prepared prepared) (ledger.known prepared known)
        fun other later => facade other (List.mem_cons_of_mem _ later)

/-- Whoever is live at the end of a run was live all along, from where it is known on. -/
theorem live_throughout (prepared : s.Prepared) {slot : SlotId} (known : s.population.Known slot)
    {front back : List Deed} (facade : ∀ deed ∈ front ++ back, deed.isFacade = true)
    (live : slot ∈ (s.after (front ++ back)).population.slots) :
    slot ∈ (s.after front).population.slots := by
  have before : ∀ deed ∈ front, deed.isFacade = true := fun deed member =>
    facade deed (List.mem_append_left _ member)
  have after : ∀ deed ∈ back, deed.isFacade = true := fun deed member =>
    facade deed (List.mem_append_right _ member)
  have middle : (s.after front).Prepared := prepared.after before
  apply (known_after prepared known before).resolve_right
  intro gone
  have lasting := spent_after middle gone after
  rw [after_append] at live
  exact (middle.after after).tidy.not_spent live lasting

/-- Whatever was named last was named by some deed, and nothing was named after it. -/
theorem namings_last {deeds : List Deed} {named : Option SlotId}
    (last : (s.namings deeds).getLast? = some named) :
    ∃ earlier deed later, deeds = earlier ++ deed :: later ∧
      (s.after earlier).naming? deed = some named ∧
      (s.after (earlier ++ [deed])).namings later = [] := by
  induction deeds generalizing s with
  | nil => cases last
  | cons deed rest ih =>
      rw [namings, List.getLast?_append] at last
      cases further : ((s.act deed).state.namings rest).getLast? with
      | some other =>
          rw [further] at last
          obtain ⟨earlier, named, later, rfl, names, none⟩ := ih (further.trans last)
          exact ⟨deed :: earlier, named, later, rfl, names, none⟩
      | none =>
          rw [further, Option.none_or] at last
          refine ⟨[], deed, rest, rfl, ?_, List.getLast?_eq_none_iff.mp further⟩
          cases here : s.naming? deed with
          | none => simp [here] at last
          | some other => simpa [here] using last

section Focus
variable {fresh : Simulation} {deeds : List Deed}

/-- In every state that can be reached the focus is on nobody, or on the organism that was named
last, which has been live ever since. It is lost in the deed that removes this organism, whatever
the cause, or given up by request; a request that is refused changes nothing, to kill the organism
in focus never fails, and the listing shows the focus once, in the order that ordinals count. -/
theorem focus_stays_with_its_organism (new : Fresh fresh)
    (facade : ∀ deed ∈ deeds, deed.isFacade = true) :
    let s := fresh.after deeds
    let p := s.population
    s.focus = (fresh.namings deeds).getLast?.join.filter (· ∈ p.slots) ∧
      (∀ slot, s.focus = some slot → ∃ earlier deed later, deeds = earlier ++ deed :: later ∧
        (fresh.after earlier).naming? deed = some (some slot) ∧
        (fresh.after (earlier ++ [deed])).namings later = [] ∧
        ∀ front, front <+: later →
          slot ∈ (fresh.after (earlier ++ deed :: front)).population.slots) ∧
      (∀ deed slot, deed.isFacade = true → s.focus = some slot →
        ((s.act deed).state.focus = none ↔
          s.naming? deed = some none ∨
            ∃ cause, (slot, cause) ∈ removals (s.act deed).events)) ∧
      (∀ slot, (s.setFocus slot).answer = .ok (decide (∀ handle ∈ slot, handle ∈ p.slots)) ∧
        ((s.setFocus slot).answer = .ok false → (s.setFocus slot).state = s)) ∧
      s.killFocused.answer = .ok s.focus.isSome ∧
      (p.views.filter View.focused).map View.slot = s.focus.toList ∧
      ∀ ordinal : Int, p.slotFor ordinal =
        if ordinal < 0 then none else (p.views[ordinal.toNat]?).map View.slot := by
  intro s p
  have start : Reachable fresh := ⟨fresh, new, .refl⟩
  have reachable : Reachable s := start.onwards (Reaches.refl.after facade)
  have tidy : p.Tidy := reachable.prepared.tidy
  have attends := new.attends.after start facade
  have last : (fresh.namings deeds).getLast?.getD none = (fresh.namings deeds).getLast?.join := by
    cases (fresh.namings deeds).getLast? <;> rfl
  rw [last] at attends
  refine ⟨attends.focus, ?_, ?_, ?_, ?_, focus_views tidy, slotFor_views p⟩
  · intro slot focus
    have live := tidy.focused slot focus
    have found := (Option.filter_eq_some_iff.mp (attends.focus.symm.trans focus)).1
    obtain ⟨earlier, deed, later, rfl, named, none⟩ := namings_last (Option.join_eq_some_iff.mp found)
    refine ⟨earlier, deed, later, rfl, named, none, ?_⟩
    rintro front ⟨back, rfl⟩
    have before : ∀ deed ∈ earlier, deed.isFacade = true := fun other member =>
      facade other (List.mem_append_left _ member)
    obtain ⟨_, wasLive⟩ := act_names named
    have known : (fresh.after earlier).population.Known slot := Or.inl (wasLive slot rfl)
    have remaining : ∀ other ∈ deed :: front ++ back, other.isFacade = true := fun other member =>
      facade other (List.mem_append_right _ member)
    rw [after_append]
    apply live_throughout (new.prepared.after before) known remaining
    rw [List.cons_append, ← after_append]
    exact live
  · exact fun deed slot facade focus => act_unfocuses_iff reachable facade focus
  · intro slot
    have answer : (s.setFocus slot).answer = .ok (p.setFocus slot).2 := rfl
    have granted : (p.setFocus slot).2 = decide (∀ handle ∈ slot, handle ∈ p.slots) := by
      rw [Bool.eq_iff_iff, decide_eq_true_eq]
      exact setFocus_granted_iff slot
    refine ⟨answer.trans (congrArg Except.ok granted), fun refused => ?_⟩
    have unmoved := setFocus_refused (Except.ok.inj (answer.symm.trans refused))
    simp only [Simulation.setFocus]
    rw [show s.population.setFocus slot = p.setFocus slot from rfl]
    simp only [done_state, unmoved, p]
  · exact killFocused_answers tidy

/-- Killed in focus, an organism has its index taken by another one. The old handle is refused, the
new one is named, and then a cycle has its organism halt. -/
theorem focus_stays_with_its_organism_twoCells :
    let deeds : List Deed := [.perform (.spawn ⟨0, 0⟩ .right), .perform (.focusOrdinal 0),
      .perform .killFocused, .perform (.spawn ⟨1, 0⟩ .right),
      .perform (.setFocus (some ⟨0, 0⟩)), .perform (.setFocus (some ⟨0, 1⟩))]
    let s := twoCells.after deeds
    Fresh twoCells ∧ (∀ deed ∈ deeds, deed.isFacade = true) ∧
      twoCells.namings deeds = [some ⟨0, 0⟩, some ⟨0, 1⟩] ∧ s.focus = some ⟨0, 1⟩ ∧
      s.killFocused.answer = .ok true ∧
      (s.population.views.filter View.focused).map View.slot = [⟨0, 1⟩] ∧
      (s.act (.perform .step)).state.focus = none ∧
      ∃ cause, (⟨0, 1⟩, cause) ∈ removals (s.act (.perform .step)).events := by
  intro deeds s
  have facade : ∀ deed ∈ deeds, deed.isFacade = true := by decide
  obtain ⟨focus, _, loses, _, kills, listed, _⟩ := focus_stays_with_its_organism twoCells_fresh facade
  have namings : twoCells.namings deeds = [some ⟨0, 0⟩, some ⟨0, 1⟩] := by decide +kernel
  have live : (⟨0, 1⟩ : SlotId) ∈ s.population.slots := by decide +kernel
  have named : s.focus = some ⟨0, 1⟩ := by
    rw [focus, namings]
    exact Option.filter_eq_some_iff.mpr ⟨rfl, decide_eq_true live⟩
  have lost : (s.act (.perform .step)).state.focus = none := by decide +kernel
  rw [named] at kills listed
  refine ⟨twoCells_fresh, facade, namings, named, kills, listed, lost, ?_⟩
  exact ((loses _ _ rfl named).mp lost).resolve_left nofun

end Focus
end Terrarium.Simulation
