import Terrarium.Proofs.Simulation.Delay
import Terrarium.Proofs.Simulation.Offspring

/-!
What becomes of child budgets. A birth takes one child off the budget of its parent, and nothing
else touches a budget. Main statement: over a run in which no number is too large, what an organism
has left of the budget it came in with is short of it by the children it has had, so that these are
never more than it was given.
-/

namespace Terrarium.Simulation
open Population Attempt

/-- The organism that came into a slot with this budget has had so many children, for which there
was room in it, and has the rest left for as long as it is there. -/
structure Keeps (s : Simulation) (budget : Option Int) (count : Nat) (slot : SlotId) : Prop where
  enough : ∀ all, budget = some all → (count : Int) ≤ all
  rest : s.population.Spent slot ∨
    ∃ o, s.population.get? slot = some o ∧ o.children = budget.map (· - (count : Int))

/-- What a part of a run comes to for the organisms that were there before it, and for those that
came in during it. -/
structure Reckoning (births : List Birth) (entrants : List (SlotId × Organism))
    (s t : Simulation) : Prop where
  prepared : t.Prepared
  known : ∀ slot, s.population.Known slot → t.population.Known slot
  live : ∀ slot o, s.population.get? slot = some o → o.Solvent →
    t.Keeps o.children (offspring slot births) slot
  spent : ∀ slot, s.population.Spent slot →
    t.population.Spent slot ∧ offspring slot births = 0
  entered : ∀ m ∈ entrants, ¬ s.population.Known m.1 ∧
    t.Keeps m.2.children (offspring m.1 births) m.1
  parents : ∀ birth ∈ births, t.population.Known birth.parent

section Reckonings
variable {s t u : Simulation} {births later : List Birth}
  {entrants others : List (SlotId × Organism)} {slot : SlotId}

theorem Keeps.of_spends {count : Nat} {o p : Organism} (solvent : o.Solvent)
    (spends : o.Spends count p) (left : t.population.Spent slot ∨ t.population.get? slot = some p) :
    t.Keeps o.children count slot where
  enough := spends.enough solvent
  rest := left.imp_right fun here => ⟨p, here, spends.children⟩

theorem Keeps.onwards {budget : Option Int} {count : Nat} (keeps : s.Keeps budget count slot)
    (reckoning : Reckoning births entrants s t) :
    t.Keeps budget (count + offspring slot births) slot := by
  rcases keeps.rest with gone | ⟨o, here, children⟩
  · obtain ⟨gone', none⟩ := reckoning.spent slot gone
    rw [none, Nat.add_zero]
    exact ⟨keeps.enough, Or.inl gone'⟩
  · have solvent : o.Solvent := .of_less children keeps.enough
    obtain ⟨enough, rest⟩ := reckoning.live slot o here solvent
    rw [children] at enough rest
    constructor
    · intro all given
      have further := enough (all - count) (by rw [given]; rfl)
      omega
    · exact rest.imp_right fun ⟨p, here', children'⟩ =>
        ⟨p, here', by rw [children', Organism.less_less]⟩

namespace Reckoning

theorem rest (prepared : s.Prepared) : Reckoning [] [] s s where
  prepared := prepared
  known _ := id
  live slot o found solvent := .of_spends solvent (.of_same rfl) (Or.inr found)
  spent slot gone := ⟨gone, rfl⟩
  entered := by simp
  parents := by simp

theorem trans (first : Reckoning births entrants s t) (second : Reckoning later others t u) :
    Reckoning (births ++ later) (entrants ++ others) s u where
  prepared := second.prepared
  known slot known := second.known slot (first.known slot known)
  live slot o found solvent := by
    rw [offspring_append]
    exact (first.live slot o found solvent).onwards second
  spent slot gone := by
    obtain ⟨gone, none⟩ := first.spent slot gone
    obtain ⟨gone, none'⟩ := second.spent slot gone
    exact ⟨gone, by rw [offspring_append, none, none']⟩
  entered m member := by
    rw [offspring_append]
    rcases List.mem_append.mp member with early | late
    · obtain ⟨new, keeps⟩ := first.entered m early
      exact ⟨new, keeps.onwards second⟩
    · -- Nobody has children before it comes in.
      obtain ⟨new, keeps⟩ := second.entered m late
      have none : offspring m.1 births = 0 := by
        apply List.countP_eq_zero.mpr
        intro birth among
        simp only [decide_eq_true_eq]
        rintro same
        exact new (same ▸ first.parents birth among)
      rw [none, Nat.zero_add]
      exact ⟨fun known => new (first.known m.1 known), keeps⟩
  parents birth member := by
    rcases List.mem_append.mp member with early | late
    · exact second.known _ (first.parents birth early)
    · exact second.parents birth late

end Reckoning

section Ledgers
variable {law : Law} {events : List Event}

theorem Ledger.known (ledger : Ledger law s events t) (prepared : s.Prepared)
    (known : s.population.Known slot) : t.population.Known slot := by
  rcases known with live | gone
  · obtain ⟨o, found⟩ := get?_of_mem_slots live
    cases ledger.fate (fun _ => True) prepared (fun _ _ _ _ _ => trivial) found trivial with
    | stays here _ _ => exact Or.inl (mem_slots_of_get? here)
    | leaves gone _ _ => exact Or.inr gone
  · exact Or.inr (ledger.spent prepared gone).1

theorem Ledger.keeps (ledger : Ledger law s events t) (prepared : s.Prepared)
    (changes : ∀ before after, law.change slot before after → after.children = before.children)
    {o : Organism} (found : s.population.get? slot = some o) (solvent : o.Solvent) :
    t.Keeps o.children 0 slot := by
  have fate := ledger.fate (fun after => after.children = o.children) prepared
    (fun before after _ change same => (changes before after change).trans same) found rfl
  cases fate with
  | stays here same _ => exact .of_spends solvent (.of_same same) (Or.inr here)
  | leaves gone _ _ => exact .of_spends solvent (.of_same (p := o) rfl) (Or.inl gone)

theorem Ledger.entrant (ledger : Ledger law s events t) (prepared : s.Prepared)
    (granted : ∀ m ∈ arrivals s.population t.population,
      m.2.children = law.limits.maxChildren.map Int.ofNat) :
    ∀ m ∈ arrivals s.population t.population, ¬ s.population.Known m.1 ∧
      t.Keeps m.2.children 0 m.1 := by
  intro m arrived
  obtain ⟨member, new⟩ := List.mem_filter.mp arrived
  have tidy := (ledger.prepared prepared).tidy
  have here := get?_of_mem tidy.distinct member
  have solvent : m.2.Solvent := by
    intro left budget
    rw [granted m arrived, Option.map_eq_some_iff] at budget
    obtain ⟨all, _, rfl⟩ := budget
    exact Int.natCast_nonneg all
  refine ⟨?_, .of_spends solvent (.of_same rfl) (Or.inr here)⟩
  rintro (live | gone)
  · exact absurd live (by simpa using new)
  · exact tidy.not_spent (mem_slots_of_get? here) (ledger.spent prepared gone).1

theorem Reckoning.of_ledger (ledger : Ledger law s events t) (prepared : s.Prepared)
    (changes : ∀ slot before after, law.change slot before after →
      after.children = before.children) :
    Reckoning [] (arrivals s.population t.population) s t where
  prepared := ledger.prepared prepared
  known slot known := ledger.known prepared known
  live slot o found solvent := ledger.keeps prepared (changes slot) found solvent
  spent slot gone := ⟨(ledger.spent prepared gone).1, rfl⟩
  entered := ledger.entrant prepared <| ledger.granted prepared fun slot before after change =>
    Or.inr (changes slot before after change)
  parents := by simp

theorem Reckoning.silent (reckoning : Reckoning births entrants s t) : Reckoning births [] s t :=
  { reckoning with entered := by simp }

def solely (limits : Limits) (slot : SlotId) : Law :=
  ⟨limits, fun other _ _ => other = slot, fun _ _ => True⟩

/-- A part in which an organism has all those that come in for its children. -/
theorem Reckoning.of_parent {o p : Organism} (prepared : s.Prepared)
    (ledger : Ledger (solely s.settings.limits slot) s events t)
    (found : s.population.get? slot = some o)
    (spends : o.Spends (arrivals s.population t.population).length p)
    (left : t.population.Spent slot ∨ t.population.get? slot = some p) :
    Reckoning ((arrivals s.population t.population).map (.of slot))
      (arrivals s.population t.population) s t := by
  have live := mem_slots_of_get? found
  have granted := ledger.granted prepared fun _ _ _ same => Or.inl (same ▸ live)
  constructor
  case prepared => exact ledger.prepared prepared
  case known => exact fun _ => ledger.known prepared
  case live =>
    intro other q here solvent
    by_cases same : slot = other
    · subst same
      cases found.symm.trans here
      rw [offspring_own]
      exact .of_spends solvent spends left
    · rw [offspring_other same]
      exact ledger.keeps prepared (fun _ _ own => absurd own.symm same) here solvent
  case spent =>
    intro other gone
    have apart : slot ≠ other := by
      rintro rfl
      exact prepared.tidy.not_spent live gone
    exact ⟨(ledger.spent prepared gone).1, offspring_other apart _⟩
  case entered =>
    intro m arrived
    have new := (List.mem_filter.mp arrived).2
    -- The parent was there before, so nobody is its own child.
    have apart : slot ≠ m.1 := by
      rintro rfl
      simp [live] at new
    rw [offspring_other apart]
    exact ledger.entrant prepared granted m arrived
  case parents =>
    intro birth member
    obtain ⟨m, _, rfl⟩ := List.mem_map.mp member
    exact left.elim Or.inr fun here => Or.inl (mem_slots_of_get? here)

end Ledgers
end Reckonings

section Turns
variable {s : Simulation} {slot : SlotId} {o : Organism}

/-- In its turn an organism has at most one child, and that is taken off its budget. -/
theorem executeSlot_spends (prepared : s.Prepared) (found : s.population.get? slot = some o) :
    ∃ p, o.Spends (born executeSlot s slot).length p ∧
      ((s.executeSlot slot).state.population.Spent slot ∨
        (s.executeSlot slot).state.population.get? slot = some p) := by
  have live := mem_slots_of_get? found
  have distinct := prepared.tidy.distinct
  have timed := prepared.timed _ (mem_members_of_get? found)
  let ran := Scene.execute s.rules ⟨o, s.habitat⟩
  have same : s.executeSlot slot = s.executeAs (slot, o) := executeSlot_eq (m := (slot, o)) found
  have here := get?_update_self distinct live ran.state.organism
  refine ⟨ran.state.organism, ?_⟩
  have reached {q : Population} (population : (s.executeSlot slot).state.population = q)
      {count : Nat} (length : (arrivals s.population q).length = count)
      (spends : o.Spends count ran.state.organism)
      (left : q.Spent slot ∨ q.get? slot = some ran.state.organism) :
      o.Spends (born executeSlot s slot).length ran.state.organism ∧
        ((s.executeSlot slot).state.population.Spent slot ∨
          (s.executeSlot slot).state.population.get? slot = some ran.state.organism) := by
    subst population
    exact ⟨length ▸ spends, left⟩
  -- Unless somebody comes in, the slots are among those of the start.
  have barren {q : Population} (known : ∀ other ∈ q.slots, other ∈ s.population.slots) :
      (arrivals s.population q).length = 0 := by
    rw [arrivals_of_slots known]
    rfl
  have stays : ∀ other ∈ (s.population.update slot ran.state.organism).slots,
      other ∈ s.population.slots := by simp
  cases answer : ran.answer with
  | error fault =>
      refine reached ?_ (barren stays) (.of_same (Scene.run_stuck answer)) (Or.inr here)
      rw [same, executeAs, andThen_of_error _ (by exact answer)]
      rfl
  | ok effect =>
      have spends := Scene.run_spends ⟨o, s.habitat⟩ s.rules true _ effect answer
      cases effect with
      | proceed =>
          refine reached ?_ (barren stays) spends (Or.inr here)
          rw [same, executeAs, andThen_of_ok _ (by exact answer)]
          rfl
      | halt =>
          have left := left_spent prepared.tidy live
          refine reached ?_ (barren ?_) spends (Or.inl left)
          · rw [same, executeAs, andThen_of_ok _ (by exact answer)]
            dsimp only [inside_state, map_state, onPopulation]
            rw [remove_live .halt here, vacate_update]
          · exact fun other staying => ((mem_slots_vacate _ slot other).mp staying).1
      | spawn child =>
          -- The child is a copy of an organism that goes on, so it is not dead.
          obtain ⟨delay, phase⟩ := (Scene.execute_continues ⟨o, s.habitat⟩ s.rules).value _ answer
          have alive : child.phase ≠ .dead := (timed.of_eq delay phase).alive
          have tidy := change_tidy prepared.tidy slot ran.state.organism
          have fresh : (s.population.update slot ran.state.organism).allocate.1 ∉
              s.population.slots := by
            simpa using tidy.allocate_fresh.1
          have one := arrivals_enter (slots_update s.population slot ran.state.organism) fresh
            (child.within s.settings.limits)
          have allowed : (s.population.update slot ran.state.organism).Allowed
              (.enter (s.population.update slot ran.state.organism).allocate.1
                (child.within s.settings.limits)) := ⟨rfl, alive⟩
          refine reached ?_ (congrArg List.length one) spends
            (Or.inr (get?_moved tidy allowed here trivial))
          rw [same, executeAs, andThen_of_ok _ (by exact answer)]
          dsimp only [inside_state, map_state]
          rw [adopt_alive _ alive]
          rfl

theorem executeSlot_reckons (prepared : s.Prepared) (slot : SlotId) :
    Reckoning (s.litter slot) ((s.litter slot).map Birth.entrant) s (s.executeSlot slot).state := by
  rw [litter_entrants]
  cases found : s.population.get? slot with
  | none =>
      have idle : (s.executeSlot slot).state = s := by
        simp only [executeSlot, found]
        rfl
      have nobody : born executeSlot s slot = [] := by
        unfold born
        rw [idle]
        exact arrivals_self _
      rw [litter, nobody, idle]
      exact .rest prepared
  | some o =>
      obtain ⟨p, spends, left⟩ := executeSlot_spends prepared found
      have booked : Along (Books (solely s.settings.limits slot)) s (s.executeSlot slot) :=
        executeSlot_books_of (fun _ _ => rfl) trivial
      exact .of_parent prepared (booked prepared rfl).1 found spends left

theorem executions_reckon (prepared : s.Prepared) (slots : List SlotId) :
    Reckoning (notes litter executeSlot slots s)
      ((notes litter executeSlot slots s).map Birth.entrant) s
      (Attempt.forEach executeSlot slots s).state := by
  induction slots generalizing s with
  | nil => exact .rest prepared
  | cons slot rest ih =>
      have turn := executeSlot_reckons prepared slot
      rw [notes, Attempt.forEach]
      cases answer : (s.executeSlot slot).answer with
      | error fault =>
          rw [andThen_of_error _ answer, List.append_nil]
          exact turn
      | ok _ =>
          rw [andThen_of_ok _ answer, List.map_append]
          exact turn.trans (ih turn.prepared)

end Turns

def frugal (limits : Limits) : Law :=
  ⟨limits, fun _ before after => after.children = before.children, fun _ _ => True⟩

section Cycles
variable {s : Simulation}

/-- Once everyone has had a turn, no budget is touched in a cycle any more. -/
theorem waiting_books (slots ready : List SlotId) (limits : Limits) :
    Along (Books (frugal limits)) s (s.waiting slots ready) := by
  have chain := books_chain (frugal limits)
  apply chain.andThen (chain.forEach slots (fun t _ _ =>
    tickSlot_books_of fun o _ => o.tickDelay_children t.grid) s)
  intro _ _
  exact settle_books (fun _ => trivial) (fun _ _ o => o.tickLifespan_children)
    (fun _ _ => trivial) fun _ => trivial

theorem stepCycle_reckons (prepared : s.Prepared) :
    Reckoning s.lineageOfCycle (s.lineageOfCycle.map Birth.entrant) s s.stepCycle.state := by
  have turns := executions_reckon prepared s.ready
  rw [stepCycle_eq_waiting]
  cases answer : (Attempt.forEach executeSlot s.ready s).answer with
  | error fault =>
      rw [andThen_of_error _ answer]
      exact turns
  | ok _ =>
      rw [andThen_of_ok _ answer]
      -- After the turns nobody comes in, so all the newcomers are those of the turns.
      obtain ⟨ledger, _⟩ := waiting_books s.delaying s.ready _ turns.prepared rfl
      have rest := (Reckoning.of_ledger ledger turns.prepared fun _ _ _ => id).silent
      have whole := turns.trans rest
      rwa [List.append_nil, List.append_nil] at whole

theorem stepCycles_reckon (prepared : s.Prepared) (count : Nat) :
    Reckoning (lineageOfCycles count s) ((lineageOfCycles count s).map Birth.entrant) s
      (stepCycles count s).state := by
  induction count generalizing s with
  | zero => exact .rest prepared
  | succ count ih =>
      have first := stepCycle_reckons prepared
      rw [stepCycles_succ, lineageOfCycles]
      cases answer : s.stepCycle.answer with
      | error fault =>
          rw [andThen_of_error _ answer, List.append_nil]
          exact first
      | ok _ =>
          rw [andThen_of_ok _ answer, List.map_append]
          exact first.trans (ih first.prepared)

end Cycles

section Deeds
variable {s : Simulation} {deed : Deed}

theorem runFocused_reckons (reachable : Reachable s) {mnemonics : List String}
    (exact : (s.runFocused mnemonics).answer ≠ .error .integerTooLarge) :
    Reckoning (s.lineageOf (.perform (.runFocused mnemonics)))
      (arrivals s.population (s.runFocused mnemonics).state.population) s
      (s.runFocused mnemonics).state := by
  have prepared := reachable.prepared
  rcases s.focus_cases mnemonics with ⟨slot, o, focus, found⟩ | ⟨idle, nobody⟩
  · obtain ⟨p, spends, here, _⟩ := runFocused_spends reachable exact focus found
    have booked : Along (Books (solely s.settings.limits slot)) s (s.runFocused mnemonics) := by
      apply runFocused_books
      intro other _ _ focus' _ _
      cases focus.symm.trans focus'
      rfl
    simp only [lineageOf, focus]
    exact .of_parent prepared (booked prepared rfl).1 found spends (Or.inr here)
  · rw [idle, nobody, arrivals_self]
    exact .rest prepared

theorem act_reckons (reachable : Reachable s) (facade : deed.isFacade = true)
    (exact : (s.act deed).answer ≠ .error .integerTooLarge) :
    Reckoning (s.lineageOf deed) (s.entrantsOf deed) s (s.act deed).state := by
  have prepared := reachable.prepared
  unfold entrantsOf
  by_cases apart : deed.cycles = 0
  · rw [if_pos apart]
    -- Between cycles only the organism in focus has children; others come in without a parent.
    by_cases focused : ∃ mnemonics, deed = .perform (.runFocused mnemonics)
    · obtain ⟨mnemonics, rfl⟩ := focused
      exact runFocused_reckons reachable (runFocused_fits exact)
    · have ledger : Ledger (frugal s.settings.limits) s (s.act deed).events (s.act deed).state :=
        (act_ledger_of prepared rfl facade apart
          (fun _ _ _ same => congrArg Organism.Standing.children same)
          (fun mnemonics same => absurd ⟨mnemonics, same⟩ focused) (fun _ => trivial)
          fun _ => trivial).1
      rw [lineageOf_apart apart fun mnemonics same => focused ⟨mnemonics, same⟩]
      exact .of_ledger ledger prepared fun _ _ _ => id
  · rw [if_neg apart]
    rcases cyclesOf apart with rfl | ⟨count, rfl⟩
    · exact stepCycle_reckons prepared
    · have state : (s.act (.perform (.runCycles count))).state = _ := s.runCycles_state count
      rw [state]
      exact stepCycles_reckon prepared count.toNat

theorem no_room {count : Nat} {o p : Organism} (used : o.children = some 0)
    (spends : o.Spends count p) : count = 0 := by
  have solvent : o.Solvent := by
    intro left budget
    cases used.symm.trans budget
    exact Int.le_refl 0
  have none := spends.enough solvent 0 used
  omega

/-- In the turn of an organism whose budget is used up nobody comes in. -/
theorem executeSlot_barren (prepared : s.Prepared) {slot : SlotId} {o : Organism}
    (found : s.population.get? slot = some o) (used : o.children = some 0) :
    born executeSlot s slot = [] ∧
      (s.executeSlot slot).state.metrics.births = s.metrics.births := by
  obtain ⟨p, spends, _⟩ := executeSlot_spends prepared found
  have nobody := List.length_eq_zero_iff.mp (no_room used spends)
  have turn := (executeSlot_actsOn s (slot, o) prepared.tidy (mem_members_of_get? found)).2
  have births := turn.course.births
  rw [show arrivals s.population (s.executeSlot slot).state.population = [] from nobody] at births
  exact ⟨nobody, births⟩

end Deeds

def NumbersFit (s : Simulation) : List Deed → Prop
  | [] => True
  | deed :: rest =>
      (s.act deed).answer ≠ .error .integerTooLarge ∧ (s.act deed).state.NumbersFit rest

section Runs
variable {s : Simulation} {deeds : List Deed}

theorem NumbersFit.of_unfailing (unfailing : s.Unfailing deeds) : s.NumbersFit deeds := by
  induction deeds generalizing s with
  | nil => trivial
  | cons deed rest ih =>
      obtain ⟨succeeded, later⟩ := unfailing
      obtain ⟨value, ended⟩ := (succeeded_iff _).mp succeeded
      refine ⟨fun failed => ?_, ih later⟩
      cases ended.symm.trans failed

theorem after_reckons (reachable : Reachable s) (facade : ∀ deed ∈ deeds, deed.isFacade = true)
    (fit : s.NumbersFit deeds) :
    Reckoning (s.lineage deeds) (s.entrants deeds) s (s.after deeds) := by
  induction deeds generalizing s with
  | nil => exact .rest reachable.prepared
  | cons deed rest ih =>
      have facade' := facade deed List.mem_cons_self
      have first := act_reckons reachable facade' fit.1
      exact first.trans (ih (reachable.onwards (Reaches.refl.act facade'))
        (fun other later => facade other (List.mem_cons_of_mem _ later)) fit.2)

theorem after_births (reachable : Reachable s) (facade : ∀ deed ∈ deeds, deed.isFacade = true)
    (fit : s.NumbersFit deeds) :
    (s.after deeds).metrics.births = s.metrics.births + (s.lineage deeds).length := by
  induction deeds generalizing s with
  | nil => rfl
  | cons deed rest ih =>
      have facade' := facade deed List.mem_cons_self
      have first := act_births reachable facade' fit.1
      have later := ih (reachable.onwards (Reaches.refl.act facade'))
        (fun other later => facade other (List.mem_cons_of_mem _ later)) fit.2
      rw [after_cons, later, first, lineage, List.length_append]
      omega

theorem after_origins (reachable : Reachable s) (facade : ∀ deed ∈ deeds, deed.isFacade = true) :
    ∀ slot ∈ (s.after deeds).population.slots,
      slot ∈ s.population.slots ∨ slot ∈ (s.entrants deeds).map Prod.fst := by
  induction deeds generalizing s with
  | nil => exact fun _ => Or.inl
  | cons deed rest ih =>
      have facade' := facade deed List.mem_cons_self
      intro slot live
      rw [entrants, List.map_append, List.mem_append]
      rcases ih (reachable.onwards (Reaches.refl.act facade'))
        (fun other later => facade other (List.mem_cons_of_mem _ later)) slot live with old | new
      · exact (act_origins reachable deed slot old).imp_right Or.inl
      · exact Or.inr (Or.inr new)

end Runs

/-- Over a run of a new simulation in which no number is too large, whoever is live came in at some
deed, and has of the child budget it came in with what is left by the children it has had in cycles
or in focus, which are never more than that budget; these children are all that the metrics count.
Whoever a next deed brings in has the child limit then in force, a new limit touches nobody, and
once a budget is used up a fork brings nobody in and counts nobody. -/
theorem children_stay_in_budget {fresh : Simulation} (new : Fresh fresh) {deeds : List Deed}
    (facade : ∀ deed ∈ deeds, deed.isFacade = true) (fit : fresh.NumbersFit deeds) :
    let s := fresh.after deeds
    let births := fresh.lineage deeds
    (∀ slot ∈ s.population.slots, slot ∈ (fresh.entrants deeds).map Prod.fst) ∧
    (∀ m ∈ fresh.entrants deeds,
      (∀ o, s.population.get? m.1 = some o →
        o.children = m.2.children.map fun all => all - (offspring m.1 births : Int)) ∧
      ∀ all, m.2.children = some all → (offspring m.1 births : Int) ≤ all) ∧
    s.metrics.births = births.length ∧
    (∀ deed : Deed, deed.isFacade = true → ∀ m ∈ s.entrantsOf deed,
      m.2.children = s.settings.limits.maxChildren.map Int.ofNat ∧
        (s.act deed).state.settings = s.settings) ∧
    (∀ v, (s.act (.perform (.set .childLimit v))).state.population = s.population) ∧
    (∀ (scene : Scene) rules advance instruction,
      (∃ child, (scene.run rules advance instruction).answer = .ok (.spawn child)) ↔
        ∃ kind, instruction = some (.fork kind) ∧ scene.organism.children ≠ some 0) ∧
    (∀ slot o, s.population.get? slot = some o → o.children = some 0 →
      (born executeSlot s slot = [] ∧
        (s.executeSlot slot).state.metrics.births = s.metrics.births) ∧
      ∀ mnemonics, s.focus = some slot →
        (s.runFocused mnemonics).answer ≠ .error .integerTooLarge →
        arrivals s.population (s.runFocused mnemonics).state.population = [] ∧
          (s.runFocused mnemonics).state.metrics.births = s.metrics.births) := by
  intro s births
  have start : Reachable fresh := ⟨fresh, new, .refl⟩
  have reachable : Reachable s := start.onwards (Reaches.refl.after facade)
  have reckoning := after_reckons start facade fit
  have prepared := reachable.prepared
  obtain ⟨empty, none, _⟩ := new.start
  refine ⟨?_, ?_, ?_, ?_, ?_, ?_, ?_⟩
  · intro slot live
    have origin := after_origins start facade slot live
    rw [empty] at origin
    exact origin.resolve_left (by simp [Population.slots, Population.empty])
  · intro m member
    obtain ⟨enough, rest⟩ := (reckoning.entered m member).2
    refine ⟨fun o found => ?_, enough⟩
    rcases rest with gone | ⟨p, here, children⟩
    · exact absurd gone (prepared.tidy.not_spent (mem_slots_of_get? found))
    · cases here.symm.trans found
      exact children
  · have counted := after_births start facade fit
    rw [none] at counted
    simpa using counted
  · exact fun deed facade => act_granted prepared facade
  · intro v
    simp only [act, perform, Attempt.map_state, Simulation.set_state, Simulation.assign]
    split <;> rfl
  · exact Scene.run_spawns_iff
  · intro slot o found used
    refine ⟨executeSlot_barren prepared found used, fun mnemonics focus exact => ?_⟩
    obtain ⟨p, spends, _, counted⟩ := runFocused_spends reachable exact focus found
    have nobody := List.length_eq_zero_iff.mp (no_room used spends)
    rw [nobody] at counted
    exact ⟨nobody, counted⟩

/-- A budget of two that goes on one child in a cycle and one in focus, where the last fork comes to
nothing. -/
theorem children_stay_in_budget_twoCells :
    let deeds : List Deed := [.perform (.set .childLimit (.int 2)),
      .perform (.writeInstruction ⟨0, 0⟩ "-="), .perform (.spawn ⟨0, 0⟩ .right), .perform .step,
      .perform (.setFocus (some ⟨0, 0⟩)), .perform (.runFocused ["-=", "m="])]
    let s := twoCells.after deeds
    twoCells.NumbersFit deeds ∧ offspring ⟨0, 0⟩ (twoCells.lineage deeds) = 2 ∧
      s.metrics.births = 2 ∧ ∀ o, s.population.get? ⟨0, 0⟩ = some o → o.children = some 0 := by
  intro deeds s
  have fit : twoCells.NumbersFit deeds := by
    apply NumbersFit.of_unfailing
    refine ⟨?_, ?_, ?_, ?_, ?_, ?_, trivial⟩ <;> decide +kernel
  obtain ⟨_, budgets, births, _⟩ := children_stay_in_budget twoCells_fresh (by decide) fit
  obtain ⟨m, entered, slot, given⟩ : ∃ m ∈ twoCells.entrants deeds,
      m.1 = ⟨0, 0⟩ ∧ m.2.children = some 2 := by decide +kernel
  have two : offspring ⟨0, 0⟩ (twoCells.lineage deeds) = 2 := by decide +kernel
  have length : (twoCells.lineage deeds).length = 2 := by decide +kernel
  refine ⟨fit, two, births.trans length, fun o found => ?_⟩
  have left := (budgets m entered).1 o (slot ▸ found)
  rw [slot, two, given] at left
  exact left

end Terrarium.Simulation
