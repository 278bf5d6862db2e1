import Terrarium.Proofs.Population.Duplicates
import Terrarium.Proofs.Simulation.Cap
import Terrarium.Proofs.Simulation.Deduplication
import Terrarium.Proofs.Simulation.Settings

/-!
When all live organisms are different. A deduplication leaves no two with one key, and in a cycle
nothing comes after it that changes the population. Main statement: what a deduplication leaves of
any population, and that a cycle in which it is due ends with all keys different, whereas one
without a period removes nobody as a double.
-/

namespace Terrarium.Simulation
open Population Attempt

/-- Part of a cycle before its deduplication: handles stay in order, and no double is removed. -/
def Undeduplicated (before : Simulation) (told : List Event) (after : Simulation) : Prop :=
  before.population.Tidy →
    after.population.Tidy ∧ ∀ slot, (slot, .dedup) ∉ removals told

theorem undeduplicated_chain : Chain Undeduplicated where
  rest _ tidy := ⟨tidy, by simp [removals, Event.removals]⟩
  onwards := by
    intro s t u told later first second tidy
    obtain ⟨tidy, untold⟩ := first tidy
    obtain ⟨tidy, untold'⟩ := second tidy
    refine ⟨tidy, fun slot member => ?_⟩
    rw [removals_append, List.mem_append] at member
    exact member.elim (untold slot) (untold' slot)

section Parts
variable {s : Simulation}

theorem undeduplicated_of_discreet {α : Type} {attempt : Attempt Simulation α}
    (tidy : s.population.Tidy → attempt.state.population.Tidy) (silent : Discreet attempt) :
    Along Undeduplicated s attempt := by
  intro before
  have nobody : removals attempt.events = [] := by rw [removals, silent, List.map_nil]
  exact ⟨tidy before, by simp [nobody]⟩

theorem undeduplicated_of_account {α : Type} {attempt : Attempt Simulation α} {moves : List Move}
    (account : Account s.population attempt.state.population attempt.events moves)
    (others : ∀ slot, Move.leave slot .dedup ∉ moves) : Along Undeduplicated s attempt := by
  intro tidy
  refine ⟨account.trail.tidy tidy, fun slot told => ?_⟩
  rw [account.told] at told
  obtain ⟨move, member, names⟩ := List.mem_filterMap.mp told
  cases move with
  | leave other cause =>
      cases names
      exact others slot member
  | enter other o => cases names
  | change other o => cases names
  | look focus => cases names

theorem adopt_undeduplicated (child : Organism) : Along Undeduplicated s (s.adopt child) := by
  by_cases dead : child.phase = .dead
  · rw [adopt_dead s dead]
    exact undeduplicated_chain.fail s _
  · rw [adopt_alive s dead]
    exact undeduplicated_of_discreet (fun tidy => enter_tidy tidy _) rfl

theorem halt_undeduplicated (slot : SlotId) :
    Along Undeduplicated s (s.onPopulation (s.population.remove slot .halt)) := by
  by_cases live : slot ∈ s.population.slots
  · obtain ⟨o, found⟩ := get?_of_mem_slots live
    rw [remove_live .halt found]
    exact undeduplicated_of_account (leave_account live o.kill .halt) (by simp)
  · rw [remove_absent .halt live]
    exact undeduplicated_of_account (.nothing _) (by simp)

theorem executeSlot_undeduplicated (slot : SlotId) :
    Along Undeduplicated s (s.executeSlot slot) := by
  unfold executeSlot
  cases s.population.get? slot with
  | none => exact undeduplicated_chain.done s ()
  | some o =>
      apply undeduplicated_chain.andThen
      · exact undeduplicated_of_discreet (fun tidy => change_tidy tidy slot _)
          (Scene.execute_discreet _ _)
      · intro effect _
        cases effect with
        | proceed => exact undeduplicated_chain.done _ ()
        | spawn child => exact (adopt_undeduplicated child).map _
        | halt => exact (halt_undeduplicated slot).map _

theorem tickSlot_undeduplicated (slot : SlotId) : Along Undeduplicated s (s.tickSlot slot) := by
  unfold tickSlot
  cases s.population.get? slot with
  | none => exact undeduplicated_chain.done s ()
  | some o =>
      exact undeduplicated_of_discreet (fun tidy => change_tidy tidy slot _)
        (o.tickDelay_discreet _)

theorem enforceMax_undeduplicated : Along Undeduplicated s s.enforceMax := by
  intro tidy
  obtain ⟨victims, account, _⟩ := enforceMax_account s.remover s.settings.limits.maxPopulation
    s.habitat.generator s.population tidy
  have culled : Along Undeduplicated s s.enforceMax :=
    undeduplicated_of_account account (by simp)
  exact culled tidy

theorem charge_undeduplicated (slots : List SlotId) :
    Along Undeduplicated s (s.charge slots) := by
  intro tidy
  obtain ⟨moves, account, charging, _⟩ := charge_account slots s.population tidy
  have expired : ∀ slot, Move.leave slot .dedup ∉ moves := fun slot member => by
    have only := (charging _ member).2
    cases only
  have charged : Along Undeduplicated s (s.charge slots) :=
    undeduplicated_of_account account expired
  exact charged tidy

theorem untilDedup_undeduplicated (s : Simulation) : Along Undeduplicated s s.untilDedup := by
  have chain := undeduplicated_chain
  -- Only turns, ticks, rays and culls come before the charge, and none of them removes a double.
  have executed := chain.forEach s.ready (fun _ slot _ => executeSlot_undeduplicated slot) s
  have charged : Along Undeduplicated s s.untilCharge := by
    apply chain.andThen executed
    intro _ _
    apply chain.andThen (chain.forEach s.delaying (fun _ slot _ => tickSlot_undeduplicated slot) _)
    intro _ _
    apply chain.andThen
    · exact undeduplicated_of_discreet id (Habitat.cosmicRays_discreet _ _)
    · exact fun _ _ => enforceMax_undeduplicated
  apply chain.andThen charged
  intro _ _
  apply chain.andThen (charge_undeduplicated s.ready)
  intro _ _
  exact undeduplicated_of_discreet id rfl

end Parts

section Ends
variable {s : Simulation}

theorem dedupIfDue_completes (tidy : s.population.Tidy) : s.dedupIfDue.answer = .ok () := by
  unfold dedupIfDue
  by_cases due : every s.cycle s.settings.autoDedupPeriod
  · simp [due, dedup, onPopulation, (dedup_account s.population tidy).2, Except.map]
  · simp [due]

theorem dedupIfDue_distinct (tidy : s.population.Tidy)
    (due : every s.cycle s.settings.autoDedupPeriod = true) :
    s.dedupIfDue.state.population.keys.Nodup := by
  simp only [dedupIfDue, due, ↓reduceIte]
  exact dedup_distinct tidy.distinct

theorem dedupIfDue_never (never : s.settings.autoDedupPeriod = 0) :
    s.dedupIfDue = .done s () := by
  simp [dedupIfDue, every, never]

theorem dedupIfDue_cycle (s : Simulation) : s.dedupIfDue.state.cycle = s.cycle := by
  unfold dedupIfDue
  split <;> rfl

theorem stepCycle_ending (tidy : s.population.Tidy) (before : s.untilDedup.answer = .ok ()) :
    s.stepCycle.state = s.untilDedup.state.dedupIfDue.state.syncMetrics ∧
      s.stepCycle.events = s.untilDedup.events ++ s.untilDedup.state.dedupIfDue.events ∧
      s.untilDedup.state.settings = s.settings := by
  obtain ⟨tidy', _⟩ := untilDedup_undeduplicated s tidy
  have whole : s.stepCycle =
      ⟨s.untilDedup.state.dedupIfDue.state.syncMetrics,
        s.untilDedup.events ++ s.untilDedup.state.dedupIfDue.events, .ok ()⟩ := by
    rw [stepCycle_eq_untilDedup, andThen_of_ok _ before, andThen_of_ok _ (dedupIfDue_completes tidy')]
    simp
  have reached : s.stepCycle.state = s.untilDedup.state.dedupIfDue.state.syncMetrics := by
    rw [whole]
  -- No settings change in a whole cycle nor at its end, so none have before its end.
  have same : s.stepCycle.state.settings = s.settings := (stepCycle_settings rfl).state
  have last : s.untilDedup.state.dedupIfDue.state.settings = s.untilDedup.state.settings :=
    (dedupIfDue_settings rfl).state
  rw [reached] at same
  exact ⟨reached, by rw [whole], last.symm.trans same⟩

theorem stepCycle_distinct (tidy : s.population.Tidy) (completed : s.stepCycle.answer = .ok ())
    (periodic : 0 < s.settings.autoDedupPeriod)
    (due : s.settings.autoDedupPeriod ∣ s.stepCycle.state.cycle) :
    s.stepCycle.state.population.keys.Nodup := by
  obtain ⟨tidy', _⟩ := untilDedup_undeduplicated s tidy
  have before : s.untilDedup.answer = .ok () := by
    rw [stepCycle_eq_untilDedup] at completed
    exact (andThen_ok completed).choose_spec.1
  obtain ⟨reached, _, settings⟩ := stepCycle_ending tidy before
  rw [reached] at due ⊢
  -- The number of the cycle is the one that its deduplication has gone by.
  have cycle : s.untilDedup.state.dedupIfDue.state.syncMetrics.cycle = s.untilDedup.state.cycle :=
    dedupIfDue_cycle _
  rw [cycle] at due
  apply dedupIfDue_distinct tidy'
  simp [every, settings, periodic, Nat.mod_eq_zero_of_dvd due]

theorem stepCycle_undeduplicated (tidy : s.population.Tidy)
    (never : s.settings.autoDedupPeriod = 0) (slot : SlotId) :
    (slot, .dedup) ∉ removals s.stepCycle.events := by
  obtain ⟨_, untold⟩ := untilDedup_undeduplicated s tidy
  cases before : s.untilDedup.answer with
  | error fault =>
      -- A cycle that fails does not come to its deduplication.
      rw [stepCycle_eq_untilDedup, andThen_of_error _ before]
      exact untold slot
  | ok _ =>
      obtain ⟨_, events, settings⟩ := stepCycle_ending tidy before
      have nothing : s.untilDedup.state.dedupIfDue.events = [] := by
        rw [dedupIfDue_never (settings ▸ never), done_events]
      rw [events, nothing, List.append_nil]
      exact untold slot

end Ends

/-- In every population with handles all different a deduplication leaves, in their order and with
all they have, exactly those who are the first with their key. Their keys are all different and are
the keys of before; the others are told of once each as doubles and make up the answer, and
another deduplication does nothing. Nothing is drawn for it. A completed cycle whose number
is a multiple of a positive period leaves all keys different, and without a period no cycle removes
anyone as a double, completed or not. -/
theorem dedup_keeps_the_first :
    (∀ p : Population, p.slots.Nodup →
      let q := p.dedup.state
      q.members.Sublist p.members ∧ (∀ m, m ∈ q.members ↔ IsFirst p.members m) ∧
        q.keys.Nodup ∧ (∀ key, key ∈ q.keys ↔ key ∈ p.keys) ∧
        (∃ victims : List SlotId, victims.Nodup ∧
          (∀ slot, slot ∈ victims ↔ slot ∈ p.slots ∧ slot ∉ q.slots) ∧
          p.dedup.answer = .ok victims.length ∧
          removals p.dedup.events = victims.map (fun slot => (slot, .dedup)) ∧
          q.size + victims.length = p.size) ∧
        q.dedup = .done q 0) ∧
    (∀ s : Simulation, s.dedup.state.habitat = s.habitat) ∧
    (∀ s : Simulation, s.population.Tidy → s.stepCycle.answer = .ok () →
      0 < s.settings.autoDedupPeriod → s.settings.autoDedupPeriod ∣ s.stepCycle.state.cycle →
      s.stepCycle.state.population.keys.Nodup) ∧
    (∀ s : Simulation, s.population.Tidy → s.settings.autoDedupPeriod = 0 →
      ∀ slot, (slot, .dedup) ∉ removals s.stepCycle.events) := by
  refine ⟨?_, fun _ => rfl, fun s => stepCycle_distinct, fun s => stepCycle_undeduplicated⟩
  intro p distinct q
  obtain ⟨account, answer⟩ := dedup_victims distinct
  have members : q.members = p.members.filter fun m => m.1 ∉ duplicates [] p.members :=
    account.trail.members_of_leaves
  have live := (duplicates_sublist [] p.members).subset
  refine ⟨members ▸ List.filter_sublist, mem_dedup_iff distinct, dedup_distinct distinct,
    mem_keys_dedup_iff distinct, ?_, dedup_of_distinct (dedup_distinct distinct)⟩
  refine ⟨duplicates [] p.members, (duplicates_sublist [] p.members).nodup distinct, ?_, answer, ?_,
    account.trail.size_of_leaves distinct⟩
  · intro slot
    have stays : slot ∈ q.slots ↔ slot ∈ p.slots ∧ slot ∉ duplicates [] p.members := by
      simp only [slots, members, List.mem_map, List.mem_filter, decide_eq_true_eq]
      constructor
      · rintro ⟨m, ⟨member, single⟩, rfl⟩
        exact ⟨⟨m, member, rfl⟩, single⟩
      · rintro ⟨⟨m, member, rfl⟩, single⟩
        exact ⟨m, ⟨member, single⟩, rfl⟩
    rw [stays]
    constructor
    · exact fun double => ⟨live double, fun single => single.2 double⟩
    · exact fun gone => Decidable.not_not.mp fun single => gone.2 ⟨gone.1, single⟩
  · rw [account.told, List.filterMap_map]
    exact congrFun List.filterMap_eq_map _

/-- Of two spawned alike the second goes when asked, and at the end of a cycle with a period. -/
theorem dedup_keeps_the_first_twoCells :
    let alike := twoCells.performAll
      [.writeInstructions ⟨0, 0⟩ ["..", ".."], .spawn ⟨0, 0⟩ .right, .spawn ⟨0, 0⟩ .right]
    let s := alike.performAll [.set .autoDedupPeriod (.int 1)]
    let never := alike.performAll [.set .autoDedupPeriod (.int 0)]
    alike.population.slots = [⟨0, 0⟩, ⟨1, 0⟩] ∧ alike.population.dedup.state.slots = [⟨0, 0⟩] ∧
      alike.population.dedup.state.keys.Nodup ∧ s.stepCycle.answer = .ok () ∧
      s.stepCycle.state.cycle = 1 ∧ s.stepCycle.state.population.slots = [⟨0, 0⟩] ∧
      s.stepCycle.state.population.keys.Nodup ∧
      never.stepCycle.state.population.slots = [⟨0, 0⟩, ⟨1, 0⟩] ∧
      ∀ slot, (slot, .dedup) ∉ removals never.stepCycle.events := by
  intro alike s never
  have reachable : Reachable alike := ⟨twoCells, twoCells_fresh, Reaches.performAll _ (by decide)⟩
  have tidy : s.population.Tidy :=
    (reachable.onwards (Reaches.performAll _ (by decide))).prepared.tidy
  have tidy' : never.population.Tidy :=
    (reachable.onwards (Reaches.performAll _ (by decide))).prepared.tidy
  have completed : s.stepCycle.answer = .ok () := Attempt.answer_of_succeeded (by decide +kernel)
  have period : s.settings.autoDedupPeriod = 1 := by decide +kernel
  have unset : never.settings.autoDedupPeriod = 0 := by decide +kernel
  obtain ⟨firsts, _, due, undue⟩ := dedup_keeps_the_first
  obtain ⟨_, _, distinct, _⟩ := firsts alike.population reachable.prepared.tidy.distinct
  have ends := due s tidy completed (by rw [period]; decide) (by rw [period]; exact Nat.one_dvd _)
  exact ⟨by decide +kernel, by decide +kernel, distinct, completed, by decide +kernel,
    by decide +kernel, ends, by decide +kernel, undue never tidy' unset⟩

end Terrarium.Simulation
