import Terrarium.Proofs.Simulation.Deeds

/-!
Deduplication compares organisms by their keys, which leave the phase out. Main statement: the
phase of every live organism tells whether a delay is left, so that organisms with one key are
one and the same in every field, and whoever is removed as a double leaves one like itself behind.
-/

namespace Terrarium

/-- For organisms whose phase tells whether a delay is left, the key leaves nothing out. -/
theorem Organism.eq_of_key {o p : Organism} (timed : o.Timed) (timed' : p.Timed)
    (same : o.key = p.key) : o = p := by
  have delay : o.delay = p.delay := congrArg StateKey.delay same
  have phase : o.phase = p.phase := by rw [timed, timed', delay]
  have rest := (o.sameButPhase_iff_key p).mpr same
  simp only [sameButPhase, decide_eq_true_eq, ← phase] at rest
  exact rest

namespace Population

/-- Those found to be doubles have their key in common with one seen before, or with the first
that has it here, which is no double. -/
theorem original_of_duplicate {seen : List StateKey} {members : List (SlotId × Organism)}
    (distinct : (members.map Prod.fst).Nodup) {slot : SlotId}
    (double : slot ∈ duplicates seen members) :
    ∃ o, (slot, o) ∈ members ∧ (o.key ∈ seen ∨
      ∃ first p, [(first, p), (slot, o)].Sublist members ∧ p.key = o.key ∧
        first ∉ duplicates seen members) := by
  induction members generalizing seen with
  | nil => simp [duplicates] at double
  | cons m rest ih =>
      obtain ⟨other, q⟩ := m
      obtain ⟨apart, distinct⟩ := List.nodup_cons.mp distinct
      by_cases known : q.key ∈ seen
      · have step : duplicates seen ((other, q) :: rest) = other :: duplicates seen rest := by
          simp [duplicates, known]
        rw [step] at double ⊢
        rcases List.mem_cons.mp double with rfl | later
        · exact ⟨q, List.mem_cons_self, Or.inl known⟩
        · obtain ⟨o, member, before | ⟨first, p, order, same, single⟩⟩ := ih distinct later
          · exact ⟨o, List.mem_cons_of_mem _ member, Or.inl before⟩
          · refine ⟨o, List.mem_cons_of_mem _ member,
              Or.inr ⟨first, p, order.cons _, same, ?_⟩⟩
            have original : (first, p) ∈ rest := order.subset List.mem_cons_self
            rw [List.mem_cons, not_or]
            refine ⟨?_, single⟩
            rintro rfl
            exact apart (List.mem_map.mpr ⟨(first, p), original, rfl⟩)
      · have step : duplicates seen ((other, q) :: rest) = duplicates (q.key :: seen) rest := by
          simp [duplicates, known]
        rw [step] at double ⊢
        obtain ⟨o, member, before | ⟨first, p, order, same, single⟩⟩ := ih distinct double
        · rcases List.mem_cons.mp before with same | earlier
          · -- This one is the first with its key: none of those after it has its handle.
            refine ⟨o, List.mem_cons_of_mem _ member, Or.inr ⟨other, q, ?_, same.symm, ?_⟩⟩
            · exact (List.singleton_sublist.mpr member).cons_cons _
            · exact fun again => apart ((duplicates_sublist _ rest).subset again)
          · exact ⟨o, List.mem_cons_of_mem _ member, Or.inl earlier⟩
        · exact ⟨o, List.mem_cons_of_mem _ member, Or.inr ⟨first, p, order.cons _, same, single⟩⟩

/-- Whoever is told to be removed as a double was the same in every field as one that had been
created earlier and is there in the end. -/
def DropsDoubles (before : Population) (events : List Event) (after : Population) : Prop :=
  ∀ slot, (slot, .dedup) ∈ removals events →
    ∃ first o, [(first, o), (slot, o)].Sublist before.members ∧ (first, o) ∈ after.members

theorem dedup_drops_doubles {p : Population} (tidy : p.Tidy)
    (timed : ∀ m ∈ p.members, m.2.Timed) : DropsDoubles p p.dedup.events p.dedup.state := by
  intro slot told
  obtain ⟨account, _⟩ := dedup_account p tidy
  rw [account.told] at told
  have double : slot ∈ duplicates [] p.members := by
    simpa [List.filterMap_map, Function.comp_def, Move.removal?] using told
  obtain ⟨o, member, before | ⟨first, q, order, same, single⟩⟩ :=
    original_of_duplicate tidy.distinct double
  · cases before
  · have original : (first, q) ∈ p.members := order.subset List.mem_cons_self
    cases Organism.eq_of_key (timed _ original) (timed _ member) same
    refine ⟨first, o, order, account.trail.mem_spared original ?_⟩
    intro move departs
    obtain ⟨other, victim, rfl⟩ := List.mem_map.mp departs
    rintro rfl
    exact single victim

end Population

namespace Simulation
open Population Attempt

def untilDedup (s : Simulation) : Attempt Simulation Unit :=
  s.untilCharge.andThen fun t _ =>
  (t.charge s.ready).andThen fun t _ =>
  .done { t with cycle := t.cycle + 1 } ()

theorem stepCycle_eq_untilDedup (s : Simulation) :
    s.stepCycle = s.untilDedup.andThen fun t _ =>
      t.dedupIfDue.andThen fun t _ => .done t.syncMetrics () := by
  simp only [stepCycle_eq_untilCharge, untilDedup, closing, finish, andThen_assoc, done_andThen]

theorem untilDedup_books {law : Law} (s : Simulation)
    (changes : ∀ slot before after, law.change slot before after)
    (leaves : ∀ slot cause, cause ≠ .dedup → law.leave slot cause) :
    Along (Books law) s s.untilDedup := by
  have chain := books_chain law
  apply chain.andThen (untilCharge_books (fun _ _ _ _ => changes _ _ _)
    (fun _ _ => leaves _ _ (by simp)) fun _ => leaves _ _ (by simp))
  intro _ _
  apply chain.andThen (charge_books (fun _ _ _ => changes _ _ _) fun _ _ => leaves _ _ (by simp))
  intro _ _
  exact chain.after (books_nextCycle _) (chain.done _ ())

theorem untilDedup_removes_no_double {s : Simulation} (prepared : s.Prepared) :
    s.untilDedup.state.Prepared ∧
      ∀ slot, (slot, .dedup) ∉ removals s.untilDedup.events := by
  let law : Law := ⟨s.settings.limits, fun _ _ _ => True, fun _ cause => cause ≠ .dedup⟩
  have booked : Along (Books law) s s.untilDedup :=
    s.untilDedup_books (fun _ _ _ => trivial) fun _ _ other => other
  obtain ⟨ledger, _⟩ := booked prepared rfl
  exact ⟨ledger.prepared prepared, fun slot told => ledger.leaves told rfl⟩

theorem dedupIfDue_drops_doubles {s : Simulation} (prepared : s.Prepared) :
    DropsDoubles s.population s.dedupIfDue.events s.dedupIfDue.state.population ∧
      s.dedupIfDue.answer = .ok () := by
  unfold dedupIfDue
  split
  · refine ⟨dedup_drops_doubles prepared.tidy prepared.timed, ?_⟩
    simp [dedup, onPopulation, (dedup_account s.population prepared.tidy).2, Except.map]
  · exact ⟨fun _ told => by simp [removals, Event.removals] at told, rfl⟩

theorem stepCycle_drops_doubles {s : Simulation} (prepared : s.Prepared) :
    DropsDoubles s.untilDedup.state.population s.stepCycle.events s.stepCycle.state.population := by
  obtain ⟨prepared', earlier⟩ := untilDedup_removes_no_double prepared
  rw [stepCycle_eq_untilDedup]
  cases answer : s.untilDedup.answer with
  | error fault =>
      rw [andThen_of_error _ answer]
      exact fun slot told => absurd told (earlier slot)
  | ok _ =>
      obtain ⟨drops, ended⟩ := dedupIfDue_drops_doubles prepared'
      rw [andThen_of_ok _ answer, andThen_of_ok _ ended]
      intro slot told
      refine drops slot ?_
      simp only [removals, Event.removals_append, List.map_append, List.mem_append] at told
      rcases told with before | last | after
      · exact absurd before (earlier slot)
      · exact last
      · simp [Attempt.done, Event.removals] at after

/-- In every state that can be reached the phase of an organism tells whether a delay is left, so
that equal keys make equal organisms; and both the deduplication that is asked for and the one at
the end of a cycle leave, of whoever they remove, one that is the same. -/
theorem dedup_keeps_an_equal {s : Simulation} (reachable : Reachable s) :
    (∀ m ∈ s.population.members,
      (m.2.phase = .delaying ↔ 0 < m.2.delay) ∧ (m.2.phase = .ready ↔ ¬ 0 < m.2.delay)) ∧
      (∀ m ∈ s.population.members, ∀ other ∈ s.population.members,
        m.2.key = other.2.key → m.2 = other.2) ∧
      DropsDoubles s.population s.dedup.events s.dedup.state.population ∧
      DropsDoubles s.untilDedup.state.population s.stepCycle.events
        s.stepCycle.state.population := by
  have prepared := reachable.prepared
  refine ⟨?_, ?_, ?_, stepCycle_drops_doubles prepared⟩
  · exact fun m member => m.2.timed_iff.mp (prepared.timed m member)
  · exact fun m member other member' =>
      Organism.eq_of_key (prepared.timed m member) (prepared.timed other member')
  · exact dedup_drops_doubles prepared.tidy prepared.timed

/-- Two that are spawned alike in the cell of a delay start it, and one of them is removed. -/
theorem dedup_keeps_an_equal_twoCells :
    let s := twoCells.performAll
      [.writeInstructions ⟨0, 0⟩ ["+a", ".a"], .spawn ⟨0, 0⟩ .right, .spawn ⟨0, 0⟩ .right,
        .step, .step]
    s.population.size = 2 ∧ (∀ m ∈ s.population.members, m.2.phase = .delaying) ∧
      (∀ m ∈ s.population.members, m.2.phase = .delaying ↔ 0 < m.2.delay) ∧
      (⟨1, 0⟩, .dedup) ∈ removals s.dedup.events ∧
      DropsDoubles s.population s.dedup.events s.dedup.state.population := by
  intro s
  have reachable : Reachable s := ⟨twoCells, twoCells_fresh, Reaches.performAll _ (by decide)⟩
  obtain ⟨timed, _, drops, _⟩ := dedup_keeps_an_equal reachable
  exact ⟨by decide +kernel, by decide +kernel, fun m member => (timed m member).1,
    by decide +kernel, drops⟩

end Simulation
end Terrarium
