import Terrarium.Proofs.Simulation.Deeds

/-!
The counters of a simulation against what has happened to it. Main statement: after any run of a
new simulation, failing deeds included, as many organisms are live as were spawned or born and
not removed since, and each removal stands in the counter of its cause; and as long as no deed has
failed, the counters that are kept elsewhere agree with the metrics.
-/

namespace Terrarium

namespace Population

theorem left_eq_map_removals (moves : List Move) :
    left moves = (moves.filterMap Move.removal?).map Prod.fst := by
  induction moves with
  | nil => rfl
  | cons move rest ih =>
      cases move with
      | leave slot cause => exact congrArg (slot :: ·) ih
      | enter slot o => exact ih
      | change slot o => exact ih
      | look focus => exact ih

theorem size_vacate {p : Population} (distinct : p.slots.Nodup) {slot : SlotId}
    (live : slot ∈ p.slots) : (p.vacate slot).size + 1 = p.size := by
  have once : p.slots.filter (fun other => other ≠ slot) = p.slots.erase slot := by
    rw [distinct.erase_eq_filter]
    apply List.filter_congr
    intro other _
    by_cases same : other = slot <;> simp [same]
  rw [← slots_length, ← slots_length, slots_vacate, once, List.length_erase_of_mem live]
  have some := List.length_pos_of_mem live
  omega

theorem Trail.size_eq {p q : Population} {moves : List Move} (trail : Trail p moves q)
    (tidy : p.Tidy) : q.size + (left moves).length = p.size + (entered moves).length := by
  induction trail with
  | stay _ => rfl
  | @go p q move rest allowed _ ih =>
      have later := ih (moved_tidy tidy allowed)
      cases move with
      | enter slot o =>
          have one := p.size_enter slot o
          simp only [left_enter, entered_enter, List.length_cons]
          omega
      | change slot o =>
          have same : (p.moved (.change slot o)).size = p.size := p.size_update slot o
          simp only [left_change, entered_change]
          omega
      | leave slot cause =>
          have one : (p.moved (.leave slot cause)).size + 1 = p.size :=
            size_vacate tidy.distinct allowed
          simp only [left_leave, entered_leave, List.length_cons]
          omega
      | look focus => exact later

end Population

theorem length_eq_counts (causes : List RemovalCause) :
    causes.length = causes.count .halt + causes.count .kill + causes.count .expired +
      causes.count .culled + causes.count .dedup := by
  induction causes with
  | nil => rfl
  | cons cause rest ih =>
      rw [List.length_cons, ih]
      cases cause <;> simp <;> omega

namespace Simulation
open Population Attempt

theorem run_account {s : Simulation} (prepared : s.Prepared) {deeds : List Deed}
    (facade : ∀ deed ∈ deeds, deed.isFacade = true) :
    (∃ moves, Account s.population (s.after deeds).population (s.told deeds) moves ∧
      (s.after deeds).metrics.spawned + (s.after deeds).metrics.births =
        s.metrics.spawned + s.metrics.births + (entered moves).length) ∧
    ∀ cause, (s.after deeds).metrics.removalsBy cause =
      s.metrics.removalsBy cause + ((Event.causes (s.told deeds)).count cause : Int) := by
  induction deeds generalizing s with
  | nil => exact ⟨⟨[], .nothing _, rfl⟩, fun cause => by simp [told, Event.causes, Event.removals]⟩
  | cons deed rest ih =>
      -- A deed that fails has its ledger as well, so the run goes on from whatever it left.
      have ledger := act_ledger prepared (facade deed List.mem_cons_self)
      obtain ⟨⟨second, account', newcomers'⟩, counted'⟩ := ih (ledger.prepared prepared)
        fun other later => facade other (List.mem_cons_of_mem _ later)
      obtain ⟨⟨first, account, _, newcomers⟩, counted⟩ := ledger
      refine ⟨⟨first ++ second, account.append account', ?_⟩, ?_⟩
      · rw [after_cons, newcomers', newcomers, entered_append, List.length_append]
        omega
      · intro cause
        rw [after_cons, counted', counted, told, Event.causes_append, List.count_append]
        omega

theorem removals_eq_length {m : Metrics} {events : List Event}
    (counted : ∀ cause, m.removalsBy cause = ((Event.causes events).count cause : Int)) :
    m.removals = (Event.removals events).length := by
  have halts := counted .halt
  have kills := counted .kill
  have expired := counted .expired
  have culled := counted .culled
  have deduped := counted .dedup
  have all := length_eq_counts (Event.causes events)
  rw [Event.causes, List.length_map] at all
  simp only [Metrics.removalsBy] at halts kills expired culled deduped
  simp only [Event.causes] at halts kills expired culled deduped
  rw [Metrics.removals]
  omega

/-- The metrics have what the cycle count and the habitat say. -/
structure Synced (s : Simulation) : Prop where
  cycles : s.metrics.cycles = s.cycle
  writeErrors : s.metrics.writeErrors = s.habitat.writeErrors
  strikes : s.metrics.strikes = s.habitat.strikes

theorem syncMetrics_synced (s : Simulation) : s.syncMetrics.Synced := ⟨rfl, rfl, rfl⟩

theorem stepCycle_synced (s : Simulation) : s.stepCycle.Grants fun t _ => t.Synced := by
  rw [stepCycle_eq_untilCharge]
  refine (Grants.anyway _).andThen fun t _ _ => ?_
  refine (Grants.anyway _).andThen fun t _ _ => ?_
  exact (Grants.anyway _).andThen fun t _ _ => .done (syncMetrics_synced t)

theorem Synced.of_same {s t : Simulation} (synced : s.Synced)
    (cycles : t.metrics.cycles = s.metrics.cycles)
    (writeErrors : t.metrics.writeErrors = s.metrics.writeErrors)
    (strikes : t.metrics.strikes = s.metrics.strikes) (cycle : t.cycle = s.cycle)
    (errors : t.habitat.writeErrors = s.habitat.writeErrors)
    (struck : t.habitat.strikes = s.habitat.strikes) : t.Synced where
  cycles := by rw [cycles, cycle, synced.cycles]
  writeErrors := by rw [writeErrors, errors, synced.writeErrors]
  strikes := by rw [strikes, struck, synced.strikes]

section Deeds
variable {s : Simulation}

theorem Synced.onPopulation {α : Type} (synced : s.Synced) (attempt : Attempt Population α) :
    (s.onPopulation attempt).state.Synced := by
  obtain ⟨cycles, _, writeErrors, strikes⟩ := s.metrics.witness_others attempt.events
  exact synced.of_same cycles writeErrors strikes rfl rfl rfl

theorem Synced.withFocused (synced : s.Synced) (o : Organism) : (s.withFocused o).Synced := by
  unfold Simulation.withFocused
  split
  · exact synced.of_same rfl rfl rfl rfl rfl rfl
  · exact synced

theorem Synced.spawn (synced : s.Synced) (p : Point) (direction : Direction) :
    (s.spawn p direction).Grants fun t _ => t.Synced := by
  have entered : (s.onPopulation (s.population.spawn s.settings.limits (s.grid.normalize p)
      direction)).Grants fun t _ => t.Synced := fun _ _ => synced.onPopulation _
  refine entered.andThen fun t _ synced => ?_
  exact .done (synced.of_same rfl rfl rfl rfl rfl rfl)

theorem Synced.runCycles (synced : s.Synced) (count : Int) :
    (s.runCycles count).Grants fun t _ => t.Synced := by
  have ran (count : Nat) (s : Simulation) (synced : s.Synced) :
      (stepCycles count s).Grants fun t _ => t.Synced := by
    induction count generalizing s with
    | zero => exact .done synced
    | succ count ih => exact (stepCycle_synced s).andThen fun t _ synced => ih t synced
  unfold Simulation.runCycles runCyclesAs
  split
  · exact .fail _ _
  · exact (ran count.toNat s synced).andThen fun t _ synced _ _ => synced

theorem Synced.runFocused (synced : s.Synced) (mnemonics : List String) :
    (s.runFocused mnemonics).Grants fun t _ => t.Synced := by
  unfold Simulation.runFocused
  split
  · exact .fail _ _
  · split
    · exact .done synced
    · refine (Grants.anyway _).andThen fun t _ _ => ?_
      exact (Grants.anyway _).andThen fun t _ _ _ _ => syncMetrics_synced t

/-- Every deed that comes to its end leaves the metrics up to date. -/
theorem Synced.act (synced : s.Synced) (deed : Deed) :
    (s.act deed).Grants fun t _ => t.Synced := by
  have still {t : Simulation} (metrics : t.metrics = s.metrics) (cycle : t.cycle = s.cycle)
      (errors : t.habitat.writeErrors = s.habitat.writeErrors)
      (struck : t.habitat.strikes = s.habitat.strikes) : t.Synced :=
    synced.of_same (by rw [metrics]) (by rw [metrics]) (by rw [metrics]) cycle errors struck
  have assigned (field : RunField) (v : Value) :
      (s.assign field v).Grants fun t _ => t.Synced := by
    unfold Simulation.assign
    split
    · exact .done (still rfl rfl rfl rfl)
    · exact .fail _ _
  have unread {α : Type} {f : α → Answer} {attempt : Attempt Simulation α}
      (head : attempt.Grants fun t _ => t.Synced) : (attempt.map f).Grants fun t _ => t.Synced :=
    head.map fun _ _ synced => synced
  cases deed with
  | assign field v => exact unread (assigned field v)
  | start => exact .done (still rfl rfl rfl rfl)
  | perform operation =>
      cases operation with
      | step => exact unread (stepCycle_synced s)
      | runCycles count => exact unread (synced.runCycles count)
      | spawn p direction => exact unread (synced.spawn p direction)
      | insert o => exact unread fun _ _ => synced.onPopulation _
      | writeByte p value =>
          refine unread ?_
          unfold Simulation.writeByte
          split
          · exact .done (still rfl rfl rfl rfl)
          · exact .fail _ _
      | writeInstruction p mnemonic =>
          refine unread ?_
          unfold Simulation.writeInstruction
          split
          · exact .done (still rfl rfl rfl rfl)
          · exact .fail _ _
      | writeInstructions p mnemonics =>
          refine unread ?_
          unfold Simulation.writeInstructions
          split
          · exact .done (still rfl rfl rfl rfl)
          · exact .fail _ _
      | setFocus slot => exact unread (.done (still rfl rfl rfl rfl))
      | focusOrdinal ordinal => exact unread (.done (still rfl rfl rfl rfl))
      | killFocused => exact unread fun _ _ => synced.onPopulation _
      | moveCursor direction steps =>
          refine unread ?_
          unfold Simulation.moveCursor
          split
          · exact .done synced
          · exact .done (synced.withFocused _)
      | moveIp direction steps =>
          refine unread ?_
          unfold Simulation.moveIp
          split
          · exact .done synced
          · exact .done (synced.withFocused _)
      | runFocused mnemonics => exact unread (synced.runFocused mnemonics)
      | dedup => exact unread fun _ _ => synced.onPopulation _
      | set knob v =>
          refine unread ((assigned knob.field _).andThen fun t _ synced _ _ => ?_)
          rwa [announce_state]
      | setSpeed v => exact unread (assigned .cycleSpeed v)
      | _ => exact .done (still rfl rfl rfl rfl)

theorem Synced.after (synced : s.Synced) {deeds : List Deed} (unfailing : s.Unfailing deeds) :
    (s.after deeds).Synced := by
  induction deeds generalizing s with
  | nil => exact synced
  | cons deed rest ih =>
      obtain ⟨answer, ended⟩ := (succeeded_iff _).mp unfailing.1
      exact ih (synced.act deed answer ended) unfailing.2

end Deeds

/-- After any run of a new simulation, whether its deeds failed or not: each counter of removals has
as many as were told with its cause, who was told of has left the population and nobody else has,
and those spawned or born are those that entered it. -/
theorem population_is_accounted {fresh : Simulation} (new : Fresh fresh) (deeds : List Deed)
    (facade : ∀ deed ∈ deeds, deed.isFacade = true) :
    let s := fresh.after deeds
    (s.population.size : Int) = s.metrics.spawned + s.metrics.births - s.metrics.removals ∧
      s.metrics.removals = s.metrics.halts + s.metrics.kills + s.metrics.expired +
        s.metrics.culled + s.metrics.deduped ∧
      (∀ cause, s.metrics.removalsBy cause =
        ((Event.causes (fresh.told deeds)).count cause : Int)) ∧
      (∃ moves, Account .empty s.population (fresh.told deeds) moves ∧
        (entered moves).length = s.metrics.spawned + s.metrics.births) ∧
      (fresh.Unfailing deeds → s.metrics.cycles = s.cycle ∧
        s.metrics.writeErrors = s.habitat.writeErrors ∧ s.metrics.strikes = s.habitat.strikes) := by
  intro s
  have start : fresh.population = .empty ∧ fresh.metrics = {} ∧ fresh.Synced := by
    obtain ⟨_, _, _, _, _, _, _, _, _, built⟩ := new
    unfold build at built
    split at built
    · cases built
    · cases built
      exact ⟨rfl, rfl, rfl, rfl, rfl⟩
  obtain ⟨population, metrics, synced⟩ := start
  obtain ⟨⟨moves, account, newcomers⟩, counted⟩ := run_account new.prepared facade
  have size := account.trail.size_eq new.prepared.tidy
  rw [population] at account size
  rw [metrics] at newcomers counted
  have counted (cause : RemovalCause) : s.metrics.removalsBy cause =
      ((Event.causes (fresh.told deeds)).count cause : Int) := by
    rw [counted cause]
    cases cause <;> simp [Metrics.removalsBy]
  have newcomers : (entered moves).length = s.metrics.spawned + s.metrics.births := by
    simpa using newcomers.symm
  refine ⟨?_, rfl, counted, ⟨moves, account, newcomers⟩, fun unfailing => ?_⟩
  · have gone : (left moves).length = (Event.removals (fresh.told deeds)).length := by
      have told := congrArg List.length account.told
      rw [left_eq_map_removals, List.length_map, ← told]
      simp [removals]
    have removed := removals_eq_length counted
    have none : Population.empty.size = 0 := rfl
    change s.population.size + (left moves).length = _ at size
    omega
  · have ended := synced.after unfailing
    exact ⟨ended.cycles, ended.writeErrors, ended.strikes⟩

/-- Two are spawned, the first halts, the second has a child and is killed. -/
theorem population_is_accounted_twoCells :
    let deeds : List Deed := [.perform (.writeInstruction ⟨1, 0⟩ "-="),
      .perform (.spawn ⟨0, 0⟩ .right), .perform (.spawn ⟨1, 0⟩ .right), .perform .step,
      .perform (.setFocus (some ⟨1, 0⟩)), .perform .killFocused]
    let s := twoCells.after deeds
    s.population.size = 1 ∧ s.metrics.spawned = 2 ∧ s.metrics.births = 1 ∧
      s.metrics.removals = 2 ∧ s.metrics.removalsBy .kill = 1 ∧
      (s.population.size : Int) = s.metrics.spawned + s.metrics.births - s.metrics.removals ∧
      s.metrics.removalsBy .kill =
        ((Event.causes (twoCells.told deeds)).count .kill : Int) ∧
      s.metrics.cycles = s.cycle := by
  intro deeds s
  obtain ⟨size, _, counted, _, synced⟩ :=
    population_is_accounted twoCells_fresh deeds (by decide)
  have unfailing : twoCells.Unfailing deeds := by
    refine ⟨?_, ?_, ?_, ?_, ?_, ?_, trivial⟩ <;> decide +kernel
  exact ⟨by decide +kernel, by decide +kernel, by decide +kernel, by decide +kernel,
    by decide +kernel, size, counted .kill, (synced unfailing).1⟩

end Simulation
end Terrarium
