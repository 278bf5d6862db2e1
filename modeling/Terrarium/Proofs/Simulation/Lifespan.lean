import Terrarium.Proofs.Simulation.Deeds
import Terrarium.Proofs.Simulation.Settings
import Terrarium.Proofs.Simulation.Soundness

/-!
What becomes of lifespans. A cycle charges those that were ready when it started and nobody
else; nothing but a charge touches a lifespan. Main statement: over a run whose cycles all come
to their end, an organism has of the lifespan it was created with what is left by the cycles it
started ready, and it expires in the cycle that uses the last of it up.
-/

namespace Terrarium

namespace Organism

def cost (o : Organism) : Int := if o.phase = .ready then 1 else 0

/-- The cycle to come is the last, unless something else ends the organism first. -/
def LastCycle (o : Organism) : Prop := o.phase = .ready ∧ o.lifespan = some 1

theorem tickLifespan_eq {o p : Organism} (same : p.lifespan = o.lifespan)
    (lasting : ∀ left, o.lifespan = some left → 1 ≤ left) :
    p.tickLifespan.1.lifespan = o.lifespan.map (· - 1) ∧
      (p.tickLifespan.2 = true ↔ o.lifespan = some 1) := by
  unfold tickLifespan
  rw [same]
  cases budget : o.lifespan with
  | none => simp [same, budget]
  | some left =>
      have some := lasting left budget
      have rest : max 0 (left - 1) = left - 1 := by omega
      simp only [rest, Option.map_some, decide_eq_true_eq, Option.some.injEq, true_and]
      omega

end Organism

namespace Simulation
open Population Attempt

/-- For what causes an organism may leave, depending on whether its life is used up. An expiry
comes before a deduplication, and neither comes with a kill. -/
def Ends (last : Prop) : RemovalCause → Prop
  | .expired => last
  | .dedup => ¬ last
  | .kill => ¬ last
  | _ => True

section Cycle
variable {s : Simulation}

theorem mem_slots_of_ready {slot : SlotId} (ready : slot ∈ s.ready) :
    slot ∈ s.population.slots :=
  (List.filter_sublist.map Prod.fst).subset ready

theorem untilCharge_fate (prepared : s.Prepared) {slot : SlotId} {o : Organism}
    (found : s.population.get? slot = some o) :
    Fate (fun after => after.lifespan = o.lifespan) (fun cause => cause = .halt ∨ cause = .culled)
        slot (removals s.untilCharge.events) s.untilCharge.state.population ∧
      s.untilCharge.state.Prepared := by
  let law : Law := ⟨s.settings.limits, fun _ before after => after.lifespan = before.lifespan,
    fun _ cause => cause = .halt ∨ cause = .culled⟩
  have booked : Along (Books law) s s.untilCharge :=
    untilCharge_books (fun _ _ _ continues => continues.lifespan) (fun _ _ => Or.inl rfl)
      fun _ => Or.inr rfl
  obtain ⟨ledger, _⟩ := booked prepared rfl
  refine ⟨ledger.fate (fun after => after.lifespan = o.lifespan) prepared ?_ found rfl,
    ledger.prepared prepared⟩
  exact fun before after _ change same => change.trans same

/-- The charge takes one cycle off those that were ready, and leaves the others alone. -/
theorem charge_lifespan (prepared : s.Prepared) {slots : List SlotId} (distinct : slots.Nodup)
    {slot : SlotId} {o p : Organism} (charged : slot ∈ slots ↔ o.phase = .ready)
    (found : s.population.get? slot = some p) (same : p.lifespan = o.lifespan)
    (lasting : ∀ left, o.lifespan = some left → 1 ≤ left) :
    Fate (fun after => after.lifespan = o.lifespan.map (· - o.cost) ∧ ¬ o.LastCycle)
      (fun cause => cause = .expired ∧ o.LastCycle) slot
      (removals (s.charge slots).events) (s.charge slots).state.population := by
  by_cases ready : o.phase = .ready
  · obtain ⟨left, used⟩ := Organism.tickLifespan_eq same lasting
    have fate := charge_fate prepared.tidy prepared.timed distinct (charged.mpr ready) found
    refine fate.weaken ?_ ?_
    · intro after lasts
      rw [lasts] at left used
      refine ⟨by simpa [Organism.cost, ready] using left, fun last => ?_⟩
      exact Bool.false_ne_true (used.mpr last.2)
    · rintro cause ⟨rfl, expires⟩
      exact ⟨rfl, ready, used.mp expires⟩
  · have outside : slot ∉ slots := fun inside => ready (charged.mp inside)
    refine (charge_spares prepared.tidy prepared.timed outside found).weaken ?_ ?_
    · rintro after rfl
      exact ⟨by simp [Organism.cost, ready, same], fun last => ready last.1⟩
    · exact fun _ => False.elim

theorem finish_fate (prepared : s.Prepared) {slot : SlotId} {o : Organism}
    (found : s.population.get? slot = some o) (kept : Organism → Prop) (good : kept o) :
    Fate kept (· = .dedup) slot (removals s.finish.events) s.finish.state.population := by
  let law : Law := ⟨s.settings.limits, fun _ _ _ => False, fun _ cause => cause = .dedup⟩
  have booked : Along (Books law) s s.finish := finish_books fun _ => rfl
  exact (booked prepared rfl).1.fate kept prepared (fun _ _ _ => False.elim) found good

theorem closing_fate (prepared : s.Prepared) {slots : List SlotId} (distinct : slots.Nodup)
    (completed : (s.closing slots).answer = .ok ()) {slot : SlotId} {o p : Organism}
    (charged : slot ∈ slots ↔ o.phase = .ready) (found : s.population.get? slot = some p)
    (same : p.lifespan = o.lifespan) (lasting : ∀ left, o.lifespan = some left → 1 ≤ left) :
    Fate (fun after => after.lifespan = o.lifespan.map (· - o.cost)) (Ends o.LastCycle) slot
      (removals (s.closing slots).events) (s.closing slots).state.population := by
  obtain ⟨_, ended, _⟩ := andThen_ok completed
  have prepared' : (s.charge slots).state.Prepared :=
    prepared.along fun _ => charge_books (fun _ _ _ => trivial) fun _ _ => trivial
  refine fate_andThen_of_ok ended prepared' (fun _ => finish_books fun _ => trivial)
    (charge_lifespan prepared distinct charged found same lasting) ?_ ?_
  · rintro q here ⟨left, further⟩
    exact (finish_fate prepared' here _ left).weaken (fun _ => id) (by rintro _ rfl; exact further)
  · rintro _ ⟨rfl, last⟩
    exact last

theorem stepCycle_fate (prepared : s.Prepared) (completed : s.stepCycle.answer = .ok ())
    {slot : SlotId} {o : Organism} (found : s.population.get? slot = some o)
    (lasting : ∀ left, o.lifespan = some left → 1 ≤ left) :
    Fate (fun after => after.lifespan = o.lifespan.map (· - o.cost)) (Ends o.LastCycle) slot
      (removals s.stepCycle.events) s.stepCycle.state.population := by
  obtain ⟨early, prepared'⟩ := untilCharge_fate prepared found
  rw [stepCycle_eq_untilCharge] at completed ⊢
  obtain ⟨_, first, rest⟩ := andThen_ok completed
  have later (limits : Limits) : Along (Books (freely limits)) s.untilCharge.state
      (s.untilCharge.state.closing s.ready) :=
    closing_books (fun _ _ _ => trivial) (fun _ _ => trivial) fun _ => trivial
  refine fate_andThen_of_ok first prepared' later early ?_ ?_
  · intro p here same
    exact closing_fate prepared' prepared.ready_nodup rest (prepared.mem_ready_iff found) here same
      lasting
  · rintro cause (rfl | rfl) <;> trivial

end Cycle

/-- How many cycles of its life a deed takes from the organism of a slot: one, if it is a cycle and
finds it ready. -/
def serves (slot : SlotId) (s : Simulation) : Deed → Nat
  | .perform .step => if (s.population.get? slot).any fun o => o.phase = .ready then 1 else 0
  | _ => 0

def served (slot : SlotId) (s : Simulation) : List Deed → Nat
  | [] => 0
  | deed :: rest => s.serves slot deed + (s.act deed).state.served slot rest

section Deeds
variable {s : Simulation} {deed : Deed} {slot : SlotId}

theorem serves_absent (absent : s.population.get? slot = none) : s.serves slot deed = 0 := by
  unfold serves
  split
  · simp [absent]
  · rfl

theorem serves_apart (apart : deed.cycles = 0) : s.serves slot deed = 0 := by
  unfold serves
  split
  · cases apart
  · rfl

theorem serves_step {o : Organism} (found : s.population.get? slot = some o) :
    (s.serves slot (.perform .step) : Int) = o.cost := by
  by_cases ready : o.phase = .ready <;> simp [serves, found, Organism.cost, ready]

theorem serves_step_iff {o : Organism} (found : s.population.get? slot = some o) :
    s.serves slot (.perform .step) = 1 ↔ o.phase = .ready := by
  by_cases ready : o.phase = .ready <;> simp [serves, found, ready]

theorem act_fate (prepared : s.Prepared) (facade : deed.isFacade = true)
    (single : deed = .perform .step ∨ deed.cycles = 0)
    (complete : 0 < deed.cycles → (s.act deed).succeeded = true) {o : Organism}
    (found : s.population.get? slot = some o)
    (lasting : ∀ left, o.lifespan = some left → 1 ≤ left) :
    Fate (fun after => after.lifespan = o.lifespan.map (· - (s.serves slot deed : Int)))
      (Ends (s.serves slot deed = 1 ∧ o.lifespan = some 1)) slot
      (removals (s.act deed).events) (s.act deed).state.population := by
  rcases single with rfl | apart
  · have completed : s.stepCycle.answer = .ok () :=
      answer_of_succeeded ((succeeded_map _ _).symm.trans (complete Nat.one_pos))
    have fate := stepCycle_fate prepared completed found lasting
    have last : (s.serves slot (.perform .step) = 1 ∧ o.lifespan = some 1) = o.LastCycle := by
      rw [serves_step_iff found]
      rfl
    rw [serves_step found, last]
    exact fate
  · let law : Law := ⟨s.settings.limits, fun _ before after => after.lifespan = before.lifespan,
      fun _ cause => cause = .kill ∨ cause = .dedup⟩
    have ledger : Ledger law s (s.act deed).events (s.act deed).state :=
      (act_ledger_apart prepared rfl facade apart (fun _ _ _ continues => continues.lifespan)
        (fun _ => Or.inl rfl) fun _ => Or.inr rfl).1
    have fate := ledger.fate (fun after => after.lifespan = o.lifespan) prepared
      (fun _ _ _ change same => change.trans same) found rfl
    rw [serves_apart apart]
    refine fate.weaken (fun after same => by simpa using same) ?_
    rintro cause (rfl | rfl) <;> simp [Ends]

/-- Nobody who comes in by a deed is charged in it. -/
theorem act_newborn (prepared : s.Prepared) (facade : deed.isFacade = true)
    (single : deed = .perform .step ∨ deed.cycles = 0) (fresh : slot ∉ s.population.slots) :
    (slot, .expired) ∉ removals (s.act deed).events ∧
      ∀ o, (s.act deed).state.population.get? slot = some o →
        o.lifespan = s.settings.limits.lifespan.map Int.ofNat := by
  let law : Law := ⟨s.settings.limits,
    fun slot before after => slot ∈ s.population.slots ∨ after.lifespan = before.lifespan,
    fun slot cause => cause = .expired → slot ∈ s.population.slots⟩
  have changes (slot : SlotId) (before after : Organism) (continues : before.Continues after) :
      law.change slot before after := Or.inr continues.lifespan
  have ledger : Ledger law s (s.act deed).events (s.act deed).state := by
    rcases single with rfl | apart
    · have booked : Along (Books law) s s.stepCycle :=
        stepCycle_books changes (fun _ ready _ => Or.inl (mem_slots_of_ready ready))
          (fun _ ready _ => mem_slots_of_ready ready) (fun _ other => by cases other)
          (fun _ ready _ => mem_slots_of_ready ready) fun _ other => by cases other
      exact (booked.map _ prepared rfl).1
    · exact (act_ledger_apart prepared rfl facade apart changes (fun _ other => by cases other)
        fun _ other => by cases other).1
  refine ⟨fun told => fresh (ledger.leaves told rfl), fun o found => ?_⟩
  -- Whoever is changed besides was there at the start.
  refine ledger.members (fun slot o => slot ∉ s.population.slots →
    o.lifespan = s.settings.limits.lifespan.map Int.ofNat) prepared ?_ ?_ ?_ _
      (mem_members_of_get? found) fresh
  · exact fun _ _ _ entrant _ => entrant.lifespan
  · rintro other before after _ (there | same) earlier absent
    · exact absurd there absent
    · exact same.trans (earlier absent)
  · exact fun m member absent => absurd (List.mem_map_of_mem member) absent

/-- So many cycles of the limit it came under have been taken from the organism of a slot, unless
it is gone. -/
def Lives (limit : Option Nat) (slot : SlotId) (cycles : Nat) (s : Simulation) : Prop :=
  s.population.Spent slot ∨ ∃ o, s.population.get? slot = some o ∧
    o.lifespan = limit.map fun (all : Nat) => (all : Int) - cycles

theorem Lives.lifespan {limit : Option Nat} {cycles : Nat} (lives : s.Lives limit slot cycles)
    (prepared : s.Prepared) {o : Organism} (found : s.population.get? slot = some o) :
    o.lifespan = limit.map fun (all : Nat) => (all : Int) - cycles := by
  rcases lives with gone | ⟨p, here, lifespan⟩
  · exact absurd gone (prepared.tidy.not_spent (mem_slots_of_get? found))
  · cases here.symm.trans found
    exact lifespan

theorem Reachable.lasting (reachable : Reachable s) {o : Organism}
    (found : s.population.get? slot = some o) : ∀ left, o.lifespan = some left → 1 ≤ left :=
  (reachable.sound.population.get? found).lifespan

theorem Reachable.act (reachable : Reachable s) (facade : deed.isFacade = true) :
    Reachable (s.act deed).state := reachable.onwards (Reaches.refl.act facade)

theorem Lives.act {limit : Option Nat} {cycles : Nat} (lives : s.Lives limit slot cycles)
    (reachable : Reachable s) (facade : deed.isFacade = true)
    (single : deed = .perform .step ∨ deed.cycles = 0)
    (complete : 0 < deed.cycles → (s.act deed).succeeded = true) :
    (s.act deed).state.Lives limit slot (cycles + s.serves slot deed) ∧
      ((slot, .expired) ∈ removals (s.act deed).events ↔
        s.serves slot deed = 1 ∧ limit = some (cycles + 1) ∧
          (slot, .halt) ∉ removals (s.act deed).events ∧
          (slot, .culled) ∉ removals (s.act deed).events) := by
  have prepared := reachable.prepared
  rcases lives with gone | ⟨o, found, lifespan⟩
  · obtain ⟨gone', untold⟩ := (act_ledger prepared facade).spent prepared gone
    have absent : s.population.get? slot = none :=
      (get?_eq_none_iff _ _).mpr fun live => prepared.tidy.not_spent live gone
    refine ⟨Or.inl gone', iff_of_false (untold _) fun last => ?_⟩
    rw [serves_absent absent] at last
    exact absurd last.1 (by simp)
  · have last : o.lifespan = some 1 ↔ limit = some (cycles + 1) := by
      rw [lifespan]
      cases limit with
      | none => simp
      | some all =>
          simp only [Option.map_some, Option.some.injEq]
          omega
    -- By now the limit and the cycles taken are what the organism itself has left.
    cases act_fate prepared facade single complete found (reachable.lasting found) with
    | @stays after here left untold =>
        have lifespan' : after.lifespan =
            limit.map fun (all : Nat) => (all : Int) - (cycles + s.serves slot deed : Nat) := by
          rw [left, lifespan, Option.map_map]
          congr 1
          funext all
          simp only [Function.comp_apply]
          omega
        refine ⟨Or.inr ⟨after, here, lifespan'⟩, iff_of_false (untold _) ?_⟩
        -- Whoever stays has a cycle left.
        rintro ⟨one, used, _⟩
        have some := (reachable.act facade).lasting here 0
          (by rw [left, last.mpr used, one]; rfl)
        omega
    | @leaves cause gone reason named =>
        refine ⟨Or.inl gone, ?_⟩
        rw [named, named, named, ← last]
        cases cause <;> simp_all [Ends]

theorem Lives.after {limit : Option Nat} {cycles : Nat} (lives : s.Lives limit slot cycles)
    (reachable : Reachable s) {deeds : List Deed} (facade : ∀ deed ∈ deeds, deed.isFacade = true)
    (single : ∀ deed ∈ deeds, deed = .perform .step ∨ deed.cycles = 0)
    (complete : s.CyclesComplete deeds) :
    (s.after deeds).Lives limit slot (cycles + s.served slot deeds) := by
  induction deeds generalizing s cycles with
  | nil => exact lives
  | cons deed rest ih =>
      have facade' := facade deed List.mem_cons_self
      have next := (lives.act reachable facade' (single deed List.mem_cons_self) complete.1).1
      have later := ih next (reachable.act facade')
        (fun other later => facade other (List.mem_cons_of_mem _ later))
        (fun other later => single other (List.mem_cons_of_mem _ later)) complete.2
      rw [served, ← Nat.add_assoc]
      exact later

/-- A deed that brings an organism in: it was not there before, and afterwards it is, or it is told
to have left again. -/
def Creates (s : Simulation) (deed : Deed) (slot : SlotId) : Prop :=
  slot ∉ s.population.slots ∧ (slot ∈ (s.act deed).state.population.slots ∨
    ∃ cause, (slot, cause) ∈ removals (s.act deed).events)

theorem Creates.lives (creates : s.Creates deed slot) (prepared : s.Prepared)
    (facade : deed.isFacade = true) (single : deed = .perform .step ∨ deed.cycles = 0) :
    (s.act deed).state.Lives s.settings.limits.lifespan slot 0 := by
  obtain ⟨fresh, live | ⟨cause, told⟩⟩ := creates
  · obtain ⟨o, found⟩ := get?_of_mem_slots live
    have lifespan := (act_newborn prepared facade single fresh).2 o found
    exact Or.inr ⟨o, found, lifespan.trans (Option.map_congr fun all _ => by simp)⟩
  · exact Or.inl ((act_ledger prepared facade).spent_of_told prepared told)

theorem Creates.settings (creates : s.Creates deed slot) (prepared : s.Prepared)
    (facade : deed.isFacade = true) (single : deed = .perform .step ∨ deed.cycles = 0) :
    (s.act deed).state.settings = s.settings := by
  rcases single with rfl | apart
  · exact (stepCycle_settings rfl).state
  · have booked := @act_ledger_apart (freely s.settings.limits) s prepared rfl deed facade apart
      (fun _ _ _ _ => trivial) (fun _ => trivial) fun _ => trivial
    rcases booked.2 with same | ⟨still, silent⟩
    · exact same
    · obtain ⟨fresh, live | ⟨cause, told⟩⟩ := creates
      · rw [still] at live
        exact absurd live fresh
      · simp [removals, silent] at told

end Deeds

/-- A run of a new simulation whose cycles all come to their end is taken with each cycle by itself.
An organism comes into it under the limit in force at that deed; from then on it has lost one cycle
of life for each cycle at whose start it was live and ready, not the one of its birth; and it
expires in the cycle that makes these as many as the limit, unless it halts or is culled in that
cycle, and in no other. -/
theorem lifespans_run_out {fresh : Simulation} (new : Fresh fresh) (deeds : List Deed)
    (facade : ∀ deed ∈ deeds, deed.isFacade = true) (complete : fresh.CyclesComplete deeds) :
    let run := deeds.flatMap Deed.unrolled
    fresh.after run = fresh.after deeds ∧
      Event.removals (fresh.told run) = Event.removals (fresh.told deeds) ∧
      ∀ earlier birth later rest slot, run = earlier ++ birth :: (later ++ rest) →
        (fresh.after earlier).Creates birth slot →
        let s := fresh.after earlier
        let limit := s.settings.limits.lifespan
        let t := (s.act birth).state
        let u := t.after later
        let cycles := t.served slot later
        t.settings = s.settings ∧ (slot, .expired) ∉ removals (s.act birth).events ∧
          (∀ o, u.population.get? slot = some o →
            o.lifespan = limit.map fun (all : Nat) => (all : Int) - cycles) ∧
          ∀ next others, rest = next :: others →
            ((slot, .expired) ∈ removals (u.act next).events ↔
              u.serves slot next = 1 ∧ limit = some (cycles + 1) ∧
                (slot, .halt) ∉ removals (u.act next).events ∧
                (slot, .culled) ∉ removals (u.act next).events) := by
  intro run
  obtain ⟨state, told, complete⟩ := run_unrolled fresh deeds complete
  refine ⟨state, told, ?_⟩
  have singles : ∀ deed ∈ run,
      (deed = .perform .step ∨ deed.cycles = 0) ∧ deed.isFacade = true := by
    intro single member
    obtain ⟨deed, among, part⟩ := List.mem_flatMap.mp member
    obtain ⟨alone, allowed⟩ := single_of_unrolled part
    exact ⟨alone, allowed (facade deed among)⟩
  intro earlier birth later rest slot split creates s limit t u cycles
  have complete : fresh.CyclesComplete (earlier ++ birth :: (later ++ rest)) := split ▸ complete
  rw [split] at singles
  rw [cyclesComplete_append, CyclesComplete, cyclesComplete_append] at complete
  obtain ⟨_, _, complete, completeRest⟩ := complete
  have facades (deed : Deed) (member : deed ∈ earlier ++ birth :: (later ++ rest)) :=
    (singles deed member).2
  have alone (deed : Deed) (member : deed ∈ earlier ++ birth :: (later ++ rest)) :=
    (singles deed member).1
  have reachable : Reachable s :=
    ⟨fresh, new, Reaches.refl.after fun deed member => facades deed (by simp [member])⟩
  -- The life of the organism starts with the state its birth leaves, with no cycle taken yet.
  have birthFacade := facades birth (by simp)
  have birthAlone := alone birth (by simp)
  have lives := (creates.lives reachable.prepared birthFacade birthAlone).after
    (reachable.act birthFacade) (fun deed member => facades deed (by simp [member]))
    (fun deed member => alone deed (by simp [member])) complete
  rw [Nat.zero_add] at lives
  have reachable' : Reachable u := (reachable.act birthFacade).onwards
    (Reaches.refl.after fun deed member => facades deed (by simp [member]))
  refine ⟨creates.settings reachable.prepared birthFacade birthAlone,
    (act_newborn reachable.prepared birthFacade birthAlone creates.1).1,
    fun o found => lives.lifespan reachable'.prepared found, ?_⟩
  rintro next others rfl
  exact (lives.act reachable' (facades next (by simp)) (alone next (by simp)) completeRest.1).2

/-- One that is spawned under a limit of two cycles has both, although the limit is lifted then. -/
theorem lifespans_run_out_twoCells :
    let deeds : List Deed := [.perform (.writeInstructions ⟨0, 0⟩ ["+a", "+a"]),
      .perform (.set .lifespan (.int 2)), .perform (.spawn ⟨0, 0⟩ .right),
      .perform (.set .lifespan .null), .perform (.runCycles 2)]
    let s := twoCells.after (deeds.take 2)
    let u := ((s.act (.perform (.spawn ⟨0, 0⟩ .right))).state.after
      [.perform (.set .lifespan .null), .perform .step])
    (∀ o, u.population.get? ⟨0, 0⟩ = some o → o.lifespan = some 1) ∧
      (⟨0, 0⟩, .expired) ∈ removals (u.act (.perform .step)).events ∧
      (twoCells.after deeds).population.size = 0 := by
  intro deeds s u
  have complete : twoCells.CyclesComplete deeds := by
    refine ⟨?_, ?_, ?_, ?_, ?_, trivial⟩ <;> decide +kernel
  obtain ⟨_, _, lives⟩ := lifespans_run_out twoCells_fresh deeds (by decide) complete
  have creates : s.Creates (.perform (.spawn ⟨0, 0⟩ .right)) ⟨0, 0⟩ := by
    refine ⟨?_, Or.inl ?_⟩ <;> decide +kernel
  obtain ⟨_, _, lifespan, expiry⟩ := lives (deeds.take 2) (.perform (.spawn ⟨0, 0⟩ .right))
    [.perform (.set .lifespan .null), .perform .step] [.perform .step] ⟨0, 0⟩ rfl creates
  refine ⟨?_, ?_, by decide +kernel⟩
  · intro o found
    rw [lifespan o found]
    decide +kernel
  · refine (expiry (.perform .step) [] rfl).mpr ⟨?_, ?_, ?_, ?_⟩ <;> decide +kernel

end Simulation
end Terrarium
