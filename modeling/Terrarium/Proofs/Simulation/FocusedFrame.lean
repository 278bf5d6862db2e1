import Terrarium.Proofs.Simulation.FocusedRun

/-!
The frame of a run on the organism in focus. What the run spawns and whether it asks for a halt is
read off the mnemonics, each with the organism as it meets it. Main statement: the place, the
standing and the handle of the organism in focus, all others and the cycle are left alone, whatever
runs; the population grows by the children that are reported.
-/

namespace Terrarium

namespace Instruction

def forkMnemonics : List String := ["-=", "m="]

theorem entry_of_mnemonic {mnemonic : String} {instruction : Instruction}
    (resolved : ofMnemonic mnemonic = .ok instruction) :
    ∃ entry ∈ table, entry.mnemonic = mnemonic ∧ entry.instruction = instruction := by
  obtain ⟨row, found, rfl⟩ := Except.of_map_ok resolved
  unfold lookup at found
  split at found
  · next entry place first =>
      cases found
      have named := List.find?_some first
      have member := List.fst_mem_of_mem_zipIdx (List.mem_of_find?_eq_some first)
      exact ⟨entry, member, by simpa using named, rfl⟩
  · cases found

section Mnemonics
variable {mnemonic : String} {instruction : Instruction}
  (resolved : ofMnemonic mnemonic = .ok instruction)
include resolved

theorem fork_iff_mnemonic :
    (∃ kind, instruction = .fork kind) ↔ mnemonic ∈ forkMnemonics := by
  have rows : ∀ entry ∈ table, (entry.instruction = .fork .flag ∨
      entry.instruction = .fork .cursor) ↔ entry.mnemonic ∈ forkMnemonics := by decide +kernel
  obtain ⟨entry, member, rfl, rfl⟩ := entry_of_mnemonic resolved
  rw [← rows entry member]
  constructor
  · rintro ⟨kind, same⟩
    cases kind with
    | flag => exact Or.inl same
    | cursor => exact Or.inr same
  · rintro (same | same)
    · exact ⟨.flag, same⟩
    · exact ⟨.cursor, same⟩

theorem halt_iff_mnemonic : instruction = .halt ↔ mnemonic = "@@" := by
  have rows : ∀ entry ∈ table, entry.instruction = .halt ↔ entry.mnemonic = "@@" := by
    decide +kernel
  obtain ⟨entry, member, rfl, rfl⟩ := entry_of_mnemonic resolved
  exact rows entry member

theorem haltIf_iff_mnemonic : instruction = .haltIf ↔ mnemonic = "?@" := by
  have rows : ∀ entry ∈ table, entry.instruction = .haltIf ↔ entry.mnemonic = "?@" := by
    decide +kernel
  obtain ⟨entry, member, rfl, rfl⟩ := entry_of_mnemonic resolved
  exact rows entry member

end Mnemonics
end Instruction

namespace Population

theorem members_update {p : Population} (distinct : p.slots.Nodup) {slot : SlotId} {o : Organism}
    {before after : List (SlotId × Organism)} (members : p.members = before ++ (slot, o) :: after)
    (q : Organism) : (p.update slot q).members = before ++ (slot, q) :: after := by
  have kept (others : List (SlotId × Organism)) (apart : ∀ m ∈ others, m.1 ≠ slot) :
      others.map (fun m => if m.1 = slot then (slot, q) else m) = others := by
    calc others.map (fun m => if m.1 = slot then (slot, q) else m) = others.map id :=
          List.map_congr_left fun m member => if_neg (apart m member)
      _ = others := List.map_id others
  simp only [slots, members, List.map_append, List.map_cons, List.nodup_append,
    List.nodup_cons] at distinct
  obtain ⟨_, ⟨unlike, _⟩, apart⟩ := distinct
  have earlier : ∀ m ∈ before, m.1 ≠ slot := fun m member =>
    apart m.1 (List.mem_map_of_mem member) slot List.mem_cons_self
  have later : ∀ m ∈ after, m.1 ≠ slot := fun m member same =>
    unlike (same ▸ List.mem_map_of_mem member)
  simp only [update, members, List.map_append, List.map_cons, kept before earlier,
    kept after later, if_true]

end Population

namespace Simulation
open Population Attempt

/-- The mnemonics after those run earlier, each with the organism in focus as it meets it. -/
def meetings (s : Simulation) : List String → List String → List (String × Organism)
  | _, [] => []
  | earlier, mnemonic :: rest =>
      (match (s.runFocused earlier).state.population.focused? with
        | some o => [(mnemonic, o)]
        | none => []) ++ meetings s (earlier ++ [mnemonic]) rest

def Begets (meeting : String × Organism) : Prop :=
  meeting.1 ∈ Instruction.forkMnemonics ∧ meeting.2.children ≠ some 0

instance : DecidablePred Begets := fun _ => inferInstanceAs (Decidable (_ ∧ _))

def AsksToHalt (meeting : String × Organism) : Prop :=
  meeting.1 = "@@" ∨ meeting.1 = "?@" ∧ meeting.2.flag = true

section Meetings
variable {s : Simulation} {slot : SlotId} {o : Organism}

/-- What one instruction in place comes to, by its mnemonic and the organism that meets it. -/
theorem effect_of_meeting {rules : Rules} {scene : Scene} {mnemonic : String}
    {instruction : Instruction} (resolved : Instruction.ofMnemonic mnemonic = .ok instruction)
    {effect : Effect} (answer : (scene.run rules false (some instruction)).answer = .ok effect) :
    (effect.offspring = if Begets (mnemonic, scene.organism) then 1 else 0) ∧
      (effect.isHalt = true ↔ AsksToHalt (mnemonic, scene.organism)) := by
  have spawns := scene.run_spawns_iff rules false (some instruction)
  have halts := scene.run_halts_iff rules false instruction
  have forks : (∃ kind, some instruction = some (.fork kind) ∧
      scene.organism.children ≠ some 0) ↔ Begets (mnemonic, scene.organism) := by
    rw [Begets, ← Instruction.fork_iff_mnemonic resolved]
    simp
  rw [forks] at spawns
  rw [Instruction.halt_iff_mnemonic resolved, Instruction.haltIf_iff_mnemonic resolved] at halts
  rw [answer] at spawns halts
  constructor
  · cases effect with
    | spawn child => exact (if_pos (spawns.mp ⟨child, rfl⟩)).symm
    | proceed => exact (if_neg fun begets => by simpa using spawns.mpr begets).symm
    | halt => exact (if_neg fun begets => by simpa using spawns.mpr begets).symm
  · rw [AsksToHalt, ← halts]
    cases effect <;> simp [Effect.isHalt]

variable {mnemonics earlier rest : List String} {p q : List Instruction}
  {begun effects : List Effect}

theorem RunsThrough.snoc (head : s.RunsThrough slot o earlier p begun) {mnemonic : String}
    {instruction : Instruction} (resolved : Instruction.ofMnemonic mnemonic = .ok instruction)
    {effect : Effect}
    (answer : ((s.ranBy o p).run s.rules false (some instruction)).answer = .ok effect)
    (alive : ∀ child, effect.child? = some child → child.phase ≠ .dead) :
    s.RunsThrough slot o (earlier ++ [mnemonic]) (p ++ [instruction]) (begun ++ [effect]) ∧
      s.ranBy o (p ++ [instruction]) =
        restoring (s.ranBy o p) ((s.ranBy o p).run s.rules false (some instruction)).state := by
  have single : Instruction.resolveAll Instruction.ofMnemonic [mnemonic] = .ok [instruction] := by
    simp [Instruction.resolveAll, resolved]
  have whole : runInPlace s.rules (p ++ [instruction]) ⟨o, s.habitat⟩ = _ :=
    (runInPlace_append _ _ _ _).trans (andThen_of_ok _ head.answer)
  have last : runInPlace s.rules [instruction] (s.ranBy o p) = _ :=
    (runInPlace_cons _ _ _ _).trans (andThen_of_ok _ answer)
  unfold ranBy at last
  constructor
  · refine ⟨head.focus, head.found, Instruction.resolveAll_append head.resolved single, ?_, ?_⟩
    · rw [whole, last]
      rfl
    · intro child member
      rw [List.filterMap_append, List.mem_append] at member
      rcases member with before | now
      · exact head.alive child before
      · obtain ⟨other, among, same⟩ := List.mem_filterMap.mp now
        exact alive child (List.mem_singleton.mp among ▸ same)
  · unfold ranBy
    rw [whole, last]
    rfl

structure Tallies (effects : List Effect) (met : List (String × Organism))
    (mnemonics : List String) : Prop where
  names : met.map Prod.fst = mnemonics
  children : (effects.filterMap Effect.child?).length = met.countP fun meeting => Begets meeting
  halts : effects.any Effect.isHalt = true ↔ ∃ meeting ∈ met, AsksToHalt meeting

theorem Tallies.cons {effect : Effect} {mnemonic : String} {met : List (String × Organism)}
    (begets : effect.offspring = if Begets (mnemonic, o) then 1 else 0)
    (halts : effect.isHalt = true ↔ AsksToHalt (mnemonic, o)) (tallies : Tallies effects met rest) :
    Tallies (effect :: effects) ((mnemonic, o) :: met) (mnemonic :: rest) where
  names := congrArg (mnemonic :: ·) tallies.names
  children := by
    rw [children_cons, begets, tallies.children, List.countP_cons, Nat.add_comm]
    simp only [decide_eq_true_eq]
  halts := by
    rw [List.any_cons, Bool.or_eq_true, halts, tallies.halts]
    simp

theorem meetings_tally (reachable : Reachable s) (head : s.RunsThrough slot o earlier p begun)
    (resolved : Instruction.resolveAll Instruction.ofMnemonic rest = .ok q)
    (answer : (runInPlace s.rules q (s.ranBy o p)).answer = .ok effects)
    (alive : ∀ child ∈ effects.filterMap Effect.child?, child.phase ≠ .dead) :
    Tallies effects (s.meetings earlier rest) rest := by
  induction rest generalizing earlier p q begun effects with
  | nil =>
      cases resolved
      cases answer
      exact ⟨rfl, rfl, by simp [meetings]⟩
  | cons mnemonic rest ih =>
      simp only [Instruction.resolveAll] at resolved
      split at resolved
      · cases resolved
      · next instruction found =>
          split at resolved
          · cases resolved
          · next others later =>
              cases resolved
              rw [runInPlace_cons] at answer
              obtain ⟨effect, ran, further⟩ := andThen_ok answer
              obtain ⟨effects, ended, rfl⟩ := Except.of_map_ok further
              have first : ∀ child, effect.child? = some child → child.phase ≠ .dead :=
                fun child same => alive child (List.mem_filterMap.mpr ⟨effect, List.mem_cons_self, same⟩)
              obtain ⟨head', ranBy⟩ := head.snoc found ran first
              -- The instruction is met by the organism as those before it have left it.
              obtain ⟨focus, here⟩ := head.found_after reachable
              have meets : (s.runFocused earlier).state.population.focused? =
                  some (s.ranBy o p).organism := Option.bind_eq_some_iff.mpr ⟨slot, focus, here⟩
              have tally := ih head' later (ranBy ▸ ended) fun child member => by
                obtain ⟨other, among, same⟩ := List.mem_filterMap.mp member
                exact alive child
                  (List.mem_filterMap.mpr ⟨other, List.mem_cons_of_mem _ among, same⟩)
              obtain ⟨begets, halts⟩ := effect_of_meeting found ran
              simp only [meetings, meets, List.singleton_append]
              exact tally.cons begets halts

theorem RunsThrough.tally (reachable : Reachable s)
    (run : s.RunsThrough slot o mnemonics p effects) :
    Tallies effects (s.meetings [] mnemonics) mnemonics := by
  have start : s.RunsThrough slot o [] [] [] := ⟨run.focus, run.found, rfl, rfl, by simp⟩
  exact meetings_tally reachable start run.resolved run.answer run.alive

end Meetings

section Frame
variable {s : Simulation} {mnemonics : List String}

theorem runFocused_unfocused (known : ∀ mnemonic ∈ mnemonics, Instruction.IsKnown mnemonic)
    (unfocused : s.focus = none) : s.runFocused mnemonics = .done s none := by
  obtain ⟨program, resolved⟩ := Instruction.resolved_of_known known
  have nobody : s.population.focused? = none := by
    unfold Simulation.focus at unfocused
    simp [focused?, unfocused]
  simp only [runFocused, resolved, nobody]

/-- Whatever instructions the organism in focus runs, it stays where it is, in focus and with its
delay, its phase and its lifespan, and all others stay as they are; the children that the report
names come in behind them, one for each fork that is met while the budget lasts, and a halt is
reported exactly if one is met. Without a focus nothing happens. -/
theorem focused_run_stays_in_frame (reachable : Reachable s)
    (known : ∀ mnemonic ∈ mnemonics, Instruction.IsKnown mnemonic)
    (exact : (s.runFocused mnemonics).answer ≠ .error .integerTooLarge) :
    let t := (s.runFocused mnemonics).state
    let met := s.meetings [] mnemonics
    (s.focus = none → s.runFocused mnemonics = .done s none) ∧
      ∀ slot, s.focus = some slot →
        ∃ (report : RunReport) (o p : Organism) (before after news : List (SlotId × Organism)),
          (s.runFocused mnemonics).answer = .ok (some report) ∧
          s.population.members = before ++ (slot, o) :: after ∧
          t.population.members = before ++ (slot, p) :: after ++ news ∧
          t.focus = some slot ∧
          p.ip = o.ip ∧ p.delay = o.delay ∧ p.phase = o.phase ∧ p.lifespan = o.lifespan ∧
          report.spawned = news.map Prod.fst ∧
          met.map Prod.fst = mnemonics ∧
          report.spawned.length = met.countP (fun meeting => Begets meeting) ∧
          t.metrics.births = s.metrics.births + report.spawned.length ∧
          t.cycle = s.cycle ∧
          report.executed = mnemonics.length ∧
          (report.haltRequested = true ↔
            "@@" ∈ mnemonics ∨ ∃ o, ("?@", o) ∈ met ∧ o.flag = true) := by
  intro t met
  refine ⟨runFocused_unfocused known, fun slot focus => ?_⟩
  obtain ⟨o, program, effects, run⟩ := runsThrough_of_exact reachable focus known exact
  obtain ⟨news, answer, length, grown⟩ := run.reports
  have tally := run.tally reachable
  have inPlace := run.inPlace
  let p := (s.ranBy o program).organism
  obtain ⟨before, after, members⟩ := List.append_of_mem (mem_members_of_get? run.found)
  have changed : (s.population.update slot p).members = before ++ (slot, p) :: after :=
    members_update reachable.prepared.tidy.distinct members p
  have births : t.metrics.births = s.metrics.births + news.length := by
    change (s.runFocused mnemonics).state.metrics.births = _
    rw [run.state, length]
    exact welcomed_births _ _
  have cycle : t.cycle = s.cycle := by
    change (s.runFocused mnemonics).state.cycle = _
    rw [run.state]
    exact welcomed_part (·.cycle) (fun _ _ => rfl) _ _
  have listed : "@@" ∈ met.map Prod.fst ↔ "@@" ∈ mnemonics := by rw [tally.names]
  have halts : effects.any Effect.isHalt = true ↔
      "@@" ∈ mnemonics ∨ ∃ o, ("?@", o) ∈ met ∧ o.flag = true := by
    rw [tally.halts, ← listed]
    constructor
    · rintro ⟨⟨mnemonic, o⟩, member, rfl | ⟨rfl, flag⟩⟩
      · exact Or.inl (List.mem_map_of_mem member)
      · exact Or.inr ⟨o, member, flag⟩
    · rintro (always | ⟨o, member, flag⟩)
      · obtain ⟨meeting, member, named⟩ := List.mem_map.mp always
        exact ⟨meeting, member, Or.inl named⟩
      · exact ⟨_, member, Or.inr ⟨rfl, flag⟩⟩
  refine ⟨_, o, p, before, after, news, answer, members, ?_, (run.found_after reachable).1,
    inPlace.stays.ip, inPlace.delay, inPlace.phase, inPlace.lifespan, rfl, tally.names, ?_, ?_, cycle,
    rfl, halts⟩
  · exact grown.trans (congrArg (· ++ news) changed)
  · rw [List.length_map, length, tally.children]
  · rw [births, List.length_map]

/-- A delay, a child for which there is room, one for which there is none, and a halt whose flag is
set by the second fork. -/
theorem focused_run_stays_in_frame_twoCells :
    let s := twoCells.after [.perform (.set .childLimit (.int 1)),
      .perform (.spawn ⟨0, 0⟩ .right), .perform (.setFocus (some ⟨0, 0⟩))]
    let mnemonics := ["?@", "+a", ".a", "m=", "-=", "?@", "ma"]
    let t := (s.runFocused mnemonics).state
    s.focus = some ⟨0, 0⟩ ∧ (∀ mnemonic ∈ mnemonics, Instruction.IsKnown mnemonic) ∧
      (s.runFocused mnemonics).succeeded = true ∧
      ∃ (report : RunReport) (o p : Organism) (before after news : List (SlotId × Organism)),
        (s.runFocused mnemonics).answer = .ok (some report) ∧
        s.population.members = before ++ (⟨0, 0⟩, o) :: after ∧
        t.population.members = before ++ (⟨0, 0⟩, p) :: after ++ news ∧
        p.ip = o.ip ∧ p.delay = o.delay ∧ p.phase = o.phase ∧
        report.spawned.length = 1 ∧ report.executed = 7 ∧ report.haltRequested = true := by
  intro s mnemonics t
  have reachable : Reachable s := ⟨twoCells, twoCells_fresh, Reaches.refl.after (by decide)⟩
  have focus : s.focus = some ⟨0, 0⟩ := by decide +kernel
  have known : ∀ mnemonic ∈ mnemonics, Instruction.IsKnown mnemonic := by decide +kernel
  have ended : (s.runFocused mnemonics).succeeded = true := by decide +kernel
  have exact : (s.runFocused mnemonics).answer ≠ .error .integerTooLarge := by
    obtain ⟨report, answer⟩ := (succeeded_iff _).mp ended
    rw [answer]
    simp
  obtain ⟨report, o, p, before, after, news, answer, members, grown, _, ip, delay, phase, _, _, _,
    spawned, _, _, executed, halts⟩ :=
    (focused_run_stays_in_frame reachable known exact).2 ⟨0, 0⟩ focus
  have one : (s.meetings [] mnemonics).countP (fun meeting => Begets meeting) = 1 := by
    decide +kernel
  have flagged : ∃ meeting ∈ s.meetings [] mnemonics,
      meeting.1 = "?@" ∧ meeting.2.flag = true := by decide +kernel
  obtain ⟨⟨_, o'⟩, member, rfl, flag⟩ := flagged
  exact ⟨focus, known, ended, report, o, p, before, after, news, answer, members, grown, ip, delay,
    phase, spawned.trans one, executed, halts.mpr (Or.inr ⟨o', member, flag⟩)⟩

end Frame
end Simulation
end Terrarium
