import Terrarium.Proofs.Instruction.InPlace
import Terrarium.Proofs.Simulation.Refusal

/-!
Instructions run on the organism in focus. No instruction reads the population, so it is the same
whether children come in after the last of them or on the way. Main statements: two runs one after
the other come to what one run of both comes to, and a run touches nothing but the organism in
focus, the grid and the counters, and leaves the place and the standing of that organism alone.
-/

namespace Terrarium

namespace Instruction

theorem resolveAll_append {α β : Type} {resolve : β → Except Fault α} {first second : List β}
    {xs ys : List α} (left : resolveAll resolve first = .ok xs)
    (right : resolveAll resolve second = .ok ys) :
    resolveAll resolve (first ++ second) = .ok (xs ++ ys) := by
  induction first generalizing xs with
  | nil =>
      cases left
      exact right
  | cons mnemonic rest ih =>
      simp only [resolveAll, List.cons_append] at left ⊢
      split at left
      · cases left
      · split at left
        · cases left
        · next others found =>
            cases left
            rw [ih found]
            rfl

theorem resolveAll_length {α β : Type} {resolve : β → Except Fault α} {given : List β} {xs : List α}
    (resolved : resolveAll resolve given = .ok xs) : xs.length = given.length := by
  induction given generalizing xs with
  | nil =>
      cases resolved
      rfl
  | cons mnemonic rest ih =>
      simp only [resolveAll] at resolved
      split at resolved
      · cases resolved
      · split at resolved
        · cases resolved
        · next others found =>
            cases resolved
            exact congrArg (· + 1) (ih found)

theorem resolved_of_known {mnemonics : List String} (known : ∀ mnemonic ∈ mnemonics, IsKnown mnemonic) :
    ∃ program, resolveAll ofMnemonic mnemonics = .ok program := by
  rcases resolveAll_cases (resolves_map fun row => row.2.instruction) mnemonics with
    ⟨_, found⟩ | ⟨⟨mnemonic, member, unknown⟩, _⟩
  · exact found
  · exact absurd (known mnemonic member) unknown

end Instruction

namespace Population

theorem allocate_update (p : Population) (slot : SlotId) (o : Organism) :
    (p.update slot o).allocate = (p.allocate.1, p.allocate.2.update slot o) := by
  unfold allocate
  simp only [free_update, generations_update]
  split <;> rfl

theorem update_update (p : Population) (slot : SlotId) (o q : Organism) :
    (p.update slot o).update slot q = p.update slot q := by
  simp only [update, List.map_map]
  congr 1
  apply List.map_congr_left
  intro m _
  by_cases same : m.1 = slot <;> simp [same]

theorem enter_update {p : Population} {slot newcomer : SlotId} (apart : newcomer ≠ slot)
    (o child : Organism) :
    (p.update slot o).moved (.enter newcomer child) =
      (p.moved (.enter newcomer child)).update slot o := by
  simp only [moved, allocate_update]
  simp [update, apart]

end Population

namespace Simulation
open Population Attempt
variable {s t : Simulation} {slot : SlotId}

theorem runInPlace_append (rules : Rules) (first second : List Instruction) (scene : Scene) :
    runInPlace rules (first ++ second) scene =
      (runInPlace rules first scene).andThen fun middle effects =>
        (runInPlace rules second middle).map fun later => effects ++ later := by
  induction first generalizing scene with
  | nil =>
      have whole : (runInPlace rules second scene).map (fun later => [] ++ later) =
          runInPlace rules second scene := by
        simp only [List.nil_append]
        obtain ⟨_, _, answer⟩ := runInPlace rules second scene
        cases answer <;> rfl
      simp only [runInPlace, done_andThen, List.nil_append]
      exact whole.symm
  | cons instruction rest ih =>
      rw [List.cons_append, runInPlace_cons, runInPlace_cons, andThen_assoc]
      apply andThen_congr
      intro effect _
      rw [ih, andThen_map, map_andThen]
      simp only [map_map, List.cons_append]

/-- All that instructions in place leave alone, whatever they are. -/
structure InPlace (before after : Scene) : Prop where
  stays : before.Stays after
  delay : after.organism.delay = before.organism.delay
  phase : after.organism.phase = before.organism.phase
  lifespan : after.organism.lifespan = before.organism.lifespan

theorem runInPlace_inPlace (rules : Rules) (program : List Instruction) (scene : Scene) :
    (runInPlace rules program scene).Grants fun after _ => InPlace scene after := by
  induction program generalizing scene with
  | nil => exact .done ⟨.refl scene, rfl, rfl, rfl⟩
  | cons instruction rest ih =>
      rw [runInPlace_cons]
      intro effects answer
      obtain ⟨effect, ran, last⟩ := andThen_ok answer
      rw [andThen_of_ok _ ran]
      let after := (scene.run rules false (some instruction)).state
      have stays : scene.Stays after := scene.run_stays rules (some instruction)
      have lifespan := (scene.run_continues rules false (some instruction)).state.lifespan
      -- The delay and the phase are those of the start, as they were put back.
      have restored : InPlace scene (restoring scene after) :=
        ⟨⟨stays.ip, stays.writeErrors⟩, rfl, rfl, lifespan⟩
      have rest : ((runInPlace rules rest (restoring scene after)).map fun effects =>
          effect :: effects).Grants fun final _ => InPlace (restoring scene after) final :=
        (ih (restoring scene after)).map fun _ _ reached => reached
      have later := rest effects last
      exact {
        stays := restored.stays.trans later.stays
        delay := later.delay.trans restored.delay
        phase := later.phase.trans restored.phase
        lifespan := later.lifespan.trans restored.lifespan }

theorem slots_grown {scene : Scene} {news : List (SlotId × Organism)}
    (members : t.population.members = (s.placed slot scene).population.members ++ news) :
    t.population.slots = s.population.slots ++ news.map Prod.fst := by
  rw [slots, members, List.map_append]
  exact congrArg (· ++ news.map Prod.fst) (slots_update s.population slot scene.organism)

theorem placed_welcome (tidy : s.population.Tidy) (live : slot ∈ s.population.slots)
    (scene : Scene) (child : Organism) :
    (s.welcome child).placed slot scene = (s.placed slot scene).welcome child := by
  have apart : s.population.allocate.1 ≠ slot := fun same => tidy.allocate_fresh.1 (same ▸ live)
  simp only [welcome, placed, allocate_update, enter_update apart]

/-- It makes no difference whether the organism in focus changes before newborns come in or after. -/
theorem placed_welcomed (tidy : s.population.Tidy) (live : slot ∈ s.population.slots)
    (scene : Scene) (children : List Organism) :
    (children.foldl welcome s).placed slot scene =
      children.foldl welcome (s.placed slot scene) := by
  induction children generalizing s with
  | nil => rfl
  | cons child rest ih =>
      have later : slot ∈ (s.welcome child).population.slots :=
        (mem_slots_enter _ _ _ _).mpr (Or.inl live)
      rw [List.foldl_cons, ih (enter_tidy tidy _) later, placed_welcome tidy live]
      rfl

theorem placed_placed (s : Simulation) (slot : SlotId) (first second : Scene) :
    (s.placed slot first).placed slot second = s.placed slot second := by
  simp only [placed, update_update]

theorem welcomed_synced (same : s.syncMetrics = t.syncMetrics) (children : List Organism) :
    (children.foldl welcome s).syncMetrics = (children.foldl welcome t).syncMetrics := by
  induction children generalizing s t with
  | nil => exact same
  | cons child rest ih =>
      apply ih
      calc (s.welcome child).syncMetrics = (s.syncMetrics.welcome child).syncMetrics := rfl
        _ = (t.syncMetrics.welcome child).syncMetrics := by rw [same]
        _ = (t.welcome child).syncMetrics := rfl

def ranBy (s : Simulation) (o : Organism) (program : List Instruction) : Scene :=
  (runInPlace s.rules program ⟨o, s.habitat⟩).state

/-- The organism in focus runs all of these instructions, and they come to these effects. -/
structure RunsThrough (s : Simulation) (slot : SlotId) (o : Organism) (mnemonics : List String)
    (program : List Instruction) (effects : List Effect) : Prop where
  focus : s.focus = some slot
  found : s.population.get? slot = some o
  resolved : Instruction.resolveAll Instruction.ofMnemonic mnemonics = .ok program
  answer : (runInPlace s.rules program ⟨o, s.habitat⟩).answer = .ok effects
  alive : ∀ child ∈ effects.filterMap Effect.child?, child.phase ≠ .dead

theorem runsThrough_of_exact (reachable : Reachable s) (focus : s.focus = some slot)
    {mnemonics : List String} (known : ∀ mnemonic ∈ mnemonics, Instruction.IsKnown mnemonic)
    (exact : (s.runFocused mnemonics).answer ≠ .error .integerTooLarge) :
    ∃ o program effects, s.RunsThrough slot o mnemonics program effects := by
  obtain ⟨o, found⟩ := get?_of_mem_slots (reachable.prepared.tidy.focused slot focus)
  have focused : s.population.focused? = some o := Option.bind_eq_some_iff.mpr ⟨slot, focus, found⟩
  obtain ⟨program, resolved⟩ := Instruction.resolved_of_known known
  obtain ⟨effects, answer⟩ := runFocused_exact reachable exact resolved focused
  exact ⟨o, program, effects, focus, found, resolved, answer,
    children_alive (reachable.sound.focused focused) answer⟩

namespace RunsThrough
variable {o : Organism} {mnemonics : List String} {program : List Instruction}
  {effects : List Effect}

theorem live (run : s.RunsThrough slot o mnemonics program effects) : slot ∈ s.population.slots :=
  mem_slots_of_get? run.found

theorem state (run : s.RunsThrough slot o mnemonics program effects) :
    (s.runFocused mnemonics).state = ((effects.filterMap Effect.child?).foldl welcome
      (s.placed slot (s.ranBy o program))).syncMetrics :=
  runFocused_state run.focus run.found run.resolved run.answer run.alive

/-- The report is of the newborns that have come in, and of what the instructions came to. -/
theorem reports (run : s.RunsThrough slot o mnemonics program effects) :
    ∃ news, (s.runFocused mnemonics).answer = .ok (some {
        executed := mnemonics.length
        spawned := news.map Prod.fst
        haltRequested := effects.any Effect.isHalt
        writeErrors := (s.ranBy o program).habitat.writeErrors - s.habitat.writeErrors }) ∧
      news.length = (effects.filterMap Effect.child?).length ∧
      (s.runFocused mnemonics).state.population.members =
        (s.placed slot (s.ranBy o program)).population.members ++ news := by
  let placed := s.placed slot (s.ranBy o program)
  obtain ⟨news, adopted, length, members⟩ := adoptAll_alive run.alive placed
  have focused : s.population.focused? = some o :=
    Option.bind_eq_some_iff.mpr ⟨slot, run.focus, run.found⟩
  have place (scene : Scene) :
      ({ s.withFocused scene.organism with habitat := scene.habitat } : Simulation) =
        s.placed slot scene := by
    simp [withFocused, run.focus, Simulation.placed]
  have errors : ((effects.filterMap Effect.child?).foldl welcome placed).habitat =
      (s.ranBy o program).habitat := welcomed_part (·.habitat) (fun _ _ => rfl) _ placed
  refine ⟨news, ?_, length, ?_⟩
  · have same := Instruction.resolveAll_length run.resolved
    simp only [runFocused, run.resolved, focused, place]
    rw [andThen_of_ok _ (by exact run.answer), inside_state]
    change (Attempt.andThen (adoptAll _ placed) _).answer = _
    rw [adopted, done_andThen]
    simp only [syncMetrics, errors, same]
  · rw [run.state]
    exact members

theorem inPlace (run : s.RunsThrough slot o mnemonics program effects) :
    InPlace ⟨o, s.habitat⟩ (s.ranBy o program) :=
  runInPlace_inPlace s.rules program ⟨o, s.habitat⟩ effects run.answer

theorem found_after (reachable : Reachable s)
    (run : s.RunsThrough slot o mnemonics program effects) :
    (s.runFocused mnemonics).state.focus = some slot ∧
      (s.runFocused mnemonics).state.population.get? slot = some (s.ranBy o program).organism := by
  obtain ⟨news, _, _, members⟩ := run.reports
  have tidy := (reachable.onwards (Reaches.refl.perform (.runFocused mnemonics) rfl)).prepared.tidy
  have placed := get?_update_self reachable.prepared.tidy.distinct run.live
    (s.ranBy o program).organism
  constructor
  · rw [run.state]
    exact (welcomed_part (·.focus) (fun t _ => allocate_focus t.population) _ _).trans run.focus
  · apply get?_of_mem tidy.distinct
    exact members ▸ List.mem_append_left news (mem_members_of_get? placed)

theorem settings_after (run : s.RunsThrough slot o mnemonics program effects) :
    (s.runFocused mnemonics).state.rules = s.rules := by
  have same : (s.runFocused mnemonics).state.settings = s.settings := by
    rw [run.state]
    exact welcomed_part (·.settings) (fun _ _ => rfl) _ _
  simp only [rules, same]

theorem habitat_after (run : s.RunsThrough slot o mnemonics program effects) :
    (s.runFocused mnemonics).state.habitat = (s.ranBy o program).habitat := by
  rw [run.state]
  exact welcomed_part (·.habitat) (fun _ _ => rfl) _ _

/-- A run in two parts, the second from where the first one ends. -/
theorem split {first second : List String} (reachable : Reachable s)
    (known : ∀ mnemonic ∈ first ++ second, Instruction.IsKnown mnemonic)
    (run : s.RunsThrough slot o (first ++ second) program effects) :
    ∃ p q earlier later, program = p ++ q ∧ effects = earlier ++ later ∧
      s.RunsThrough slot o first p earlier ∧
      (s.runFocused first).state.RunsThrough slot (s.ranBy o p).organism second q later := by
  obtain ⟨p, left⟩ := Instruction.resolved_of_known fun mnemonic member =>
    known mnemonic (List.mem_append_left second member)
  obtain ⟨q, right⟩ := Instruction.resolved_of_known fun mnemonic member =>
    known mnemonic (List.mem_append_right first member)
  cases run.resolved.symm.trans (Instruction.resolveAll_append left right)
  have answer := run.answer
  rw [runInPlace_append] at answer
  obtain ⟨earlier, begun, rest⟩ := andThen_ok answer
  obtain ⟨later, ended, rfl⟩ := Except.of_map_ok rest
  have alive := run.alive
  simp only [List.filterMap_append, List.mem_append] at alive
  have head : s.RunsThrough slot o first p earlier :=
    ⟨run.focus, run.found, left, begun, fun child member => alive child (Or.inl member)⟩
  obtain ⟨focus, found⟩ := head.found_after reachable
  have onwards : (runInPlace (s.runFocused first).state.rules q
      ⟨(s.ranBy o p).organism, (s.runFocused first).state.habitat⟩).answer = .ok later := by
    rw [head.settings_after, head.habitat_after]
    exact ended
  exact ⟨p, q, earlier, later, rfl, rfl, head, focus, found, right, onwards,
    fun child member => alive child (Or.inr member)⟩

theorem ranBy_append (head : s.RunsThrough slot o mnemonics program effects)
    (more : List Instruction) :
    s.ranBy o (program ++ more) =
      (s.runFocused mnemonics).state.ranBy (s.ranBy o program).organism more := by
  unfold ranBy
  rw [runInPlace_append, andThen_of_ok _ head.answer, head.settings_after, head.habitat_after]
  rfl

end RunsThrough

section Composition
variable {first second : List String} {o : Organism} {p q : List Instruction}
  {earlier later : List Effect}

/-- Newborns of the first part that come in before the second part runs are none the less where they
would be if they came in after it. -/
theorem RunsThrough.state_append (reachable : Reachable s)
    (run : s.RunsThrough slot o (first ++ second) (p ++ q) (earlier ++ later))
    (head : s.RunsThrough slot o first p earlier)
    (tail : (s.runFocused first).state.RunsThrough slot (s.ranBy o p).organism second q later) :
    (s.runFocused (first ++ second)).state =
      ((s.runFocused first).state.runFocused second).state := by
  let final := s.ranBy o (p ++ q)
  let children := earlier.filterMap Effect.child?
  have tidy : (s.placed slot (s.ranBy o p)).population.Tidy :=
    change_tidy reachable.prepared.tidy slot _
  have live : slot ∈ (s.placed slot (s.ranBy o p)).population.slots :=
    (slots_update s.population slot _).symm ▸ run.live
  have met : ((s.runFocused first).state.placed slot final).syncMetrics =
      (children.foldl welcome (s.placed slot final)).syncMetrics := by
    rw [head.state, ← placed_placed s slot (s.ranBy o p) final, ← placed_welcomed tidy live]
    rfl
  rw [run.state, tail.state, ← head.ranBy_append q, List.filterMap_append, List.foldl_append]
  exact (welcomed_synced met _).symm

/-- Two runs on the organism in focus, one after the other, come to what one run of all their
instructions comes to: they leave the same state, and their reports add up to its report. -/
theorem focused_runs_compose (reachable : Reachable s) (focus : s.focus = some slot)
    (known : ∀ mnemonic ∈ first ++ second, Instruction.IsKnown mnemonic)
    (exact : (s.runFocused (first ++ second)).answer ≠ .error .integerTooLarge) :
    let middle := (s.runFocused first).state
    ∃ whole one two : RunReport,
      (s.runFocused (first ++ second)).answer = .ok (some whole) ∧
      (s.runFocused first).answer = .ok (some one) ∧
      (middle.runFocused second).answer = .ok (some two) ∧
      (s.runFocused (first ++ second)).state = (middle.runFocused second).state ∧
      whole.executed = one.executed + two.executed ∧
      whole.spawned = one.spawned ++ two.spawned ∧
      whole.haltRequested = (one.haltRequested || two.haltRequested) ∧
      whole.writeErrors = one.writeErrors + two.writeErrors := by
  intro middle
  obtain ⟨o, program, effects, run⟩ := runsThrough_of_exact reachable focus known exact
  obtain ⟨p, q, earlier, later, rfl, rfl, head, tail⟩ := run.split reachable known
  obtain ⟨news, whole, _, grown⟩ := run.reports
  obtain ⟨news₁, one, _, grown₁⟩ := head.reports
  obtain ⟨news₂, two, _, grown₂⟩ := tail.reports
  have state := run.state_append reachable head tail
  have spawned : news.map Prod.fst = news₁.map Prod.fst ++ news₂.map Prod.fst := by
    have slots := slots_grown grown
    rw [state, slots_grown grown₂, slots_grown grown₁, List.append_assoc] at slots
    exact (List.append_cancel_left slots).symm
  have errors : s.habitat.writeErrors ≤ (s.ranBy o p).habitat.writeErrors :=
    head.inPlace.stays.writeErrors
  have more : (s.ranBy o p).habitat.writeErrors ≤ (s.ranBy o (p ++ q)).habitat.writeErrors := by
    rw [head.ranBy_append q, ← head.habitat_after]
    exact tail.inPlace.stays.writeErrors
  refine ⟨_, _, _, whole, one, two, state, ?_, spawned, ?_, ?_⟩
  · exact List.length_append
  · exact List.any_append
  · simp only [← head.ranBy_append q, head.habitat_after]
    omega

/-- One list of instructions cut in two, with a delay, two children and a write that goes wrong. -/
theorem focused_runs_compose_twoCells :
    let s := twoCells.after [.perform (.set .writeErrorChance (.int 1)),
      .perform (.spawn ⟨0, 0⟩ .right), .perform (.setFocus (some ⟨0, 0⟩))]
    let first := ["+a", ".a", "-="]
    let second := ["m=", "ma", "@@"]
    let middle := (s.runFocused first).state
    s.focus = some ⟨0, 0⟩ ∧ (∀ mnemonic ∈ first ++ second, Instruction.IsKnown mnemonic) ∧
      (s.runFocused (first ++ second)).succeeded = true ∧
      (s.runFocused (first ++ second)).state = (middle.runFocused second).state ∧
      middle.population.slots = [⟨0, 0⟩, ⟨1, 0⟩] ∧
      ∃ whole one two : RunReport,
        (s.runFocused (first ++ second)).answer = .ok (some whole) ∧
        (s.runFocused first).answer = .ok (some one) ∧
        (middle.runFocused second).answer = .ok (some two) ∧
        whole.spawned = one.spawned ++ two.spawned ∧
        whole.writeErrors = one.writeErrors + two.writeErrors := by
  intro s first second middle
  have reachable : Reachable s := ⟨twoCells, twoCells_fresh, Reaches.refl.after (by decide)⟩
  have focus : s.focus = some ⟨0, 0⟩ := by decide +kernel
  have known : ∀ mnemonic ∈ first ++ second, Instruction.IsKnown mnemonic := by decide +kernel
  have ended : (s.runFocused (first ++ second)).succeeded = true := by decide +kernel
  have exact : (s.runFocused (first ++ second)).answer ≠ .error .integerTooLarge := by
    obtain ⟨report, answer⟩ := (succeeded_iff _).mp ended
    rw [answer]
    simp
  obtain ⟨whole, one, two, answer, answer₁, answer₂, state, _, spawned, _, errors⟩ :=
    focused_runs_compose reachable focus known exact
  exact ⟨focus, known, ended, state, by decide +kernel, whole, one, two, answer, answer₁, answer₂,
    spawned, errors⟩

end Composition
end Simulation
end Terrarium
