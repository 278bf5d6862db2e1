import Terrarium.Proofs.Simulation.Solitude

/-!
Instruction costs only stretch time. A run of an organism that lives by itself is looked at between
cycles, when it is live and ready; what is seen then is what its instructions make of the scene one
after the other, with every delay passed over. That account does not mention costs, so a run with
them and a run without them have it in common, and differ in the number of cycles only.
-/

namespace Terrarium

structure Sighting where
  organism : Organism
  grid : Grid
  generator : Generator

def Scene.sighting (c : Scene) : Sighting := ⟨c.organism, c.habitat.grid, c.habitat.generator⟩

namespace Simulation
open Population Attempt

def withCosts (costs : Bool) (s : Simulation) : Simulation :=
  { s with settings := { s.settings with instructionCosts := costs } }

/-- What is seen of a slot between two cycles, nothing unless its organism is live and ready. -/
def sighting (s : Simulation) (slot : SlotId) : List Sighting :=
  match s.population.get? slot with
  | some o => if o.phase = .ready then [⟨o, s.grid, s.habitat.generator⟩] else []
  | none => []

def sightings (slot : SlotId) : Nat → Simulation → List Sighting
  | 0, s => s.sighting slot
  | cycles + 1, s => s.sighting slot ++ sightings slot cycles s.stepCycle.state

/-- In a run by single cycles this is what is seen for the `k`th time, from zero. -/
def Sighted (s : Simulation) (slot : SlotId) (k : Nat) (seen : Sighting) : Prop :=
  ∃ cycles, (sightings slot cycles s)[k]? = some seen

def instructions (slot : SlotId) : Nat → Simulation → Nat
  | 0, _ => 0
  | cycles + 1, s =>
      (s.executions.map Prod.fst).count slot + instructions slot cycles s.stepCycle.state

def HaltsAfter (s : Simulation) (slot : SlotId) (count : Nat) : Prop :=
  ∃ cycles, (slot, .halt) ∈ removals (s.told (steps cycles)) ∧ instructions slot cycles s = count

def Idles (s : Simulation) (slot : SlotId) (cycles : Nat) : Prop :=
  (∀ i < cycles, ∃ o, (s.after (steps (i + 1))).population.get? slot = some o ∧
    o.phase = .delaying) ∧
  ∃ o, (s.after (steps (cycles + 1))).population.get? slot = some o ∧ o.phase = .ready

section Looks
variable {s : Simulation} {slot : SlotId} {k : Nat} {seen first : Sighting}

theorem sighted_unseen (unseen : s.sighting slot = []) :
    s.Sighted slot k seen ↔ s.stepCycle.state.Sighted slot k seen := by
  constructor
  · rintro ⟨cycles, entry⟩
    cases cycles with
    | zero => simp [sightings, unseen] at entry
    | succ cycles => exact ⟨cycles, by simpa [sightings, unseen] using entry⟩
  · rintro ⟨cycles, entry⟩
    exact ⟨cycles + 1, by simpa [sightings, unseen] using entry⟩

theorem sighted_first (here : s.sighting slot = [first]) :
    s.Sighted slot 0 seen ↔ first = seen := by
  have start (cycles : Nat) : (sightings slot cycles s)[0]? = some first := by
    cases cycles <;> simp [sightings, here]
  constructor
  · rintro ⟨cycles, entry⟩
    exact Option.some.inj ((start cycles).symm.trans entry)
  · rintro rfl
    exact ⟨0, start 0⟩

theorem sighted_later (here : s.sighting slot = [first]) :
    s.Sighted slot (k + 1) seen ↔ s.stepCycle.state.Sighted slot k seen := by
  constructor
  · rintro ⟨cycles, entry⟩
    cases cycles with
    | zero => simp [sightings, here] at entry
    | succ cycles => exact ⟨cycles, by simpa [sightings, here] using entry⟩
  · rintro ⟨cycles, entry⟩
    exact ⟨cycles + 1, by simpa [sightings, here] using entry⟩

theorem haltsAfter_later (silent : Event.removals s.stepCycle.events = []) {count : Nat} :
    s.HaltsAfter slot count ↔ ∃ rest, s.stepCycle.state.HaltsAfter slot rest ∧
      (s.executions.map Prod.fst).count slot + rest = count := by
  have onwards (cycles : Nat) : removals (s.told (steps (cycles + 1))) =
      removals (s.stepCycle.state.told (steps cycles)) := by
    have unrolled : s.told (steps (cycles + 1)) =
        s.stepCycle.events ++ s.stepCycle.state.told (steps cycles) := rfl
    rw [unrolled, removals, Event.removals_append, silent]
    rfl
  constructor
  · rintro ⟨cycles, told, counted⟩
    cases cycles with
    | zero => cases told
    | succ cycles => exact ⟨_, ⟨cycles, onwards cycles ▸ told, rfl⟩, counted⟩
  · rintro ⟨_, ⟨cycles, told, rfl⟩, counted⟩
    exact ⟨cycles + 1, (onwards cycles).symm ▸ told, counted⟩

end Looks

namespace Deserted
variable {s : Simulation} {slot : SlotId}

theorem vacant (deserted : s.Deserted) : s.population.get? slot = none := by
  simp [get?, show s.population.members = [] from deserted]

theorem stepCycle (deserted : s.Deserted) (sheltered : Sheltered s.settings) :
    s.stepCycle.state.Deserted ∧ Sheltered s.stepCycle.state.settings := by
  have peaceful := stepCycle_deserted deserted sheltered
  exact ⟨peaceful.members.trans deserted, peaceful.settings ▸ sheltered⟩

theorem sightings (deserted : s.Deserted) (sheltered : Sheltered s.settings) (cycles : Nat) :
    sightings slot cycles s = [] := by
  have unseen {t : Simulation} (deserted : t.Deserted) : t.sighting slot = [] := by
    simp [sighting, deserted.vacant]
  induction cycles generalizing s with
  | zero => exact unseen deserted
  | succ cycles ih =>
      obtain ⟨deserted', sheltered'⟩ := deserted.stepCycle sheltered
      rw [Simulation.sightings, unseen deserted, ih deserted' sheltered']
      rfl

theorem instructions (deserted : s.Deserted) (sheltered : Sheltered s.settings) (cycles : Nat) :
    instructions slot cycles s = 0 := by
  induction cycles generalizing s with
  | zero => rfl
  | succ cycles ih =>
      obtain ⟨deserted', sheltered'⟩ := deserted.stepCycle sheltered
      have none : s.executions = [] := by
        simp [executions, ready, show s.population.members = [] from deserted, notes]
      rw [Simulation.instructions, none, ih deserted' sheltered']
      rfl

theorem after_steps (deserted : s.Deserted) (sheltered : Sheltered s.settings) (count : Nat) :
    (s.after (steps count)).Deserted ∧ (s.after (steps count)).settings = s.settings := by
  induction count generalizing s with
  | zero => exact ⟨deserted, rfl⟩
  | succ count ih =>
      have peaceful := stepCycle_deserted deserted sheltered
      obtain ⟨empty, same⟩ := ih (peaceful.members.trans deserted) (peaceful.settings ▸ sheltered)
      exact ⟨empty, same.trans peaceful.settings⟩

end Deserted

/-- The later simulation is what the first one comes to in so many cycles in which its organism
waits. What is seen of it, and when it halts, is the same from there. -/
structure Rests (s : Simulation) (slot : SlotId) (cycles : Nat) (later : Simulation) : Prop where
  after : s.after (steps cycles) = later
  settings : later.settings = s.settings
  delaying : ∀ i < cycles, ∃ o, (s.after (steps i)).population.get? slot = some o ∧
    o.phase = .delaying
  sighted : ∀ k seen, s.Sighted slot k seen ↔ later.Sighted slot k seen
  halts : ∀ count, s.HaltsAfter slot count ↔ later.HaltsAfter slot count

section Runs
variable {s : Simulation} {slot : SlotId} {c : Scene} {cycles : Nat}

theorem Houses.sighting_ready (houses : s.Houses slot c) (ready : c.organism.phase = .ready) :
    s.sighting slot = [c.sighting] := by
  simp [sighting, houses.found, ready, Scene.sighting, grid, houses.habitat]

theorem Houses.sighting_delaying (houses : s.Houses slot c)
    (delaying : c.organism.phase = .delaying) : s.sighting slot = [] := by
  simp [sighting, houses.found, delaying]

theorem Houses.executions_ready (houses : s.Houses slot c) (ready : c.organism.phase = .ready) :
    s.executions = [(slot, c.organism)] := by
  have turns : s.ready = [slot] := by
    simp [Simulation.ready, houses.members, Organism.isDelaying, ready]
  have here : s.found slot = [(slot, c.organism)] := by simp [Simulation.found, houses.found]
  rw [executions, turns, notes, here]
  split <;> rfl

theorem Houses.executions_delaying (houses : s.Houses slot c)
    (delaying : c.organism.phase = .delaying) : s.executions = [] := by
  have turns : s.ready = [] := by
    simp [Simulation.ready, houses.members, Organism.isDelaying, delaying]
  rw [executions, turns, notes]

theorem Houses.waits_out (houses : s.Houses slot c) (sheltered : Sheltered s.settings)
    (waits : c.organism.Waits cycles) :
    ∃ later, s.Rests slot cycles later ∧ later.Houses slot c.settled := by
  induction cycles generalizing s c with
  | zero =>
      have same : c.settled = c := by
        rw [Scene.settled, Organism.settled_ready waits]
      exact ⟨s, ⟨rfl, rfl, by simp, fun _ _ => .rfl, fun _ => .rfl⟩, same.symm ▸ houses⟩
  | succ cycles ih =>
      have onwards := houses.waits_on sheltered waits
      obtain ⟨waits', settled⟩ := Organism.countdown_waits waits c.habitat.grid
      obtain ⟨later, rests, houses'⟩ := ih onwards.houses (onwards.settings ▸ sheltered) waits'
      have same : Scene.settled { c with organism := c.organism.countdown c.habitat.grid } =
          c.settled := by
        simp only [Scene.settled, settled]
      refine ⟨later, ?_, same ▸ houses'⟩
      -- A cycle of a delay shows nothing, executes nothing and removes nobody.
      have unseen := houses.sighting_delaying waits.delaying
      have none := houses.executions_delaying waits.delaying
      exact {
        after := rests.after
        settings := rests.settings.trans onwards.settings
        delaying := by
          intro i early
          cases i with
          | zero => exact ⟨_, houses.found, waits.delaying⟩
          | succ i => exact rests.delaying i (by omega)
        sighted := fun k seen => (sighted_unseen unseen).trans (rests.sighted k seen)
        halts := by
          intro count
          rw [haltsAfter_later onwards.silent, none]
          simpa using rests.halts count }

theorem Houses.turned (houses : s.Houses slot c) (sheltered : Sheltered s.settings)
    (waits : c.organism.Waits 0) {next : Scene} (turned : c.turn s.rules = some next) :
    ∃ cycles later, s.stepCycle.state.Rests slot cycles later ∧ later.settings = s.settings ∧
      later.Houses slot next ∧ Event.removals s.stepCycle.events = [] := by
  have going : (c.execute s.rules).answer ≠ .ok .halt := by
    intro halting
    simp [Scene.turn, halting] at turned
  have onwards := houses.goes_on sheltered waits.ready going
  obtain ⟨cycles, after⟩ := Scene.execute_waits_some waits s.rules
  obtain ⟨later, rests, houses'⟩ :=
    onwards.houses.waits_out (onwards.settings ▸ sheltered) after
  have same : (c.execute s.rules).state.settled = next := by
    unfold Scene.turn at turned
    split at turned
    · cases turned
    · exact Option.some.inj turned
  exact ⟨cycles, later, rests, rests.settings.trans onwards.settings, same ▸ houses',
    onwards.silent⟩

theorem Houses.halted (houses : s.Houses slot c) (sheltered : Sheltered s.settings)
    (waits : c.organism.Waits 0) (turned : c.turn s.rules = none) :
    s.stepCycle.state.Deserted ∧ Sheltered s.stepCycle.state.settings ∧
      removals s.stepCycle.events = [(slot, .halt)] := by
  have halting : (c.execute s.rules).answer = .ok .halt := by
    unfold Scene.turn at turned
    split at turned
    · assumption
    · cases turned
  obtain ⟨deserted, settings, told⟩ := houses.halts sheltered waits.ready halting
  exact ⟨deserted, settings ▸ sheltered, told⟩

/-- What is seen for the `k`th time is what `k` instructions have made of the scene. -/
theorem Houses.sighted_iff (houses : s.Houses slot c) (sheltered : Sheltered s.settings)
    (waits : c.organism.Waits 0) (k : Nat) (seen : Sighting) :
    s.Sighted slot k seen ↔ (Scene.turns s.rules k c).map Scene.sighting = some seen := by
  have here := houses.sighting_ready waits.ready
  -- Each look but the first is one of a run that starts when the organism is ready again.
  induction k generalizing s c with
  | zero =>
      rw [sighted_first here]
      simp [Scene.turns]
  | succ k ih =>
      rw [sighted_later here, Scene.turns]
      cases turned : c.turn s.rules with
      | none =>
          obtain ⟨deserted, sheltered', _⟩ := houses.halted sheltered waits turned
          have unseen : ¬ s.stepCycle.state.Sighted slot k seen := by
            rintro ⟨cycles, entry⟩
            simp [deserted.sightings sheltered'] at entry
          simpa using unseen
      | some next =>
          obtain ⟨_, later, rests, settings, houses', _⟩ := houses.turned sheltered waits turned
          have waits' := Scene.turn_waits waits turned
          have rules : later.rules = s.rules := by simp only [Simulation.rules, settings]
          have here' := houses'.sighting_ready waits'.ready
          have rest := ih houses' (settings ▸ sheltered) waits' here'
          rw [rules] at rest
          exact (rests.sighted k seen).trans rest

theorem Houses.haltsAfter_halted (houses : s.Houses slot c) (sheltered : Sheltered s.settings)
    (waits : c.organism.Waits 0) (turned : c.turn s.rules = none) (count : Nat) :
    s.HaltsAfter slot count ↔ count = 1 := by
  obtain ⟨deserted, sheltered', told⟩ := houses.halted sheltered waits turned
  have one : (s.executions.map Prod.fst).count slot = 1 := by
    simp [houses.executions_ready waits.ready]
  have executed (cycles : Nat) : instructions slot (cycles + 1) s = 1 := by
    rw [instructions, one, deserted.instructions sheltered']
  have removed : (slot, .halt) ∈ removals (s.told (steps 1)) := by
    have unrolled : s.told (steps 1) = s.stepCycle.events ++ [] := rfl
    rw [unrolled, List.append_nil, told]
    exact List.mem_singleton.mpr rfl
  constructor
  · rintro ⟨cycles, halted, rfl⟩
    cases cycles with
    | zero => cases halted
    | succ cycles => exact executed cycles
  · rintro rfl
    exact ⟨1, removed, executed 0⟩

theorem Houses.haltsAfter_iff (houses : s.Houses slot c) (sheltered : Sheltered s.settings)
    (waits : c.organism.Waits 0) (count : Nat) :
    s.HaltsAfter slot count ↔ Scene.EndsAfter s.rules count c := by
  induction count using Nat.strongRecOn generalizing s c with
  | ind count ih =>
      cases turned : c.turn s.rules with
      | none =>
          rw [houses.haltsAfter_halted sheltered waits turned, Scene.endsAfter_halting turned]
      | some next =>
          obtain ⟨_, later, rests, settings, houses', silent⟩ :=
            houses.turned sheltered waits turned
          have waits' := Scene.turn_waits waits turned
          have rules : later.rules = s.rules := by simp only [Simulation.rules, settings]
          have one : (s.executions.map Prod.fst).count slot = 1 := by
            simp [houses.executions_ready waits.ready]
          rw [haltsAfter_later silent, one, Scene.endsAfter_turned turned]
          refine exists_congr fun rest => and_congr_left fun counted => ?_
          rw [← rules]
          exact (rests.halts rest).trans
            (ih rest (by omega) houses' (settings ▸ sheltered) waits')

theorem Houses.idles (houses : s.Houses slot c) (sheltered : Sheltered s.settings)
    (waits : c.organism.Waits 0) {effect : Effect}
    (ended : (c.execute s.rules).answer = .ok effect) (going : effect ≠ .halt) :
    s.Idles slot (c.pause s.rules) := by
  have onwards := houses.goes_on sheltered waits.ready (by
    rw [ended]
    exact fun halting => going (Except.ok.inj halting))
  have after := Scene.execute_waits waits ended
  obtain ⟨later, rests, houses'⟩ :=
    onwards.houses.waits_out (onwards.settings ▸ sheltered) after
  have reached : s.after (steps (c.pause s.rules + 1)) = later := rests.after
  have ready := (Organism.settled_waits after (c.execute s.rules).state.habitat.grid).ready
  exact ⟨rests.delaying, _, reached ▸ houses'.found, ready⟩

theorem Houses.after_steps (houses : s.Houses slot c) (sheltered : Sheltered s.settings)
    (waits : c.organism.Waits cycles) (count : Nat) :
    let t := s.after (steps count)
    t.settings = s.settings ∧
      (t.Deserted ∨ ∃ c cycles, t.Houses slot c ∧ c.organism.Waits cycles) := by
  induction count generalizing s c cycles with
  | zero => exact ⟨rfl, Or.inr ⟨c, cycles, houses, waits⟩⟩
  | succ count ih =>
      have living {later : Scene} {left : Nat} (onwards : s.Onwards slot later)
          (waits : later.organism.Waits left) :
          let t := s.stepCycle.state.after (steps count)
          t.settings = s.settings ∧
            (t.Deserted ∨ ∃ c cycles, t.Houses slot c ∧ c.organism.Waits cycles) := by
        obtain ⟨same, either⟩ := ih onwards.houses (onwards.settings ▸ sheltered) waits
        exact ⟨same.trans onwards.settings, either⟩
      cases cycles with
      | zero =>
          by_cases halting : (c.execute s.rules).answer = .ok .halt
          · obtain ⟨deserted, settings, _⟩ := houses.halts sheltered waits.ready halting
            obtain ⟨empty, same⟩ := deserted.after_steps (settings ▸ sheltered) count
            exact ⟨same.trans settings, Or.inl empty⟩
          · obtain ⟨left, after⟩ := Scene.execute_waits_some waits s.rules
            exact living (houses.goes_on sheltered waits.ready halting) after
      | succ left =>
          exact living (houses.waits_on sheltered waits)
            (Organism.countdown_waits waits c.habitat.grid).1

/-- A cycle that comes to its end has executed the instruction, and one that leaves the organism
there has not halted it. -/
theorem Houses.executed (houses : s.Houses slot c) (sheltered : Sheltered s.settings)
    (waits : c.organism.Waits 0) (completed : s.stepCycle.answer = .ok ())
    (stays : s.stepCycle.state.population.get? slot ≠ none) :
    ∃ effect, (c.execute s.rules).answer = .ok effect ∧ effect ≠ .halt := by
  rw [stepCycle_ready houses waits.ready, executeSlot_alone houses] at completed
  obtain ⟨_, turn, _⟩ := andThen_ok completed
  obtain ⟨effect, ended, _⟩ := andThen_ok turn
  refine ⟨effect, ended, ?_⟩
  rintro rfl
  exact stays (houses.halts sheltered waits.ready ended).1.vacant

end Runs

/-- The only organism there is: it is ready, it may have no children, and its life is unlimited. No
cosmic rays fall, and there is room for it. -/
structure Solitary (s : Simulation) (slot : SlotId) (o : Organism) : Prop where
  members : s.population.members = [(slot, o)]
  ready : o.phase = .ready
  childless : o.children = some 0
  ageless : o.lifespan = none
  sheltered : Sheltered s.settings

section Stretching
variable {s : Simulation} {slot : SlotId} {o : Organism}

theorem Solitary.houses (solitary : s.Solitary slot o) (costs : Bool) :
    (s.withCosts costs).Houses slot ⟨o, s.habitat⟩ :=
  ⟨solitary.members, rfl, solitary.childless, solitary.ageless⟩

theorem Solitary.waits (solitary : s.Solitary slot o) (rested : Reachable s ∨ o.delay = 0) :
    o.Waits 0 := by
  refine ⟨?_, solitary.ready⟩
  rcases rested with reachable | rested
  · have member : (slot, o) ∈ s.population.members := by simp [solitary.members]
    have timed := (o.timed_iff.mp (reachable.prepared.timed _ member)).2.mp solitary.ready
    have positive := (reachable.sound.population.members _ member).delay
    simp only at positive
    omega
  · exact rested

/-- Between two cycles of a run with costs: how long the next instruction would have the organism
wait without them, and how long it does. -/
theorem Houses.idles_both {t : Simulation} {c : Scene} (houses : t.Houses slot c)
    (sheltered : Sheltered t.settings) (costly : t.settings.instructionCosts = true)
    (waits : c.organism.Waits 0) (completed : t.stepCycle.answer = .ok ())
    (stays : t.stepCycle.state.population.get? slot ≠ none) :
    let wait := c.pause (t.withCosts false).rules
    (t.withCosts false).Idles slot wait ∧ t.Idles slot (wait + c.next.elim 0 c.surcharge) := by
  intro wait
  have rules : t.rules = ⟨t.settings.noise, true⟩ := by rw [Simulation.rules, costly]
  have free : (t.withCosts false).Houses slot c := { houses with }
  have sheltered' : Sheltered (t.withCosts false).settings := ⟨sheltered.shielded, sheltered.roomy⟩
  obtain ⟨effect, ended, going⟩ := houses.executed sheltered waits completed stays
  have longer : c.pause t.rules = wait + c.next.elim 0 c.surcharge := by
    rw [rules]
    exact c.pause_costs t.settings.noise
  have ended' : (c.execute (t.withCosts false).rules).answer = .ok effect := by
    rw [rules] at ended
    exact (Scene.run_costs waits t.settings.noise c.next).1.symm.trans ended
  exact ⟨free.idles sheltered' waits ended' going,
    longer ▸ houses.idles sheltered waits ended going⟩

/-- With and without instruction costs the same is seen of an organism that lives by itself, time
after time, whenever it is ready, and it halts after the same number of instructions or never. With
costs a run of the cursor takes as many cycles more as steps were taken, a paste as many as the side
of the clipboard, and no other instruction takes more than without. -/
theorem costs_only_stretch_time (solitary : s.Solitary slot o)
    (rested : Reachable s ∨ o.delay = 0) :
    let costly := s.withCosts true
    let free := s.withCosts false
    (∀ k seen, costly.Sighted slot k seen ↔ free.Sighted slot k seen) ∧
    (∀ count, costly.HaltsAfter slot count ↔ free.HaltsAfter slot count) ∧
    ∀ cycles p,
      let t := costly.after (steps cycles)
      t.population.get? slot = some p → p.phase = .ready → t.stepCycle.answer = .ok () →
      t.stepCycle.state.population.get? slot ≠ none →
        let c : Scene := ⟨p, t.habitat⟩
        let wait := c.pause (t.withCosts false).rules
        (t.withCosts false).Idles slot wait ∧ t.Idles slot (wait + c.next.elim 0 c.surcharge) := by
  intro costly free
  have waits := solitary.waits rested
  have houses := solitary.houses
  have sheltered (costs : Bool) : Sheltered (s.withCosts costs).settings :=
    ⟨solitary.sheltered.shielded, solitary.sheltered.roomy⟩
  have same (count : Nat) : Scene.turns (s.withCosts true).rules count ⟨o, s.habitat⟩ =
      Scene.turns (s.withCosts false).rules count ⟨o, s.habitat⟩ := Scene.turns_costs waits _ count
  refine ⟨fun k seen => ?_, fun count => ?_, ?_⟩
  -- Either run shows what the instructions make of the scene, and that is the same for both.
  · rw [(houses true).sighted_iff (sheltered true) waits,
      (houses false).sighted_iff (sheltered false) waits, same]
  · rw [(houses true).haltsAfter_iff (sheltered true) waits,
      (houses false).haltsAfter_iff (sheltered false) waits]
    simp only [Scene.EndsAfter, same]
  · intro cycles p t here ready completed stays c wait
    obtain ⟨settings, gone | ⟨c', left, there, resting⟩⟩ :=
      (houses true).after_steps (sheltered true) waits cycles
    · cases here.symm.trans gone.vacant
    · have own : c'.organism = p := Option.some.inj (there.found.symm.trans here)
      have same : c' = c := by
        obtain ⟨_, _⟩ := c'
        cases own
        cases there.habitat
        rfl
      subst same
      cases left with
      | zero =>
          have paid : t.settings.instructionCosts = true :=
            congrArg RunSettings.instructionCosts settings
          exact there.idles_both (settings ▸ sheltered true) paid resting completed stays
      | succ left => cases (own ▸ resting.delaying).symm.trans ready

/-- A paste of one cell over itself costs one cycle, and changes nothing of what is seen. -/
theorem costs_only_stretch_time_twoCells :
    let s := twoCells.performAll
      [.set .childLimit (.int 0), .writeInstructions ⟨0, 0⟩ ["mc"], .spawn ⟨0, 0⟩ .right]
    let slot : SlotId := ⟨0, 0⟩
    ∃ o, s.Solitary slot o ∧ (s.withCosts false).Idles slot 0 ∧ (s.withCosts true).Idles slot 1 ∧
      ∀ k seen,
        (s.withCosts true).Sighted slot k seen ↔ (s.withCosts false).Sighted slot k seen := by
  intro s slot
  let o : Organism :=
    { ip := ⟨0, 0⟩, direction := .right, cursor := ⟨0, 0⟩, children := some 0 }
  have reachable : Reachable s := ⟨twoCells, twoCells_fresh, Reaches.performAll _ (by decide)⟩
  have solitary : s.Solitary slot o :=
    { members := by decide +kernel
      ready := rfl
      childless := rfl
      ageless := rfl
      sheltered := ⟨by decide +kernel, by decide +kernel⟩ }
  obtain ⟨same, _, pauses⟩ := costs_only_stretch_time solitary (Or.inl reachable)
  obtain ⟨free, costly⟩ := pauses 0 o (by decide +kernel) rfl
    (answer_of_succeeded (by decide +kernel)) (by decide +kernel)
  exact ⟨o, solitary, free, costly, same⟩

end Stretching
end Simulation
end Terrarium
