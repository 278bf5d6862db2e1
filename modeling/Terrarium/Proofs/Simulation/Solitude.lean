import Terrarium.Proofs.Instruction.Costs
import Terrarium.Proofs.Simulation.Delay

/-!
Cycles of a simulation in which one organism lives by itself, under settings that let nothing
disturb it. What a cycle comes to is what the organism does in its turn: it executes, or it sits
out a cycle of its delay. Nothing else happens to it or to its habitat, and it is never anything
but its own halt that removes it.
-/

namespace Terrarium

theorem Organism.countdown_waits {o : Organism} {cycles : Nat} (waits : o.Waits (cycles + 1))
    (g : Grid) : (o.countdown g).Waits cycles ∧ (o.countdown g).settled g = o.settled g := by
  have delay := waits.delay
  rw [settled_delaying waits]
  cases cycles with
  | zero =>
      rw [countdown_last (by omega)]
      exact ⟨⟨rfl, rfl⟩, settled_ready ⟨rfl, rfl⟩ g⟩
  | succ cycles =>
      rw [countdown_longer (by omega)]
      have less : { o with delay := o.delay - 1 }.Waits (cycles + 1) :=
        ⟨by simp only; omega, waits.delaying⟩
      exact ⟨less, settled_delaying less g⟩

namespace Population
variable {p : Population}

theorem dedup_few (few : p.members.length ≤ 1) : p.dedup = .done p 0 := by
  have none : duplicates [] p.members = [] := by
    cases members : p.members with
    | nil => rfl
    | cons m rest =>
        have alone : rest = [] := by simpa [members] using few
        simp [alone, duplicates]
  simp [dedup, none, removeCounted, removeAll, Attempt.forEach, Attempt.done, Attempt.andThen]

theorem update_few (few : p.members.length ≤ 1) {slot : SlotId} {o : Organism}
    (found : p.get? slot = some o) : p.update slot o = p := by
  have member := mem_members_of_get? found
  obtain ⟨members, _, _, _⟩ := p
  cases members with
  | nil => cases member
  | cons m rest =>
      have alone : rest = [] := by simpa using few
      have same : (slot, o) = m := by simpa [alone] using member
      simp [update, alone, ← same]

theorem charge_few (few : p.members.length ≤ 1) (ageless : ∀ m ∈ p.members, m.2.lifespan = none)
    (slots : List SlotId) : p.charge slots = .done p 0 := by
  have one (slot : SlotId) : p.chargeOne slot = .done p false := by
    unfold chargeOne
    cases found : p.get? slot with
    | none => rfl
    | some o =>
        have unlimited : o.lifespan = none := ageless _ (mem_members_of_get? found)
        have uncharged : o.tickLifespan = (o, false) := by simp [Organism.tickLifespan, unlimited]
        simp [uncharged, update_few few found]
  induction slots with
  | nil => rfl
  | cons slot rest ih =>
      rw [charge, one, Attempt.done_andThen, ih]
      rfl

end Population

namespace Simulation
open Population Attempt

/-- Settings under which nothing from outside disturbs an organism that is alone. -/
structure Sheltered (settings : RunSettings) : Prop where
  shielded : settings.noise.cosmicRayRate.isZero = true
  roomy : settings.limits.maxPopulation ≠ some 0

structure Calm (s : Simulation) : Prop where
  few : s.population.members.length ≤ 1
  ageless : ∀ m ∈ s.population.members, m.2.lifespan = none
  sheltered : Sheltered s.settings

/-- It ends with everyone, the habitat and the settings as in the given simulation, and tells of the
removals among the given events. -/
structure Peaceful (s : Simulation) (told : List Event) (attempt : Attempt Simulation Unit) :
    Prop where
  members : attempt.state.population.members = s.population.members
  habitat : attempt.state.habitat = s.habitat
  settings : attempt.state.settings = s.settings
  removals : Event.removals attempt.events = Event.removals told
  ended : attempt.answer = .ok ()

namespace Peaceful
variable {s : Simulation} {told : List Event} {first : Attempt Simulation Unit}

theorem andThen {next : Simulation → Unit → Attempt Simulation Unit}
    (head : Peaceful s told first) (tail : Peaceful first.state [] (next first.state ())) :
    Peaceful s told (first.andThen next) := by
  rw [andThen_of_ok _ head.ended]
  exact {
    members := tail.members.trans head.members
    habitat := tail.habitat.trans head.habitat
    settings := tail.settings.trans head.settings
    removals := by
      rw [Event.removals_append, head.removals, tail.removals]
      exact List.append_nil _
    ended := tail.ended }

theorem calm (peaceful : Peaceful s told first) (calm : s.Calm) : first.state.Calm where
  few := by rw [peaceful.members]; exact calm.few
  ageless := by rw [peaceful.members]; exact calm.ageless
  sheltered := by rw [peaceful.settings]; exact calm.sheltered

end Peaceful

namespace Calm
variable {s : Simulation}

theorem irradiate (calm : s.Calm) : Peaceful s [] s.irradiate := by
  have none : s.habitat.cosmicRays s.settings.noise = .done s.habitat 0 := by
    simp only [Habitat.cosmicRays, Habitat.strikeCount, calm.sheltered.shielded, ↓reduceIte,
      done_andThen]
    rfl
  constructor <;> simp [Simulation.irradiate, none, Except.map]

theorem enforceMax (calm : s.Calm) : Peaceful s [] s.enforceMax := by
  have none : s.population.enforceMax s.remover s.settings.limits.maxPopulation
      s.habitat.generator = .done (s.population, s.habitat.generator) 0 := by
    unfold Population.enforceMax
    cases cap : s.settings.limits.maxPopulation with
    | none => rfl
    | some limit =>
        have positive : limit ≠ 0 := fun zero => calm.sheltered.roomy (zero ▸ cap)
        have room : s.population.size ≤ limit :=
          Nat.le_trans calm.few (Nat.pos_of_ne_zero positive)
        simp [room]
  constructor <;> simp [Simulation.enforceMax, none, Except.map]

theorem charge (calm : s.Calm) (slots : List SlotId) : Peaceful s [] (s.charge slots) := by
  have none := charge_few calm.few calm.ageless slots
  constructor <;> simp [Simulation.charge, onPopulation, none, Except.map]

theorem dedupIfDue (calm : s.Calm) : Peaceful s [] s.dedupIfDue := by
  have none := dedup_few calm.few
  unfold Simulation.dedupIfDue
  split <;> constructor <;> simp [Simulation.dedup, onPopulation, none, Except.map]

theorem close (calm : s.Calm) : Peaceful s []
    (({ s with cycle := s.cycle + 1 } : Simulation).dedupIfDue.andThen fun s _ =>
      .done s.syncMetrics ()) := by
  have counted : ({ s with cycle := s.cycle + 1 } : Simulation).Calm :=
    ⟨calm.few, calm.ageless, calm.sheltered⟩
  have due := counted.dedupIfDue
  have due : Peaceful s [] ({ s with cycle := s.cycle + 1 } : Simulation).dedupIfDue :=
    ⟨due.members, due.habitat, due.settings, due.removals, due.ended⟩
  exact due.andThen ⟨rfl, rfl, rfl, rfl, rfl⟩

/-- After the turns nothing happens but that the cycle is counted. -/
theorem settle (calm : s.Calm) (slots : List SlotId) : Peaceful s [] (s.settle slots) := by
  have rays := calm.irradiate
  refine rays.andThen ?_
  have calm := rays.calm calm
  have culled := calm.enforceMax
  refine culled.andThen ?_
  have calm := culled.calm calm
  have charged := calm.charge slots
  exact charged.andThen (charged.calm calm).close

end Calm

/-- The organism of the scene lives here, and nobody else; it has no children to come and no end to
its life. -/
structure Houses (s : Simulation) (slot : SlotId) (c : Scene) : Prop where
  members : s.population.members = [(slot, c.organism)]
  habitat : s.habitat = c.habitat
  childless : c.organism.children = some 0
  ageless : c.organism.lifespan = none

def Deserted (s : Simulation) : Prop := s.population.members = []

section Cycles
variable {s : Simulation} {slot : SlotId} {c : Scene}

theorem Houses.calm (houses : s.Houses slot c) (sheltered : Sheltered s.settings) : s.Calm where
  few := by simp [houses.members]
  ageless := by simp [houses.members, houses.ageless]
  sheltered := sheltered

theorem Houses.found (houses : s.Houses slot c) : s.population.get? slot = some c.organism := by
  simp [get?, houses.members]

theorem Houses.of_peaceful (houses : s.Houses slot c) {told : List Event}
    {attempt : Attempt Simulation Unit} (peaceful : Peaceful s told attempt) :
    attempt.state.Houses slot c :=
  { houses with
    members := peaceful.members.trans houses.members
    habitat := peaceful.habitat.trans houses.habitat }

theorem Deserted.calm (deserted : s.Deserted) (sheltered : Sheltered s.settings) : s.Calm where
  few := by simp [show s.population.members = [] from deserted]
  ageless := by simp [show s.population.members = [] from deserted]
  sheltered := sheltered

theorem peaceful_of_turn {attempt : Attempt Simulation Unit} (ended : attempt.answer = .ok ())
    (calm : attempt.state.Calm) (slots : List SlotId) :
    Peaceful attempt.state attempt.events (attempt.andThen fun t _ => t.settle slots) :=
  Peaceful.andThen ⟨rfl, rfl, rfl, rfl, ended⟩ (calm.settle slots)

theorem stepCycle_deserted (deserted : s.Deserted) (sheltered : Sheltered s.settings) :
    Peaceful s [] s.stepCycle := by
  have none : s.ready = [] ∧ s.delaying = [] := by
    simp [ready, delaying, show s.population.members = [] from deserted]
  rw [stepCycle_eq, none.1, none.2]
  simp only [Attempt.forEach, done_andThen]
  exact (deserted.calm sheltered).settle []

def left (s : Simulation) (slot : SlotId) (c : Scene) : Simulation :=
  { s with population := s.population.update slot c.organism, habitat := c.habitat }

theorem Houses.left {later : Scene} (houses : s.Houses slot c)
    (childless : later.organism.children = some 0) (ageless : later.organism.lifespan = none) :
    (s.left slot later).Houses slot later where
  members := by simp [Simulation.left, update, houses.members]
  habitat := rfl
  childless := childless
  ageless := ageless

theorem stepCycle_ready (houses : s.Houses slot c) (ready : c.organism.phase = .ready) :
    s.stepCycle = (s.executeSlot slot).andThen fun t _ => t.settle [slot] := by
  have turns : s.ready = [slot] ∧ s.delaying = [] := by
    simp [Simulation.ready, delaying, houses.members, Organism.isDelaying, ready]
  rw [stepCycle_eq, turns.1, turns.2]
  simp only [Attempt.forEach, andThen_assoc, done_andThen]

theorem stepCycle_waiting (houses : s.Houses slot c) (delaying : c.organism.phase = .delaying) :
    s.stepCycle = (s.tickSlot slot).andThen fun t _ => t.settle [] := by
  have turns : s.ready = [] ∧ s.delaying = [slot] := by
    simp [Simulation.ready, Simulation.delaying, houses.members, Organism.isDelaying, delaying]
  rw [stepCycle_eq, turns.1, turns.2]
  simp only [Attempt.forEach, andThen_assoc, done_andThen]

theorem executeSlot_alone (houses : s.Houses slot c) :
    s.executeSlot slot = ((c.execute s.rules).inside (s.left slot)).andThen fun t effect =>
      match effect with
      | .proceed => .done t ()
      | .spawn child => (t.adopt child).map fun _ => ()
      | .halt => (t.onPopulation (t.population.remove slot .halt)).map fun _ => () := by
  have scene : (⟨c.organism, s.habitat⟩ : Scene) = c := by rw [houses.habitat]
  rw [executeSlot_eq (m := (slot, c.organism)) houses.found, executeAs, scene]
  rfl

structure Onwards (s : Simulation) (slot : SlotId) (later : Scene) : Prop where
  houses : s.stepCycle.state.Houses slot later
  settings : s.stepCycle.state.settings = s.settings
  silent : Event.removals s.stepCycle.events = []

theorem Onwards.of_turn {later : Scene} {turn : Attempt Simulation Unit} {slots : List SlotId}
    (cycle : s.stepCycle = turn.andThen fun t _ => t.settle slots)
    (houses : turn.state.Houses slot later) (settings : turn.state.settings = s.settings)
    (sheltered : Sheltered s.settings) (silent : Discreet turn) : s.Onwards slot later := by
  cases ended : turn.answer with
  | error fault =>
      rw [andThen_of_error _ ended] at cycle
      constructor <;> rw [cycle]
      · exact houses
      · exact settings
      · exact silent
  | ok _ =>
      have peaceful := peaceful_of_turn ended (houses.calm (settings ▸ sheltered)) slots
      rw [← cycle] at peaceful
      exact ⟨houses.of_peaceful peaceful, peaceful.settings.trans settings,
        peaceful.removals.trans silent⟩

theorem Houses.goes_on (houses : s.Houses slot c) (sheltered : Sheltered s.settings)
    (ready : c.organism.phase = .ready) (going : (c.execute s.rules).answer ≠ .ok .halt) :
    s.Onwards slot (c.execute s.rules).state := by
  obtain ⟨childless, barren⟩ := Scene.execute_childless houses.childless s.rules
  have ageless := (Scene.execute_continues c s.rules).state.lifespan.trans houses.ageless
  have after := houses.left childless ageless
  have turn := executeSlot_alone houses
  cases ended : (c.execute s.rules).answer with
  | error fault =>
      rw [andThen_of_error _ (by exact ended)] at turn
      refine .of_turn (stepCycle_ready houses ready) ?_ ?_ sheltered ?_ <;> rw [turn]
      · exact after
      · rfl
      · exact Scene.execute_discreet c s.rules
  | ok effect =>
      rw [andThen_of_ok _ (by exact ended)] at turn
      cases effect with
      | spawn child => exact absurd ended (barren child)
      | halt => exact absurd ended going
      | proceed =>
          refine .of_turn (stepCycle_ready houses ready) ?_ ?_ sheltered ?_ <;> rw [turn]
          · exact after
          · rfl
          · simpa [Discreet] using Scene.execute_discreet c s.rules

theorem Houses.waits_on (houses : s.Houses slot c) (sheltered : Sheltered s.settings)
    {cycles : Nat} (waits : c.organism.Waits (cycles + 1)) :
    s.Onwards slot { c with organism := c.organism.countdown c.habitat.grid } := by
  have grid : s.grid = c.habitat.grid := congrArg Habitat.grid houses.habitat
  have ticked := Organism.tickDelay_eq waits.timed waits.delaying c.habitat.grid
  have childless := Organism.tickDelay_children c.organism c.habitat.grid
  have ageless := (Organism.Continues.tickDelay c.organism c.habitat.grid).lifespan
  rw [ticked] at childless ageless
  have turn := tickSlot_eq (m := (slot, c.organism)) houses.found
  simp only [tickAs, grid] at turn
  refine .of_turn (stepCycle_waiting houses waits.delaying) ?_ ?_ sheltered ?_ <;> rw [turn]
  -- A countdown touches neither the budgets nor the habitat.
  · exact {
      members := by simp [update, houses.members, ticked]
      habitat := houses.habitat
      childless := childless.trans houses.childless
      ageless := ageless.trans houses.ageless }
  · rfl
  · exact Organism.tickDelay_discreet _ _

theorem Houses.halts (houses : s.Houses slot c) (sheltered : Sheltered s.settings)
    (ready : c.organism.phase = .ready) (halting : (c.execute s.rules).answer = .ok .halt) :
    s.stepCycle.state.Deserted ∧ s.stepCycle.state.settings = s.settings ∧
      removals s.stepCycle.events = [(slot, .halt)] := by
  have childless := (Scene.execute_childless houses.childless s.rules).1
  have ageless := (Scene.execute_continues c s.rules).state.lifespan.trans houses.ageless
  have after := houses.left childless ageless
  have turn := executeSlot_alone houses
  rw [andThen_of_ok _ (by exact halting)] at turn
  simp only [inside_state, inside_events, onPopulation, remove_live .halt after.found] at turn
  have empty : (s.executeSlot slot).state.Deserted := by
    rw [turn]
    simp [Deserted, vacate, after.members]
  have settings : (s.executeSlot slot).state.settings = s.settings := by rw [turn]; rfl
  have ended : (s.executeSlot slot).answer = .ok () := by rw [turn]; rfl
  have told : removals (s.executeSlot slot).events = [(slot, .halt)] := by
    have silent : Event.removals (c.execute s.rules).events = [] := Scene.execute_discreet c s.rules
    rw [turn, removals, Event.removals_append, silent]
    rfl
  have peaceful := peaceful_of_turn ended (empty.calm (settings ▸ sheltered)) [slot]
  rw [← stepCycle_ready houses ready] at peaceful
  refine ⟨peaceful.members.trans empty, peaceful.settings.trans settings, ?_⟩
  rw [← told, removals, removals, peaceful.removals]

end Cycles
end Simulation
end Terrarium
