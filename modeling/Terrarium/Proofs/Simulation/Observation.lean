import Terrarium.Picture.Export
import Terrarium.Proofs.Simulation.Deeds
import Terrarium.Proofs.Simulation.Guise
import Terrarium.Proofs.Settings.Limits

/-!
Looking and steering leave the world alone. Main statements: calls that look at a simulation or
steer it, put anywhere between calls that work on its world, change nothing of what these do; and
only cycles, and instructions run in focus, ever draw from the generator.
-/

namespace Terrarium

namespace Operation

/-- Cycles, newcomers, writes, deduplication and limits: what works on the world, and not through
the organism in focus. -/
def isWork : Operation → Bool
  | .step | .runCycles _ | .spawn _ _ | .writeByte _ _ | .writeInstruction _ _
  | .writeInstructions _ _ | .dedup | .set _ _ => true
  | _ => false

def isAside : Operation → Bool
  | .setFocus _ | .focusOrdinal _ | .pause | .resume | .stop | .setSpeed _ | .seed | .focus
  | .ordinal _ | .list | .status | .isRunning | .grid | .generator | .settings => true
  | _ => false

end Operation

def Deed.mayDraw : Deed → Bool
  | perform .step | perform (.runCycles _) | perform (.runFocused _) => true
  | _ => false

inductive Request where
  | operation (operation : Operation)
  | still (path scale : Value)

namespace Request

def isWork : Request → Bool
  | operation op => op.isWork
  | still _ _ => false

def isAside : Request → Bool
  | operation op => op.isAside
  | still _ _ => true

def after : Directory × Simulation → Request → Directory × Simulation
  | (d, s), operation op => (d, (s.perform op).state)
  | (d, s), still path scale => ((Picture.exportStill d s path scale).state, s)

end Request

namespace Simulation
variable {s t : Simulation} {g : Guise}

/-- A simulation with nobody in focus, at rest, and with the least speed. -/
def unobserved : Simulation → Simulation := guised ⟨.averted, false, false, fun _ => 1⟩

theorem work_guised {work : Operation} (works : work.isWork = true) (s : Simulation) :
    (s.guised g).perform work = (s.perform work).inside (guised g) := by
  have map {α β : Type} {left right : Attempt Simulation α} (f : α → β)
      (same : left = right.inside (guised g)) :
      left.map f = (right.map f).inside (guised g) := congrArg (Attempt.map f) same
  cases work with
  | step => exact map _ (stepCycle_guised s)
  | runCycles count => exact map _ (runCycles_guised s count)
  | spawn p direction => exact map _ (spawn_guised s p direction)
  | writeByte p value => exact map _ (writeByte_guised s p value)
  | writeInstruction p mnemonic => exact map _ (writeInstruction_guised s p mnemonic)
  | writeInstructions p mnemonics => exact map _ (writeInstructions_guised s p mnemonics)
  | dedup => exact map _ (dedup_guised s)
  | set knob v => exact map _ (set_guised s knob v)
  | _ => cases works

theorem aside_unobserved {aside : Operation} (looks : aside.isAside = true) (s : Simulation) :
    (s.perform aside).state.unobserved = s.unobserved := by
  have focused (slot : Option SlotId) : (s.setFocus slot).state.unobserved = s.unobserved := by
    have same : (s.population.setFocus slot).1.seen .averted = s.population.seen .averted := by
      unfold Population.setFocus
      split
      · rfl
      · split <;> rfl
    have kept (p : Population) (alike : p.seen .averted = s.population.seen .averted) :
        ({ s with population := p } : Simulation).unobserved = s.unobserved := by
      unfold unobserved guised
      rw [alike]
    exact kept _ same
  cases aside with
  | setFocus slot => exact focused slot
  | focusOrdinal ordinal => exact focused _
  | setSpeed v =>
      have paced (settings : RunSettings) (taken : s.settings.assign .cycleSpeed v = .ok settings) :
          ({ s with settings := settings } : Simulation).unobserved = s.unobserved := by
        obtain ⟨speed, _, rfl⟩ := Except.of_map_ok (RunSettings.set_of_assign taken)
        rfl
      simp only [perform, Simulation.setSpeed, Simulation.assign]
      split
      · next settings taken => exact paced settings taken
      · rfl
  | _ => first | rfl | cases looks

/-- Told apart by nothing that a world is made of. -/
structure SameWorld (s t : Simulation) : Prop where
  grid : t.grid = s.grid
  members : t.population.members = s.population.members
  generator : t.habitat.generator = s.habitat.generator
  cycle : t.cycle = s.cycle
  writeErrors : t.habitat.writeErrors = s.habitat.writeErrors
  strikes : t.habitat.strikes = s.habitat.strikes
  metrics : t.metrics = s.metrics

theorem SameWorld.of_unobserved (same : t.unobserved = s.unobserved) : SameWorld s t := by
  have part {α : Type} (f : Simulation → α) : f t.unobserved = f s.unobserved := congrArg f same
  exact {
    grid := part Simulation.grid
    members := part fun u => u.population.members
    generator := part fun u => u.habitat.generator
    cycle := part Simulation.cycle
    writeErrors := part fun u => u.habitat.writeErrors
    strikes := part fun u => u.habitat.strikes
    metrics := part Simulation.metrics }

theorem work_unobserved {work : Operation} (works : work.isWork = true) (s : Simulation) :
    s.unobserved.perform work = (s.perform work).inside unobserved :=
  work_guised works s

/-- What is left of a history without the calls that look and steer does the same to the world. -/
theorem requests_unobserved {requests : List Request}
    (allowed : ∀ request ∈ requests, request.isWork = true ∨ request.isAside = true)
    {start start' : Directory × Simulation} (same : start.2.unobserved = start'.2.unobserved) :
    (requests.foldl Request.after start).2.unobserved =
      ((requests.filter Request.isWork).foldl Request.after start').2.unobserved := by
  induction requests generalizing start start' with
  | nil => exact same
  | cons request rest ih =>
      obtain ⟨first, later⟩ := List.forall_mem_cons.mp allowed
      by_cases works : request.isWork = true
      · rw [List.filter_cons_of_pos works]
        apply ih later
        cases request with
        | still path scale => cases works
        | operation op =>
            have performed := congrArg (fun u => (u.perform op).state) same
            rw [work_unobserved works, work_unobserved works] at performed
            exact performed
      · rw [List.filter_cons_of_neg works]
        refine ih later (Eq.trans ?_ same)
        cases request with
        | still path scale => rfl
        | operation op => exact aside_unobserved (first.resolve_left works) start.2

theorem set_generator (s : Simulation) (knob : Knob) (v : Value) :
    (s.set knob v).state.habitat.generator = s.habitat.generator := by
  simp only [Simulation.set_state, Simulation.assign]
  split <;> rfl

/-- Who enters, leaves or is moved, and what is written, is not up to chance. -/
theorem act_generator (s : Simulation) {deed : Deed} (apart : deed.mayDraw = false) :
    (s.act deed).state.habitat.generator = s.habitat.generator := by
  have focused (o : Organism) : (s.withFocused o).habitat = s.habitat := by
    unfold withFocused
    split <;> rfl
  cases deed with
  | assign field v =>
      simp only [act, Simulation.assign]
      split <;> rfl
  | start => rfl
  | perform operation =>
      cases operation with
      | step => cases apart
      | runCycles count => cases apart
      | runFocused mnemonics => cases apart
      | spawn p direction =>
          simp only [act, perform, Simulation.spawn]
          cases answer : (s.onPopulation (s.population.spawn s.settings.limits (s.grid.normalize p)
            direction)).answer with
          | error fault =>
              rw [Attempt.andThen_of_error _ answer]
              rfl
          | ok slot =>
              rw [Attempt.andThen_of_ok _ answer]
              rfl
      | writeByte p value =>
          simp only [act, perform, Simulation.writeByte]
          split <;> rfl
      | writeInstruction p mnemonic =>
          simp only [act, perform, Simulation.writeInstruction]
          split <;> rfl
      | writeInstructions p mnemonics =>
          simp only [act, perform, Simulation.writeInstructions]
          split <;> rfl
      | moveCursor direction steps =>
          simp only [act, perform, Simulation.moveCursor]
          split
          · rfl
          · exact congrArg Habitat.generator (focused _)
      | moveIp direction steps =>
          simp only [act, perform, Simulation.moveIp]
          split
          · rfl
          · exact congrArg Habitat.generator (focused _)
      | set knob v => exact set_generator s knob v
      | setSpeed v =>
          simp only [act, perform, Simulation.setSpeed, Simulation.assign]
          split <;> rfl
      | _ => rfl

/-- Calls that look at a simulation or steer it, at any places among others that work on its world,
change nothing of that world, nor of what any later work does, tells and answers. Apart from cycles
and instructions run in focus, nothing at all draws from the generator. -/
theorem observation_leaves_world (s : Simulation) (d : Directory) {requests : List Request}
    (allowed : ∀ request ∈ requests, request.isWork = true ∨ request.isAside = true) :
    let observed := (requests.foldl Request.after (d, s)).2
    let alone := ((requests.filter Request.isWork).foldl Request.after (d, s)).2
    SameWorld alone observed ∧
    (∀ work : Operation, work.isWork = true →
      SameWorld (alone.perform work).state (observed.perform work).state ∧
        (observed.perform work).answer = (alone.perform work).answer ∧
        (observed.perform work).events = (alone.perform work).events) ∧
    ∀ (t : Simulation) (deed : Deed), deed.mayDraw = false →
      (t.act deed).state.habitat.generator = t.habitat.generator := by
  intro observed alone
  have same : observed.unobserved = alone.unobserved := requests_unobserved allowed rfl
  refine ⟨.of_unobserved same, ?_, fun t _ apart => act_generator t apart⟩
  intro work works
  have performed : (observed.perform work).inside unobserved =
      (alone.perform work).inside unobserved := by
    rw [← work_unobserved works, ← work_unobserved works, same]
  have answers := congrArg Attempt.answer performed
  have events := congrArg Attempt.events performed
  exact ⟨.of_unobserved (congrArg Attempt.state performed), answers, events⟩

/-- An organism is put in focus and pictured between two cycles, and halts in the second. -/
theorem observation_leaves_world_twoCells :
    let requests : List Request := [.operation (.writeInstruction ⟨0, 0⟩ "ma"),
      .operation (.spawn ⟨0, 0⟩ .right), .operation .step,
      .operation (.setFocus (some ⟨0, 0⟩)), .operation .pause, .operation (.setSpeed (.int 5)),
      .operation .list, .still (.text "a.png") (.int 2), .operation .step]
    let observed := (requests.foldl Request.after ({}, twoCells)).2
    let alone := ((requests.filter Request.isWork).foldl Request.after ({}, twoCells)).2
    observed.paused = true ∧ alone.paused = false ∧ observed.metrics.halts = 1 ∧
      SameWorld alone observed := by
  intro requests observed alone
  have allowed : ∀ request ∈ requests, request.isWork = true ∨ request.isAside = true := by decide
  obtain ⟨same, _⟩ := observation_leaves_world twoCells {} allowed
  exact ⟨by decide +kernel, by decide +kernel, by decide +kernel, same⟩

end Simulation
end Terrarium
