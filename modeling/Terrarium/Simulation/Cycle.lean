import Terrarium.Simulation.Basic

/-!
One cycle of the world. Who executes and who sits out a delay is settled when the cycle
starts: organisms born in it do neither, and a slot whose organism has gone is passed over.
After the organisms come cosmic rays, the population cap, the charge of one cycle of life
to those that executed, and deduplication when it is due.
-/

namespace Terrarium

/-- Whether something done every `n` times is due at the `i`th; zero is never. -/
def every (i n : Nat) : Bool := 0 < n && i % n == 0

namespace Simulation

def ready (s : Simulation) : List SlotId :=
  (s.population.members.filter fun m => !m.2.isDelaying).map Prod.fst

def delaying (s : Simulation) : List SlotId :=
  (s.population.members.filter fun m => m.2.isDelaying).map Prod.fst

def executeSlot (s : Simulation) (slot : SlotId) : Attempt Simulation Unit :=
  match s.population.get? slot with
  | none => .done s ()
  | some o =>
      ((Scene.execute s.rules ⟨o, s.habitat⟩).inside fun scene =>
        { s with
          population := s.population.update slot scene.organism
          habitat := scene.habitat }).andThen fun s effect =>
          match effect with
          | .proceed => .done s ()
          | .spawn child => (s.adopt child).map fun _ => ()
          | .halt => (s.onPopulation (s.population.remove slot .halt)).map fun _ => ()

def tickSlot (s : Simulation) (slot : SlotId) : Attempt Simulation Unit :=
  match s.population.get? slot with
  | none => .done s ()
  | some o =>
      ((o.tickDelay s.grid).inside fun o =>
        { s with population := s.population.update slot o }).map fun _ => ()

def irradiate (s : Simulation) : Attempt Simulation Unit :=
  ((s.habitat.cosmicRays s.settings.noise).inside fun h => { s with habitat := h }).map
    fun _ => ()

def enforceMax (s : Simulation) : Attempt Simulation Unit :=
  let culled := s.population.enforceMax s.remover s.settings.limits.maxPopulation
    s.habitat.generator
  { state := { s with
      population := culled.state.1
      habitat := { s.habitat with generator := culled.state.2 }
      metrics := s.metrics.witness culled.events }
    events := culled.events
    answer := culled.answer.map fun _ => () }

def charge (s : Simulation) (slots : List SlotId) : Attempt Simulation Unit :=
  (s.onPopulation (s.population.charge slots)).map fun _ => ()

def dedup (s : Simulation) : Attempt Simulation Nat := s.onPopulation s.population.dedup

def dedupIfDue (s : Simulation) : Attempt Simulation Unit :=
  if every s.cycle s.settings.autoDedupPeriod then s.dedup.map fun _ => () else .done s ()

def stepCycle (s : Simulation) : Attempt Simulation Unit :=
  let ready := s.ready
  let delaying := s.delaying
  (Attempt.forEach executeSlot ready s).andThen fun s _ =>
  (Attempt.forEach tickSlot delaying s).andThen fun s _ =>
  s.irradiate.andThen fun s _ =>
  s.enforceMax.andThen fun s _ =>
  (s.charge ready).andThen fun s _ =>
  ({ s with cycle := s.cycle + 1 } : Simulation).dedupIfDue.andThen fun s _ =>
  .done s.syncMetrics ()

def stepCycles (count : Nat) (s : Simulation) : Attempt Simulation Unit :=
  Attempt.repeated stepCycle count s

/-- Runs a number of cycles, each as `cycle` has it, and says so. -/
def runCyclesAs (cycle : Simulation → Attempt Simulation Unit) (s : Simulation) (count : Int) :
    Attempt Simulation Unit :=
  if count < 0 then .fail s (.negativeCycles count)
  else
    (Attempt.repeated cycle count.toNat s).andThen fun s _ =>
      .tell s (.ranCycles count s.cycle)

def runCycles (s : Simulation) (count : Int) : Attempt Simulation Unit :=
  s.runCyclesAs stepCycle count

end Simulation
end Terrarium
