import Terrarium.Simulation.Cycle

/-!
What can be done to a simulation between cycles: place organisms and bytes, act on the
organism in focus, and change the run settings. An action that refuses its arguments
changes nothing.
-/

namespace Terrarium

structure RunReport where
  executed : Nat
  spawned : List SlotId
  haltRequested : Bool
  writeErrors : Nat
deriving DecidableEq

def Grid.writeRow (g : Grid) : Point → List UInt8 → Grid
  | _, [] => g
  | p, byte :: rest => (g.write p byte).writeRow (g.step p .right 1) rest

def Value.isLongerThan (v : Value) (digits : Nat) : Bool :=
  match v with
  | .int n => Nat.pow 10 digits ≤ n.natAbs
  | _ => false

def Knob.field : Knob → RunField
  | organismLimit => .maxPopulation
  | lifespan => .lifespan
  | childLimit => .maxChildren
  | writeErrorChance => .writeErrorChance
  | cosmicRayRate => .cosmicRayRate
  | autoDedupPeriod => .autoDedupPeriod

namespace Simulation

def spawn (s : Simulation) (p : Point) (direction : Direction) : Attempt Simulation SlotId :=
  (s.onPopulation (s.population.spawn s.settings.limits (s.grid.normalize p) direction)).andThen
    fun s slot =>
      .done { s with metrics := { s.metrics with spawned := s.metrics.spawned + 1 } } slot

def insert (s : Simulation) (o : Organism) : Attempt Simulation SlotId :=
  s.onPopulation (s.population.insert o)

def writeByte (s : Simulation) (p : Point) (value : Int) : Attempt Simulation Unit :=
  if 0 ≤ value ∧ value ≤ 255 then .done (s.withGrid (s.grid.write p (lowByte value))) ()
  else .fail s (.byteOutside value)

def writeInstruction (s : Simulation) (p : Point) (mnemonic : String) :
    Attempt Simulation Unit :=
  match Instruction.byteOf mnemonic with
  | .ok byte => .done (s.withGrid (s.grid.write p byte)) ()
  | .error fault => .fail s fault

/-- Writes instructions rightwards; all of them are known before the first is written. -/
def writeInstructions (s : Simulation) (p : Point) (mnemonics : List String) :
    Attempt Simulation Unit :=
  match Instruction.resolveAll Instruction.byteOf mnemonics with
  | .ok program => .done (s.withGrid (s.grid.writeRow (s.grid.normalize p) program)) ()
  | .error fault => .fail s fault

def setFocus (s : Simulation) (slot : Option SlotId) : Attempt Simulation Bool :=
  let (population, done) := s.population.setFocus slot
  .done { s with population := population } done

def killFocused (s : Simulation) : Attempt Simulation Bool :=
  s.onPopulation s.population.killFocused

def withFocused (s : Simulation) (o : Organism) : Simulation :=
  match s.focus with
  | some slot => { s with population := s.population.update slot o }
  | none => s

/-- The answer is how many steps the cursor in focus took, none without a focus. -/
def moveCursor (s : Simulation) (direction : Direction) (steps : Int) :
    Attempt Simulation (Option Nat) :=
  match s.population.focused? with
  | none => .done s none
  | some o =>
      let (o, taken) := o.moveCursor s.grid direction steps
      .done (s.withFocused o) (some taken)

def moveIp (s : Simulation) (direction : Direction) (steps : Int) : Attempt Simulation Bool :=
  match s.population.focused? with
  | none => .done s false
  | some o => .done (s.withFocused { o with ip := s.grid.step o.ip direction steps }) true

/-- Instructions run outside the cycle: the instruction pointer stays put and delays
are dropped. The answer is what each of them asked for. -/
def runInPlace (rules : Rules) : List Instruction → Scene → Attempt Scene (List Effect)
  | [], scene => .done scene []
  | instruction :: rest, scene =>
      (scene.run rules false (some instruction)).andThen fun after effect =>
        let restored := { after with organism := { after.organism with
          delay := scene.organism.delay
          phase := scene.organism.phase } }
        (runInPlace rules rest restored).map fun effects => effect :: effects

/-- Runs instructions on the organism in focus. Halts are only reported, and children
join the population once every instruction has run. -/
def runFocused (s : Simulation) (mnemonics : List String) :
    Attempt Simulation (Option RunReport) :=
  match Instruction.resolveAll Instruction.ofMnemonic mnemonics with
  | .error fault => .fail s fault
  | .ok program =>
      match s.population.focused? with
      | none => .done s none
      | some o =>
          let errorsBefore := s.habitat.writeErrors
          ((runInPlace s.rules program ⟨o, s.habitat⟩).inside fun scene =>
            { s.withFocused scene.organism with habitat := scene.habitat }).andThen
              fun s effects =>
          (adoptAll (effects.filterMap Effect.child?) s).andThen fun s spawned =>
            let s := s.syncMetrics
            let halted := effects.any Effect.isHalt
            { state := s
              events := if halted then [.haltIgnored] else []
              answer := .ok (some {
                executed := program.length
                spawned := spawned
                haltRequested := halted
                writeErrors := s.habitat.writeErrors - errorsBefore }) }

def assign (s : Simulation) (field : RunField) (v : Value) : Attempt Simulation Unit :=
  match s.settings.assign field v with
  | .ok settings => .done { s with settings := settings } ()
  | .error fault => .fail s fault

/-- Says that a setting has been changed. An integer of more digits than can be printed is a fault,
but the change has been made by then. -/
def announce (s : Simulation) (knob : Knob) (v : Value) : Attempt Simulation Unit :=
  match s.digitLimit.filter v.isLongerThan with
  | some most => .fail s (.tooManyDigits most)
  | none => .tell s (.set knob v)

@[simp] theorem announce_state (s : Simulation) (knob : Knob) (v : Value) :
    (s.announce knob v).state = s := by
  unfold announce
  split <;> rfl

/-- Changes a setting and says so, with the value as it was given. The deduplication
period also takes what is empty for zero, and is announced as stored. -/
def set (s : Simulation) (knob : Knob) (v : Value) : Attempt Simulation Unit :=
  let offered := if knob = .autoDedupPeriod ∧ v.isEmpty then .int 0 else v
  (s.assign knob.field offered).andThen fun s _ =>
    s.announce knob (if knob = .autoDedupPeriod then s.settings.get knob.field else v)

theorem set_state (s : Simulation) (knob : Knob) (v : Value) :
    (s.set knob v).state =
      (s.assign knob.field (if knob = .autoDedupPeriod ∧ v.isEmpty then .int 0 else v)).state := by
  unfold set assign
  dsimp only
  split
  · exact announce_state _ _ _
  · rfl

def setSpeed (s : Simulation) (v : Value) : Attempt Simulation Unit := s.assign .cycleSpeed v

def pause (s : Simulation) : Simulation := { s with paused := true }

def resume (s : Simulation) : Simulation := { s with paused := false }

/-- The run loop leaves at its next look. -/
def stop (s : Simulation) : Simulation := { s with running := false }

end Simulation
end Terrarium
