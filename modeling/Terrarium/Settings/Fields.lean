import Terrarium.Settings.Coercion

/-!
The fields of both sections of settings, in the order in which their errors are reported.
-/

namespace Terrarium

inductive RunField where
  | cycleSpeed
  | writeErrorChance
  | writeErrorScope
  | cosmicRayRate
  | cosmicRayMode
  | maxPopulation
  | lifespan
  | maxChildren
  | autoDedupPeriod
  | instructionCosts
  | logInterval
  | maxCycles
deriving DecidableEq

namespace RunField

def all : List RunField :=
  [cycleSpeed, writeErrorChance, writeErrorScope, cosmicRayRate, cosmicRayMode, maxPopulation,
    lifespan, maxChildren, autoDedupPeriod, instructionCosts, logInterval, maxCycles]

def name : RunField → String
  | cycleSpeed => "cycle_speed_ms"
  | writeErrorChance => "write_error_chance"
  | writeErrorScope => "write_error_scope"
  | cosmicRayRate => "cosmic_ray_rate"
  | cosmicRayMode => "cosmic_ray_mode"
  | maxPopulation => "max_population"
  | lifespan => "lifespan"
  | maxChildren => "max_children"
  | autoDedupPeriod => "auto_dedup_period"
  | instructionCosts => "instruction_costs"
  | logInterval => "log_interval"
  | maxCycles => "max_cycles"

def ofName? (text : String) : Option RunField := all.find? fun field => field.name == text

end RunField

namespace RunSettings

def get (s : RunSettings) : RunField → Value
  | .cycleSpeed => .int s.cycleSpeed
  | .writeErrorChance => natural? s.noise.writeErrorChance
  | .writeErrorScope => .text s.noise.writeErrorScope.name
  | .cosmicRayRate => .float s.noise.cosmicRayRate
  | .cosmicRayMode => .text s.noise.cosmicRayMode.name
  | .maxPopulation => natural? s.limits.maxPopulation
  | .lifespan => natural? s.limits.lifespan
  | .maxChildren => natural? s.limits.maxChildren
  | .autoDedupPeriod => .int s.autoDedupPeriod
  | .instructionCosts => .bool s.instructionCosts
  | .logInterval => .int s.logInterval
  | .maxCycles => natural? s.maxCycles
where
  natural? : Option Nat → Value
    | some n => .int n
    | none => .null

def set (s : RunSettings) (field : RunField) (v : Value) : Except FieldFault RunSettings :=
  match field with
  | .cycleSpeed =>
      (Coercion.bounded Coercion.positive v).map fun x => { s with cycleSpeed := x }
  | .writeErrorChance =>
      (Coercion.optional (Coercion.bounded (Coercion.atLeast 0)) v).map fun x =>
        { s with noise := { s.noise with writeErrorChance := x } }
  | .writeErrorScope =>
      (Coercion.choice WriteErrorScope.name .perWrite .perInstruction v).map fun x =>
        { s with noise := { s.noise with writeErrorScope := x } }
  | .cosmicRayRate =>
      match Coercion.number v with
      | .error fault => .error fault
      | .ok x => (Coercion.nonnegative x).map fun x =>
          { s with noise := { s.noise with cosmicRayRate := x } }
  | .cosmicRayMode =>
      (Coercion.choice CosmicRayMode.name .expected .poisson v).map fun x =>
        { s with noise := { s.noise with cosmicRayMode := x } }
  | .maxPopulation =>
      (Coercion.optional (Coercion.bounded (Coercion.atLeast 0)) v).map fun x =>
        { s with limits := { s.limits with maxPopulation := x } }
  | .lifespan =>
      (Coercion.optional (Coercion.bounded (Coercion.atLeast 1)) v).map fun x =>
        { s with limits := { s.limits with lifespan := x } }
  | .maxChildren =>
      (Coercion.optional (Coercion.bounded (Coercion.atLeast 0)) v).map fun x =>
        { s with limits := { s.limits with maxChildren := x } }
  | .autoDedupPeriod =>
      (Coercion.bounded (Coercion.atLeast 0) v).map fun x => { s with autoDedupPeriod := x }
  | .instructionCosts => (Coercion.boolean v).map fun x => { s with instructionCosts := x }
  | .logInterval =>
      (Coercion.bounded Coercion.positive v).map fun x => { s with logInterval := x }
  | .maxCycles =>
      (Coercion.optional (Coercion.bounded Coercion.positive) v).map fun x =>
        { s with maxCycles := x }

/-- An assignment that is refused leaves the settings as they were. -/
def assign (s : RunSettings) (field : RunField) (v : Value) : Except Fault RunSettings :=
  (s.set field v).mapError fun fault => .invalidSettings .run [⟨field.name, fault, v⟩]

/-- Names that can be asked of settings and never set. -/
def readOnlyNames : List String := ["model_extra", "model_fields_set", "__fields_set__"]

/-- An assignment to a field by its name. A name that begins with an underscore is a note
of the caller's own, which no setting depends on. -/
def assignNamed (s : RunSettings) (name : String) (v : Value) : Except Fault RunSettings :=
  match RunField.ofName? name with
  | some field => s.assign field v
  | none =>
      if readOnlyNames.contains name then .error (.readOnlySetting name)
      else if name.startsWith "_" then .ok s
      else .error (.invalidSettings .run [⟨name, .noSuchField name, v⟩])

end RunSettings

inductive WorldField where
  | width
  | height
  | fill
  | seed
deriving DecidableEq

namespace WorldField

def all : List WorldField := [width, height, fill, seed]

def name : WorldField → String
  | width => "width"
  | height => "height"
  | fill => "fill"
  | seed => "seed"

end WorldField

namespace WorldSettings

def get (s : WorldSettings) : WorldField → Value
  | .width => .int s.width
  | .height => .int s.height
  | .fill => .int s.fill.toNat
  | .seed => match s.seed with
      | some n => .int n
      | none => .null

def set (s : WorldSettings) (field : WorldField) (v : Value) :
    Except FieldFault WorldSettings :=
  match field with
  | .width => (Coercion.bounded Coercion.positive v).map fun x => { s with width := x }
  | .height => (Coercion.bounded Coercion.positive v).map fun x => { s with height := x }
  | .fill => (Coercion.bounded (Coercion.within 0 255) v).map fun x =>
      { s with fill := x.toUInt8 }
  | .seed => (Coercion.optional (Coercion.bounded (Coercion.within 0 0xFFFFFFFFFFFFFFFF)) v).map fun x =>
      { s with seed := x }

end WorldSettings

/-- Sets every field that the record holds, collecting the errors of all; names that
are no fields are ignored. -/
def readFields {σ φ : Type} (set : σ → φ → Value → Except FieldFault σ) (name : φ → String)
    (given : List (String × Value)) : List φ → σ → σ × List FieldError
  | [], s => (s, [])
  | field :: rest, s =>
      match given.lookup (name field) with
      | none => readFields set name given rest s
      | some v =>
          match set s field v with
          | .ok s => readFields set name given rest s
          | .error fault =>
              let (s, errors) := readFields set name given rest s
              (s, ⟨name field, fault, v⟩ :: errors)

def RunSettings.read (given : List (String × Value)) : Except Fault RunSettings :=
  match readFields RunSettings.set RunField.name given RunField.all {} with
  | (s, []) => .ok s
  | (_, errors) => .error (.invalidSettings .run errors)

def WorldSettings.read (given : List (String × Value)) : Except Fault WorldSettings :=
  match readFields WorldSettings.set WorldField.name given WorldField.all {} with
  | (s, []) => .ok s
  | (_, errors) => .error (.invalidSettings .world errors)

end Terrarium
