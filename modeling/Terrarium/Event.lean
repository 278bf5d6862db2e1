import Terrarium.Organism.Basic
import Terrarium.Population.Metrics
import Terrarium.Torus.Spot

/-!
What a simulation tells about its work. Events are an account only: no state
depends on them, and a reader keeps those at or above a level.
-/

namespace Terrarium

inductive Level where
  | trace
  | debug
  | info
  | error
deriving DecidableEq

namespace Level

def name : Level → String
  | trace => "TRACE"
  | debug => "DEBUG"
  | info => "INFO"
  | error => "ERROR"

def rank : Level → Nat
  | trace => 0
  | debug => 1
  | info => 2
  | error => 3

def ofName? (text : String) : Option Level :=
  [trace, debug, info, error].find? fun level => level.name == text

end Level

inductive Knob where
  | organismLimit
  | lifespan
  | childLimit
  | writeErrorChance
  | cosmicRayRate
  | autoDedupPeriod
deriving DecidableEq

def Knob.caption : Knob → String
  | organismLimit => "Organism limit: "
  | lifespan => "Lifespan of new organisms: "
  | childLimit => "Child limit of new organisms: "
  | writeErrorChance => "Write error chance: 1/"
  | cosmicRayRate => "Cosmic ray rate: "
  | autoDedupPeriod => "Auto dedup period: "

inductive BatchLine where
  | rule
  | title
  | building
  | seed (number : Nat)
  | cycleLimit (limit : Value)
  | running
  | exporting
  | failed (text : String)
  | finalStatus (status : Status)

namespace BatchLine

def level : BatchLine → Level
  | failed _ => .error
  | _ => .info

def text : BatchLine → String
  | rule => "".pushn '=' 80
  | title => "myco simulation"
  | building => "Step 1/3: Building world..."
  | seed number => "  Seed: " ++ toString number
  | cycleLimit limit =>
      "  Max cycles: " ++ (if limit.isEmpty then "unlimited" else limit.plain)
  | running => "Step 2/3: Running until completion or signal..."
  | exporting => "Step 3/3: Exporting..."
  | failed text => "Simulation failed: " ++ text
  | finalStatus status => "Final status: " ++ (Value.record status.fields).literal

end BatchLine

inductive Event where
  | writeErrors (count : Nat)
  | strikes (count : Nat)
  | forkSuppressed (ip : Point)
  | spawned (slot : SlotId) (ip : Point) (direction : Direction)
  | strayed (slot : SlotId) (spot : Spot) (direction : Direction)
  | removed (slot : SlotId) (remains : Organism) (cause : RemovalCause)
  | culled (count : Nat) (limit : Nat)
  | deduplicated (count : Nat)
  | ranCycles (count : Int) (cycle : Nat)
  | built (width height seed : Nat) (remover : String)
  | haltIgnored
  | set (knob : Knob) (given : Value)
  | started
  | reachedCap (cap : Nat)
  | report (status : Status)
  | stopped (cycle : Nat)
  | seeded (rows : Value) (x y : Value) (organisms : Nat)
  | imageWritten (width height : Nat) (path : String)
  | animationWritten (frames step : Value) (path : String)
  | batch (line : BatchLine)

namespace Event

def level : Event → Level
  | writeErrors _ | strikes _ | forkSuppressed _ => .trace
  | spawned _ _ _ | strayed _ _ _ | removed _ _ _ | culled _ _ | deduplicated _ | ranCycles _ _ => .debug
  | batch line => line.level
  | _ => .info

def text : Event → String
  | writeErrors count => "[Noise] " ++ toString count ++ " write error(s)"
  | strikes count => "[Noise] " ++ toString count ++ " cosmic ray strike(s)"
  | forkSuppressed ip =>
      "[VM] fork at " ++ ip.describe ++ " suppressed: child budget exhausted"
  | spawned slot ip direction =>
      "[Population] Spawned " ++ slot.describe ++ " at " ++ ip.describe ++ " facing " ++
        direction.symbol
  | strayed slot spot direction =>
      "[Population] Spawned " ++ slot.describe ++ " at " ++ spot.describe ++ " facing " ++
        direction.symbol
  | removed slot _ cause => "[Population] Removed " ++ slot.describe ++ " (" ++ cause.name ++ ")"
  | culled count limit =>
      "[Population] Culled " ++ toString count ++ " organism(s) (max=" ++ toString limit ++ ")"
  | deduplicated count => "[Population] Deduplicated " ++ toString count ++ " organism(s)"
  | ranCycles count cycle =>
      "[Simulation] Ran " ++ toString count ++ " cycle(s), now at cycle " ++ toString cycle
  | built width height seed remover =>
      "[Simulation] Init | grid=" ++ toString width ++ "x" ++ toString height ++ ", seed=" ++
        toString seed ++ ", remover=" ++ remover
  | haltIgnored => "[Simulation] Halt ignored for focused organism; use kill_focused"
  | set knob given => "[Simulation] " ++ knob.caption ++ given.plain
  | started => "[Simulation] Start"
  | reachedCap cap => "[Simulation] Stop: max_cycles=" ++ toString cap
  | report status =>
      "[Simulation] " ++ " | ".intercalate (status.fields.map fun entry =>
        entry.1 ++ "=" ++ entry.2.plain)
  | stopped cycle => "[Simulation] Stopped at cycle " ++ toString cycle
  | seeded rows x y organisms =>
      "Seed program: " ++ rows.plain ++ " row(s) at (" ++ x.plain ++ ", " ++ y.plain ++ "), " ++
        toString organisms ++ " organism(s)"
  | imageWritten width height path =>
      "[Export] PNG " ++ toString width ++ "x" ++ toString height ++ " written to " ++ path
  | animationWritten frames step path =>
      "[Export] GIF with " ++ frames.plain ++ " frame(s), step " ++ step.plain ++
        " written to " ++ path
  | batch line => line.text

def line (event : Event) : String := event.level.name ++ " " ++ event.text

def removals (events : List Event) : List (SlotId × Organism × RemovalCause) :=
  events.filterMap fun
    | removed slot remains cause => some (slot, remains, cause)
    | _ => none

end Event

def Level.lines (level : Level) (events : List Event) : List String :=
  (events.filter fun event => level.rank ≤ event.level.rank).map Event.line

end Terrarium
