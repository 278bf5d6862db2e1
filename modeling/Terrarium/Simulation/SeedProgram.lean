import Terrarium.Settings.Default
import Terrarium.Settings.Resolution
import Terrarium.Simulation.Stray

/-!
The program a simulation starts with: rows of instructions below each other, and organisms
to run them. Its parts come out of a document one by one, and a part that cannot be read
is a fault only when its turn comes.
-/

namespace Terrarium

structure Planting where
  position : List Value
  direction : Direction

/-- A row of instructions. What it holds is read once it has been reached. -/
inductive SeedRow where
  | unreachable (fault : Fault)
  | reached (items : Except Fault (List Value))

/-- The coordinates of the origin and the number of rows are kept as they are logged. -/
structure SeedProgram where
  x : Value
  y : Value
  rows : List SeedRow
  plantings : Except Fault (List (Except Fault Planting))
  rowCount : Except Fault Value

namespace Value

def plusCount (v : Value) (count : Nat) : Except Fault Value :=
  match v with
  | .int n => .ok (.int (n + count))
  | .bool b => .ok (.int ((if b then 1 else 0) + count))
  | .float x => .ok (.float (x.addNat count))
  | .text _ => .error .textAndNumber
  | .list _ => .error .listAndNumber
  | v => .error (.noSum v.partKind)

def coordinate (v : Value) (side : Nat) : Except Fault Coordinate :=
  match v with
  | .int n => .ok ((Coordinate.whole n).wrap side)
  | .bool b => .ok ((Coordinate.whole (if b then 1 else 0)).wrap side)
  | .float x => .ok ((Coordinate.fraction x).wrap side)
  | .text _ => .error .unusedOperand
  | v => .error (.noRemainder v.partKind)

end Value

def Grid.spot (g : Grid) (x y : Value) : Except Fault Spot :=
  (x.coordinate g.width).bind fun x => (y.coordinate g.height).map fun y => ⟨x, y⟩

/-- The place of an organism: its first two coordinates. What follows them is not looked at. -/
def Planting.spot (planting : Planting) (g : Grid) : Except Fault Spot :=
  match planting.position with
  | x :: y :: _ => g.spot x y
  | [x] => (x.coordinate g.width).bind fun _ => .error .notAPoint
  | [] => .error .notAPoint

namespace SeedProgram

def knows (item : Value) : Bool :=
  match item with
  | .text mnemonic => (Instruction.byteOf mnemonic).isOk
  | _ => false

def readRow (items : List Value) : Except Fault (List String) :=
  match items.find? fun item => !knows item with
  | some item => .error (.unknownMnemonic item)
  | none => .ok (items.filterMap fun
      | .text mnemonic => some mnemonic
      | _ => none)

def readDirection (v : Value) : Except Fault Direction :=
  match v with
  | .text symbol =>
      match Direction.ofSymbol? symbol with
      | some direction => .ok direction
      | none => .error (.unknownDirection v)
  | _ => .error (.unknownDirection v)

def asked {α : Type} (answer : Except DocumentFault α) : Except Fault α :=
  answer.mapError Fault.document

def rowAt (d : Document) (row : Except DocumentFault Node) : SeedRow :=
  match row with
  | .ok n => .reached (asked (d.items n))
  | .error fault => .unreachable (.document fault)

def plantingAt (d : Document) (spawn : Except DocumentFault Node) : Except Fault Planting :=
  (asked spawn).bind fun spawn =>
  (asked ((d.field spawn "pos").bind d.items)).bind fun position =>
  (asked (d.field spawn "direction")).bind fun direction =>
  (readDirection direction.value).map fun direction => ⟨position, direction⟩

/-- The two coordinates of an origin. A third one is looked at only to refuse it. -/
def pair (found : List (Except DocumentFault Node)) : Except Fault (Value × Value) :=
  (asked ((found.take 3).mapM id)).bind fun items =>
    match items.map Node.value with
    | [x, y] => .ok (x, y)
    | values => .error (.notAPair values.length)

def originOf (d : Document) (program : Node) : Except Fault (Value × Value) :=
  (asked (d.field program "origin")).bind fun origin =>
    match d.elements? origin with
    | some found => pair found
    | none => .error (.notUnpackable origin.value.kind)

def read (d : Document) : Except Fault SeedProgram :=
  (asked (d.field d.top "seed_program")).bind fun program =>
  (originOf d program).bind fun (x, y) =>
  (asked ((d.field program "rows").bind d.elements)).map fun rows =>
    { x := x
      y := y
      rows := rows.map (rowAt d)
      plantings := (asked ((d.field program "spawns").bind d.elements)).map fun spawns =>
        spawns.map (plantingAt d)
      rowCount := (asked (d.field program "row_count")).map Node.value }

end SeedProgram

namespace Simulation

def reading {α β : Type} (s : Simulation) (v : Except Fault α)
    (next : α → Attempt Simulation β) : Attempt Simulation β :=
  match v with
  | .ok a => next a
  | .error fault => .fail s fault

def writeAt (s : Simulation) (spot : Spot) (mnemonics : List String) : Attempt Simulation Unit :=
  match spot.cell? with
  | some cell => s.writeInstructions cell mnemonics
  | none => if mnemonics.isEmpty then .done s () else .fail s .betweenCells

def layRow (s : Simulation) (x y : Value) (row : SeedRow) (i : Nat) : Attempt Simulation Unit :=
  match row with
  | .unreachable fault => .fail s fault
  | .reached items =>
      s.reading (y.plusCount i) fun y =>
      s.reading (items.bind SeedProgram.readRow) fun mnemonics =>
      s.reading (s.grid.spot x y) fun spot => s.writeAt spot mnemonics

def layRows (x y : Value) : Nat → List SeedRow → Simulation → Attempt Simulation Unit
  | _, [], s => .done s ()
  | i, row :: rest, s => (s.layRow x y row i).andThen fun s _ => layRows x y (i + 1) rest s

end Simulation

namespace Planted

def reading {α β : Type} (p : Planted) (v : Except Fault α)
    (next : α → Attempt Planted β) : Attempt Planted β :=
  match v with
  | .ok a => next a
  | .error fault => .fail p fault

def plantAll : List (Except Fault Planting) → Planted → Attempt Planted Unit
  | [], p => .done p ()
  | planting :: rest, p =>
      p.reading planting fun planting =>
      p.reading (planting.spot p.simulation.grid) fun spot =>
        (p.spawn spot planting.direction).andThen fun p _ => plantAll rest p

/-- Lays out the rows, places the organisms and says what was planted. The corner of the rows is
taken to be short enough to be written out there. -/
def plant (s : Simulation) (program : SeedProgram) : Attempt Planted Unit :=
  ((s.layRows program.x program.y 0 program.rows).inside fun s => { simulation := s }).andThen
    fun p _ =>
  p.reading program.plantings fun plantings =>
  (plantAll plantings p).andThen fun p _ =>
  p.reading program.rowCount fun count =>
  .tell p (.seeded count program.x program.y p.simulation.population.size)

def build (world : WorldSettings) (settings : RunSettings) (offered : Nat)
    (program : Except Fault SeedProgram) : Attempt Unit Planted :=
  (Simulation.build world settings .random offered).andThen fun _ s =>
    let planted := ({ simulation := s } : Planted).reading program (plant s)
    { state := ()
      events := planted.events
      answer := planted.answer.map fun _ => planted.state }

def ofDocument (d : Document) (offered : Nat) : Attempt Unit Planted :=
  match (SeedProgram.asked (d.entries .world "world")).bind WorldSettings.read with
  | .error fault => .fail () fault
  | .ok world =>
      match (SeedProgram.asked (d.entries .run "run")).bind RunSettings.read with
      | .error fault => .fail () fault
      | .ok settings => build world settings offered (SeedProgram.read d)

end Planted
end Terrarium
