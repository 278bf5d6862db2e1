import Terrarium.Proofs.Attempt
import Terrarium.Proofs.Population.Account
import Terrarium.Proofs.Settings.Bounds
import Terrarium.Proofs.Torus.Writing
import Terrarium.Simulation.SeedProgram

/-!
A document is realised as it describes a simulation. Its rows are laid out one after another, so
where they overlap the last instruction stays; its organisms are planted in the order in which
they are listed; and nothing else has happened yet.
-/

namespace Terrarium

/-- A seed program in plain words: where it begins, its rows of mnemonics, and the places and
directions of its organisms. -/
structure Layout where
  x : Int
  y : Int
  rows : List (List String)
  spawns : List (Point × Direction)
  rowCount : Value

namespace Layout

def plantings (spawns : List (Point × Direction)) : List (Except Fault Planting) :=
  spawns.map fun (place, direction) => .ok ⟨[.int place.x, .int place.y], direction⟩

def program (layout : Layout) : SeedProgram where
  x := .int layout.x
  y := .int layout.y
  rows := layout.rows.map fun row => .reached (.ok (row.map .text))
  plantings := .ok (plantings layout.spawns)
  rowCount := .ok layout.rowCount

def targets (layout : Layout) : List (Point × String) :=
  layout.rows.zipIdx.flatMap fun (row, i) =>
    row.zipIdx.map fun (mnemonic, j) => (⟨layout.x + j, layout.y + i⟩, mnemonic)

def newcomer (g : Grid) (limits : Limits) (spawn : Point × Direction) : Organism where
  ip := g.normalize spawn.1
  cursor := g.normalize spawn.1
  direction := spawn.2
  lifespan := limits.lifespan.map Int.ofNat
  children := limits.maxChildren.map Int.ofNat
  phase := .ready

end Layout

namespace Instruction

def isUnknown (mnemonic : String) : Bool := !(byteOf mnemonic).isOk

def opcode (mnemonic : String) : UInt8 := (byteOf mnemonic).toOption.getD 0

theorem byteOf_known {mnemonic : String} (known : isUnknown mnemonic = false) :
    byteOf mnemonic = .ok (opcode mnemonic) := by
  unfold isUnknown at known
  unfold opcode
  cases found : byteOf mnemonic with
  | ok byte => rfl
  | error fault => simp [found, Except.isOk, Except.toBool] at known

theorem resolveAll_known {mnemonics : List String}
    (known : ∀ mnemonic ∈ mnemonics, isUnknown mnemonic = false) :
    resolveAll byteOf mnemonics = .ok (mnemonics.map opcode) := by
  induction mnemonics with
  | nil => rfl
  | cons first rest ih =>
      rw [resolveAll, byteOf_known (known first List.mem_cons_self),
        ih fun mnemonic member => known mnemonic (List.mem_cons_of_mem _ member)]
      rfl

end Instruction

namespace SeedProgram

theorem readRow_text (row : List String) :
    readRow (row.map .text) = match row.find? Instruction.isUnknown with
      | some mnemonic => .error (.unknownMnemonic (.text mnemonic))
      | none => .ok row := by
  have unknown : (row.map Value.text).find? (fun item => !knows item) =
      (row.find? Instruction.isUnknown).map .text := by
    rw [List.find?_map]
    rfl
  unfold readRow
  rw [unknown]
  cases row.find? Instruction.isUnknown with
  | some mnemonic => rfl
  | none =>
      -- each text is kept as it is
      exact congrArg Except.ok (List.filterMap_map.trans List.filterMap_some)

end SeedProgram

namespace Simulation
variable {s : Simulation} {x y : Int}

def rowTargets (x y : Int) (i : Nat) (rows : List (List String)) : List (Point × String) :=
  (rows.zipIdx i).flatMap fun (row, i) => Grid.rowCells ⟨x, y + i⟩ 0 row

def encoded (targets : List (Point × String)) : List (Point × UInt8) :=
  targets.map fun target => (target.1, Instruction.opcode target.2)

theorem layRow_text (s : Simulation) (row : List String) (i : Nat) :
    s.layRow (.int x) (.int y) (.reached (.ok (row.map .text))) i =
      match row.find? Instruction.isUnknown with
      | some mnemonic => .fail s (.unknownMnemonic (.text mnemonic))
      | none => .done (s.withGrid (s.grid.writeCells
          (encoded (Grid.rowCells ⟨x, y + i⟩ 0 row)))) () := by
  have read := SeedProgram.readRow_text row
  cases unknown : row.find? Instruction.isUnknown with
  | some mnemonic =>
      rw [unknown] at read
      simp only [layRow, Value.plusCount, reading, Except.bind, read]
  | none =>
      rw [unknown] at read
      have known : ∀ mnemonic ∈ row, Instruction.isUnknown mnemonic = false := by
        simpa using List.find?_eq_none.mp unknown
      have start : s.grid.normalize (s.grid.normalize ⟨x, y + i⟩) =
          s.grid.normalize ⟨x + (0 : Nat), y + i⟩ := by simp
      have written : s.grid.writeRow (s.grid.normalize (s.grid.normalize ⟨x, y + i⟩))
          (row.map Instruction.opcode) =
            s.grid.writeCells (encoded (Grid.rowCells ⟨x, y + i⟩ 0 row)) := by
        rw [start, s.grid.writeRow_eq ⟨x, y + i⟩ 0, Grid.rowCells_map]
        rfl
      simp only [layRow, Value.plusCount, reading, Except.bind, read, Grid.spot, Value.coordinate,
        Except.map, Coordinate.wrap, writeAt, Spot.cell?, writeInstructions,
        Instruction.resolveAll_known known]
      exact congrArg (fun grid => Attempt.done (s.withGrid grid) ()) written

theorem layRows_text (rows : List (List String)) (i : Nat) (s : Simulation) :
    match rows.flatten.find? Instruction.isUnknown with
    | some mnemonic =>
        (layRows (.int x) (.int y) i (rows.map fun row => .reached (.ok (row.map .text))) s).answer =
          .error (.unknownMnemonic (.text mnemonic))
    | none =>
        layRows (.int x) (.int y) i (rows.map fun row => .reached (.ok (row.map .text))) s =
          .done (s.withGrid (s.grid.writeCells (encoded (rowTargets x y i rows)))) () := by
  induction rows generalizing i s with
  | nil => rfl
  | cons row rest ih =>
      rw [List.flatten_cons, List.find?_append, List.map_cons, layRows, layRow_text]
      cases unknown : row.find? Instruction.isUnknown with
      | some mnemonic => rfl
      | none =>
          have later := ih (i + 1)
            (s.withGrid (s.grid.writeCells (encoded (Grid.rowCells ⟨x, y + i⟩ 0 row))))
          simp only [Option.none_or, Attempt.done_andThen]
          cases other : rest.flatten.find? Instruction.isUnknown with
          | some mnemonic => simpa only [other] using later
          | none =>
              simp only [other] at later ⊢
              rw [later]
              have split : encoded (rowTargets x y i (row :: rest)) =
                  encoded (Grid.rowCells ⟨x, y + i⟩ 0 row) ++
                    encoded (rowTargets x y (i + 1) rest) := by
                simp [encoded, rowTargets]
              rw [split, Grid.writeCells_append]
              rfl

/-- With organisms that enter one after another, of which the first is the `k`th of all. -/
def settled (s : Simulation) (k : Nat) (spawns : List (Point × Direction)) : Simulation :=
  { s with
    population := { s.population with
      members := s.population.members ++ (spawns.zipIdx k).map fun (spawn, i) =>
        (⟨i, 0⟩, Layout.newcomer s.grid s.settings.limits spawn)
      generations := List.replicate (k + spawns.length) 0 }
    metrics := { s.metrics with spawned := s.metrics.spawned + spawns.length } }

/-- A population that nobody has left yet hands out one new index after another. -/
structure Filling (k : Nat) (p : Population) : Prop where
  free : p.free = []
  generations : p.generations = List.replicate k 0

theorem settled_filling {k : Nat} (filling : Filling k s.population)
    (spawns : List (Point × Direction)) :
    Filling (k + spawns.length) (s.settled k spawns).population := ⟨filling.free, rfl⟩

theorem settled_cons (s : Simulation) (k : Nat) (spawn : Point × Direction)
    (rest : List (Point × Direction)) :
    s.settled k (spawn :: rest) = (s.settled k [spawn]).settled (k + 1) rest := by
  simp [settled, grid, Nat.add_assoc, Nat.add_comm 1]

theorem Filling.allocate {k : Nat} {p : Population} (filling : Filling k p) :
    p.allocate = (⟨k, 0⟩, { p with generations := List.replicate (k + 1) 0 }) := by
  unfold Population.allocate
  rw [filling.free]
  simp [filling.generations, List.replicate_succ']

theorem settled_nil {k : Nat} (filling : Filling k s.population) : s.settled k [] = s := by
  have generations : List.replicate (k + 0) 0 = s.population.generations :=
    filling.generations.symm
  simp only [settled, List.zipIdx_nil, List.map_nil, List.append_nil, List.length_nil, generations]
  rfl

theorem spawn_filling {k : Nat} (filling : Filling k s.population) (place : Point)
    (direction : Direction) :
    s.spawn (s.grid.normalize place) direction = ⟨s.settled k [(place, direction)],
      [.spawned ⟨k, 0⟩ (s.grid.normalize place) direction], .ok ⟨k, 0⟩⟩ := by
  rw [spawn, Grid.normalize_normalize, Population.spawn_eq, Population.moved, filling.allocate]
  rfl

end Simulation

namespace Planted
variable {p : Planted}

theorem plantAll_plain {k : Nat} (filling : Simulation.Filling k p.simulation.population)
    (spawns : List (Point × Direction)) :
    (plantAll (Layout.plantings spawns) p).answer = .ok () ∧
      (plantAll (Layout.plantings spawns) p).state =
        { p with simulation := p.simulation.settled k spawns } := by
  induction spawns generalizing p k with
  | nil =>
      refine ⟨rfl, ?_⟩
      rw [Simulation.settled_nil filling]
      rfl
  | cons spawn rest ih =>
      obtain ⟨place, direction⟩ := spawn
      have later := ih (p := { p with simulation := p.simulation.settled k [(place, direction)] })
        (Simulation.settled_filling filling [(place, direction)])
      have planted : plantAll (Layout.plantings ((place, direction) :: rest)) p =
          (((p.simulation.spawn (p.simulation.grid.normalize place) direction).inside
            fun s => { p with simulation := s }).map fun _ => ()).andThen
              fun p _ => plantAll (Layout.plantings rest) p := rfl
      rw [planted, Simulation.spawn_filling filling,
        Simulation.settled_cons p.simulation k (place, direction) rest]
      exact later

def laidOut (layout : Layout) (s : Simulation) : Simulation :=
  s.withGrid (s.grid.writeCells (Simulation.encoded layout.targets))

theorem plant_layout {s : Simulation} (filling : Simulation.Filling 0 s.population)
    (layout : Layout) :
    match layout.rows.flatten.find? Instruction.isUnknown with
    | some mnemonic =>
        (plant s layout.program).answer = .error (.unknownMnemonic (.text mnemonic))
    | none => (plant s layout.program).answer = .ok () ∧
        (plant s layout.program).state.simulation = (laidOut layout s).settled 0 layout.spawns ∧
        (plant s layout.program).state.strays = [] := by
  have laid := Simulation.layRows_text layout.rows 0 s (x := layout.x) (y := layout.y)
  unfold plant
  cases unknown : layout.rows.flatten.find? Instruction.isUnknown with
  | some mnemonic =>
      simp only [unknown] at laid
      have failed : ((s.layRows layout.program.x layout.program.y 0 layout.program.rows).inside
          fun s => ({ simulation := s } : Planted)).answer =
            .error (.unknownMnemonic (.text mnemonic)) := laid
      rw [Attempt.andThen_of_error _ failed]
  | none =>
      simp only [unknown] at laid
      have written : (s.layRows layout.program.x layout.program.y 0 layout.program.rows).inside
          (fun s => ({ simulation := s } : Planted)) =
            .done { simulation := laidOut layout s } () :=
        congrArg (Attempt.inside fun s => ({ simulation := s } : Planted)) laid
      obtain ⟨planted, state⟩ := plantAll_plain (p := { simulation := laidOut layout s }) filling
        layout.spawns
      rw [written, Attempt.done_andThen]
      simp only [Layout.program, reading]
      rw [Attempt.andThen_of_ok _ planted, state]
      exact ⟨rfl, rfl, rfl⟩

/-- A simulation that is as a world, run settings and a layout describe it, and has done nothing
yet. -/
structure Realises (world : WorldSettings) (settings : RunSettings) (seed : Nat) (layout : Layout)
    (p : Planted) : Prop where
  sides : p.simulation.grid.width = world.width ∧ p.simulation.grid.height = world.height
  written : ∀ before place mnemonic after, layout.targets = before ++ (place, mnemonic) :: after →
    (∀ later ∈ after, p.simulation.grid.normalize later.1 ≠ p.simulation.grid.normalize place) →
    Instruction.byteOf mnemonic = .ok (p.simulation.grid.read place)
  blank : ∀ place, (∀ target ∈ layout.targets,
    p.simulation.grid.normalize target.1 ≠ p.simulation.grid.normalize place) →
    p.simulation.grid.read place = world.fill
  population : p.simulation.population = {
    members := layout.spawns.zipIdx.map fun (spawn, i) =>
      (⟨i, 0⟩, Layout.newcomer p.simulation.grid settings.limits spawn)
    generations := List.replicate layout.spawns.length 0 }
  untouched : p.simulation = {
    seed := seed
    settings := settings
    remover := .random
    habitat := { grid := p.simulation.grid, generator := Generator.ofSeed seed }
    population := p.simulation.population
    metrics := { spawned := layout.spawns.length }
    cycle := 0
    running := false
    paused := false }
  rooted : p.strays = []

theorem mem_targets {layout : Layout} {target : Point × String} (member : target ∈ layout.targets) :
    target.2 ∈ layout.rows.flatten := by
  obtain ⟨⟨row, i⟩, row_mem, inside⟩ := List.mem_flatMap.mp member
  obtain ⟨⟨mnemonic, j⟩, item_mem, rfl⟩ := List.mem_map.mp inside
  exact List.mem_flatten.mpr ⟨row, List.fst_mem_of_mem_zipIdx row_mem,
    List.fst_mem_of_mem_zipIdx item_mem⟩

theorem laidOut_read {layout : Layout}
    (known : ∀ mnemonic ∈ layout.rows.flatten, Instruction.isUnknown mnemonic = false)
    (s : Simulation) :
    (∀ before place mnemonic after, layout.targets = before ++ (place, mnemonic) :: after →
      (∀ later ∈ after, s.grid.normalize later.1 ≠ s.grid.normalize place) →
      Instruction.byteOf mnemonic = .ok ((laidOut layout s).grid.read place)) ∧
    ∀ place, (∀ target ∈ layout.targets, s.grid.normalize target.1 ≠ s.grid.normalize place) →
      (laidOut layout s).grid.read place = s.grid.read place := by
  constructor
  · intro before place mnemonic after targets apart
    have last : (laidOut layout s).grid.read place = Instruction.opcode mnemonic := by
      show (s.grid.writeCells (Simulation.encoded layout.targets)).read place = _
      rw [targets, Simulation.encoded, List.map_append, List.map_cons]
      refine s.grid.read_writeCells_last rfl fun cell member => ?_
      obtain ⟨later, later_mem, rfl⟩ := List.mem_map.mp member
      exact apart later later_mem
    rw [last]
    apply Instruction.byteOf_known
    have member : (place, mnemonic) ∈ layout.targets := by simp [targets]
    exact known mnemonic (mem_targets member)
  · intro place apart
    refine s.grid.read_writeCells_apart fun cell member => ?_
    obtain ⟨target, target_mem, rfl⟩ := List.mem_map.mp member
    exact apart target target_mem

def fresh (grid : Grid) (settings : RunSettings) (seed : Nat) : Simulation where
  seed := seed
  settings := settings
  remover := .random
  habitat := { grid := grid, generator := Generator.ofSeed seed }
  population := .empty
  metrics := {}
  cycle := 0
  running := false
  paused := false

theorem build_fresh {world : WorldSettings} {grid : Grid}
    (laid : Grid.build world.width world.height world.fill.toNat = .ok grid)
    (settings : RunSettings) {seed : Nat} (seeded : world.seed = some seed) (offered : Nat)
    (program : SeedProgram) :
    (build world settings offered (.ok program)).answer =
      (plant (fresh grid settings seed) program).answer.map fun _ =>
        (plant (fresh grid settings seed) program).state := by
  have built : Simulation.build world settings .random offered =
      ⟨(), [.built grid.width grid.height seed Remover.random.title],
        .ok (fresh grid settings seed)⟩ := by
    rw [Simulation.build, laid, seeded]
    rfl
  rw [build, built]
  rfl

theorem build_layout {world : WorldSettings} (roomy : world.Roomy) (settings : RunSettings)
    {seed : Nat} (seeded : world.seed = some seed) (offered : Nat) (layout : Layout) :
    match layout.rows.flatten.find? Instruction.isUnknown with
    | some mnemonic => (build world settings offered (.ok layout.program)).answer =
        .error (.unknownMnemonic (.text mnemonic))
    | none => ∃ p, (build world settings offered (.ok layout.program)).answer = .ok p ∧
        Realises world settings seed layout p := by
  let s := fresh (Grid.uniform world.width world.height roomy.1 roomy.2 world.fill) settings seed
  rw [build_fresh (Grid.build_eq roomy.1 roomy.2 world.fill) settings seeded]
  have planted := plant_layout (s := s) ⟨rfl, rfl⟩ layout
  cases unknown : layout.rows.flatten.find? Instruction.isUnknown with
  | some mnemonic =>
      simp only [unknown] at planted ⊢
      rw [planted]
      rfl
  | none =>
      simp only [unknown] at planted ⊢
      obtain ⟨answer, simulation, strays⟩ := planted
      refine ⟨(plant s layout.program).state, by rw [answer]; rfl, ?_⟩
      have known : ∀ mnemonic ∈ layout.rows.flatten, Instruction.isUnknown mnemonic = false := by
        simpa using List.find?_eq_none.mp unknown
      obtain ⟨written, blank⟩ := laidOut_read known s
      have grid : (plant s layout.program).state.simulation.grid = (laidOut layout s).grid := by
        rw [simulation]
        rfl
      have sides := s.grid.writeCells_shape (Simulation.encoded layout.targets)
      have same (place : Point) : (laidOut layout s).grid.normalize place = s.grid.normalize place :=
        s.grid.normalize_writeCells _ place
      constructor
      · rw [grid]
        exact sides
      · simpa only [grid, same] using written
      · intro place apart
        simp only [grid, same] at apart ⊢
        rw [blank place apart]
        exact Grid.read_uniform roomy.1 roomy.2 world.fill place
      · rw [grid, simulation]
        simp only [Simulation.settled, Nat.zero_add]
        rfl
      · have spawned : (laidOut layout s).metrics.spawned + layout.spawns.length =
            layout.spawns.length := Nat.zero_add _
        rw [grid, simulation]
        simp only [Simulation.settled, spawned]
        rfl
      · exact strays

/-- A document whose world and run settings are valid, with a seed for the world and a seed
program in plain words, is realised as it describes: unless a mnemonic of its rows is unknown,
which is the fault then. -/
theorem ofDocument_realises {d : Document} {world : WorldSettings} {settings : RunSettings}
    {seed : Nat} {layout : Layout} (offered : Nat)
    (worldRead : (SeedProgram.asked (d.entries .world "world")).bind WorldSettings.read = .ok world)
    (runRead : (SeedProgram.asked (d.entries .run "run")).bind RunSettings.read = .ok settings)
    (seeded : world.seed = some seed) (programRead : SeedProgram.read d = .ok layout.program) :
    match layout.rows.flatten.find? Instruction.isUnknown with
    | some mnemonic => (ofDocument d offered).answer = .error (.unknownMnemonic (.text mnemonic))
    | none => ∃ p, (ofDocument d offered).answer = .ok p ∧
        Realises world settings seed layout p := by
  have roomy : world.Roomy := by
    cases asked : SeedProgram.asked (d.entries .world "world") with
    | error fault => simp [asked, Except.bind] at worldRead
    | ok given => exact WorldSettings.read_roomy (by simpa [asked, Except.bind] using worldRead)
  have built : ofDocument d offered = build world settings offered (.ok layout.program) := by
    simp only [ofDocument, worldRead, runRead, programRead]
  rw [built]
  exact build_layout roomy settings seeded offered layout

/-- On a torus of two cells the second row is written over the first one, and the organism is
planted although the limit has no room for it. -/
theorem ofDocument_realises_twoCells :
    let d : Document := { root := .record [
      ("world", .record [("width", .int 2), ("height", .int 1), ("seed", .int 9)]),
      ("run", .record [("max_population", .int 0), ("lifespan", .int 3)]),
      ("seed_program", .record [
        ("origin", .list [.int (-1), .int 0]),
        ("rows", .list [.list [.text "-=", .text "m="], .list [.text "@@"]]),
        ("spawns", .list [.record [("pos", .list [.int 5, .int 5]), ("direction", .text "<")]]),
        ("row_count", .int 2)])] }
    let layout : Layout :=
      { x := -1
        y := 0
        rows := [["-=", "m="], ["@@"]]
        spawns := [(⟨5, 5⟩, .left)]
        rowCount := .int 2 }
    (SeedProgram.asked (d.entries .world "world")).bind WorldSettings.read =
        .ok { width := 2, height := 1, seed := some 9 } ∧
      (SeedProgram.asked (d.entries .run "run")).bind RunSettings.read =
        .ok { limits := { maxPopulation := some 0, lifespan := some 3 } } ∧
      SeedProgram.read d = .ok layout.program ∧
      ∃ p, (ofDocument d 0).answer = .ok p ∧
        Realises { width := 2, height := 1, seed := some 9 }
          { limits := { maxPopulation := some 0, lifespan := some 3 } } 9 layout p := by
  intro d layout
  refine ⟨by rfl, by rfl, by rfl, ?_⟩
  have programRead : SeedProgram.read d = .ok layout.program := by rfl
  have realised := ofDocument_realises 0 (by rfl) (by rfl) (by rfl) programRead
  have known : layout.rows.flatten.find? Instruction.isUnknown = none := by decide
  simp only [known] at realised
  exact realised

end Planted
end Terrarium
