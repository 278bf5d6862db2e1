import Terrarium.Picture.Export
import Terrarium.Simulation.SeedProgram
import Terrarium.Simulation.ServedRun

/-!
A batch: build the simulation a document describes, serve its run to the end, export what the
document asks for. Pictures are taken only after the run loop has stopped.
-/

namespace Terrarium.Batch

structure Work where
  planted : Planted
  directory : Directory

namespace Work

def tell (w : Work) (line : BatchLine) : Attempt Work Unit := .tell w (.batch line)

def simulation (w : Work) : Simulation := w.planted.simulation

def withSimulation (w : Work) (s : Simulation) : Work :=
  { w with planted := { w.planted with simulation := s } }

def reading {α : Type} (w : Work) (v : Except Fault α) (next : α → Attempt Work Unit) :
    Attempt Work Unit :=
  match v with
  | .ok a => next a
  | .error fault => .fail w fault

def setting (d : Document) (part key : String) : Except Fault Value :=
  (SeedProgram.asked ((d.field d.top part).bind fun n => d.field n key)).map Node.value

def served (w : Work) (moments : List Moment) : Served :=
  .whole w.planted.cycle w.simulation moments

def run (w : Work) (moments : List Moment) : Attempt Work Unit :=
  let served := w.served moments
  { state := w.withSimulation served.watched.simulation
    events := served.told
    answer := served.answer }

def exportStill (w : Work) (d : Document) : Attempt Work Unit :=
  w.reading (setting d "export" "png") fun path =>
    if path.isEmpty then .done w ()
    else
      w.reading (setting d "export" "pixel_scale") fun scale =>
        ((Picture.exportStill w.directory w.simulation path scale).inside
          fun directory => { w with directory := directory }).map fun _ => ()

def exportAnimation (w : Work) (d : Document) : Attempt Work Unit :=
  w.reading (setting d "export" "gif") fun path =>
    if path.isEmpty then .done w ()
    else
      w.reading (setting d "export" "gif_frames") fun frames =>
        w.reading (setting d "export" "gif_step") fun step =>
          ((Picture.exportAnimation w.planted.cycle w.directory w.simulation path
            { frames := frames, step := step }).inside
              fun state => { w.withSimulation state.1 with directory := state.2 }).map
                fun _ => ()

def exports (w : Work) (d : Document) : Attempt Work Unit :=
  (w.exportStill d).andThen fun w _ => w.exportAnimation d

def perform (w : Work) (d : Document) (moments : List Moment) : Attempt Work Unit :=
  (w.tell (.seed w.simulation.seed)).andThen fun w _ =>
  w.reading (setting d "run" "max_cycles") fun limit =>
  (w.tell (.cycleLimit limit)).andThen fun w _ =>
  (w.tell .running).andThen fun w _ =>
  (w.run moments).andThen fun w _ =>
  (w.tell .exporting).andThen fun w _ =>
  w.exports d

end Work

def lines (batch : List BatchLine) : List Event := batch.map .batch

def complaint {α : Type} : Except Fault α → List BatchLine
  | .ok _ => []
  | .error fault => [.failed fault.message]

/-- The whole batch on an empty directory. Its last lines are written however it ended. -/
def run (d : Document) (offered : Nat) (moments : List Moment) : Attempt Directory Unit :=
  let opening := lines [.rule, .title, .rule, .building]
  let built := Planted.ofDocument d offered
  match built.answer with
  | .error fault =>
      { state := {}
        events := opening ++ built.events ++ lines [.failed fault.message, .rule]
        answer := .error fault }
  | .ok planted =>
      let work := Work.perform { planted := planted, directory := {} } d moments
      { state := work.state.directory
        events := opening ++ built.events ++ work.events ++ lines (complaint work.answer ++
          [.finalStatus work.state.simulation.status, .rule])
        answer := work.answer }

/-- The batch of the default document with another one laid over it, undisturbed. If they do
not go together there is no batch at all, and no line about one. -/
def runOver (upper : Value) (environment : List (String × String)) (offered : Nat) :
    Attempt Directory Unit :=
  match Document.overlay upper environment with
  | .ok d => run d offered []
  | .error fault => .fail {} (.document fault)

end Terrarium.Batch
