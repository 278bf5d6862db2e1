import Terrarium.Picture.Directory
import Terrarium.Picture.Render
import Terrarium.Simulation.Control

/-!
Pictures of a simulation kept under names. A still shows the grid as it is; an animation
runs the simulation on between its frames. No name is written twice.
-/

namespace Terrarium.Picture

def maxAnimatedSide : Nat := 65535

def still (s : Simulation) (scale : Int) : Image :=
  let side := (max 1 scale).toNat
  { format := .still
    width := s.grid.width * side
    height := s.grid.height * side
    frames := [⟨none, enlarge scale (indices s.grid.snapshot)⟩] }

/-! What is asked for may be any value. A part that cannot be used is a fault when its turn
comes, and a number below one is enough for what is repeated. -/

def pathOf : Value → Except Fault String
  | .text s => .ok (Directory.normalize s)
  | v => .error (.notAPath v.partKind)

def isNotPositive : Value → Except Fault Bool
  | .int n => .ok (n ≤ 0)
  | .bool b => .ok !b
  | .float x => .ok (x.isZero || (x.isNegative && !x.isNaN))
  | v => .error (.notComparable v.partKind)

/-- The side of a pixel: the whole part of a scale, and at least one. -/
def sideOf : Value → Nat
  | .int n => max 1 n.toNat
  | .float x => if x.isFinite then max 1 x.floor else 1
  | _ => 1

def countOf : Value → Except Fault Int
  | .int n => .ok n
  | .bool b => .ok (if b then 1 else 0)
  | v => .error (.notACount v.partKind)

def targetOf (d : Directory) (path : Value) : Except Fault String :=
  (pathOf path).bind fun path => (d.checkOpen path).map fun _ => path

def checkStill (d : Directory) (path scale : Value) : Except Fault String :=
  (targetOf d path).bind fun path =>
  (isNotPositive scale).bind fun refused =>
    if refused then .error (.scaleNotPositive scale) else .ok path

def exportStill (d : Directory) (s : Simulation) (path scale : Value) :
    Attempt Directory Image :=
  match checkStill d path scale with
  | .error fault => .fail d fault
  | .ok path =>
      let image := still s (sideOf scale)
      match d.refusal? path with
      | some fault => .fail d fault
      | none =>
          (Attempt.tell (d.add path image)
            (.imageWritten image.width image.height path)).map fun _ => image

/-- The grid now and each of `more` times after the simulation has moved on. -/
def record (advance : Simulation → Attempt Simulation Unit) :
    Nat → Simulation → Attempt Simulation (List (List (List Nat)))
  | 0, s => .done s [indices s.grid.snapshot]
  | more + 1, s =>
      let first := indices s.grid.snapshot
      (advance s).andThen fun s _ =>
        (record advance more s).map fun frames => first :: frames

/-- Frames that look the same in a row are one frame for the sum of their times. -/
def mergeFrames (duration : Int) : List (List (List Nat)) → List (Int × List (List Nat))
  | [] => []
  | pixels :: rest =>
      match mergeFrames duration rest with
      | [] => [(duration, pixels)]
      | (time, next) :: others =>
          if pixels = next then (time + duration, next) :: others
          else (duration, pixels) :: (time, next) :: others

def longestFrame : Int := 65535

/-- Times are kept in hundredths of a second, rounded towards zero; no time is no entry. -/
def storedDuration (milliseconds : Int) : Except Fault (Option Int) :=
  let hundredths := milliseconds.tdiv 10
  if (Binary64.ofRatio milliseconds.natAbs 10).isInfinite then .error .quotientTooLarge
  else if hundredths < 0 then .error .negativeDuration
  else if longestFrame < hundredths then .error .durationTooLong
  else .ok (if hundredths = 0 then none else some (hundredths * 10))

/-- The frames with their times as they are kept; the first time that cannot be is the fault. -/
def timed : List (Int × List (List Nat)) → Except Fault (List Frame)
  | [] => .ok []
  | (time, pixels) :: rest =>
      match storedDuration time with
      | .error fault => .error fault
      | .ok duration => (timed rest).map fun frames => ⟨duration, pixels⟩ :: frames

def animation (width height : Nat) (frames : List Frame) : Image where
  format := .animation
  width := width
  height := height
  frames := frames

structure AnimationOptions where
  frames : Value := .int 100
  step : Value := .int 4
  duration : Int := 100

def AnimationOptions.check (options : AnimationOptions) (s : Simulation) : Except Fault Nat :=
  (isNotPositive options.frames).bind fun noFrames =>
  if noFrames then .error .noFrames
  else
    (isNotPositive options.step).bind fun noStep =>
    if noStep then .error .noFrameStep
    else if maxAnimatedSide < s.grid.width ∨ maxAnimatedSide < s.grid.height then
      .error (.tooBigToAnimate s.grid.width s.grid.height)
    else (countOf options.frames).map Int.toNat

/-- A recording as it is kept. A place that cannot be written is found before a time that
cannot. -/
def develop (d : Directory) (path : String) (width height : Nat) (duration : Int)
    (frames : List (List (List Nat))) : Except Fault Image :=
  match d.refusal? path with
  | some fault => .error fault
  | none => (timed (mergeFrames duration frames)).map (animation width height)

def advance (cycle : Simulation → Attempt Simulation Unit) (step : Value) (s : Simulation) :
    Attempt Simulation Unit :=
  match countOf step with
  | .ok count => s.runCyclesAs cycle count
  | .error fault => .fail s fault

/-- Records an animation of cycles as `cycle` has them. The first frame is the grid as it is,
and every later one follows after `step` more of them, also when the recording cannot be kept
in the end. -/
def exportAnimation (cycle : Simulation → Attempt Simulation Unit) (d : Directory)
    (s : Simulation) (path : Value) (options : AnimationOptions) :
    Attempt (Simulation × Directory) Image :=
  match (targetOf d path).bind fun path => (options.check s).map fun frames => (path, frames) with
  | .error fault => .fail (s, d) fault
  | .ok (path, frames) =>
      ((record (advance cycle options.step) (frames - 1) s).inside fun s => (s, d)).andThen
        fun (s, d) frames =>
          match develop d path s.grid.width s.grid.height options.duration frames with
          | .error fault => .fail (s, d) fault
          | .ok image =>
              (Attempt.tell (s, d.add path image)
                (.animationWritten options.frames options.step path)).map fun _ => image

end Terrarium.Picture
