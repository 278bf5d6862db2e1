import Terrarium.Picture.Export
import Terrarium.Proofs.Picture.Directory
import Terrarium.Proofs.Picture.Rendering
import Terrarium.Proofs.Simulation.Offspring
import Terrarium.Proofs.Simulation.Refusal

/-!
Recordings of a simulation. The pictures of an animation are taken between runs of cycles, so the
recording leaves the simulation where one run of all the cycles leaves it. Main statement: which
cells each picture shows, where the simulation ends, and which recordings are refused before the
simulation moves.
-/

namespace Terrarium

namespace Simulation
open Attempt

theorem runCycles_answer (s : Simulation) (count : Nat) :
    (s.runCycles count).answer = (stepCycles count s).answer := by
  rw [runCycles, runCyclesAs, if_neg (by omega)]
  change ((stepCycles count s).andThen _).answer = _
  cases answer : (stepCycles count s).answer with
  | error fault => rw [andThen_of_error _ answer]
  | ok value => rw [andThen_of_ok _ answer]; rfl

end Simulation

namespace Picture
open Attempt Simulation

def cellsAfter (s : Simulation) (cycles : Nat) : List (List Nat) :=
  indices (stepCycles cycles s).state.grid.snapshot

/-- Picture `i` is taken after `i * step` cycles, and no cycle follows on the last. -/
theorem record_cycles (step more : Nat) (s : Simulation)
    (completed : (stepCycles (more * step) s).answer = .ok ()) :
    (record (advance stepCycle (.int step)) more s).state = (stepCycles (more * step) s).state ∧
      (record (advance stepCycle (.int step)) more s).answer =
        .ok ((List.range (more + 1)).map fun i => cellsAfter s (i * step)) := by
  induction more generalizing s with
  | zero =>
      rw [Nat.zero_mul]
      refine ⟨rfl, ?_⟩
      simp [record, cellsAfter, stepCycles, repeated]
  | succ more ih =>
      have split : (more + 1) * step = step + more * step := by rw [Nat.succ_mul, Nat.add_comm]
      rw [split] at completed ⊢
      rw [stepCycles_add] at completed ⊢
      obtain ⟨_, first, rest⟩ := andThen_ok completed
      obtain ⟨ends, pictures⟩ := ih _ rest
      have moved : (advance stepCycle (.int step) s).answer = .ok () :=
        (s.runCycles_answer step).trans first
      have reached : (advance stepCycle (.int step) s).state = (stepCycles step s).state :=
        s.runCycles_state step
      -- What is recorded from here on are the pictures of the whole but the first.
      have later (i : Nat) :
          cellsAfter (stepCycles step s).state (i * step) = cellsAfter s ((i + 1) * step) := by
        rw [cellsAfter, cellsAfter, Nat.succ_mul, Nat.add_comm, stepCycles_add,
          andThen_of_ok _ first]
      rw [record, andThen_of_ok _ moved, andThen_of_ok _ first, reached]
      refine ⟨ends, ?_⟩
      have now : indices s.grid.snapshot = cellsAfter s (0 * step) := by rw [Nat.zero_mul]; rfl
      rw [map_answer, pictures, now, List.range_succ_eq_map (n := more + 1), List.map_cons,
        List.map_map]
      simp only [Except.map, Function.comp_def, Nat.succ_eq_add_one, later]

/-- A picture in places of the palette that has each cell of a grid in the category of its byte. -/
structure Shows (g : Grid) (picture : List (List Nat)) : Prop where
  rectangular : Rectangular g.width g.height picture
  cells : ∀ x y : Nat, x < g.width → y < g.height →
    pixel? picture x y = some (Instruction.categoryOf (g.read ⟨x, y⟩)).index

theorem shows_indices (g : Grid) : Shows g (indices g.snapshot) := by
  refine ⟨(rectangular_rowsOf g.rows).map _, ?_⟩
  intro x y x_lt y_lt
  have cell : pixel? g.snapshot x y = some (g.read ⟨x, y⟩) := by
    rw [g.read_natCast x_lt y_lt]
    exact pixel?_rowsOf g.rows ⟨y, y_lt⟩ ⟨x, x_lt⟩
  rw [indices, pixel?_map, cell]
  rfl

section Requests
variable {s : Simulation} {frames step : Int}

def Unfit (s : Simulation) (frames step : Int) : Prop :=
  frames ≤ 0 ∨ step ≤ 0 ∨ maxAnimatedSide < s.grid.width ∨ maxAnimatedSide < s.grid.height

instance : Decidable (Unfit s frames step) := inferInstanceAs (Decidable (_ ∨ _ ∨ _ ∨ _))

theorem check_of_unfit (unfit : Unfit s frames step) (duration : Int) :
    ∃ fault, AnimationOptions.check ⟨.int frames, .int step, duration⟩ s = .error fault ∧
      fault.kind = "ExportError" := by
  by_cases none : frames ≤ 0
  · exact ⟨.noFrames, by simp [AnimationOptions.check, isNotPositive, Except.bind, none], rfl⟩
  by_cases still : step ≤ 0
  · exact ⟨.noFrameStep, by simp [AnimationOptions.check, isNotPositive, Except.bind, none, still],
      rfl⟩
  have big : maxAnimatedSide < s.grid.width ∨ maxAnimatedSide < s.grid.height :=
    (unfit.resolve_left none).resolve_left still
  exact ⟨.tooBigToAnimate s.grid.width s.grid.height,
    by simp [AnimationOptions.check, isNotPositive, Except.bind, none, still, big], rfl⟩

theorem check_of_fit (fit : ¬ Unfit s frames step) (duration : Int) :
    AnimationOptions.check ⟨.int frames, .int step, duration⟩ s = .ok frames.toNat := by
  simp only [Unfit, not_or] at fit
  obtain ⟨some, moving, narrow, low⟩ := fit
  simp [AnimationOptions.check, isNotPositive, countOf, Except.bind, Except.map, some, moving,
    narrow, low]

theorem targetOf_text (d : Directory) (path : String) :
    targetOf d (.text path) =
      (d.checkOpen (Directory.normalize path)).map fun _ => Directory.normalize path := rfl

theorem exportAnimation_of_fit {d : Directory} {path : String} {more step : Nat}
    (untaken : ¬ d.Taken (Directory.normalize path))
    (short : ¬ d.Overlong (Directory.normalize path)) (fit : ¬ Unfit s (more + 1) step)
    (duration : Int) (completed : (stepCycles (more * step) s).answer = .ok ()) :
    let recorded := exportAnimation stepCycle d s (.text path)
      ⟨.int (more + 1), .int step, duration⟩
    let final := (stepCycles (more * step) s).state
    recorded.state.1 = final ∧
      recorded.answer = develop d (Directory.normalize path) final.grid.width final.grid.height
        duration ((List.range (more + 1)).map fun i => cellsAfter s (i * step)) := by
  intro recorded final
  obtain ⟨ends, pictures⟩ := record_cycles step more s completed
  have asked : (targetOf d (.text path)).bind (fun path =>
      (AnimationOptions.check ⟨.int (more + 1), .int step, duration⟩ s).map fun frames =>
        (path, frames)) = .ok (Directory.normalize path, more + 1) := by
    rw [targetOf_text, Directory.checkOpen_of_open untaken short, check_of_fit fit]
    rfl
  unfold recorded exportAnimation
  rw [asked]
  dsimp only
  rw [Nat.add_sub_cancel, andThen_of_ok _ (by exact pictures), inside_state, ends]
  cases develop d (Directory.normalize path) final.grid.width final.grid.height duration
      ((List.range (more + 1)).map fun i => cellsAfter s (i * step)) with
  | error fault => exact ⟨rfl, rfl⟩
  | ok image => exact ⟨rfl, rfl⟩

theorem exportAnimation_refused {d : Directory} {path : String} {options : AnimationOptions}
    {fault : Fault}
    (refused : (targetOf d (.text path)).bind (fun path =>
      (options.check s).map fun frames => (path, frames)) = .error fault) :
    exportAnimation stepCycle d s (.text path) options = .fail (s, d) fault := by
  rw [exportAnimation, refused]

theorem exportAnimation_of_overlong {d : Directory} {path : String}
    (overlong : d.Overlong (Directory.normalize path)) (options : AnimationOptions) :
    exportAnimation stepCycle d s (.text path) options =
      .fail (s, d) (.pathRefused .nameTooLong (Directory.normalize path)) := by
  apply exportAnimation_refused
  rw [targetOf_text, Directory.checkOpen_of_overlong overlong]
  rfl

end Requests

/-- An animation is the run that it claims to be. Picture `i` shows the grid as it is after `i * step`
cycles, and the simulation ends where one run of all the cycles ends, also when the pictures cannot
be kept. A path that is taken and numbers that do not fit are refused before the simulation moves.
So is a path too long to be looked up, before anything else and as an error of the system. -/
theorem animation_is_the_run {s : Simulation} (reachable : Reachable s) (d : Directory)
    (path : String) (frames step duration : Int) :
    let target := Directory.normalize path
    let recorded := exportAnimation stepCycle d s (.text path) ⟨.int frames, .int step, duration⟩
    (d.Overlong target → recorded = .fail (s, d) (.pathRefused .nameTooLong target)) ∧
    (¬ d.Overlong target → d.Taken target ∨ Unfit s frames step →
      ∃ fault, recorded = .fail (s, d) fault ∧ fault.kind = "ExportError") ∧
    (¬ d.Overlong target → ¬ (d.Taken target ∨ Unfit s frames step) →
      (s.runCycles ((frames - 1) * step)).succeeded = true →
      recorded.state.1 = (s.runCycles ((frames - 1) * step)).state ∧
      ∃ pictures, pictures.length = frames.toNat ∧
        recorded.answer = develop d target s.grid.width s.grid.height duration pictures ∧
        ∀ (i : Nat) picture, pictures[i]? = some picture →
          Shows (s.runCycles (i * step)).state.grid picture) := by
  intro target recorded
  refine ⟨fun overlong => exportAnimation_of_overlong overlong _, ?_, ?_⟩
  · intro short refused
    by_cases taken : d.Taken target
    · refine ⟨.targetExists target, exportAnimation_refused ?_, rfl⟩
      rw [targetOf_text, Directory.checkOpen_of_taken taken]
      rfl
    · obtain ⟨fault, found, kind⟩ := check_of_unfit (refused.resolve_left taken) duration
      refine ⟨fault, exportAnimation_refused ?_, kind⟩
      rw [targetOf_text, Directory.checkOpen_of_open taken short, found]
      rfl
  · intro short accepted succeeded
    obtain ⟨untaken, fit⟩ := not_or.mp accepted
    obtain ⟨some, moving, _⟩ : ¬ frames ≤ 0 ∧ ¬ step ≤ 0 ∧ _ := by
      simpa only [Unfit, not_or] using fit
    obtain ⟨more, rfl⟩ : ∃ more : Nat, frames = more + 1 := ⟨(frames - 1).toNat, by omega⟩
    obtain ⟨between, rfl⟩ : ∃ between : Nat, step = between := ⟨step.toNat, by omega⟩
    have total : ((more : Int) + 1 - 1) * (between : Int) = (more * between : Nat) := by
      rw [Int.add_sub_cancel, Int.natCast_mul]
    rw [total] at succeeded ⊢
    have completed : (stepCycles (more * between) s).answer = .ok () :=
      (s.runCycles_answer _).symm.trans (answer_of_succeeded succeeded)
    obtain ⟨ends, answer⟩ := exportAnimation_of_fit untaken short fit duration completed
    have shaped := (reachable.sound.runCycles (more * between : Nat)).state.shaped
    rw [runCycles_state, Int.toNat_natCast] at shaped ⊢
    have wide : (stepCycles (more * between) s).state.grid.width = s.grid.width := shaped.1
    have high : (stepCycles (more * between) s).state.grid.height = s.grid.height := shaped.2
    rw [wide, high] at answer
    refine ⟨ends, _, ?_, answer, ?_⟩
    · simp only [List.length_map, List.length_range]
      omega
    · intro i picture found
      obtain ⟨_, rfl⟩ := List.getElem?_eq_some_iff.mp found
      rw [List.getElem_map, List.getElem_range, ← Int.natCast_mul, runCycles_state,
        Int.toNat_natCast]
      exact shows_indices _

/-- Three pictures of two cells with two cycles between them, kept under a free name. -/
theorem animation_is_the_run_twoCells :
    let recorded := exportAnimation stepCycle {} twoCells (.text "a") ⟨.int 3, .int 2, 100⟩
    Reachable twoCells ∧ recorded.state.1 = (twoCells.runCycles 4).state ∧
      ∃ pictures, pictures.length = 3 ∧
        recorded.answer = develop {} "a" 2 1 100 pictures ∧
        ∀ (i : Nat) picture, pictures[i]? = some picture →
          Shows (twoCells.runCycles (i * 2)).state.grid picture := by
  intro recorded
  have reachable : Reachable twoCells := ⟨twoCells, twoCells_fresh, .refl⟩
  have named : Directory.IsName "a" := by constructor <;> decide
  have free : Directory.look {} "a" = .free := named.look rfl (by decide)
  have short : ¬ Directory.Overlong {} "a" := by rw [Directory.Overlong, free]; nofun
  have untaken : ¬ Directory.Taken {} "a" := by rw [Directory.Taken, free]; nofun
  have fit : ¬ Unfit twoCells 3 2 := by decide
  obtain ⟨_, _, kept⟩ := animation_is_the_run reachable {} "a" 3 2 100
  rw [named.normalize] at kept
  obtain ⟨ends, pictures, length, answer, shown⟩ :=
    kept short (not_or.mpr ⟨untaken, fit⟩) (by decide +kernel)
  exact ⟨reachable, ends, pictures, length, answer, shown⟩

/-- An animation without a picture is refused as an error of the system, and not of the export,
under a name of one letter too many. -/
theorem overlong_name_is_refused_first :
    let name := String.ofList (List.replicate 256 'a')
    Reachable twoCells ∧ Unfit twoCells 0 1 ∧
      (exportAnimation stepCycle {} twoCells (.text name) ⟨.int 0, .int 1, 100⟩).Raises "OSError" ∧
      ¬ (exportAnimation stepCycle {} twoCells (.text name)
        ⟨.int 0, .int 1, 100⟩).Raises "ExportError" := by
  intro name
  have size : name.utf8ByteSize = 256 := by
    rw [String.utf8ByteSize_ofList]
    decide +kernel
  have unlike {short : String} (small : short.utf8ByteSize < 256) : name ≠ short := by
    intro same
    rw [← same, size] at small
    exact Nat.lt_irrefl 256 small
  have letters : ∀ c ∈ name.toList, c = 'a' := by
    rw [String.toList_ofList]
    exact fun c member => List.eq_of_mem_replicate member
  have noSlash : '/' ∉ name.toList := fun member => absurd (letters _ member) (by decide)
  have noZero : Directory.hasZero name = false := by
    unfold Directory.hasZero
    rw [List.any_eq_false]
    intro c member
    rw [letters c member]
    decide
  have named : Directory.IsName name := ⟨noSlash, noZero, unlike (by decide), unlike (by decide)⟩
  have overlong : Directory.Overlong {} (Directory.normalize name) := by
    rw [named.normalize, Directory.Overlong, named.look rfl (unlike (by decide)), size]
    rfl
  rw [exportAnimation_of_overlong overlong]
  refine ⟨⟨twoCells, twoCells_fresh, .refl⟩, by decide, rfl, ?_⟩
  intro raised
  exact absurd (Option.some.inj raised) (by decide)

end Picture
end Terrarium
