import Terrarium.Fault
import Terrarium.Picture.Image

/-!
The directory that pictures are written into. It holds files only, so a path into it has one
part; a path may also climb out of it, where there are directories and no file that we know.
-/

namespace Terrarium

/-- Files in order of creation, each under its path; one that holds no image is `none`. -/
structure Directory where
  files : List (String × Option Image) := []

/-- What a path leads to. Text with a zero character in it cannot be handed over as a path, and
leads nowhere. -/
inductive Sight where
  | free
  | file
  | directory
  | blocked (obstacle : Obstacle)
  | noPath

namespace Directory

def parts (path : String) : List String :=
  (path.splitOn "/").filter fun part => part ≠ "" ∧ part ≠ "."

def normalize (path : String) : String :=
  let top := if path.startsWith "/" then "/" else ""
  match parts path with
  | [] => if top.isEmpty then "." else top
  | names => top ++ "/".intercalate names

def holds (d : Directory) (path : String) : Bool := d.files.any fun file => file.1 == path

def longestName : Nat := 255

def longestPath : Nat := 4095

/-- Follows the parts of a path, from this directory or from one above it. -/
def walk (d : Directory) (outside : Bool) : List String → Sight
  | [] => .directory
  | name :: rest =>
      if name = ".." then walk d true rest
      else if longestName < name.utf8ByteSize then .blocked .nameTooLong
      else if !outside && d.holds name then
        if rest.isEmpty then .file else .blocked .notADirectory
      else if rest.isEmpty then .free
      else .blocked .noDirectory

def hasZero (path : String) : Bool := path.toList.any fun c => c.toNat == 0

def look (d : Directory) (path : String) : Sight :=
  if hasZero path then .noPath
  else if longestPath < path.utf8ByteSize then .blocked .nameTooLong
  else if d.holds path then .file
  else walk d (path.startsWith "/") (parts path)

/-- A path is open to a new file as long as nothing is seen there. One that leads nowhere
counts as open, since only writing finds that out. -/
def checkOpen (d : Directory) (path : String) : Except Fault Unit :=
  match d.look path with
  | .file | .directory => .error (.targetExists path)
  | .blocked .nameTooLong => .error (.pathRefused .nameTooLong path)
  | _ => .ok ()

def refusal? (d : Directory) (path : String) : Option Fault :=
  match d.look path with
  | .noPath => some .zeroInPath
  | .blocked obstacle => some (.notWritten obstacle path)
  | _ => none

def add (d : Directory) (path : String) (image : Image) : Directory where
  files := d.files ++ [(path, some image)]

/-- Makes an empty file, also in place of a file that is there. -/
def touch (d : Directory) (path : String) : Except Fault Directory :=
  let path := normalize path
  match d.look path with
  | .noPath => .error .zeroInPath
  | .directory => .error (.pathRefused .isADirectory path)
  | .blocked obstacle => .error (.pathRefused obstacle path)
  | .free => .ok { files := d.files ++ [(path, none)] }
  | .file =>
      .ok { files := d.files.map fun file => if file.1 = path then (path, none) else file }

def images (d : Directory) : List (String × Image) :=
  d.files.filterMap fun file => file.2.map fun image => (file.1, image)

end Directory
end Terrarium
