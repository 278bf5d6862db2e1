/-!
Pictures as data: pixels are places in the palette.
-/

namespace Terrarium

inductive ImageFormat where
  | still
  | animation
deriving DecidableEq

def ImageFormat.name : ImageFormat → String
  | still => "PNG"
  | animation => "GIF"

/-- A duration is in milliseconds, where there is one. -/
structure Frame where
  duration : Option Int
  pixels : List (List Nat)
deriving DecidableEq

structure Image where
  format : ImageFormat
  width : Nat
  height : Nat
  frames : List Frame

end Terrarium
