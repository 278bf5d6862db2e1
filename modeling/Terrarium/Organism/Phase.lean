/-!
The phases of an organism's life: it is ready to execute, sits out a delay, or
is dead for good.
-/

namespace Terrarium

inductive Phase where
  | ready
  | delaying
  | dead
deriving DecidableEq

namespace Phase

def all : List Phase := [ready, delaying, dead]

def name : Phase → String
  | ready => "ready"
  | delaying => "delaying"
  | dead => "dead"

def ofName? (text : String) : Option Phase := all.find? fun phase => phase.name == text

def isTerminal : Phase → Bool
  | dead => true
  | _ => false

def successors : Phase → List Phase
  | ready => [delaying, dead]
  | delaying => [ready, dead]
  | dead => []

/-- A living phase may also lead to itself. -/
def allows (current next : Phase) : Bool :=
  if current = next then !current.isTerminal else current.successors.contains next

theorem allows_eq (current next : Phase) : current.allows next = !current.isTerminal := by
  cases current <;> cases next <;> rfl

end Phase
end Terrarium
