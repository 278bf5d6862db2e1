/-!
Handles of organisms. An index is used again after its organism is gone; the
generation tells the tenants of one index apart.
-/

namespace Terrarium

structure SlotId where
  index : Nat
  generation : Nat
deriving DecidableEq

def SlotId.describe (slot : SlotId) : String :=
  toString slot.index ++ ":" ++ toString slot.generation

inductive RemovalCause where
  | halt
  | kill
  | expired
  | culled
  | dedup
deriving DecidableEq

namespace RemovalCause

def all : List RemovalCause := [halt, kill, expired, culled, dedup]

def name : RemovalCause → String
  | halt => "halt"
  | kill => "kill"
  | expired => "expired"
  | culled => "culled"
  | dedup => "dedup"

def ofName? (text : String) : Option RemovalCause := all.find? fun cause => cause.name == text

end RemovalCause
end Terrarium
