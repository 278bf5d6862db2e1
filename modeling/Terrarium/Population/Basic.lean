import Terrarium.Organism.Motion
import Terrarium.Population.Remover
import Terrarium.Settings.Basic

/-!
The living organisms, in creation order, with the one in focus. An index that has been
freed is handed out again before a new one, last freed first, and its generation has
gone up by then; so no handle is ever handed out twice.
-/

namespace Terrarium

/-- Members are values: what is done to the organism of one handle is done to no other. It is
taken for granted that no organism stands under two handles at a time; nothing in the simulation
ever puts one there. -/
structure Population where
  members : List (SlotId × Organism) := []
  generations : List Nat := []
  free : List Nat := []
  focus : Option SlotId := none

/-- One line of a listing. The ordinal is a place in that listing only. -/
structure View where
  ordinal : Nat
  slot : SlotId
  focused : Bool
  organism : Organism

def Organism.within (o : Organism) (limits : Limits) : Organism :=
  { o with
    lifespan := limits.lifespan.map Int.ofNat
    children := limits.maxChildren.map Int.ofNat }

namespace Population

def empty : Population := {}

def size (p : Population) : Nat := p.members.length

def slots (p : Population) : List SlotId := p.members.map Prod.fst

def get? (p : Population) (slot : SlotId) : Option Organism := p.members.lookup slot

def contains (p : Population) (slot : SlotId) : Bool := p.slots.contains slot

def update (p : Population) (slot : SlotId) (o : Organism) : Population :=
  { p with members := p.members.map fun m => if m.1 = slot then (slot, o) else m }

def allocate (p : Population) : SlotId × Population :=
  match p.free with
  | index :: rest => (⟨index, p.generations.getD index 0⟩, { p with free := rest })
  | [] => (⟨p.generations.length, 0⟩, { p with generations := p.generations ++ [0] })

def insert (p : Population) (o : Organism) : Attempt Population SlotId :=
  if o.isAlive then
    let (slot, p) := p.allocate
    .done { p with members := p.members ++ [(slot, o)] } slot
  else .fail p .deadNewcomer

def insertChild (p : Population) (limits : Limits) (child : Organism) :
    Attempt Population SlotId :=
  p.insert (child.within limits)

/-- The place is told as it was handed in, and is taken to be short enough to be written out; the
places that the simulation hands in lie on its torus. -/
def spawn (p : Population) (limits : Limits) (ip : Point) (direction : Direction) :
    Attempt Population SlotId :=
  (p.insert ((Organism.newborn ip direction).within limits)).andThen fun p slot =>
    (Attempt.tell p (.spawned slot ip direction)).map fun _ => slot

def vacate (p : Population) (slot : SlotId) : Population where
  members := p.members.filter fun m => m.1 ≠ slot
  generations := p.generations.modify slot.index (· + 1)
  free := slot.index :: p.free
  focus := if p.focus = some slot then none else p.focus

def remove (p : Population) (slot : SlotId) (cause : RemovalCause) :
    Attempt Population Organism :=
  match p.get? slot with
  | none => .fail p (.vacantSlot slot.index slot.generation)
  | some o =>
      { state := p.vacate slot
        events := [.removed slot o.kill cause]
        answer := .ok o.kill }

def removeAll (cause : RemovalCause) (slots : List SlotId) (p : Population) :
    Attempt Population Unit :=
  Attempt.forEach (fun p slot => (p.remove slot cause).map fun _ => ()) slots p

def removeCounted (cause : RemovalCause) (about : Nat → Event) (slots : List SlotId)
    (p : Population) : Attempt Population Nat :=
  (p.removeAll cause slots).andThen fun p _ =>
    let count := slots.length
    { state := p
      events := if count = 0 then [] else [about count]
      answer := .ok count }

def enforceMax (remover : Remover) (limit : Option Nat) (g : Generator) (p : Population) :
    Attempt (Population × Generator) Nat :=
  match limit with
  | none => .done (p, g) 0
  | some limit =>
      if p.size ≤ limit then .done (p, g) 0
      else
        ((remover.choose p.slots limit g).inside fun g => (p, g)).andThen
          fun (p, g) victims =>
            (p.removeCounted .culled (fun count => .culled count limit) victims).inside
              fun p => (p, g)

def chargeOne (p : Population) (slot : SlotId) : Attempt Population Bool :=
  match p.get? slot with
  | none => .done p false
  | some o =>
      let (o, expired) := o.tickLifespan
      let p := p.update slot o
      if expired then (p.remove slot .expired).map fun _ => true else .done p false

def charge : List SlotId → Population → Attempt Population Nat
  | [], p => .done p 0
  | slot :: rest, p =>
      (p.chargeOne slot).andThen fun p expired =>
        (charge rest p).map fun count => if expired then count + 1 else count

/-- The slots whose key has been seen, here or among those before. -/
def duplicates (seen : List StateKey) : List (SlotId × Organism) → List SlotId
  | [] => []
  | (slot, o) :: rest =>
      if seen.contains o.key then slot :: duplicates seen rest
      else duplicates (o.key :: seen) rest

/-- Of the organisms with one key the first created stays. -/
def dedup (p : Population) : Attempt Population Nat :=
  p.removeCounted .dedup .deduplicated (duplicates [] p.members)

/-- The answer is whether the focus is now as asked. -/
def setFocus (p : Population) (slot : Option SlotId) : Population × Bool :=
  match slot with
  | none => ({ p with focus := none }, true)
  | some slot => if p.contains slot then ({ p with focus := some slot }, true) else (p, false)

def focused? (p : Population) : Option Organism := p.focus.bind p.get?

def killFocused (p : Population) : Attempt Population Bool :=
  match p.focus with
  | none => .done p false
  | some slot => (p.remove slot .kill).map fun _ => true

def views (p : Population) : List View :=
  p.members.zipIdx.map fun ((slot, o), i) => ⟨i, slot, p.focus = some slot, o⟩

def slotFor (p : Population) (ordinal : Int) : Option SlotId :=
  if ordinal < 0 then none else p.slots[ordinal.toNat]?

end Population
end Terrarium
