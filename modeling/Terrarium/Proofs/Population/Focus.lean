import Terrarium.Proofs.Attempt
import Terrarium.Population.Basic

/-!
The focus is along for the ride. Organisms come and go in the same way whichever of them is in
focus, and all that becomes of the focus is that it is lost with its organism.
-/

namespace Terrarium

/-- Another focus in place of each, lost with an organism when the first one is. -/
structure Gaze where
  see : Option SlotId → Option SlotId
  lost : ∀ focus slot,
    see (if focus = some slot then none else focus) =
      if see focus = some slot then none else see focus

namespace Gaze

def steady : Gaze where
  see focus := focus
  lost _ _ := rfl

def averted : Gaze where
  see _ := none
  lost _ _ := by simp

end Gaze

namespace Population
variable {gaze : Gaze}

def seen (gaze : Gaze) (p : Population) : Population := { p with focus := gaze.see p.focus }

theorem vacate_seen (p : Population) (slot : SlotId) :
    (p.seen gaze).vacate slot = (p.vacate slot).seen gaze := by
  unfold vacate seen
  dsimp only
  rw [gaze.lost]

theorem insert_seen (p : Population) (o : Organism) :
    (p.seen gaze).insert o = (p.insert o).inside (seen gaze) := by
  have allocated : (p.seen gaze).allocate = (p.allocate.1, p.allocate.2.seen gaze) := by
    have free : (p.seen gaze).free = p.free := rfl
    unfold allocate
    rw [free]
    split <;> rfl
  unfold insert
  rw [allocated]
  split <;> rfl

theorem spawn_seen (p : Population) (limits : Limits) (ip : Point) (direction : Direction) :
    (p.seen gaze).spawn limits ip direction = (p.spawn limits ip direction).inside (seen gaze) := by
  unfold spawn
  rw [insert_seen]
  apply Attempt.inside_andThen
  intro _ _
  rfl

theorem remove_seen (p : Population) (slot : SlotId) (cause : RemovalCause) :
    (p.seen gaze).remove slot cause = (p.remove slot cause).inside (seen gaze) := by
  have found : (p.seen gaze).get? slot = p.get? slot := rfl
  unfold remove
  rw [found]
  split
  · rfl
  · simp only [vacate_seen]
    rfl

theorem removeAll_seen (cause : RemovalCause) (slots : List SlotId) (p : Population) :
    (p.seen gaze).removeAll cause slots = (p.removeAll cause slots).inside (seen gaze) :=
  Attempt.forEach_inside (P := fun _ => True) slots (fun _ _ _ => trivial)
    (fun q slot _ => congrArg (Attempt.map fun _ => ()) (remove_seen q slot cause)) trivial

theorem removeCounted_seen (cause : RemovalCause) (about : Nat → Event) (slots : List SlotId)
    (p : Population) :
    (p.seen gaze).removeCounted cause about slots =
      (p.removeCounted cause about slots).inside (seen gaze) := by
  unfold removeCounted
  rw [removeAll_seen]
  apply Attempt.inside_andThen
  intro _ _
  rfl

theorem enforceMax_seen (remover : Remover) (limit : Option Nat) (g : Generator) (p : Population) :
    enforceMax remover limit g (p.seen gaze) =
      (enforceMax remover limit g p).inside fun state => (state.1.seen gaze, state.2) := by
  have size : (p.seen gaze).size = p.size := rfl
  have slots : (p.seen gaze).slots = p.slots := rfl
  unfold enforceMax
  rw [size, slots]
  split
  · rfl
  · next limit =>
      split
      · rfl
      · have placed : (remover.choose p.slots limit g).inside (fun g => (p.seen gaze, g)) =
            ((remover.choose p.slots limit g).inside fun g => (p, g)).inside
              fun state => (state.1.seen gaze, state.2) := rfl
        rw [placed]
        apply Attempt.inside_andThen
        intro victims _
        dsimp only
        rw [removeCounted_seen]
        rfl

theorem charge_seen (slots : List SlotId) (p : Population) :
    charge slots (p.seen gaze) = (charge slots p).inside (seen gaze) := by
  have one (p : Population) (slot : SlotId) :
      (p.seen gaze).chargeOne slot = (p.chargeOne slot).inside (seen gaze) := by
    have found : (p.seen gaze).get? slot = p.get? slot := rfl
    unfold chargeOne
    rw [found]
    split
    · rfl
    · next o _ =>
        have updated (o : Organism) : (p.seen gaze).update slot o = (p.update slot o).seen gaze := rfl
        dsimp only
        rw [updated, remove_seen]
        split <;> rfl
  induction slots generalizing p with
  | nil => rfl
  | cons slot rest ih =>
      rw [charge, charge, one]
      apply Attempt.inside_andThen
      intro expired _
      rw [ih]
      rfl

theorem dedup_seen (p : Population) : (p.seen gaze).dedup = p.dedup.inside (seen gaze) :=
  removeCounted_seen .dedup .deduplicated (duplicates [] p.members) p

end Population
end Terrarium
