import Terrarium.Proofs.Instruction.Translation
import Terrarium.Proofs.Population.Soundness

/-!
A population carried along by a translation: its organisms are elsewhere, under the same handles
and in the same order. Handles, policies and budgets never look at places; only duplicates do,
and since no two places are carried to one, organisms are duplicates after as before.
-/

namespace Terrarium.Translation
variable {t : Translation} {g : Grid}
open Population

def population (t : Translation) (p : Population) : Population :=
  { p with members := p.members.map fun m => (m.1, t.organism m.2) }

section Table
variable (p : Population)

@[simp] theorem slots_population : (t.population p).slots = p.slots := by
  simp only [slots, population, List.map_map]
  rfl

@[simp] theorem size_population : (t.population p).size = p.size := by
  simp only [size, population, List.length_map]

@[simp] theorem allocate_population :
    (t.population p).allocate = (p.allocate.1, t.population p.allocate.2) := by
  simp only [allocate, population]
  cases p.free <;> rfl

@[simp] theorem get?_population (slot : SlotId) :
    (t.population p).get? slot = (p.get? slot).map t.organism := by
  simp only [get?, population]
  induction p.members with
  | nil => rfl
  | cons m rest ih =>
      obtain ⟨other, o⟩ := m
      cases here : slot == other with
      | true => simp only [List.map_cons, List.lookup_cons, here, Option.map_some]
      | false => simpa only [List.map_cons, List.lookup_cons, here] using ih

@[simp] theorem update_population (slot : SlotId) (o : Organism) :
    (t.population p).update slot (t.organism o) = t.population (p.update slot o) := by
  simp only [update, population, List.map_map, Population.mk.injEq, and_true]
  apply List.map_congr_left
  intro m _
  simp only [Function.comp_apply]
  split <;> rfl

@[simp] theorem vacate_population (slot : SlotId) :
    (t.population p).vacate slot = t.population (p.vacate slot) := by
  simp only [vacate, population, List.filter_map]
  rfl

end Table

theorem insert_population (p : Population) (o : Organism) :
    (t.population p).insert (t.organism o) = (p.insert o).inside t.population := by
  have same : (t.organism o).isAlive = o.isAlive := rfl
  unfold Population.insert
  rw [same, allocate_population]
  split
  · simp only [Attempt.done, Attempt.inside, population, List.map_append, List.map_cons,
      List.map_nil]
  · rfl

theorem insertChild_population (p : Population) (limits : Limits) (child : Organism) :
    (t.population p).insertChild limits (t.organism child) =
      (p.insertChild limits child).inside t.population :=
  insert_population p (child.within limits)

theorem spawn_population (p : Population) (limits : Limits) (ip : Point) (direction : Direction) :
    (p.spawn limits ip direction).InStep (Attempt.Image t.population) Eq
      ((t.population p).spawn limits (t.point ip) direction) := by
  have inserted : (t.population p).insert ((Organism.newborn (t.point ip) direction).within limits) =
      (p.insert ((Organism.newborn ip direction).within limits)).inside t.population :=
    insert_population p ((Organism.newborn ip direction).within limits)
  unfold Population.spawn
  rw [inserted]
  apply Attempt.InStep.andThen (.image t.population _)
  rintro q _ slot _ rfl rfl
  exact ⟨rfl, .ok rfl, rfl⟩

theorem remove_population (p : Population) (slot : SlotId) (cause : RemovalCause) :
    (p.remove slot cause).InStep (Attempt.Image t.population) (Attempt.Image t.organism)
      ((t.population p).remove slot cause) := by
  unfold Population.remove
  rw [get?_population]
  cases p.get? slot with
  | none => exact .fail _ rfl
  | some o =>
      have killed : (t.organism o).kill = t.organism o.kill := by
        have same : (t.organism o).isAlive = o.isAlive := rfl
        unfold Organism.kill
        rw [same]
        split <;> rfl
      exact ⟨vacate_population p slot, .ok killed, rfl⟩

theorem removeAll_population (cause : RemovalCause) (victims : List SlotId) (p : Population) :
    (p.removeAll cause victims).InStep (Attempt.Image t.population) (fun _ _ => True)
      ((t.population p).removeAll cause victims) := by
  apply Attempt.InStep.forEach
  · rintro q _ slot _ rfl
    exact (remove_population q slot cause).map fun _ _ _ => trivial
  · rfl

theorem removeCounted_population (cause : RemovalCause) (about : Nat → Event)
    (victims : List SlotId) (p : Population) :
    (p.removeCounted cause about victims).InStep (Attempt.Image t.population) Eq
      ((t.population p).removeCounted cause about victims) := by
  apply (removeAll_population cause victims p).andThen
  rintro q _ _ _ rfl _
  exact ⟨rfl, .ok rfl, rfl⟩

theorem enforceMax_population (remover : Remover) (limit : Option Nat) (g : Generator)
    (p : Population) :
    (p.enforceMax remover limit g).InStep
      (Attempt.Image fun state => (t.population state.1, state.2)) Eq
      ((t.population p).enforceMax remover limit g) := by
  unfold Population.enforceMax
  cases limit with
  | none => exact .done rfl rfl
  | some limit =>
      simp only [size_population, slots_population]
      split
      · exact .done rfl rfl
      · have chosen : ((remover.choose p.slots limit g).inside fun g => (p, g)).InStep
            (Attempt.Image fun state => (t.population state.1, state.2)) Eq
            ((remover.choose p.slots limit g).inside fun g => (t.population p, g)) :=
          ⟨rfl, .refl _, rfl⟩
        apply chosen.andThen
        rintro ⟨q, g⟩ _ victims _ rfl rfl
        have culled := removeCounted_population (t := t) .culled
          (fun count => .culled count limit) victims q
        exact culled.inside fun same => congrArg (fun q => (q, g)) same

theorem tickLifespan_organism (o : Organism) :
    (t.organism o).tickLifespan = (t.organism o.tickLifespan.1, o.tickLifespan.2) := by
  unfold Organism.tickLifespan
  rw [lifespan_organism]
  split <;> rfl

theorem chargeOne_population (p : Population) (slot : SlotId) :
    (p.chargeOne slot).InStep (Attempt.Image t.population) Eq
      ((t.population p).chargeOne slot) := by
  unfold Population.chargeOne
  rw [get?_population]
  cases p.get? slot with
  | none => exact .done rfl rfl
  | some o =>
      simp only [Option.map_some, tickLifespan_organism, update_population]
      cases o.tickLifespan with
      | mk left expired =>
          cases expired with
          | true => exact (remove_population _ slot .expired).map fun _ _ _ => rfl
          | false => exact .done rfl rfl

theorem charge_population (slots : List SlotId) (p : Population) :
    (p.charge slots).InStep (Attempt.Image t.population) Eq ((t.population p).charge slots) := by
  induction slots generalizing p with
  | nil => exact .done rfl rfl
  | cons slot rest ih =>
      apply (chargeOne_population p slot).andThen
      rintro q _ expired _ rfl rfl
      apply (ih q).map
      rintro count _ rfl
      rfl

def key (t : Translation) (k : StateKey) : StateKey :=
  { k with ip := t.point k.ip, cursor := t.point k.cursor }

theorem key_organism (o : Organism) : (t.organism o).key = t.key o.key := rfl

theorem key_injective (fits : t.Fits g) {o p : Organism} (sound : o.Sound t.width t.height)
    (sound' : p.Sound t.width t.height) (same : t.key o.key = t.key p.key) : o.key = p.key := by
  simp only [key, Organism.key, StateKey.mk.injEq] at same ⊢
  obtain ⟨ip, direction, ax, bx, flag, radius, cursor, rest⟩ := same
  exact ⟨point_injective fits sound.ip sound'.ip ip, direction, ax, bx, flag, radius,
    point_injective fits sound.cursor sound'.cursor cursor, rest⟩

theorem seen_key (fits : t.Fits g) (before : List Organism)
    (sound : ∀ o ∈ before, o.Sound t.width t.height) {o : Organism}
    (here : o.Sound t.width t.height) :
    ((before.map Organism.key).map t.key).contains (t.key o.key) =
      (before.map Organism.key).contains o.key := by
  rw [Bool.eq_iff_iff, List.contains_iff_mem, List.contains_iff_mem]
  constructor
  · -- Only organisms on the torus have been seen, and there keys are not confused.
    intro member
    obtain ⟨k, old, same⟩ := List.mem_map.mp member
    obtain ⟨p, earlier, rfl⟩ := List.mem_map.mp old
    rw [← key_injective fits (sound p earlier) here same]
    exact old
  · exact List.mem_map_of_mem

theorem duplicates_population (fits : t.Fits g) (before : List Organism)
    (members : List (SlotId × Organism)) (sound : ∀ o ∈ before, o.Sound t.width t.height)
    (sound' : ∀ m ∈ members, m.2.Sound t.width t.height) :
    duplicates ((before.map Organism.key).map t.key)
        (members.map fun m => (m.1, t.organism m.2)) =
      duplicates (before.map Organism.key) members := by
  induction members generalizing before with
  | nil => rfl
  | cons m rest ih =>
      have here := sound' m List.mem_cons_self
      have later := fun other member => sound' other (List.mem_cons_of_mem m member)
      simp only [List.map_cons, duplicates, key_organism, seen_key fits before sound here]
      split
      · rw [ih before sound later]
      · have more := ih (m.2 :: before) (by
          intro o member
          rcases List.mem_cons.mp member with rfl | old
          · exact here
          · exact sound o old) later
        exact more

theorem dedup_population (fits : t.Fits g) {p : Population} (sound : p.Sound t.width t.height) :
    p.dedup.InStep (Attempt.Image t.population) Eq (t.population p).dedup := by
  have same : duplicates [] (t.population p).members = duplicates [] p.members :=
    duplicates_population fits [] p.members (by simp) sound.members
  unfold Population.dedup
  rw [same]
  exact removeCounted_population .dedup .deduplicated _ p

end Terrarium.Translation
