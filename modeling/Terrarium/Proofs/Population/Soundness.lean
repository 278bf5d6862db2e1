import Terrarium.Proofs.Organism.Soundness
import Terrarium.Proofs.Population.Account
import Terrarium.Proofs.Settings.Limits

/-!
A population is sound when its slot table is tidy and each of its members is sound. Newcomers
that are sound keep it so, as long as the limits they enter under leave them a life to live;
removals cannot spoil it, and a charge either leaves some life or removes its organism.
-/

namespace Terrarium

theorem Organism.Sound.within {width height : Nat} {o : Organism} {limits : Limits}
    (sound : o.Sound width height) (lasting : limits.Sound) :
    (o.within limits).Sound width height := by
  refine { sound with lifespan := ?_, children := ?_ }
  · intro cycles budget
    obtain ⟨count, limit, rfl⟩ := Option.map_eq_some_iff.mp budget
    have positive := lasting count limit
    simp only [Int.ofNat_eq_natCast]
    omega
  · intro cycles budget
    obtain ⟨count, _, rfl⟩ := Option.map_eq_some_iff.mp budget
    exact Int.natCast_nonneg count

namespace Population

structure Sound (width height : Nat) (p : Population) : Prop where
  tidy : p.Tidy
  members : ∀ m ∈ p.members, m.2.Sound width height

theorem empty_sound (width height : Nat) : Population.empty.Sound width height :=
  ⟨empty_tidy, by simp [empty]⟩

namespace Sound
variable {width height : Nat} {p : Population}

theorem get? (sound : p.Sound width height) {slot : SlotId} {o : Organism}
    (found : p.get? slot = some o) : o.Sound width height :=
  sound.members _ (mem_members_of_get? found)

theorem trail {q : Population} {moves : List Move} (sound : p.Sound width height)
    (trail : Trail p moves q) (brings : ∀ move ∈ moves, move.Brings fun m => m.2.Sound width height) :
    q.Sound width height :=
  ⟨trail.tidy sound.tidy, trail.members brings sound.members⟩

theorem emptied {q : Population} (sound : p.Sound width height) (victims : List SlotId)
    (cause : RemovalCause) (trail : Trail p (victims.map fun slot => .leave slot cause) q) :
    q.Sound width height := by
  refine sound.trail trail ?_
  intro move member
  obtain ⟨_, _, rfl⟩ := List.mem_map.mp member
  trivial

theorem update (sound : p.Sound width height) (slot : SlotId) {o : Organism}
    (good : o.Sound width height) : (p.update slot o).Sound width height := by
  refine ⟨change_tidy sound.tidy slot o, ?_⟩
  intro m member
  obtain ⟨old, here, rfl⟩ := List.mem_map.mp member
  split
  · exact good
  · exact sound.members old here

theorem insert (sound : p.Sound width height) {o : Organism} (good : o.Sound width height) :
    (p.insert o).Ensures (Population.Sound width height) (fun _ => True) := by
  rw [insert_alive good.alive]
  exact .done (sound.trail (enter_account good.alive).trail (by simpa [Move.Brings] using good)) trivial

theorem insertChild (sound : p.Sound width height) {limits : Limits} (lasting : limits.Sound)
    {child : Organism} (good : child.Sound width height) :
    (p.insertChild limits child).Ensures (Population.Sound width height) (fun _ => True) :=
  sound.insert (good.within lasting)

theorem spawn (sound : p.Sound width height) {limits : Limits} (lasting : limits.Sound) {ip : Point}
    (inside : ip.Within width height) (direction : Direction) :
    (p.spawn limits ip direction).Ensures (Population.Sound width height) (fun _ => True) := by
  have good := (Organism.newborn_sound inside direction).within lasting
  rw [spawn_eq]
  exact ⟨sound.trail (enter_account good.alive).trail (by simpa [Move.Brings] using good),
    fun _ _ => trivial⟩

theorem remove (sound : p.Sound width height) (slot : SlotId) (cause : RemovalCause) :
    (p.remove slot cause).Ensures (Population.Sound width height) (fun _ => True) := by
  by_cases live : slot ∈ p.slots
  · obtain ⟨o, found⟩ := get?_of_mem_slots live
    rw [remove_live cause found]
    exact ⟨sound.emptied [slot] cause (leave_account live o.kill cause).trail,
      fun _ _ => trivial⟩
  · rw [remove_absent cause live]
    exact .fail _ sound

theorem enforceMax (sound : p.Sound width height) (remover : Remover) (limit : Option Nat)
    (g : Generator) : (p.enforceMax remover limit g).state.1.Sound width height := by
  obtain ⟨victims, account, _⟩ := enforceMax_account remover limit g p sound.tidy
  exact sound.emptied victims .culled account.trail

theorem chargeOne (sound : p.Sound width height) (slot : SlotId) :
    (p.chargeOne slot).state.Sound width height := by
  cases found : p.get? slot with
  | none =>
      rw [chargeOne_absent found]
      exact sound
  | some o =>
      cases expired : o.tickLifespan.2 with
      | false =>
          rw [chargeOne_lasting found expired]
          exact sound.update slot ((sound.get? found).tickLifespan expired)
      | true =>
          rw [chargeOne_expired sound.tidy.distinct found expired]
          exact sound.emptied [slot] .expired
            (leave_account (mem_slots_of_get? found) o .expired).trail

theorem charge (sound : p.Sound width height) (slots : List SlotId) :
    (p.charge slots).state.Sound width height := by
  induction slots generalizing p with
  | nil => exact sound
  | cons slot rest ih =>
      obtain ⟨_, _, _, expired, answer⟩ := chargeOne_account p sound.tidy slot
      rw [Population.charge, Attempt.andThen_of_ok _ answer]
      exact ih (sound.chargeOne slot)

theorem dedup (sound : p.Sound width height) : p.dedup.state.Sound width height :=
  sound.emptied _ .dedup (dedup_account p sound.tidy).1.trail

theorem setFocus (sound : p.Sound width height) (slot : Option SlotId) :
    (p.setFocus slot).1.Sound width height := by
  obtain ⟨moves, account, looks⟩ := setFocus_account p slot
  refine sound.trail account.trail ?_
  intro move member
  obtain ⟨focus, rfl⟩ := looks move member
  trivial

theorem killFocused (sound : p.Sound width height) : p.killFocused.state.Sound width height := by
  obtain ⟨moves, account, kills, _⟩ := killFocused_account p sound.tidy
  refine sound.trail account.trail ?_
  intro move member
  obtain ⟨slot, rfl⟩ := kills move member
  trivial

end Sound
end Population
end Terrarium
