import Terrarium.Proofs.Attempt
import Terrarium.Proofs.Population.Trail

/-!
Every operation on a population is a trail of moves, and tells of its removals as they happen.
The batch removals leave nobody behind half way: their victims are live and all different.
-/

namespace Terrarium.Population
variable {α β γ : Type}

def removals (events : List Event) : List (SlotId × RemovalCause) :=
  (Event.removals events).map fun removal => (removal.1, removal.2.2)

/-- From one population to another along these moves, with the removals told by these events. -/
structure Account (p q : Population) (events : List Event) (moves : List Move) : Prop where
  trail : Trail p moves q
  told : removals events = moves.filterMap Move.removal?

namespace Account
variable {p q r : Population} {events events' : List Event} {moves moves' : List Move}

theorem nothing (p : Population) : Account p p [] [] := ⟨.stay p, rfl⟩

theorem append (head : Account p q events moves) (tail : Account q r events' moves') :
    Account p r (events ++ events') (moves ++ moves') where
  trail := head.trail.append tail.trail
  told := by
    rw [List.filterMap_append, ← head.told, ← tail.told]
    simp only [removals, Event.removals_append, List.map_append]

theorem remark (account : Account p q events moves) {event : Event}
    (other : Event.removals [event] = []) : Account p q (events ++ [event]) moves where
  trail := account.trail
  told := by
    simp only [removals, Event.removals_append, other, List.append_nil]
    exact account.told

end Account

theorem insert_alive {p : Population} {o : Organism} (alive : o.phase ≠ .dead) :
    p.insert o = .done (p.moved (.enter p.allocate.1 o)) p.allocate.1 := by
  simp [insert, Organism.isAlive, alive, moved]

theorem insert_dead (p : Population) {o : Organism} (dead : o.phase = .dead) :
    p.insert o = .fail p .deadNewcomer := by
  simp [insert, Organism.isAlive, dead]

theorem enter_account {p : Population} {o : Organism} (alive : o.phase ≠ .dead) :
    Account p (p.moved (.enter p.allocate.1 o)) [] [.enter p.allocate.1 o] :=
  ⟨.single _ ⟨rfl, alive⟩, rfl⟩

theorem spawn_eq (p : Population) (limits : Limits) (ip : Point) (direction : Direction) :
    p.spawn limits ip direction =
      ⟨p.moved (.enter p.allocate.1 ((Organism.newborn ip direction).within limits)),
        [.spawned p.allocate.1 ip direction], .ok p.allocate.1⟩ := by
  have alive : ((Organism.newborn ip direction).within limits).phase ≠ .dead := by
    simp [Organism.newborn, Organism.within]
  rw [spawn, insert_alive alive]
  rfl

theorem remove_live {p : Population} {slot : SlotId} (cause : RemovalCause) {o : Organism}
    (found : p.get? slot = some o) :
    p.remove slot cause = ⟨p.vacate slot, [.removed slot o.kill cause], .ok o.kill⟩ := by
  simp [remove, found]

theorem remove_absent {p : Population} {slot : SlotId} (cause : RemovalCause)
    (absent : slot ∉ p.slots) :
    p.remove slot cause = .fail p (.vacantSlot slot.index slot.generation) := by
  simp [remove, (get?_eq_none_iff p slot).mpr absent]

theorem leave_account {p : Population} {slot : SlotId} (live : slot ∈ p.slots)
    (remains : Organism) (cause : RemovalCause) :
    Account p (p.vacate slot) [.removed slot remains cause] [.leave slot cause] :=
  ⟨.single (.leave slot cause) live, rfl⟩

theorem removeAll_account (cause : RemovalCause) (victims : List SlotId) (p : Population)
    (distinct : victims.Nodup) (live : ∀ slot ∈ victims, slot ∈ p.slots) :
    Account p (p.removeAll cause victims).state (p.removeAll cause victims).events
        (victims.map fun slot => .leave slot cause) ∧
      (p.removeAll cause victims).answer = .ok () := by
  induction victims generalizing p with
  | nil => exact ⟨.nothing p, rfl⟩
  | cons slot rest ih =>
      obtain ⟨o, found⟩ := get?_of_mem_slots (live slot List.mem_cons_self)
      obtain ⟨absent, distinct⟩ := List.nodup_cons.mp distinct
      -- The victims still to come are live after the first has left, since they are others.
      have staying : ∀ other ∈ rest, other ∈ (p.vacate slot).slots := by
        intro other member
        refine (mem_slots_vacate p slot other).mpr
          ⟨live other (List.mem_cons_of_mem _ member), ?_⟩
        rintro rfl
        exact absent member
      obtain ⟨account, answer⟩ := ih (p.vacate slot) distinct staying
      have first : ((p.remove slot cause).map fun _ => ()).answer = .ok () := by
        simp [remove_live cause found, Except.map]
      have whole : p.removeAll cause (slot :: rest) =
          ⟨((p.vacate slot).removeAll cause rest).state,
            [.removed slot o.kill cause] ++ ((p.vacate slot).removeAll cause rest).events,
            ((p.vacate slot).removeAll cause rest).answer⟩ := by
        rw [removeAll, Attempt.forEach, Attempt.andThen_of_ok _ first]
        simp only [Attempt.map_state, Attempt.map_events, remove_live cause found]
        rfl
      rw [whole]
      exact ⟨(leave_account (live slot List.mem_cons_self) o.kill cause).append account, answer⟩

theorem removeCounted_account (cause : RemovalCause) (about : Nat → Event)
    (other : ∀ count, Event.removals [about count] = []) (victims : List SlotId) (p : Population)
    (distinct : victims.Nodup) (live : ∀ slot ∈ victims, slot ∈ p.slots) :
    Account p (p.removeCounted cause about victims).state
        (p.removeCounted cause about victims).events
        (victims.map fun slot => .leave slot cause) ∧
      (p.removeCounted cause about victims).answer = .ok victims.length := by
  obtain ⟨account, answer⟩ := removeAll_account cause victims p distinct live
  rw [removeCounted, Attempt.andThen_of_ok _ answer]
  refine ⟨?_, rfl⟩
  by_cases none : victims.length = 0
  · simpa [none] using account
  · simpa [none] using account.remark (other _)

theorem perm_cons_eraseIdx {members : List α} {place : Nat} {victim : α}
    (found : members[place]? = some victim) :
    (victim :: members.eraseIdx place).Perm members := by
  obtain ⟨inside, same⟩ := List.getElem?_eq_some_iff.mp found
  have split : members.take place ++ victim :: members.drop (place + 1) = members := by
    rw [← same, List.getElem_cons_drop, List.take_append_drop]
  rw [List.eraseIdx_eq_take_drop_succ]
  exact List.perm_middle.symm.trans (.of_eq split)

/-- Those drawn are some of the members, each as often as it is there. -/
theorem drawOut_perm (count : Nat) (members : List α) (g : Generator) :
    ∃ others, ((Remover.drawOut count members g).1 ++ others).Perm members := by
  induction count generalizing members g with
  | zero => exact ⟨members, .refl _⟩
  | succ count ih =>
      simp only [Remover.drawOut]
      split
      · exact ⟨members, .refl _⟩
      · next victim found =>
          obtain ⟨others, perm⟩ :=
            ih (members.eraseIdx (g.below members.length).1) (g.below members.length).2
          exact ⟨others, (perm.cons victim).trans (perm_cons_eraseIdx found)⟩

/-- Nobody is drawn twice, so there is somebody to draw as long as not all of them are gone. -/
theorem drawOut_length {count : Nat} {members : List α} (enough : count ≤ members.length)
    (g : Generator) : (Remover.drawOut count members g).1.length = count := by
  induction count generalizing members g with
  | zero => rfl
  | succ count ih =>
      have inside := Generator.below_lt (Nat.zero_lt_of_lt enough) g
      have left : count ≤ (members.eraseIdx (g.below members.length).1).length := by
        rw [List.length_eraseIdx_of_lt inside]
        omega
      simp [Remover.drawOut, List.getElem?_eq_getElem inside, ih left]

/-- Keeping a number that is not negative, either policy names as many of the members as are too
many; the one that takes the oldest names the first. -/
theorem choose_ok (remover : Remover) (members : List α) (keep : Nat) (g : Generator) :
    ∃ victims others, (remover.choose members keep g).answer = .ok victims ∧
      (victims ++ others).Perm members ∧ (remover.choose members keep g).events = [] ∧
      victims.length = members.length - keep ∧
      (remover = .oldest → victims = members.take (members.length - keep)) := by
  cases remover with
  | oldest =>
      refine ⟨members.take (members.length - keep), members.drop (members.length - keep), ?_, ?_,
        rfl, ?_, fun _ => rfl⟩
      · simp [Remover.choose]
      · rw [List.take_append_drop]
      · rw [List.length_take]
        omega
  | random =>
      have kept : ¬ (keep : Int) < 0 := by omega
      obtain ⟨others, perm⟩ := drawOut_perm (members.length - keep) members g
      refine ⟨_, others, ?_, perm, ?_, drawOut_length (Nat.sub_le _ _) g, nofun⟩ <;>
        simp [Remover.choose, kept]

def excess (p : Population) : Option Nat → Nat
  | none => 0
  | some limit => p.size - limit

theorem enforceMax_small {p : Population} {limit : Option Nat} (small : p.excess limit = 0)
    (remover : Remover) (g : Generator) : p.enforceMax remover limit g = .done (p, g) 0 := by
  cases limit with
  | none => rfl
  | some limit =>
      have few : p.size ≤ limit := Nat.sub_eq_zero_iff_le.mp small
      simp [enforceMax, few]

/-- The policy that takes the oldest draws nothing, and nobody draws when nobody has to go. -/
theorem enforceMax_reseeded (p : Population) {remover : Remover} {limit : Option Nat}
    (certain : p.excess limit = 0 ∨ remover = .oldest) (g g' : Generator) :
    p.enforceMax remover limit g' =
      (p.enforceMax remover limit g).inside fun state => (state.1, g') := by
  by_cases small : p.excess limit = 0
  · rw [enforceMax_small small, enforceMax_small small]
    rfl
  · obtain rfl := certain.resolve_left small
    unfold enforceMax
    split
    · rfl
    · split <;> rfl

/-- Those culled are live and all different, as many as are too many, and the first of all when the
oldest go. -/
theorem enforceMax_culls (remover : Remover) (limit : Option Nat) (g : Generator)
    (p : Population) (distinct : p.slots.Nodup) :
    ∃ victims : List SlotId, Account p (p.enforceMax remover limit g).state.1
        (p.enforceMax remover limit g).events (victims.map fun slot => .leave slot .culled) ∧
      (p.enforceMax remover limit g).answer = .ok victims.length ∧ victims.Nodup ∧
      (∀ slot ∈ victims, slot ∈ p.slots) ∧ victims.length = p.excess limit ∧
      (remover = .oldest → victims = p.slots.take (p.excess limit)) := by
  by_cases small : p.excess limit = 0
  · rw [enforceMax_small small, small]
    exact ⟨[], .nothing p, rfl, List.nodup_nil, by simp, rfl, fun _ => rfl⟩
  · obtain ⟨limit, rfl⟩ : ∃ number, limit = some number :=
      Option.ne_none_iff_exists'.mp fun none => small (by rw [none]; rfl)
    have large : ¬ p.size ≤ limit := fun few => small (Nat.sub_eq_zero_of_le few)
    obtain ⟨victims, others, answer, perm, quiet, many, first⟩ := choose_ok remover p.slots limit g
    rw [show p.slots.length - limit = p.excess (some limit) by simp [slots, excess, size]]
      at many first
    have apart : victims.Nodup := (List.nodup_append.mp (perm.nodup_iff.mpr distinct)).1
    have live : ∀ slot ∈ victims, slot ∈ p.slots := fun slot member =>
      perm.mem_iff.mp (List.mem_append_left _ member)
    obtain ⟨account, count⟩ := removeCounted_account .culled
      (fun count => .culled count limit) (fun _ => rfl) victims p apart live
    have chosen : ((remover.choose p.slots limit g).inside fun g => (p, g)).answer = .ok victims :=
      answer
    have culled := Attempt.andThen_of_ok
      (fun (state : Population × Generator) victims =>
        (state.1.removeCounted .culled (fun count => .culled count limit) victims).inside
          fun p => (p, state.2)) chosen
    refine ⟨victims, ?_, ?_, apart, live, many, first⟩
    · simp only [enforceMax, large, ↓reduceIte]
      rw [culled]
      simpa [quiet] using account
    · simp only [enforceMax, large, ↓reduceIte]
      rw [culled]
      simpa using count

theorem enforceMax_account (remover : Remover) (limit : Option Nat) (g : Generator)
    (p : Population) (tidy : p.Tidy) :
    ∃ victims : List SlotId, Account p (p.enforceMax remover limit g).state.1
        (p.enforceMax remover limit g).events (victims.map fun slot => .leave slot .culled) ∧
      (p.enforceMax remover limit g).answer = .ok victims.length := by
  obtain ⟨victims, account, answer, _⟩ := enforceMax_culls remover limit g p tidy.distinct
  exact ⟨victims, account, answer⟩

def Charging (slots : List SlotId) : Move → Prop
  | .change slot _ => slot ∈ slots
  | .leave slot cause => slot ∈ slots ∧ cause = .expired
  | _ => False

theorem chargeOne_absent {p : Population} {slot : SlotId} (absent : p.get? slot = none) :
    p.chargeOne slot = .done p false := by
  simp [chargeOne, absent]

theorem chargeOne_lasting {p : Population} {slot : SlotId} {o : Organism}
    (found : p.get? slot = some o) (lasting : o.tickLifespan.2 = false) :
    p.chargeOne slot = .done (p.update slot o.tickLifespan.1) false := by
  simp [chargeOne, found, lasting]

theorem chargeOne_expired {p : Population} (distinct : p.slots.Nodup) {slot : SlotId} {o : Organism}
    (found : p.get? slot = some o) (expired : o.tickLifespan.2 = true) :
    p.chargeOne slot =
      ⟨p.vacate slot, [.removed slot o.tickLifespan.1.kill .expired], .ok true⟩ := by
  -- What is removed is the organism with its last cycle charged, put back just before.
  have found' := get?_update_self distinct (mem_slots_of_get? found) o.tickLifespan.1
  simp [chargeOne, found, expired, remove_live .expired found', vacate_update, Attempt.map, Except.map]

theorem chargeOne_account (p : Population) (tidy : p.Tidy) (slot : SlotId) :
    ∃ moves, Account p (p.chargeOne slot).state (p.chargeOne slot).events moves ∧
      (∀ move ∈ moves, Charging [slot] move) ∧ ∃ expired, (p.chargeOne slot).answer = .ok expired := by
  cases found : p.get? slot with
  | none =>
      rw [chargeOne_absent found]
      exact ⟨[], .nothing p, by simp, false, rfl⟩
  | some o =>
      have live := mem_slots_of_get? found
      cases expired : o.tickLifespan.2 with
      | false =>
          rw [chargeOne_lasting found expired]
          exact ⟨_, ⟨.single (.change slot o.tickLifespan.1) live, rfl⟩,
            by simp [Charging], false, rfl⟩
      | true =>
          rw [chargeOne_expired tidy.distinct found expired]
          exact ⟨_, leave_account live o.tickLifespan.1.kill .expired, by simp [Charging], true, rfl⟩

theorem charge_account (slots : List SlotId) (p : Population) (tidy : p.Tidy) :
    ∃ moves, Account p (p.charge slots).state (p.charge slots).events moves ∧
      (∀ move ∈ moves, Charging slots move) ∧ ∃ count, (p.charge slots).answer = .ok count := by
  induction slots generalizing p with
  | nil => exact ⟨[], .nothing p, by simp, 0, rfl⟩
  | cons slot rest ih =>
      obtain ⟨moves, account, charging, expired, answer⟩ := chargeOne_account p tidy slot
      obtain ⟨others, account', charging', count, answer'⟩ :=
        ih (p.chargeOne slot).state (account.trail.tidy tidy)
      refine ⟨moves ++ others, ?_, ?_, if expired then count + 1 else count, ?_⟩
      · rw [charge, Attempt.andThen_of_ok _ answer]
        exact account.append account'
      · intro move member
        rcases List.mem_append.mp member with first | later
        · have only := charging move first
          cases move <;> simp_all [Charging]
        · have only := charging' move later
          cases move <;> simp_all [Charging]
      · rw [charge, Attempt.andThen_of_ok _ answer]
        simp [answer', Except.map]

theorem duplicates_sublist (seen : List StateKey) (members : List (SlotId × Organism)) :
    (duplicates seen members).Sublist (members.map Prod.fst) := by
  induction members generalizing seen with
  | nil => exact .refl _
  | cons m rest ih =>
      simp only [duplicates, List.map_cons]
      split
      · exact (ih seen).cons_cons _
      · exact (ih _).cons _

/-- Handles that are all different are all that a deduplication needs to come to its end. -/
theorem dedup_victims {p : Population} (distinct : p.slots.Nodup) :
    Account p p.dedup.state p.dedup.events
        ((duplicates [] p.members).map fun slot => .leave slot .dedup) ∧
      p.dedup.answer = .ok (duplicates [] p.members).length := by
  have some := duplicates_sublist [] p.members
  exact removeCounted_account .dedup .deduplicated (fun _ => rfl) _ p (some.nodup distinct)
    fun slot member => some.subset member

theorem dedup_account (p : Population) (tidy : p.Tidy) :
    Account p p.dedup.state p.dedup.events
        ((duplicates [] p.members).map fun slot => .leave slot .dedup) ∧
      p.dedup.answer = .ok (duplicates [] p.members).length :=
  dedup_victims tidy.distinct

theorem setFocus_account (p : Population) (slot : Option SlotId) :
    ∃ moves, Account p (p.setFocus slot).1 [] moves ∧
      ∀ move ∈ moves, ∃ focus, move = .look focus := by
  have looked (focus : Option SlotId) (live : ∀ slot, focus = some slot → slot ∈ p.slots) :
      Account p { p with focus := focus } [] [.look focus] :=
    ⟨.single (.look focus) live, rfl⟩
  cases slot with
  | none => exact ⟨_, looked none (by simp), by simp⟩
  | some slot =>
      by_cases live : p.contains slot = true
      · refine ⟨[.look (some slot)], ?_, by simp⟩
        simpa [setFocus, live] using looked (some slot) (by simpa using (contains_iff p slot).mp live)
      · exact ⟨[], by simpa [setFocus, live] using Account.nothing p, by simp⟩

theorem killFocused_account (p : Population) (tidy : p.Tidy) :
    ∃ moves, Account p p.killFocused.state p.killFocused.events moves ∧
      (∀ move ∈ moves, ∃ slot, move = .leave slot .kill) ∧
      ∃ killed, p.killFocused.answer = .ok killed := by
  cases focus : p.focus with
  | none => exact ⟨[], by simpa [killFocused, focus] using Account.nothing p, by simp, false, by
      simp [killFocused, focus]⟩
  | some slot =>
      have live := tidy.focused slot focus
      obtain ⟨o, found⟩ := get?_of_mem_slots live
      refine ⟨[.leave slot .kill], ?_, by simp, true, ?_⟩
      · simpa [killFocused, focus, remove_live .kill found] using leave_account live o.kill .kill
      · simp [killFocused, focus, remove_live .kill found, Except.map]

end Terrarium.Population
