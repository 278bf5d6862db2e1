import Terrarium.Proofs.Population.Account

/-!
Where the focus goes. As long as nobody asks for another focus it stays with its organism, and there
is none once that organism has left; whoever comes into its index afterwards has another handle. The
listing marks it once, and a look-up by ordinal reads the same order.
-/

namespace Terrarium.Population

def Move.Steady : Move → Prop
  | .look _ => False
  | _ => True

def Steadily (p q : Population) : Prop :=
  ∃ moves, Trail p moves q ∧ ∀ move ∈ moves, move.Steady

namespace Steadily
variable {p q r : Population}

theorem refl (p : Population) : Steadily p p := ⟨[], .stay p, by simp⟩

theorem trans (first : Steadily p q) (second : Steadily q r) : Steadily p r := by
  obtain ⟨moves, trail, steady⟩ := first
  obtain ⟨later, trail', steady'⟩ := second
  refine ⟨moves ++ later, trail.append trail', ?_⟩
  intro move member
  rcases List.mem_append.mp member with before | after
  · exact steady move before
  · exact steady' move after

theorem enter {o : Organism} (alive : o.phase ≠ .dead) :
    Steadily p (p.moved (.enter p.allocate.1 o)) :=
  ⟨[.enter p.allocate.1 o], .single _ ⟨rfl, alive⟩, by simp [Move.Steady]⟩

theorem change {slot : SlotId} (live : slot ∈ p.slots) (o : Organism) :
    Steadily p (p.update slot o) :=
  ⟨[.change slot o], .single (.change slot o) live, by simp [Move.Steady]⟩

theorem of_leaves {events : List Event} {slots : List SlotId} {cause : RemovalCause}
    (account : Account p q events (slots.map fun slot => .leave slot cause)) : Steadily p q := by
  refine ⟨_, account.trail, ?_⟩
  intro move member
  obtain ⟨slot, _, rfl⟩ := List.mem_map.mp member
  trivial

theorem tidy (steadily : Steadily p q) (start : p.Tidy) : q.Tidy := by
  obtain ⟨_, trail, _⟩ := steadily
  exact trail.tidy start

/-- The focus stays where it is for as long as its organism is live. -/
theorem focus (steadily : Steadily p q) (tidy : p.Tidy) :
    q.focus = p.focus.filter (· ∈ q.slots) := by
  obtain ⟨moves, trail, steady⟩ := steadily
  induction trail with
  | stay p =>
      cases focus : p.focus with
      | none => rfl
      | some slot => simp [Option.filter, tidy.focused slot focus]
  | @go p q move rest allowed onwards ih =>
      have later := ih (moved_tidy tidy allowed) fun other member =>
        steady other (List.mem_cons_of_mem _ member)
      cases move with
      | enter slot o => simpa [moved] using later
      | change slot o => exact later
      | look focus => exact absurd (steady _ List.mem_cons_self) id
      | leave slot cause =>
          -- Whoever leaves does not come back, so that its focus is lost for good.
          have gone : slot ∉ q.slots := fun live =>
            (onwards.tidy (moved_tidy tidy allowed)).not_spent live
              (onwards.spent (left_spent tidy allowed))
          rw [later]
          by_cases same : p.focus = some slot
          · simp [moved, vacate, same, Option.filter, gone]
          · simp [moved, vacate, same]

end Steadily

section Requests
variable {p : Population}

theorem setFocus_granted_iff (slot : Option SlotId) :
    (p.setFocus slot).2 = true ↔ ∀ handle, slot = some handle → handle ∈ p.slots := by
  cases slot with
  | none => simp [setFocus]
  | some handle =>
      have contained := contains_iff p handle
      by_cases live : p.contains handle = true <;> simp_all [setFocus]

theorem setFocus_granted {slot : Option SlotId} (granted : (p.setFocus slot).2 = true) :
    (p.setFocus slot).1 = { p with focus := slot } := by
  cases slot with
  | none => rfl
  | some handle =>
      simp only [setFocus] at granted ⊢
      split at granted
      · next live => rw [if_pos live]
      · cases granted

theorem setFocus_refused {slot : Option SlotId} (refused : (p.setFocus slot).2 = false) :
    (p.setFocus slot).1 = p := by
  cases slot with
  | none => cases refused
  | some handle =>
      simp only [setFocus] at refused ⊢
      split at refused
      · cases refused
      · next absent => rw [if_neg absent]

theorem killFocused_answers (tidy : p.Tidy) : p.killFocused.answer = .ok p.focus.isSome := by
  cases focus : p.focus with
  | none => simp [killFocused, focus]
  | some slot =>
      obtain ⟨o, found⟩ := get?_of_mem_slots (tidy.focused slot focus)
      simp [killFocused, focus, remove_live .kill found, Except.map]

end Requests

section Listing
variable {p : Population}

theorem slots_views (p : Population) : p.views.map View.slot = p.slots := by
  have listed : p.views.map View.slot = (p.members.zipIdx.map Prod.fst).map Prod.fst := by
    simp only [views, List.map_map]
    rfl
  rw [listed, List.zipIdx_map_fst]
  rfl

theorem focused_views {view : View} (member : view ∈ p.views) :
    view.focused = decide (p.focus = some view.slot) := by
  obtain ⟨row, _, rfl⟩ := List.mem_map.mp member
  rfl

/-- The focus is marked once in the listing, and nobody is marked without a focus. -/
theorem focus_views (tidy : p.Tidy) :
    (p.views.filter View.focused).map View.slot = p.focus.toList := by
  let isFocus (slot : SlotId) : Bool := decide (p.focus = some slot)
  have marked : p.views.filter View.focused = p.views.filter (isFocus ∘ View.slot) :=
    List.filter_congr fun _ member => focused_views member
  have slots : (p.views.filter View.focused).map View.slot = p.slots.filter isFocus := by
    rw [marked, ← List.filter_map, slots_views]
  rw [slots]
  simp only [isFocus]
  cases focus : p.focus with
  | none => simp
  | some slot =>
      have live := tidy.focused slot focus
      have once : p.slots.count slot = 1 := by rw [tidy.distinct.count, if_pos live]
      have equal : p.slots.filter (fun other => decide (some slot = some other)) =
          p.slots.filter fun other => decide (other = slot) :=
        List.filter_congr fun other _ => by simp [eq_comm]
      rw [equal, List.filter_eq, once]
      rfl

theorem slotFor_views (p : Population) (ordinal : Int) :
    p.slotFor ordinal =
      if ordinal < 0 then none else (p.views[ordinal.toNat]?).map View.slot := by
  rw [← List.getElem?_map, slots_views]
  rfl

end Listing
end Terrarium.Population
