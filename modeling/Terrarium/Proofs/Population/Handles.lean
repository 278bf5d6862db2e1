import Terrarium.Proofs.Population.Account

/-!
Handles over a whole history. Requests to a population are data, and what became of handles is
read off their answers and events alone: an insertion issues the handle it returns, a removal
that is told retires one. Main statement: no handle is issued twice, the live ones are those
issued and not retired since, and a retired one opens nothing any more.
-/

namespace Terrarium.Population

inductive Request where
  | spawn (limits : Limits) (ip : Point) (direction : Direction)
  | insert (o : Organism)
  | insertChild (limits : Limits) (child : Organism)
  | remove (slot : SlotId) (cause : RemovalCause)
  | enforceMax (remover : Remover) (limit : Option Nat) (g : Generator)
  | charge (slots : List SlotId)
  | dedup
  | setFocus (slot : Option SlotId)
  | killFocused

def serve (p : Population) : Request → Attempt Population (Option SlotId)
  | .spawn limits ip direction => (p.spawn limits ip direction).map some
  | .insert o => (p.insert o).map some
  | .insertChild limits child => (p.insertChild limits child).map some
  | .remove slot cause => (p.remove slot cause).map fun _ => none
  | .enforceMax remover limit g =>
      ((p.enforceMax remover limit g).inside Prod.fst).map fun _ => none
  | .charge slots => (p.charge slots).map fun _ => none
  | .dedup => p.dedup.map fun _ => none
  | .setFocus slot => .done (p.setFocus slot).1 none
  | .killFocused => p.killFocused.map fun _ => none

/-- A request that fails does not end the history: the next one finds what it left. -/
def serveAll (p : Population) (requests : List Request) : Population :=
  requests.foldl (fun p request => (p.serve request).state) p

inductive Dealing where
  | issued (slot : SlotId)
  | retired (slot : SlotId)
deriving DecidableEq

def issuedBy : Except Fault (Option SlotId) → List Dealing
  | .ok (some slot) => [.issued slot]
  | _ => []

def dealings (attempt : Attempt Population (Option SlotId)) : List Dealing :=
  issuedBy attempt.answer ++ (removals attempt.events).map fun removal => .retired removal.1

def history (p : Population) : List Request → List Dealing
  | [] => []
  | request :: rest => dealings (p.serve request) ++ (p.serve request).state.history rest

def issued (history : List Dealing) : List SlotId :=
  history.filterMap fun
    | .issued slot => some slot
    | .retired _ => none

def Move.dealing? : Move → Option Dealing
  | enter slot _ => some (.issued slot)
  | leave slot _ => some (.retired slot)
  | _ => none

theorem issued_dealings (moves : List Move) :
    issued (moves.filterMap Move.dealing?) = entered moves := by
  rw [issued, List.filterMap_filterMap, entered]
  have same : (fun move => (Move.dealing? move).bind fun
      | .issued slot => some slot
      | .retired _ => none) = Move.entered? := by
    funext move
    cases move <;> rfl
  exact congrArg (List.filterMap · moves) same

theorem retired_mem_dealings (moves : List Move) (slot : SlotId) :
    .retired slot ∈ moves.filterMap Move.dealing? ↔ slot ∈ left moves := by
  simp only [left, List.mem_filterMap]
  apply exists_congr
  intro move
  cases move <;> simp [Move.dealing?, Move.left?]

theorem dealings_of_removals (moves : List Move) (nobody : ∀ move ∈ moves, move.entered? = none) :
    ((moves.filterMap Move.removal?).map fun removal => Dealing.retired removal.1) =
      moves.filterMap Move.dealing? := by
  induction moves with
  | nil => rfl
  | cons move rest ih =>
      have later := ih fun move member => nobody move (List.mem_cons_of_mem _ member)
      cases move with
      | enter slot o => exact absurd (nobody _ List.mem_cons_self) (by simp [Move.entered?])
      | change slot o => exact later
      | leave slot cause => exact congrArg (Dealing.retired slot :: ·) later
      | look focus => exact later

def EntersAlone (moves : List Move) : Prop := entered moves = [] ∨ ∃ slot o, moves = [.enter slot o]

theorem insert_trail (p : Population) (o : Organism) :
    ∃ moves, Trail p moves (p.insert o).state ∧
      dealings ((p.insert o).map some) = moves.filterMap Move.dealing? ∧ EntersAlone moves := by
  by_cases dead : o.phase = .dead
  · exact ⟨[], by rw [insert_dead p dead]; exact ⟨.stay p, rfl, .inl rfl⟩⟩
  · refine ⟨[.enter p.allocate.1 o], ?_⟩
    rw [insert_alive dead]
    exact ⟨(enter_account dead).trail, rfl, .inr ⟨_, _, rfl⟩⟩

theorem trail_of_account {p q : Population} {events : List Event} {moves : List Move}
    (account : Account p q events moves) (nobody : ∀ move ∈ moves, move.entered? = none)
    {attempt : Attempt Population (Option SlotId)} (state : attempt.state = q)
    (told : attempt.events = events) (answer : issuedBy attempt.answer = []) :
    ∃ moves, Trail p moves attempt.state ∧ dealings attempt = moves.filterMap Move.dealing? ∧
      EntersAlone moves := by
  -- The account tells of removals only, and there is nothing else to tell of.
  refine ⟨moves, state ▸ account.trail, ?_, .inl (List.filterMap_eq_nil_iff.mpr nobody)⟩
  rw [dealings, answer, told, List.nil_append, account.told]
  exact dealings_of_removals moves nobody

/-- A request brings in one organism and does nothing else, or it brings in nobody. -/
theorem serve_trail {p : Population} (tidy : p.Tidy) (request : Request) :
    ∃ moves, Trail p moves (p.serve request).state ∧
      dealings (p.serve request) = moves.filterMap Move.dealing? ∧ EntersAlone moves := by
  cases request with
  | spawn limits ip direction =>
      have alive : ((Organism.newborn ip direction).within limits).phase ≠ .dead := by
        simp [Organism.newborn, Organism.within]
      refine ⟨[.enter p.allocate.1 ((Organism.newborn ip direction).within limits)], ?_⟩
      simp only [serve, spawn_eq]
      exact ⟨(enter_account alive).trail, rfl, .inr ⟨_, _, rfl⟩⟩
  | insert o => exact insert_trail p o
  | insertChild limits child => exact insert_trail p (child.within limits)
  | remove slot cause =>
      by_cases live : slot ∈ p.slots
      · obtain ⟨o, found⟩ := get?_of_mem_slots live
        apply trail_of_account (leave_account live o.kill cause) (by simp [Move.entered?]) <;>
          simp [serve, remove_live cause found, issuedBy, Except.map]
      · apply trail_of_account (.nothing p) (by simp) <;>
          simp [serve, remove_absent cause live, issuedBy, Except.map]
  | enforceMax remover limit g =>
      obtain ⟨victims, account, answer⟩ := enforceMax_account remover limit g p tidy
      exact trail_of_account account (by simp [Move.entered?]) rfl rfl
        (by simp [serve, answer, issuedBy, Except.map])
  | charge slots =>
      obtain ⟨moves, account, charging, count, answer⟩ := charge_account slots p tidy
      refine trail_of_account account ?_ rfl rfl (by simp [serve, answer, issuedBy, Except.map])
      intro move member
      have only := charging move member
      cases move <;> first | rfl | exact only.elim
  | dedup =>
      obtain ⟨account, answer⟩ := dedup_account p tidy
      exact trail_of_account account (by simp [Move.entered?]) rfl rfl
        (by simp [serve, answer, issuedBy, Except.map])
  | setFocus slot =>
      obtain ⟨moves, account, looks⟩ := setFocus_account p slot
      refine trail_of_account account ?_ rfl rfl rfl
      rintro move member
      obtain ⟨focus, rfl⟩ := looks move member
      rfl
  | killFocused =>
      obtain ⟨moves, account, kills, killed, answer⟩ := killFocused_account p tidy
      refine trail_of_account account ?_ rfl rfl (by simp [serve, answer, issuedBy, Except.map])
      rintro move member
      obtain ⟨slot, rfl⟩ := kills move member
      rfl

theorem serveAll_trail {p : Population} (tidy : p.Tidy) (requests : List Request) :
    ∃ moves, Trail p moves (p.serveAll requests) ∧
      p.history requests = moves.filterMap Move.dealing? := by
  induction requests generalizing p with
  | nil => exact ⟨[], .stay p, rfl⟩
  | cons request rest ih =>
      obtain ⟨first, trail, told, _⟩ := serve_trail tidy request
      obtain ⟨later, trail', told'⟩ := ih (trail.tidy tidy)
      refine ⟨first ++ later, trail.append trail', ?_⟩
      rw [history, told, told', List.filterMap_append]

theorem slots_of_empty {moves : List Move} {p : Population} (trail : Trail .empty moves p) :
    p.slots = (entered moves).filter (fun slot => slot ∉ left moves) := by
  have order := trail.slots_eq empty_tidy
  simpa only [empty, slots, List.map_nil, List.nil_append] using order

/-- Nothing is retired before it was issued, so a handle that is live was not retired at all. -/
theorem mem_slots_iff_issued {moves : List Move} {p : Population} (trail : Trail .empty moves p)
    (slot : SlotId) :
    slot ∈ p.slots ↔ ∃ before after, moves.filterMap Move.dealing? = before ++ .issued slot :: after ∧
      .retired slot ∉ after := by
  rw [slots_of_empty trail, List.mem_filter, decide_eq_true_eq]
  constructor
  · rintro ⟨entry, staying⟩
    obtain ⟨move, member, enters⟩ := List.mem_filterMap.mp entry
    have issue : Dealing.issued slot ∈ moves.filterMap Move.dealing? := by
      refine List.mem_filterMap.mpr ⟨move, member, ?_⟩
      cases move <;> simp_all [Move.entered?, Move.dealing?]
    obtain ⟨before, after, split⟩ := List.append_of_mem issue
    refine ⟨before, after, split, fun retired => staying ?_⟩
    rw [← retired_mem_dealings, split]
    exact List.mem_append_right _ (List.mem_cons_of_mem _ retired)
  · rintro ⟨before, after, split, unretired⟩
    obtain ⟨earlier, rest, rfl, first, later⟩ := List.filterMap_eq_append_iff.mp split
    obtain ⟨q, head, tail⟩ := trail.split
    have entry : slot ∈ entered rest := by
      rw [← issued_dealings, later]
      simp [issued]
    constructor
    · rw [entered_append]
      exact List.mem_append_right _ entry
    · rw [← retired_mem_dealings, split]
      intro retired
      rcases List.mem_append.mp retired with soon | late
      · -- A handle that had left by then is spent, and is not handed out again.
        rw [← first, retired_mem_dealings] at soon
        have spent := head.spent_of_left empty_tidy soon
        exact tail.not_entered (head.tidy empty_tidy) (Or.inr spent) entry
      · rcases List.mem_cons.mp late with same | after
        · cases same
        · exact unretired after

theorem retired_opens_nothing {moves : List Move} {p : Population} (trail : Trail .empty moves p)
    {slot : SlotId} (retired : slot ∈ left moves) :
    p.get? slot = none ∧ p.contains slot = false ∧ p.setFocus (some slot) = (p, false) ∧
      ∀ cause, p.remove slot cause = .fail p (.vacantSlot slot.index slot.generation) := by
  have absent : slot ∉ p.slots := fun live =>
    (trail.tidy empty_tidy).not_spent live (trail.spent_of_left empty_tidy retired)
  have outside : p.contains slot = false := by
    rw [Bool.eq_false_iff]
    exact fun inside => absent ((contains_iff p slot).mp inside)
  refine ⟨(get?_eq_none_iff p slot).mpr absent, outside, ?_, fun cause => remove_absent cause absent⟩
  simp [setFocus, outside]

/-- Over every history of requests to a population that was empty at first. -/
theorem handles_never_reused (requests : List Request) :
    let p := Population.empty.serveAll requests
    let history := Population.empty.history requests
    (issued history).Nodup ∧
      (∀ slot, slot ∈ p.slots ↔
        ∃ before after, history = before ++ .issued slot :: after ∧ .retired slot ∉ after) ∧
      (∀ slot, .retired slot ∈ history →
        p.get? slot = none ∧ p.contains slot = false ∧ p.setFocus (some slot) = (p, false) ∧
          ∀ cause, p.remove slot cause = .fail p (.vacantSlot slot.index slot.generation) ∧
            (Fault.vacantSlot slot.index slot.generation).kind = "PopulationError") ∧
      (∀ o : Organism, o.phase = .dead →
        p.insert o = .fail p .deadNewcomer ∧ Fault.deadNewcomer.kind = "PopulationError") ∧
      p.slots = (issued history).filter (fun slot => .retired slot ∉ history) := by
  intro p history
  obtain ⟨moves, trail, told⟩ := serveAll_trail empty_tidy requests
  have told : history = moves.filterMap Move.dealing? := told
  have issues : issued history = entered moves := by rw [told, issued_dealings]
  have retires (slot : SlotId) : .retired slot ∈ history ↔ slot ∈ left moves := by
    rw [told, retired_mem_dealings]
  refine ⟨?_, ?_, ?_, ?_, ?_⟩
  · rw [issues]
    exact (List.nodup_append.mp (trail.nodup empty_tidy)).2.1
  · intro slot
    rw [told]
    exact mem_slots_iff_issued trail slot
  · intro slot retired
    obtain ⟨absent, outside, unfocused, refused⟩ :=
      retired_opens_nothing trail ((retires slot).mp retired)
    exact ⟨absent, outside, unfocused, fun cause => ⟨refused cause, rfl⟩⟩
  · exact fun o dead => ⟨insert_dead p dead, rfl⟩
  · rw [issues, slots_of_empty trail]
    apply List.filter_congr
    intro slot _
    simp only [retires]

end Terrarium.Population
