import Terrarium.Proofs.Attempt

/-!
What an action tells on the way from one state to the next. A relation between two states and
what is told in between composes along an action when it composes along its parts; besides,
some things hold only of the state that a success leaves.
-/

namespace Terrarium.Attempt
variable {σ τ α β : Type} {R : σ → List Event → σ → Prop}

def Along (R : σ → List Event → σ → Prop) (start : σ) (attempt : Attempt σ α) : Prop :=
  R start attempt.events attempt.state

structure Chain (R : σ → List Event → σ → Prop) : Prop where
  rest : ∀ state, R state [] state
  onwards : ∀ {start middle finish told later},
    R start told middle → R middle later finish → R start (told ++ later) finish

namespace Chain

theorem done (chain : Chain R) (state : σ) (value : α) : Along R state (Attempt.done state value) :=
  chain.rest state

theorem fail (chain : Chain R) (state : σ) (fault : Fault) :
    Along R state (Attempt.fail state fault : Attempt σ α) :=
  chain.rest state

theorem andThen (chain : Chain R) {start : σ} {first : Attempt σ α} {next : σ → α → Attempt σ β}
    (head : Along R start first)
    (tail : ∀ value, first.answer = .ok value → Along R first.state (next first.state value)) :
    Along R start (first.andThen next) := by
  cases answer : first.answer with
  | error fault =>
      rw [andThen_of_error next answer]
      exact head
  | ok value =>
      rw [andThen_of_ok next answer]
      exact chain.onwards head (tail value answer)

theorem after (chain : Chain R) {start middle : σ} (head : R start [] middle)
    {attempt : Attempt σ α} (tail : Along R middle attempt) : Along R start attempt :=
  chain.onwards head tail

theorem forEach (chain : Chain R) {action : σ → β → Attempt σ Unit} (items : List β)
    (step : ∀ state item, item ∈ items → Along R state (action state item)) (state : σ) :
    Along R state (Attempt.forEach action items state) := by
  induction items generalizing state with
  | nil => exact chain.done state ()
  | cons item rest ih =>
      apply chain.andThen (step state item List.mem_cons_self)
      intro _ _
      exact ih (fun state other later => step state other (List.mem_cons_of_mem _ later)) _

theorem repeated (chain : Chain R) {action : σ → Attempt σ Unit}
    (step : ∀ state, Along R state (action state)) (count : Nat) (state : σ) :
    Along R state (Attempt.repeated action count state) := by
  induction count generalizing state with
  | zero => exact chain.done state ()
  | succ count ih => exact chain.andThen (step state) fun _ _ => ih _

end Chain

theorem Along.map {start : σ} {first : Attempt σ α} (along : Along R start first) (f : α → β) :
    Along R start (first.map f) := along

/-- What an action grants if it succeeds, of the state it leaves and the value it gives. -/
def Grants (P : σ → α → Prop) (attempt : Attempt σ α) : Prop :=
  ∀ value, attempt.answer = .ok value → P attempt.state value

namespace Grants
variable {P : σ → α → Prop} {Q : σ → β → Prop}

theorem done {state : σ} {value : α} (holds : P state value) :
    Grants P (Attempt.done state value) := by
  intro found answer
  cases answer
  exact holds

theorem fail (state : σ) (fault : Fault) : Grants P (Attempt.fail state fault) :=
  fun _ answer => by cases answer

/-- Only the last part counts, and it may use what the first one grants. -/
theorem andThen {first : Attempt σ α} {next : σ → α → Attempt σ β} (head : Grants P first)
    (tail : ∀ state value, P state value → Grants Q (next state value)) :
    Grants Q (first.andThen next) := by
  intro value answer
  obtain ⟨middle, found, last⟩ := andThen_ok answer
  rw [andThen_of_ok next found]
  exact tail first.state middle (head middle found) value last

theorem anyway (attempt : Attempt σ α) : Grants (fun _ _ => True) attempt := fun _ _ => trivial

theorem map {attempt : Attempt σ α} {f : α → β} (head : Grants P attempt)
    (holds : ∀ state value, P state value → Q state (f value)) : Grants Q (attempt.map f) := by
  intro value answer
  obtain ⟨state, events, outcome⟩ := attempt
  cases outcome with
  | error fault => cases answer
  | ok found =>
      cases answer
      exact holds state found (head found rfl)

theorem inside {embed : σ → τ} {P' : τ → α → Prop} {attempt : Attempt σ α} (head : Grants P attempt)
    (holds : ∀ state value, P state value → P' (embed state) value) :
    Grants P' (attempt.inside embed) :=
  fun value answer => holds _ _ (head value answer)

end Grants

theorem Ensures.andThen_granted {P : σ → Prop} {Q : α → Prop} {S : β → Prop} {G : σ → α → Prop}
    {first : Attempt σ α} {next : σ → α → Attempt σ β} (head : Ensures P Q first)
    (granted : Grants G first)
    (tail : ∀ state value, P state → G state value → Ensures P S (next state value)) :
    Ensures P S (first.andThen next) := by
  cases answer : first.answer with
  | error fault =>
      rw [andThen_of_error next answer]
      exact ⟨head.state, fun _ answer => by cases answer⟩
  | ok value =>
      have rest := tail first.state value head.state (granted value answer)
      rw [andThen_of_ok next answer]
      exact ⟨rest.state, rest.value⟩

theorem succeeded_map (attempt : Attempt σ α) (f : α → β) :
    (attempt.map f).succeeded = attempt.succeeded := by
  obtain ⟨_, _, answer⟩ := attempt
  cases answer <;> rfl

theorem succeeded_iff (attempt : Attempt σ α) :
    attempt.succeeded = true ↔ ∃ value, attempt.answer = .ok value := by
  unfold Attempt.succeeded
  cases attempt.answer <;> simp

def Discreet (attempt : Attempt σ α) : Prop := Event.removals attempt.events = []

theorem discreet_chain : Chain (fun (_ : σ) told _ => Event.removals told = []) where
  rest _ := rfl
  onwards := by
    intro _ _ _ told later first second
    rw [Event.removals_append, first, second, List.append_nil]

theorem Discreet.andThen {first : Attempt σ α} {next : σ → α → Attempt σ β} (head : Discreet first)
    (tail : ∀ state value, Discreet (next state value)) : Discreet (first.andThen next) := by
  have along : Along (fun _ told _ => Event.removals told = []) first.state first := head
  exact discreet_chain.andThen along fun value _ => tail first.state value

end Terrarium.Attempt
