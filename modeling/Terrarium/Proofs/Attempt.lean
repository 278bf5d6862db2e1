import Terrarium.Attempt

/-!
What holds of the state an action leaves, whether it failed or not. A property that each part
keeps is kept by the whole; two actions that stay in step leave related states, give the same
answer or fail for the same cause, and report removals for the same causes in the same order.
-/

namespace Terrarium

def Event.causes (events : List Event) : List RemovalCause :=
  (Event.removals events).map fun removal => removal.2.2

theorem Event.removals_append (first second : List Event) :
    Event.removals (first ++ second) = Event.removals first ++ Event.removals second := by
  simp [Event.removals]

theorem Event.causes_append (first second : List Event) :
    Event.causes (first ++ second) = Event.causes first ++ Event.causes second := by
  simp [Event.causes, Event.removals_append]

namespace Attempt
variable {σ τ α β γ δ : Type}

@[simp] theorem done_state (state : σ) (value : α) : (done state value).state = state := rfl

@[simp] theorem done_answer (state : σ) (value : α) : (done state value).answer = .ok value := rfl

@[simp] theorem done_events (state : σ) (value : α) : (done state value).events = [] := rfl

@[simp] theorem fail_state (state : σ) (fault : Fault) :
    (fail state fault : Attempt σ α).state = state := rfl

@[simp] theorem fail_answer (state : σ) (fault : Fault) :
    (fail state fault : Attempt σ α).answer = .error fault := rfl

@[simp] theorem fail_events (state : σ) (fault : Fault) :
    (fail state fault : Attempt σ α).events = [] := rfl

@[simp] theorem map_state (f : α → β) (attempt : Attempt σ α) :
    (attempt.map f).state = attempt.state := rfl

@[simp] theorem map_events (f : α → β) (attempt : Attempt σ α) :
    (attempt.map f).events = attempt.events := rfl

@[simp] theorem map_answer (f : α → β) (attempt : Attempt σ α) :
    (attempt.map f).answer = attempt.answer.map f := rfl

@[simp] theorem inside_state (embed : σ → τ) (attempt : Attempt σ α) :
    (attempt.inside embed).state = embed attempt.state := rfl

@[simp] theorem inside_events (embed : σ → τ) (attempt : Attempt σ α) :
    (attempt.inside embed).events = attempt.events := rfl

@[simp] theorem inside_answer (embed : σ → τ) (attempt : Attempt σ α) :
    (attempt.inside embed).answer = attempt.answer := rfl

theorem andThen_of_ok {first : Attempt σ α} {value : α} (next : σ → α → Attempt σ β)
    (answer : first.answer = .ok value) :
    first.andThen next =
      ⟨(next first.state value).state, first.events ++ (next first.state value).events,
        (next first.state value).answer⟩ := by
  obtain ⟨state, events, outcome⟩ := first
  cases answer
  rfl

theorem andThen_of_error {first : Attempt σ α} {fault : Fault} (next : σ → α → Attempt σ β)
    (answer : first.answer = .error fault) :
    first.andThen next = ⟨first.state, first.events, .error fault⟩ := by
  obtain ⟨state, events, outcome⟩ := first
  cases answer
  rfl

theorem andThen_ok {first : Attempt σ α} {next : σ → α → Attempt σ β} {value : β}
    (answer : (first.andThen next).answer = .ok value) :
    ∃ middle, first.answer = .ok middle ∧ (next first.state middle).answer = .ok value := by
  cases head : first.answer with
  | error fault => simp [andThen_of_error next head] at answer
  | ok middle => exact ⟨middle, rfl, by simpa [andThen_of_ok next head] using answer⟩

theorem andThen_congr {first : Attempt σ α} {next next' : σ → α → Attempt σ β}
    (same : ∀ value, first.answer = .ok value → next first.state value = next' first.state value) :
    first.andThen next = first.andThen next' := by
  cases answer : first.answer with
  | error fault => rw [andThen_of_error next answer, andThen_of_error next' answer]
  | ok value =>
      rw [andThen_of_ok next answer, andThen_of_ok next' answer, same value answer]

theorem map_map (f : α → β) (g : β → γ) (attempt : Attempt σ α) :
    (attempt.map f).map g = attempt.map fun value => g (f value) := by
  obtain ⟨_, _, answer⟩ := attempt
  cases answer <;> rfl

theorem map_andThen (f : α → β) (first : Attempt σ α) (next : σ → β → Attempt σ γ) :
    (first.map f).andThen next = first.andThen fun state value => next state (f value) := by
  obtain ⟨_, _, answer⟩ := first
  cases answer <;> rfl

theorem andThen_map (first : Attempt σ α) (next : σ → α → Attempt σ β) (f : β → γ) :
    (first.andThen next).map f = first.andThen fun state value => (next state value).map f := by
  obtain ⟨_, _, answer⟩ := first
  cases answer <;> rfl

/-- What follows on the image of a state may be done first, if it follows in the same way. -/
theorem inside_andThen {f : σ → τ} {first : Attempt σ α} {next : τ → α → Attempt τ β}
    {next' : σ → α → Attempt σ β}
    (same : ∀ value, first.answer = .ok value →
      next (f first.state) value = (next' first.state value).inside f) :
    (first.inside f).andThen next = (first.andThen next').inside f := by
  cases answer : first.answer with
  | error fault =>
      rw [andThen_of_error next' answer, andThen_of_error next (by simpa using answer)]
      rfl
  | ok value =>
      rw [andThen_of_ok next' answer, andThen_of_ok next (by simpa using answer), inside_state,
        same value answer]
      rfl

theorem forEach_inside {P : σ → Prop} {f : σ → τ} {action : σ → β → Attempt σ Unit}
    {action' : τ → β → Attempt τ Unit} (items : List β)
    (keeps : ∀ state item, P state → P (action state item).state)
    (same : ∀ state item, P state → action' (f state) item = (action state item).inside f)
    {state : σ} (start : P state) :
    forEach action' items (f state) = (forEach action items state).inside f := by
  induction items generalizing state with
  | nil => rfl
  | cons item rest ih =>
      rw [forEach, forEach, same state item start]
      exact inside_andThen fun _ _ => ih (keeps state item start)

theorem repeated_inside {P : σ → Prop} {f : σ → τ} {action : σ → Attempt σ Unit}
    {action' : τ → Attempt τ Unit} (keeps : ∀ state, P state → P (action state).state)
    (same : ∀ state, P state → action' (f state) = (action state).inside f) (count : Nat)
    {state : σ} (start : P state) :
    repeated action' count (f state) = (repeated action count state).inside f := by
  induction count generalizing state with
  | zero => rfl
  | succ count ih =>
      rw [repeated, repeated, same state start]
      exact inside_andThen fun _ _ => ih (keeps state start)

theorem answer_of_succeeded {attempt : Attempt σ Unit} (succeeded : attempt.succeeded = true) :
    attempt.answer = .ok () := by
  unfold Attempt.succeeded at succeeded
  split at succeeded
  · assumption
  · cases succeeded

/-- The state it leaves has one property in any case, and its value another if there is one. -/
structure Ensures (P : σ → Prop) (Q : α → Prop) (attempt : Attempt σ α) : Prop where
  state : P attempt.state
  value : ∀ value, attempt.answer = .ok value → Q value

namespace Ensures
variable {P : σ → Prop} {Q : α → Prop} {S : β → Prop}

theorem done {state : σ} {value : α} (holds : P state) (good : Q value) :
    Ensures P Q (Attempt.done state value) :=
  ⟨holds, fun _ answer => by cases answer; exact good⟩

theorem fail {state : σ} (fault : Fault) (holds : P state) :
    Ensures P Q (Attempt.fail state fault) :=
  ⟨holds, fun _ answer => by cases answer⟩

theorem andThen {first : Attempt σ α} {next : σ → α → Attempt σ β} (head : Ensures P Q first)
    (tail : ∀ state value, P state → Q value → Ensures P S (next state value)) :
    Ensures P S (first.andThen next) := by
  cases answer : first.answer with
  | error fault =>
      rw [andThen_of_error next answer]
      exact ⟨head.state, fun _ answer => by cases answer⟩
  | ok value =>
      have rest := tail first.state value head.state (head.value value answer)
      rw [andThen_of_ok next answer]
      exact ⟨rest.state, rest.value⟩

theorem map {first : Attempt σ α} {f : α → β} (head : Ensures P Q first)
    (good : ∀ value, Q value → S (f value)) : Ensures P S (first.map f) := by
  obtain ⟨_, _, answer⟩ := first
  refine ⟨head.state, ?_⟩
  intro value found
  cases answer with
  | error fault => cases found
  | ok a =>
      cases found
      exact good a (head.value a rfl)

theorem inside {P' : τ → Prop} {first : Attempt σ α} {embed : σ → τ} (head : Ensures P Q first)
    (holds : ∀ state, P state → P' (embed state)) : Ensures P' Q (first.inside embed) :=
  ⟨holds _ head.state, head.value⟩

theorem weaken {P' : σ → Prop} {Q' : α → Prop} {first : Attempt σ α} (head : Ensures P Q first)
    (holds : ∀ state, P state → P' state) (good : ∀ value, Q value → Q' value) :
    Ensures P' Q' first :=
  ⟨holds _ head.state, fun value answer => good value (head.value value answer)⟩

theorem forEach {action : σ → β → Attempt σ Unit} (items : List β)
    (step : ∀ state item, item ∈ items → P state → Ensures P (fun _ => True) (action state item))
    (state : σ) (start : P state) :
    Ensures P (fun _ => True) (Attempt.forEach action items state) := by
  induction items generalizing state with
  | nil => exact done start trivial
  | cons item rest ih =>
      apply andThen (step state item List.mem_cons_self start)
      intro next _ good _
      exact ih (fun state item member => step state item (List.mem_cons_of_mem _ member)) next good

theorem repeated {action : σ → Attempt σ Unit}
    (step : ∀ state, P state → Ensures P (fun _ => True) (action state)) (count : Nat) (state : σ)
    (start : P state) : Ensures P (fun _ => True) (Attempt.repeated action count state) := by
  induction count generalizing state with
  | zero => exact done start trivial
  | succ count ih => exact andThen (step state start) fun next _ good _ => ih next good

end Ensures

/-- Answers that agree: both are values that belong together, or both are the same fault. -/
inductive Agree (Q : α → β → Prop) : Except Fault α → Except Fault β → Prop
  | ok {left : α} {right : β} (related : Q left right) : Agree Q (.ok left) (.ok right)
  | error (fault : Fault) : Agree Q (.error fault) (.error fault)

theorem Agree.refl : (answer : Except Fault α) → Agree Eq answer answer
  | .ok _ => .ok rfl
  | .error fault => .error fault

theorem Agree.eq {left right : Except Fault α} (agree : Agree Eq left right) : right = left := by
  cases agree with
  | ok same => rw [same]
  | error fault => rfl

structure InStep (R : σ → τ → Prop) (Q : α → β → Prop) (left : Attempt σ α)
    (right : Attempt τ β) : Prop where
  states : R left.state right.state
  answers : Agree Q left.answer right.answer
  causes : Event.causes left.events = Event.causes right.events

def Image (f : σ → τ) (left : σ) (right : τ) : Prop := right = f left

namespace InStep
variable {R : σ → τ → Prop} {Q : α → β → Prop}

theorem done {left : σ} {right : τ} {a : α} {b : β} (states : R left right) (values : Q a b) :
    InStep R Q (Attempt.done left a) (Attempt.done right b) :=
  ⟨states, .ok values, rfl⟩

theorem fail {left : σ} {right : τ} (fault : Fault) (states : R left right) :
    InStep R Q (Attempt.fail left fault) (Attempt.fail right fault) :=
  ⟨states, .error fault, rfl⟩

theorem image (f : σ → τ) (attempt : Attempt σ α) :
    InStep (Image f) Eq attempt (attempt.inside f) :=
  ⟨rfl, .refl _, rfl⟩

theorem weaken {R' : σ → τ → Prop} {Q' : α → β → Prop} {left : Attempt σ α} {right : Attempt τ β}
    (head : InStep R Q left right) (states : ∀ l r, R l r → R' l r)
    (values : ∀ a b, Q a b → Q' a b) : InStep R' Q' left right := by
  obtain ⟨_, _, answer⟩ := left
  obtain ⟨_, _, answer'⟩ := right
  obtain ⟨related, answers, causes⟩ := head
  refine ⟨states _ _ related, ?_, causes⟩
  cases answers with
  | ok agreed => exact .ok (values _ _ agreed)
  | error fault => exact .error fault

theorem andThen_from {R' : σ → τ → Prop} {S : γ → δ → Prop} {left : Attempt σ α}
    {right : Attempt τ β} {next : σ → α → Attempt σ γ} {next' : τ → β → Attempt τ δ}
    (head : InStep R' Q left right) (enough : ∀ l r, R' l r → R l r)
    (tail : ∀ l r a b, R' l r → Q a b → InStep R S (next l a) (next' r b)) :
    InStep R S (left.andThen next) (right.andThen next') := by
  obtain ⟨states, answers, causes⟩ := head
  -- The answers agree, so either both go on to their second part or neither does.
  cases hl : left.answer with
  | error fault =>
      rw [hl] at answers
      cases hr : right.answer with
      | ok b => rw [hr] at answers; cases answers
      | error fault' =>
          rw [hr] at answers
          cases answers
          rw [andThen_of_error next hl, andThen_of_error next' hr]
          exact ⟨enough _ _ states, .error fault, causes⟩
  | ok a =>
      rw [hl] at answers
      cases hr : right.answer with
      | error fault => rw [hr] at answers; cases answers
      | ok b =>
          rw [hr] at answers
          cases answers with
          | ok related =>
              have rest := tail left.state right.state a b states related
              rw [andThen_of_ok next hl, andThen_of_ok next' hr]
              refine ⟨rest.states, rest.answers, ?_⟩
              simp only [Event.causes_append, causes, rest.causes]

theorem andThen {S : γ → δ → Prop} {left : Attempt σ α} {right : Attempt τ β}
    {next : σ → α → Attempt σ γ} {next' : τ → β → Attempt τ δ} (head : InStep R Q left right)
    (tail : ∀ l r a b, R l r → Q a b → InStep R S (next l a) (next' r b)) :
    InStep R S (left.andThen next) (right.andThen next') :=
  head.andThen_from (fun _ _ related => related) tail

theorem map {S : γ → δ → Prop} {left : Attempt σ α} {right : Attempt τ β} {f : α → γ} {g : β → δ}
    (head : InStep R Q left right) (values : ∀ a b, Q a b → S (f a) (g b)) :
    InStep R S (left.map f) (right.map g) := by
  obtain ⟨_, _, answer⟩ := left
  obtain ⟨_, _, answer'⟩ := right
  obtain ⟨states, answers, causes⟩ := head
  refine ⟨states, ?_, causes⟩
  cases answers with
  | ok related => exact .ok (values _ _ related)
  | error fault => exact .error fault

theorem inside {σ' τ' : Type} {R' : σ' → τ' → Prop} {left : Attempt σ α} {right : Attempt τ β}
    {embed : σ → σ'} {embed' : τ → τ'} (head : InStep R Q left right)
    (states : R left.state right.state → R' (embed left.state) (embed' right.state)) :
    InStep R' Q (left.inside embed) (right.inside embed') :=
  ⟨states head.states, head.answers, head.causes⟩

theorem forEach {action : σ → β → Attempt σ Unit} {action' : τ → β → Attempt τ Unit}
    (items : List β)
    (step : ∀ left right item, item ∈ items → R left right →
      InStep R (fun _ _ => True) (action left item) (action' right item))
    (left : σ) (right : τ) (start : R left right) :
    InStep R (fun _ _ => True) (Attempt.forEach action items left)
      (Attempt.forEach action' items right) := by
  induction items generalizing left right with
  | nil => exact done start trivial
  | cons item rest ih =>
      apply andThen (step left right item List.mem_cons_self start)
      intro left right _ _ related _
      exact ih (fun left right item member =>
        step left right item (List.mem_cons_of_mem _ member)) left right related

theorem repeated {action : σ → Attempt σ Unit} {action' : τ → Attempt τ Unit}
    (step : ∀ left right, R left right → InStep R (fun _ _ => True) (action left) (action' right))
    (count : Nat) (left : σ) (right : τ) (start : R left right) :
    InStep R (fun _ _ => True) (Attempt.repeated action count left)
      (Attempt.repeated action' count right) := by
  induction count generalizing left right with
  | zero => exact done start trivial
  | succ count ih =>
      exact andThen (step left right start) fun left right _ _ related _ => ih left right related

/-! Loops on a state and on its image. The property that the steps need is kept by them. -/

section Images
variable {P : σ → Prop} {f : σ → τ}

theorem kept {S : α → Prop} {left : Attempt σ α} {right : Attempt τ β} (head : left.Ensures P S)
    (step : InStep (Image f) Q left right) :
    InStep (fun l r => P l ∧ Image f l r) Q left right :=
  ⟨⟨head.state, step.states⟩, step.answers, step.causes⟩

theorem andThen_kept {S : γ → δ → Prop} {V : α → Prop} {left : Attempt σ α}
    {right : Attempt τ β} {next : σ → α → Attempt σ γ} {next' : τ → β → Attempt τ δ}
    (head : left.Ensures P V) (step : InStep (Image f) Q left right)
    (tail : ∀ state a b, P state → Q a b → InStep (Image f) S (next state a) (next' (f state) b)) :
    InStep (Image f) S (left.andThen next) (right.andThen next') := by
  apply (kept head step).andThen_from fun _ _ both => both.2
  rintro state _ a b ⟨good, rfl⟩ related
  exact tail state a b good related

theorem forEach_image {action : σ → β → Attempt σ Unit} {action' : τ → β → Attempt τ Unit}
    (items : List β)
    (keeps : ∀ state item, item ∈ items → P state → (action state item).Ensures P (fun _ => True))
    (step : ∀ state item, item ∈ items → P state →
      InStep (Image f) (fun _ _ => True) (action state item) (action' (f state) item))
    (state : σ) (start : P state) :
    InStep (Image f) (fun _ _ => True) (Attempt.forEach action items state)
      (Attempt.forEach action' items (f state)) := by
  have loop : InStep (fun l r => P l ∧ Image f l r) (fun _ _ => True)
      (Attempt.forEach action items state) (Attempt.forEach action' items (f state)) := by
    refine forEach items ?_ state (f state) ⟨start, rfl⟩
    rintro left right item member ⟨good, rfl⟩
    exact kept (keeps left item member good) (step left item member good)
  exact loop.weaken (fun _ _ both => both.2) fun _ _ _ => trivial

theorem repeated_image {action : σ → Attempt σ Unit} {action' : τ → Attempt τ Unit}
    (keeps : ∀ state, P state → (action state).Ensures P (fun _ => True))
    (step : ∀ state, P state → InStep (Image f) (fun _ _ => True) (action state) (action' (f state)))
    (count : Nat) (state : σ) (start : P state) :
    InStep (Image f) (fun _ _ => True) (Attempt.repeated action count state)
      (Attempt.repeated action' count (f state)) := by
  have loop : InStep (fun l r => P l ∧ Image f l r) (fun _ _ => True)
      (Attempt.repeated action count state) (Attempt.repeated action' count (f state)) := by
    refine repeated ?_ count state (f state) ⟨start, rfl⟩
    rintro left right ⟨good, rfl⟩
    exact kept (keeps left good) (step left good)
  exact loop.weaken (fun _ _ both => both.2) fun _ _ _ => trivial

end Images
end InStep
end Attempt
end Terrarium
