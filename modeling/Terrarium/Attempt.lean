import Terrarium.Event
import Terrarium.Fault

/-!
The outcome of an action. A failed action leaves the state it had reached, so the
state stands beside the answer and not inside it.
-/

namespace Terrarium

structure Attempt (σ α : Type) where
  state : σ
  events : List Event
  answer : Except Fault α

namespace Attempt

variable {σ τ α β : Type}

def done (state : σ) (value : α) : Attempt σ α := ⟨state, [], .ok value⟩

def fail (state : σ) (fault : Fault) : Attempt σ α := ⟨state, [], .error fault⟩

def tell (state : σ) (event : Event) : Attempt σ Unit := ⟨state, [event], .ok ()⟩

/-- The next action starts from the state reached, unless the first one failed. -/
def andThen (first : Attempt σ α) (next : σ → α → Attempt σ β) : Attempt σ β :=
  match first with
  | ⟨state, events, .ok value⟩ =>
      let second := next state value
      ⟨second.state, events ++ second.events, second.answer⟩
  | ⟨state, events, .error fault⟩ => ⟨state, events, .error fault⟩

def map (f : α → β) (attempt : Attempt σ α) : Attempt σ β :=
  ⟨attempt.state, attempt.events, attempt.answer.map f⟩

def inside (embed : σ → τ) (attempt : Attempt σ α) : Attempt τ α :=
  ⟨embed attempt.state, attempt.events, attempt.answer⟩

def forEach (action : σ → β → Attempt σ Unit) : List β → σ → Attempt σ Unit
  | [], state => done state ()
  | item :: rest, state => (action state item).andThen fun next _ => forEach action rest next

def repeated (action : σ → Attempt σ Unit) : Nat → σ → Attempt σ Unit
  | 0, state => done state ()
  | count + 1, state => (action state).andThen fun next _ => repeated action count next

def succeeded (attempt : Attempt σ α) : Bool :=
  match attempt.answer with
  | .ok _ => true
  | .error _ => false

@[simp] theorem done_andThen (state : σ) (value : α) (next : σ → α → Attempt σ β) :
    (done state value).andThen next = next state value := by
  simp [done, andThen]

@[simp] theorem fail_andThen (state : σ) (fault : Fault) (next : σ → α → Attempt σ β) :
    (fail state fault : Attempt σ α).andThen next = fail state fault := rfl

theorem andThen_assoc {γ : Type} (first : Attempt σ α) (f : σ → α → Attempt σ β)
    (g : σ → β → Attempt σ γ) :
    (first.andThen f).andThen g = first.andThen fun state value => (f state value).andThen g := by
  obtain ⟨state, events, answer⟩ := first
  cases answer with
  | error fault => rfl
  | ok value =>
      simp only [andThen]
      generalize f state value = second
      obtain ⟨_, _, answer⟩ := second
      cases answer <;> simp [List.append_assoc]

theorem repeated_add (action : σ → Attempt σ Unit) (m n : Nat) (state : σ) :
    repeated action (m + n) state =
      (repeated action m state).andThen fun next _ => repeated action n next := by
  induction m generalizing state with
  | zero => simp [repeated]
  | succ m ih =>
      rw [Nat.add_right_comm]
      simp only [repeated, andThen_assoc, ih]

end Attempt
end Terrarium
