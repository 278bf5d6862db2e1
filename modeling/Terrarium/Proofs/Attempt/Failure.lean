import Terrarium.Proofs.Attempt

/-!
The fault of an action, if it has one. The fault of a whole is the first among its parts, so
what can go wrong with it is read off the parts in order.
-/

namespace Terrarium.Attempt
variable {σ τ α β : Type}

def fault? (attempt : Attempt σ α) : Option Fault :=
  match attempt.answer with
  | .ok _ => none
  | .error fault => some fault

@[simp] theorem fault?_done (state : σ) (value : α) : (done state value).fault? = none := rfl

@[simp] theorem fault?_fail (state : σ) (fault : Fault) :
    (fail state fault : Attempt σ α).fault? = some fault := rfl

@[simp] theorem fault?_map (attempt : Attempt σ α) (f : α → β) :
    (attempt.map f).fault? = attempt.fault? := by
  obtain ⟨_, _, answer⟩ := attempt
  cases answer <;> rfl

@[simp] theorem fault?_inside (attempt : Attempt σ α) (embed : σ → τ) :
    (attempt.inside embed).fault? = attempt.fault? := rfl

theorem fault?_eq_some_iff {attempt : Attempt σ α} {fault : Fault} :
    attempt.fault? = some fault ↔ attempt.answer = .error fault := by
  unfold fault?
  cases attempt.answer <;> simp

theorem fault?_eq_none_iff {attempt : Attempt σ α} :
    attempt.fault? = none ↔ ∃ value, attempt.answer = .ok value := by
  unfold fault?
  cases attempt.answer <;> simp

theorem fault?_of_ok {attempt : Attempt σ α} {value : α} (ended : attempt.answer = .ok value) :
    attempt.fault? = none := fault?_eq_none_iff.mpr ⟨value, ended⟩

theorem fault?_andThen {first : Attempt σ α} {next : σ → α → Attempt σ β} (fault : Option Fault)
    (tail : ∀ value, first.answer = .ok value → (next first.state value).fault? = fault) :
    (first.andThen next).fault? = first.fault?.or fault := by
  cases answer : first.answer with
  | error cause =>
      have early : first.fault? = some cause := fault?_eq_some_iff.mpr answer
      rw [andThen_of_error next answer, early]
      rfl
  | ok value =>
      rw [andThen_of_ok next answer, fault?_of_ok answer, Option.none_or, ← tail value answer]
      rfl

theorem fault?_andThen_sure {first : Attempt σ α} {next : σ → α → Attempt σ β}
    (tail : ∀ value, first.answer = .ok value → (next first.state value).fault? = none) :
    (first.andThen next).fault? = first.fault? := by
  rw [fault?_andThen none tail, Option.or_none]

end Terrarium.Attempt
