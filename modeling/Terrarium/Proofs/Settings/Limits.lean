import Terrarium.Settings.Fields

/-!
Settings that were read, or changed one field at a time, allow newcomers at least one cycle of
life: the lifespan is the one field that takes no zero for a limit. Their rate of cosmic rays is
never below zero, and is a number.
-/

namespace Terrarium

def Limits.Sound (limits : Limits) : Prop := ∀ cycles, limits.lifespan = some cycles → 1 ≤ cycles

def NoiseSettings.Sound (noise : NoiseSettings) : Prop := noise.cosmicRayRate.isNonnegative = true

theorem Except.of_map_ok {ε α β : Type} {f : α → β} {outcome : Except ε α} {b : β}
    (mapped : outcome.map f = .ok b) : ∃ a, outcome = .ok a ∧ f a = b := by
  cases outcome with
  | error fault => cases mapped
  | ok a => exact ⟨a, rfl, Except.ok.inj mapped⟩

theorem Except.map_of_store {ε α β γ : Type} {f : β → γ} {store : α → β} {store' : α → γ}
    (same : ∀ x, store' x = f (store x)) (outcome : Except ε α) :
    outcome.map store' = (outcome.map store).map f := by
  cases outcome with
  | error fault => rfl
  | ok x => exact congrArg Except.ok (same x)

namespace Coercion

theorem bounded_ok {α : Type} {check : Int → Except FieldFault α} {v : Value} {x : α}
    (taken : bounded check v = .ok x) : ∃ n, check n = .ok x := by
  unfold bounded at taken
  split at taken
  · next n _ => exact ⟨n, taken⟩
  · cases taken

theorem optional_ok {α : Type} {read : Value → Except FieldFault α} {v : Value} {x : α}
    (taken : optional read v = .ok (some x)) : read v = .ok x := by
  unfold optional at taken
  split at taken
  · cases taken
  · obtain ⟨y, found, same⟩ := Except.of_map_ok taken
    cases same
    exact found

theorem atLeast_ok {bound n : Nat} {m : Int} (taken : atLeast bound m = .ok n) : bound ≤ n := by
  unfold atLeast at taken
  split at taken
  · cases taken
    omega
  · cases taken

theorem nonnegative_ok {x y : Binary64} (taken : nonnegative x = .ok y) :
    y.isNonnegative = true := by
  unfold nonnegative at taken
  split at taken
  · cases taken
    assumption
  · cases taken

end Coercion

namespace RunSettings

theorem set_limits {s t : RunSettings} {field : RunField} {v : Value} (sound : s.limits.Sound)
    (changed : s.set field v = .ok t) : t.limits.Sound := by
  cases field with
  | lifespan =>
      -- The one field of which the limit is checked to be at least one.
      obtain ⟨lifespan, taken, rfl⟩ := Except.of_map_ok changed
      intro cycles limited
      cases (limited : lifespan = some cycles)
      obtain ⟨_, checked⟩ := Coercion.bounded_ok (Coercion.optional_ok taken)
      exact Coercion.atLeast_ok checked
  | cosmicRayRate =>
      simp only [RunSettings.set] at changed
      split at changed
      · cases changed
      · obtain ⟨_, _, rfl⟩ := Except.of_map_ok changed
        exact sound
  | _ =>
      obtain ⟨_, _, rfl⟩ := Except.of_map_ok changed
      exact sound

theorem set_noise {s t : RunSettings} {field : RunField} {v : Value} (sound : s.noise.Sound)
    (changed : s.set field v = .ok t) : t.noise.Sound := by
  cases field with
  | cosmicRayRate =>
      simp only [RunSettings.set] at changed
      split at changed
      · cases changed
      · obtain ⟨_, checked, rfl⟩ := Except.of_map_ok changed
        exact Coercion.nonnegative_ok checked
  | _ =>
      obtain ⟨_, _, rfl⟩ := Except.of_map_ok changed
      exact sound

theorem set_of_assign {s t : RunSettings} {field : RunField} {v : Value}
    (changed : s.assign field v = .ok t) : s.set field v = .ok t := by
  unfold assign at changed
  cases outcome : s.set field v with
  | error fault =>
      rw [outcome] at changed
      cases changed
  | ok u =>
      rw [outcome] at changed
      cases changed
      rfl

theorem assign_limits {s t : RunSettings} {field : RunField} {v : Value} (sound : s.limits.Sound)
    (changed : s.assign field v = .ok t) : t.limits.Sound :=
  set_limits sound (set_of_assign changed)

end RunSettings

/-- A reading keeps what every single setting keeps. -/
theorem readFields_keeps {σ φ : Type} (set : σ → φ → Value → Except FieldFault σ)
    (name : φ → String) (given : List (String × Value)) {P : σ → Prop}
    (keeps : ∀ s t field v, P s → set s field v = .ok t → P t) (fields : List φ) (s : σ)
    (start : P s) : P (readFields set name given fields s).1 := by
  induction fields generalizing s with
  | nil => exact start
  | cons field rest ih =>
      unfold readFields
      split
      · exact ih s start
      · next v _ =>
          -- A value that is refused leaves the settings read so far.
          split
          · next t changed => exact ih t (keeps s t field v start changed)
          · exact ih s start

theorem RunSettings.read_keeps {P : RunSettings → Prop}
    (keeps : ∀ s t field v, P s → RunSettings.set s field v = .ok t → P t) (start : P {})
    {given : List (String × Value)} {settings : RunSettings}
    (taken : RunSettings.read given = .ok settings) : P settings := by
  have kept := readFields_keeps RunSettings.set RunField.name given keeps RunField.all {} start
  unfold RunSettings.read at taken
  split at taken
  · next s outcome =>
      rw [outcome] at kept
      cases taken
      exact kept
  · cases taken

theorem RunSettings.read_limits {given : List (String × Value)} {settings : RunSettings}
    (taken : RunSettings.read given = .ok settings) : settings.limits.Sound := by
  refine read_keeps (P := fun s => s.limits.Sound) (fun _ _ _ _ => set_limits) ?_ taken
  intro cycles limited
  cases limited

end Terrarium
