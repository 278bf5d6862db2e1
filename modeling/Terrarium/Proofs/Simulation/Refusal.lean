import Terrarium.Proofs.Settings.Bounds
import Terrarium.Proofs.Simulation.Offspring

/-!
Arguments that are refused. Main statement: which arguments the facade refuses, and that a refusal
leaves the whole simulation as it was, however far into a list of arguments the one at fault stands;
so that every setting stays within its bound.
-/

namespace Terrarium

def Attempt.Raises {σ α : Type} (kind : String) (attempt : Attempt σ α) : Prop :=
  attempt.fault?.map Fault.kind = some kind

namespace Instruction

def IsKnown (mnemonic : String) : Prop := ∃ entry ∈ table, entry.mnemonic = mnemonic

instance (mnemonic : String) : Decidable (IsKnown mnemonic) :=
  inferInstanceAs (Decidable (∃ entry ∈ table, entry.mnemonic = mnemonic))

theorem lookup_cases (mnemonic : String) :
    (IsKnown mnemonic ∧ ∃ row, lookup mnemonic = .ok row) ∨
      (¬ IsKnown mnemonic ∧ lookup mnemonic = .error (.unknownMnemonic (.text mnemonic))) := by
  unfold lookup
  cases found : table.zipIdx.find? fun row => row.1.mnemonic == mnemonic with
  | some row =>
      have named := List.find?_some found
      have member := List.fst_mem_of_mem_zipIdx (List.mem_of_find?_eq_some found)
      exact Or.inl ⟨⟨row.1, member, by simpa using named⟩, ⟨_, rfl⟩⟩
  | none =>
      refine Or.inr ⟨?_, rfl⟩
      rintro ⟨entry, member, named⟩
      rw [← List.zipIdx_map_fst 0 table] at member
      obtain ⟨row, listed, rfl⟩ := List.mem_map.mp member
      exact List.find?_eq_none.mp found row listed (by simpa using named)

structure Resolves {α : Type} (resolve : String → Except Fault α) : Prop where
  known : ∀ mnemonic, IsKnown mnemonic → ∃ x, resolve mnemonic = .ok x
  unknown : ∀ mnemonic, ¬ IsKnown mnemonic →
    resolve mnemonic = .error (.unknownMnemonic (.text mnemonic))

theorem resolves_map {α : Type} (f : UInt8 × TableEntry → α) :
    Resolves fun mnemonic => (lookup mnemonic).map f := by
  constructor
  · intro mnemonic known
    obtain ⟨_, row, found⟩ | ⟨unknown, _⟩ := lookup_cases mnemonic
    · exact ⟨f row, by rw [found]; rfl⟩
    · exact absurd known unknown
  · intro mnemonic unknown
    obtain ⟨known, _⟩ | ⟨_, failed⟩ := lookup_cases mnemonic
    · exact absurd known unknown
    · rw [failed]
      rfl

theorem resolveAll_cases {α : Type} {resolve : String → Except Fault α} (resolves : Resolves resolve)
    (mnemonics : List String) :
    ((∀ mnemonic ∈ mnemonics, IsKnown mnemonic) ∧ ∃ xs, resolveAll resolve mnemonics = .ok xs) ∨
      ((∃ mnemonic ∈ mnemonics, ¬ IsKnown mnemonic) ∧
        ∃ given, resolveAll resolve mnemonics = .error (.unknownMnemonic given)) := by
  induction mnemonics with
  | nil => exact Or.inl ⟨by simp, ⟨[], rfl⟩⟩
  | cons first rest ih =>
      by_cases known : IsKnown first
      · obtain ⟨x, found⟩ := resolves.known first known
        simp only [resolveAll, found]
        rcases ih with ⟨all, xs, resolved⟩ | ⟨⟨mnemonic, member, unknown⟩, given, failed⟩
        · exact Or.inl ⟨List.forall_mem_cons.mpr ⟨known, all⟩, x :: xs, by rw [resolved]⟩
        · exact Or.inr ⟨⟨mnemonic, List.mem_cons_of_mem _ member, unknown⟩, given, by rw [failed]⟩
      · simp only [resolveAll, resolves.unknown first known]
        exact Or.inr ⟨⟨first, List.mem_cons_self, known⟩, _, rfl⟩

example : table.length = 93 := rfl

end Instruction

inductive Setter where
  | knob (knob : Knob)
  | speed

namespace Setter

def field : Setter → RunField
  | knob k => k.field
  | speed => .cycleSpeed

def operation (given : Value) : Setter → Operation
  | knob k => .set k given
  | speed => .setSpeed given

def offered (given : Value) : Setter → Value
  | knob k => if k = .autoDedupPeriod ∧ given.isEmpty then .int 0 else given
  | speed => given

/-- What is said to be the new value: what was given, but a period of deduplication as it has been
stored. Of the speed nothing is said. -/
def announced? (settings : RunSettings) (given : Value) : Setter → Option Value
  | knob k => some (if k = .autoDedupPeriod then settings.get k.field else given)
  | speed => none

/-- What is stored for what is given: no period of deduplication is a period of zero. -/
def stored (given : Option Int) : Setter → Option Int
  | knob .autoDedupPeriod => some (given.getD 0)
  | _ => given

end Setter

def Value.ofInt? : Option Int → Value
  | some n => .int n
  | none => .null

namespace Simulation
open Attempt
variable {s : Simulation}

/-- An operation refuses its arguments. To run cycles is refused before any of them, whatever a
cycle may do. -/
def Refuses (s : Simulation) (operation : Operation) : Prop :=
  match operation with
  | .writeInstruction _ _ | .writeInstructions _ _ | .runFocused _ =>
      (s.perform operation).Raises "UnknownMnemonicError"
  | .writeByte _ _ => (s.perform operation).Raises "ValueError"
  | .runCycles count => ∀ cycle, (s.runCyclesAs cycle count).Raises "ValueError"
  | .set _ _ | .setSpeed _ => (s.perform operation).Raises "ValidationError"
  | _ => False

theorem raises_of_error {σ α : Type} {attempt : Attempt σ α} {fault : Fault}
    (failed : attempt.answer = .error fault) : attempt.Raises fault.kind := by
  unfold Raises
  rw [fault?_eq_some_iff.mpr failed]
  rfl

theorem not_raises_of_ok {σ α : Type} {attempt : Attempt σ α} {value : α} {kind : String}
    (ended : attempt.answer = .ok value) : ¬ attempt.Raises kind := by
  unfold Raises
  rw [fault?_of_ok ended]
  simp

theorem refuses_writeByte (p : Point) (value : Int) :
    s.Refuses (.writeByte p value) ↔ ¬(0 ≤ value ∧ value ≤ 255) := by
  unfold Refuses Raises
  simp only [perform, fault?_map, writeByte]
  split
  · next inside => simp [inside]
  · next outside => simp [outside, Fault.kind]

theorem refuses_writeInstruction (p : Point) (mnemonic : String) :
    s.Refuses (.writeInstruction p mnemonic) ↔ ¬ Instruction.IsKnown mnemonic := by
  unfold Refuses Raises
  simp only [perform, fault?_map, writeInstruction, Instruction.byteOf]
  obtain ⟨known, row, found⟩ | ⟨unknown, failed⟩ := Instruction.lookup_cases mnemonic
  · simp [found, known, Except.map]
  · simp [failed, unknown, Except.map, Fault.kind]

theorem refuses_writeInstructions (p : Point) (mnemonics : List String) :
    s.Refuses (.writeInstructions p mnemonics) ↔
      ∃ mnemonic ∈ mnemonics, ¬ Instruction.IsKnown mnemonic := by
  unfold Refuses Raises
  simp only [perform, fault?_map, writeInstructions]
  obtain ⟨known, bytes, resolved⟩ | ⟨unknown, given, failed⟩ :=
    Instruction.resolveAll_cases (Instruction.resolves_map Prod.fst) mnemonics
  · have resolved : Instruction.resolveAll Instruction.byteOf mnemonics = .ok bytes := resolved
    rw [resolved]
    refine iff_of_false (by simp) ?_
    rintro ⟨mnemonic, member, unknown⟩
    exact unknown (known mnemonic member)
  · have failed : Instruction.resolveAll Instruction.byteOf mnemonics = .error _ := failed
    rw [failed]
    exact iff_of_true rfl unknown

/-- Instructions in focus are all known before the first of them runs, whether there is anybody to
run them or not. What else may go wrong with them is of another kind. -/
theorem refuses_runFocused (reachable : Reachable s) (mnemonics : List String) :
    s.Refuses (.runFocused mnemonics) ↔ ∃ mnemonic ∈ mnemonics, ¬ Instruction.IsKnown mnemonic := by
  unfold Refuses Raises
  simp only [perform, fault?_map]
  obtain ⟨known, program, resolved⟩ | ⟨unknown, given, failed⟩ :=
    Instruction.resolveAll_cases (Instruction.resolves_map fun row => row.2.instruction) mnemonics
  · have resolved : Instruction.resolveAll Instruction.ofMnemonic mnemonics = .ok program :=
      resolved
    have none : ¬ ∃ mnemonic ∈ mnemonics, ¬ Instruction.IsKnown mnemonic := by
      rintro ⟨mnemonic, member, unknown⟩
      exact unknown (known mnemonic member)
    refine iff_of_false ?_ none
    simp only [runFocused, resolved]
    split
    · simp
    · next o focused =>
        have sound := reachable.sound.focused focused
        rw [fault?_andThen_sure]
        · rw [fault?_inside, runInPlace_fault? s.rules program sound, NoiseSettings.writeFault]
          split
          · split <;> simp [Fault.kind]
          · simp
        · intro effects answer
          obtain ⟨_, adopted, _⟩ := adoptAll_alive (children_alive sound answer)
            ({ s.withFocused (runInPlace s.rules program ⟨o, s.habitat⟩).state.organism with
              habitat := (runInPlace s.rules program ⟨o, s.habitat⟩).state.habitat } : Simulation)
          exact (fault?_andThen_sure fun _ _ => rfl).trans
            (fault?_of_ok (congrArg Attempt.answer adopted))
  · have failed : Instruction.resolveAll Instruction.ofMnemonic mnemonics = .error _ := failed
    simp only [runFocused, failed]
    exact iff_of_true rfl unknown

theorem refuses_runCycles (count : Int) : s.Refuses (.runCycles count) ↔ count < 0 := by
  have idle (n : Nat) (t : Simulation) :
      repeated (fun u => .done u ()) n t = .done t () := by
    induction n with
    | zero => rfl
    | succ n ih => rw [repeated, done_andThen, ih]
  constructor
  · intro refused
    refine Int.not_le.mp fun enough => ?_
    have ran : (s.runCyclesAs (fun u => .done u ()) count).answer = .ok () := by
      simp [runCyclesAs, Int.not_lt.mpr enough, idle, Attempt.tell]
    exact not_raises_of_ok ran (refused _)
  · intro negative cycle
    have failed : (s.runCyclesAs cycle count).answer = .error (.negativeCycles count) := by
      simp [runCyclesAs, negative]
    exact raises_of_error failed

theorem assign_cases (s : Simulation) (field : RunField) (v : Value) :
    (∃ settings, s.settings.set field v = .ok settings ∧
        s.assign field v = .done { s with settings := settings } ()) ∨
      ((¬∃ settings, s.settings.set field v = .ok settings) ∧
        ∃ errors, s.assign field v = .fail s (.invalidSettings .run errors)) := by
  unfold Simulation.assign RunSettings.assign
  cases s.settings.set field v with
  | ok settings => exact Or.inl ⟨settings, rfl, rfl⟩
  | error fault => exact Or.inr ⟨by simp, _, rfl⟩

theorem announce_fault? (s : Simulation) (knob : Knob) (v : Value) :
    (s.announce knob v).fault? = (s.digitLimit.filter v.isLongerThan).map .tooManyDigits := by
  unfold announce
  split
  · next most found => rw [found]; rfl
  · next none => rw [none]; rfl

/-- A setter stores what it is given and says so, which may fail, or it is refused. -/
theorem setter_cases (s : Simulation) (setter : Setter) (given : Value) :
    (∃ settings, s.settings.set setter.field (setter.offered given) = .ok settings ∧
        (s.perform (setter.operation given)).state = { s with settings := settings } ∧
        (s.perform (setter.operation given)).fault? =
          ((setter.announced? settings given).bind fun v =>
            s.digitLimit.filter v.isLongerThan).map .tooManyDigits) ∨
      ((¬∃ settings, s.settings.set setter.field (setter.offered given) = .ok settings) ∧
        ∃ errors, s.perform (setter.operation given) = .fail s (.invalidSettings .run errors)) := by
  rcases s.assign_cases setter.field (setter.offered given) with
    ⟨settings, taken, ended⟩ | ⟨refused, errors, failed⟩
  · refine Or.inl ⟨settings, taken, ?_⟩
    cases setter with
    | speed =>
        have ended : s.setSpeed given = .done { s with settings := settings } () := ended
        simp only [Setter.operation, perform, ended]
        exact ⟨rfl, rfl⟩
    | knob k =>
        have whole : s.set k given = announce { s with settings := settings } k
            (if k = .autoDedupPeriod then settings.get k.field else given) := by
          unfold Simulation.set
          exact congrArg (andThen · _) ended |>.trans (done_andThen _ _ _)
        simp only [Setter.operation, perform, whole, map_state, announce_state, fault?_map,
          announce_fault?]
        exact ⟨trivial, rfl⟩
  · refine Or.inr ⟨refused, errors, ?_⟩
    cases setter with
    | speed => exact congrArg (Attempt.map fun _ => Answer.nothing) failed
    | knob k =>
        have whole : s.set k given = .fail s (.invalidSettings .run errors) := by
          unfold Simulation.set
          exact congrArg (andThen · _) failed
        exact congrArg (Attempt.map fun _ => Answer.nothing) whole

theorem refuses_setter (setter : Setter) (given : Value) :
    s.Refuses (setter.operation given) ↔
      ¬∃ settings, s.settings.set setter.field (setter.offered given) = .ok settings := by
  have raised : s.Refuses (setter.operation given) ↔
      (s.perform (setter.operation given)).Raises "ValidationError" := by
    cases setter <;> exact Iff.rfl
  rw [raised]
  rcases s.setter_cases setter given with ⟨settings, taken, _, told⟩ | ⟨refused, _, failed⟩
  · refine iff_of_false ?_ (not_not_intro ⟨settings, taken⟩)
    -- What is too long to be said is an error of another kind.
    unfold Raises
    rw [told]
    cases (setter.announced? settings given).bind fun v => s.digitLimit.filter v.isLongerThan <;>
      simp [Fault.kind]
  · rw [failed]
    exact iff_of_true rfl refused

theorem offered_integer (setter : Setter) (given : Option Int) :
    setter.offered (.ofInt? given) = .ofInt? (setter.stored given) := by
  cases setter with
  | speed => rfl
  | knob k =>
      cases k with
      | autoDedupPeriod =>
          cases given with
          | none => rfl
          | some n =>
              by_cases zero : n = 0
              · rw [zero]
                rfl
              · simp [Setter.offered, Setter.stored, Value.ofInt?, Value.isEmpty, zero]
      | _ => rfl

/-- An integer, or nothing where the setter admits it, is refused when what would be stored is out of
bounds; for the rate of cosmic rays also when it is too large for a binary fraction. -/
theorem refuses_setter_integer (setter : Setter) (given : Option Int) :
    s.Refuses (setter.operation (.ofInt? given)) ↔
      ¬ setter.field.Within (.ofInt? (setter.stored given)) ∨
        setter.field = .cosmicRayRate ∧ ∃ n, given = some n ∧ Binary64.overflow ≤ n.natAbs := by
  have numeric : setter.field.least? ≠ none := by
    cases setter with
    | speed => simp [Setter.field, RunField.least?]
    | knob k => cases k <;> simp [Setter.field, Knob.field, RunField.least?]
  have rate (same : setter.field = .cosmicRayRate) : setter.stored given = given := by
    cases setter with
    | speed => rfl
    | knob k => cases k <;> first | rfl | cases same
  rw [refuses_setter, offered_integer]
  cases stored : setter.stored given with
  | none =>
      rw [Value.ofInt?, RunSettings.set_null_iff]
      refine ⟨Or.inl, fun refused => refused.resolve_right ?_⟩
      rintro ⟨same, n, taken, _⟩
      rw [rate same, taken] at stored
      cases stored
  | some n =>
      rw [Value.ofInt?, RunSettings.set_int_iff numeric]
      by_cases same : setter.field = .cosmicRayRate
      · have taken : given = some n := (rate same).symm.trans stored
        simp only [same, taken, Option.some.injEq, exists_eq_left', true_and, true_imp_iff]
        rw [Classical.not_and_iff_not_or_not, Nat.not_lt]
      · simp [same]

theorem announced_integer {setter : Setter} {given : Option Int} {settings : RunSettings}
    (taken : s.settings.set setter.field (.ofInt? (setter.stored given)) = .ok settings) :
    setter = .speed ∧ setter.announced? settings (.ofInt? given) = none ∨
      setter ≠ .speed ∧
        setter.announced? settings (.ofInt? given) = some (.ofInt? (setter.stored given)) := by
  cases setter with
  | speed => exact Or.inl ⟨rfl, rfl⟩
  | knob k =>
      refine Or.inr ⟨nofun, ?_⟩
      cases k with
      | autoDedupPeriod => exact congrArg some (RunSettings.get_set_period taken)
      | _ => rfl

def Unprinted (s : Simulation) (setter : Setter) (given : Option Int) : Prop :=
  setter ≠ .speed ∧ ∃ most n, s.digitLimit = some most ∧ setter.stored given = some n ∧
    10 ^ most ≤ n.natAbs

theorem filter_isLongerThan (limit : Option Nat) (v : Option Int) :
    limit.filter (Value.ofInt? v).isLongerThan ≠ none ↔
      ∃ most n, limit = some most ∧ v = some n ∧ 10 ^ most ≤ n.natAbs := by
  cases limit with
  | none => simp
  | some most => cases v <;> simp [Value.ofInt?, Value.isLongerThan, Option.filter]

theorem setter_stores {setter : Setter} {given : Option Int}
    (taken : ¬ s.Refuses (setter.operation (.ofInt? given))) :
    ∃ settings, s.settings.set setter.field (.ofInt? (setter.stored given)) = .ok settings ∧
      (s.perform (setter.operation (.ofInt? given))).state = { s with settings := settings } ∧
      ((s.perform (setter.operation (.ofInt? given))).fault? ≠ none ↔ s.Unprinted setter given) := by
  rw [refuses_setter, Classical.not_not] at taken
  rcases s.setter_cases setter (.ofInt? given) with ⟨settings, stored, reached, told⟩ | ⟨refused, _⟩
  · rw [offered_integer] at stored
    refine ⟨settings, stored, reached, ?_⟩
    rw [told]
    rcases announced_integer stored with ⟨silent, none⟩ | ⟨loud, said⟩
    · rw [none]
      simp [Unprinted, silent]
    · rw [said, Option.bind_some, Ne, Option.map_eq_none_iff, ← Ne, filter_isLongerThan]
      exact (and_iff_right loud).symm
  · exact absurd taken refused

/-- A setter fails when it is refused, and when it has stored what cannot be said. -/
theorem setter_fails_iff (setter : Setter) (given : Option Int) :
    (∃ fault, (s.perform (setter.operation (.ofInt? given))).answer = .error fault) ↔
      s.Refuses (setter.operation (.ofInt? given)) ∨ s.Unprinted setter given := by
  have failed : (∃ fault, (s.perform (setter.operation (.ofInt? given))).answer = .error fault) ↔
      (s.perform (setter.operation (.ofInt? given))).fault? ≠ none := by
    simp only [← fault?_eq_some_iff, Option.ne_none_iff_exists']
  rw [failed]
  by_cases refused : s.Refuses (setter.operation (.ofInt? given))
  · refine iff_of_true ?_ (Or.inl refused)
    rcases s.setter_cases setter (.ofInt? given) with ⟨settings, stored, _⟩ | ⟨_, _, failed⟩
    · exact absurd ⟨settings, stored⟩ ((refuses_setter setter _).mp refused)
    · simp [failed]
  · obtain ⟨_, _, _, told⟩ := setter_stores refused
    rw [told, or_iff_right refused]

/-- A refusal tells of nothing and changes nothing. -/
theorem refusal_changes_nothing (reachable : Reachable s) {operation : Operation}
    (refused : s.Refuses operation) :
    (s.perform operation).state = s ∧ (s.perform operation).events = [] := by
  have changed (setter : Setter) (given : Value)
      (refused : s.Refuses (setter.operation given)) :
      (s.perform (setter.operation given)).state = s ∧
        (s.perform (setter.operation given)).events = [] := by
    rcases s.setter_cases setter given with ⟨settings, taken, _⟩ | ⟨_, _, failed⟩
    · exact absurd ⟨settings, taken⟩ ((refuses_setter setter given).mp refused)
    · rw [failed]
      exact ⟨rfl, rfl⟩
  have unresolved {α : Type} {f : UInt8 × TableEntry → α} {mnemonics : List String}
      (unknown : ∃ mnemonic ∈ mnemonics, ¬ Instruction.IsKnown mnemonic) :
      ∃ given, Instruction.resolveAll (fun mnemonic => (Instruction.lookup mnemonic).map f)
        mnemonics = .error (.unknownMnemonic given) := by
    obtain ⟨known, _⟩ | ⟨_, failed⟩ :=
      Instruction.resolveAll_cases (Instruction.resolves_map f) mnemonics
    · obtain ⟨mnemonic, member, unknown⟩ := unknown
      exact absurd (known mnemonic member) unknown
    · exact failed
  cases operation with
  | writeByte p value =>
      have outside := (refuses_writeByte p value).mp refused
      simp [perform, writeByte, outside]
  | writeInstruction p mnemonic =>
      have unknown := (refuses_writeInstruction p mnemonic).mp refused
      obtain ⟨known, _⟩ | ⟨_, failed⟩ := Instruction.lookup_cases mnemonic
      · exact absurd known unknown
      · simp [perform, writeInstruction, Instruction.byteOf, failed, Except.map]
  | writeInstructions p mnemonics =>
      obtain ⟨given, failed⟩ := unresolved (f := Prod.fst)
        ((refuses_writeInstructions p mnemonics).mp refused)
      have failed : Instruction.resolveAll Instruction.byteOf mnemonics = .error _ := failed
      simp [perform, writeInstructions, failed]
  | runFocused mnemonics =>
      obtain ⟨given, failed⟩ := unresolved (f := fun row => row.2.instruction)
        ((refuses_runFocused reachable mnemonics).mp refused)
      have failed : Instruction.resolveAll Instruction.ofMnemonic mnemonics = .error _ := failed
      simp [perform, runFocused, failed]
  | runCycles count =>
      have negative := (refuses_runCycles count).mp refused
      simp [perform, runCycles, runCyclesAs, negative]
  | set knob v => exact changed (.knob knob) v refused
  | setSpeed v => exact changed .speed v refused
  | _ => cases refused

/-- The arguments that are refused: a mnemonic that is not in the table, wherever it stands, a byte
out of range, a negative number of cycles, a setting out of its bounds (or, for the rate of cosmic
rays, an integer too large for a binary fraction). None of these refusals changes anything. A setter
that is not refused has stored what it was given, and fails after that if it has to say an integer
that is too long to be printed. So after any settings every field is within its bound. -/
theorem refusals_are_exact (reachable : Reachable s) :
    (∀ p mnemonic, s.Refuses (.writeInstruction p mnemonic) ↔ ¬ Instruction.IsKnown mnemonic) ∧
    (∀ p mnemonics, s.Refuses (.writeInstructions p mnemonics) ↔
      ∃ mnemonic ∈ mnemonics, ¬ Instruction.IsKnown mnemonic) ∧
    (∀ mnemonics, s.Refuses (.runFocused mnemonics) ↔
      ∃ mnemonic ∈ mnemonics, ¬ Instruction.IsKnown mnemonic) ∧
    (∀ p value, s.Refuses (.writeByte p value) ↔ ¬(0 ≤ value ∧ value ≤ 255)) ∧
    (∀ count, s.Refuses (.runCycles count) ↔ count < 0) ∧
    (∀ (setter : Setter) (given : Option Int), s.Refuses (setter.operation (.ofInt? given)) ↔
      ¬ setter.field.Within (.ofInt? (setter.stored given)) ∨
        setter.field = .cosmicRayRate ∧ ∃ n, given = some n ∧ Binary64.overflow ≤ n.natAbs) ∧
    (∀ (setter : Setter) (given : Option Int),
      (∃ fault, (s.perform (setter.operation (.ofInt? given))).answer = .error fault) ↔
        s.Refuses (setter.operation (.ofInt? given)) ∨ s.Unprinted setter given) ∧
    (∀ (setter : Setter) (given : Option Int), ¬ s.Refuses (setter.operation (.ofInt? given)) →
      ∃ settings, s.settings.set setter.field (.ofInt? (setter.stored given)) = .ok settings ∧
        (s.perform (setter.operation (.ofInt? given))).state = { s with settings := settings }) ∧
    (∀ operation, s.Refuses operation →
      (s.perform operation).state = s ∧ (s.perform operation).events = []) ∧
    ∀ settings : List (Setter × Value), ∀ field : RunField, field.Within
      ((s.performAll (settings.map fun (setter, given) => setter.operation given)).settings.get
        field) := by
  refine ⟨refuses_writeInstruction, refuses_writeInstructions, refuses_runFocused reachable,
    refuses_writeByte, refuses_runCycles, refuses_setter_integer, setter_fails_iff, ?_,
    fun _ => refusal_changes_nothing reachable, ?_⟩
  · intro setter given taken
    obtain ⟨settings, stored, reached, _⟩ := setter_stores taken
    exact ⟨settings, stored, reached⟩
  intro settings
  refine Reachable.settings_keep (P := RunSettings.Bounded) RunSettings.default_bounded
    (fun _ _ _ _ => RunSettings.set_bounded) (reachable.onwards (.performAll _ ?_))
  intro operation member
  obtain ⟨⟨setter, given⟩, _, rfl⟩ := List.mem_map.mp member
  cases setter <;> rfl

/-- Two cells again, where integers of 4300 digits and less can be printed. -/
def twoCellsPrinted : Simulation := { twoCells with digitLimit := some 4300 }

theorem twoCellsPrinted_fresh : Fresh twoCellsPrinted :=
  ⟨[("width", .int 2), ("height", .int 1), ("fill", .int 0)], [],
    { width := 2, height := 1, fill := 0 }, {}, .oldest, 7, some 4300, rfl, rfl, rfl⟩

/-- With nobody in focus and the settings left as they are by default; a limit of organisms that has
a digit too many to be printed is stored. -/
theorem refusals_are_exact_twoCells :
    let s := twoCellsPrinted
    let limit := Operation.set .organismLimit (.int (10 ^ 4300))
    ¬ Instruction.IsKnown "qq" ∧ s.Refuses (.runFocused ["ma", "qq"]) ∧
      (s.perform (.runFocused ["ma", "qq"])).state = s ∧
      ¬ s.Refuses (.runFocused ["ma"]) ∧ s.Refuses ((Setter.knob .lifespan).operation (.int 0)) ∧
      (∃ fault, (s.perform limit).answer = .error fault) ∧
      ∃ settings, (s.perform limit).state = { s with settings := settings } := by
  intro s limit
  obtain ⟨_, _, focused, _, _, setters, fails, stores, unchanged, _⟩ :=
    refusals_are_exact (s := s) ⟨twoCellsPrinted, twoCellsPrinted_fresh, .refl⟩
  have unknown : ¬ Instruction.IsKnown "qq" := by decide +kernel
  have known : Instruction.IsKnown "ma" := by decide +kernel
  have refused := (focused ["ma", "qq"]).mpr ⟨"qq", by simp, unknown⟩
  have below : ¬ RunField.lifespan.Within (.int 0) := by simp [RunField.Within, RunField.least?]
  have taken : ¬ s.Refuses limit := by
    intro refused
    rcases (setters (.knob .organismLimit) (some (10 ^ 4300))).mp refused with broken | ⟨rate, _⟩
    · exact broken ⟨0, rfl, Int.pow_nonneg (by decide)⟩
    · cases rate
  have long {most : Nat} (limited : s.digitLimit = some most) :
      s.Unprinted (.knob .organismLimit) (some (10 ^ most)) :=
    ⟨by rintro ⟨⟩, most, 10 ^ most, limited, rfl, by rw [Int.natAbs_pow]; exact Nat.le_refl _⟩
  obtain ⟨settings, _, stored⟩ := stores (.knob .organismLimit) (some (10 ^ 4300)) taken
  refine ⟨unknown, refused, (unchanged _ refused).1, ?_, ?_, ?_, settings, stored⟩
  · rw [focused]
    simpa using known
  · exact (setters (.knob .lifespan) (some 0)).mpr (Or.inl below)
  · exact (fails (.knob .organismLimit) (some (10 ^ 4300))).mpr (Or.inr (long rfl))

/-- The rate of cosmic rays refuses an integer that is not below zero; and a limit of organisms with a
digit too many to be printed is within its bound, and a fault when it has been stored. -/
theorem rate_refuses_integer_within_bounds :
    let limited := twoCellsPrinted.perform (.set .organismLimit (.int (10 ^ 4300)))
    (Reachable twoCells ∧ RunField.cosmicRayRate.Within (.int (10 ^ 309)) ∧
      twoCells.Refuses (.set .cosmicRayRate (.int (10 ^ 309)))) ∧
    Reachable twoCellsPrinted ∧ RunField.maxPopulation.Within (.int (10 ^ 4300)) ∧
      limited.fault?.map Fault.kind = some "ValueError" ∧
      limited.state.settings.limits.maxPopulation = some (10 ^ 4300) := by
  refine ⟨⟨⟨twoCells, twoCells_fresh, .refl⟩, ⟨0, rfl, by decide⟩, ?_⟩,
    ⟨twoCellsPrinted, twoCellsPrinted_fresh, .refl⟩, ⟨0, rfl, Int.pow_nonneg (by decide)⟩, ?_, ?_⟩
  · have failed : ((twoCells.perform (.set .cosmicRayRate (.int (10 ^ 309)))).fault?.map Fault.kind) =
        some "ValidationError" := by decide +kernel
    exact failed
  · decide +kernel
  · decide +kernel

end Simulation
end Terrarium
