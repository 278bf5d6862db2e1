import Terrarium.Proofs.Instruction.Failure
import Terrarium.Proofs.Number.Order
import Terrarium.Proofs.Simulation.Delay
import Terrarium.Proofs.Simulation.Settings

/-!
When a cycle fails. Main statement: it does so for three causes only, all of them numbers that
are too large, and a cycle that fails has not got past the cosmic rays: nobody was culled, charged
or removed as a double, and the cycle does not count.
-/

namespace Terrarium

def Binary64.isAbove (x y : Binary64) : Bool := y.ratio.1 * x.ratio.2 < x.ratio.1 * y.ratio.2

namespace NoiseSettings

def rateInfinite (noise : NoiseSettings) : Bool :=
  noise.cosmicRayMode = .expected && noise.cosmicRayRate.isInfinite

def rateAboveLimit (noise : NoiseSettings) : Bool :=
  noise.cosmicRayMode = .poisson && noise.cosmicRayRate.isAbove largestMean

def rayFault (noise : NoiseSettings) : Option Fault :=
  if noise.rateInfinite then some .infiniteRate
  else if noise.rateAboveLimit then some .rateTooLarge
  else none

theorem rayFault_eq_some_iff (noise : NoiseSettings) {fault : Fault} :
    noise.rayFault = some fault ↔ fault = .infiniteRate ∧ noise.rateInfinite = true ∨
      fault = .rateTooLarge ∧ noise.rateAboveLimit = true := by
  have apart : noise.rateInfinite = true → noise.rateAboveLimit = false := by
    unfold rateInfinite rateAboveLimit
    cases noise.cosmicRayMode <;> simp
  unfold rayFault
  cases infinite : noise.rateInfinite with
  | true => simp [apart infinite, eq_comm]
  | false => cases noise.rateAboveLimit <;> simp [eq_comm]

theorem rayFault_of_zero {noise : NoiseSettings} (zero : noise.cosmicRayRate.isZero = true) :
    noise.rayFault = none := by
  obtain ⟨field, fraction⟩ : noise.cosmicRayRate.exponentField = 0 ∧
      noise.cosmicRayRate.fractionField = 0 := by simpa [Binary64.isZero] using zero
  have finite : noise.cosmicRayRate.isInfinite = false := by simp [Binary64.isInfinite, field]
  have least : noise.cosmicRayRate.isAbove largestMean = false := by
    simp [Binary64.isAbove, Binary64.ratio, Binary64.significand, field, fraction]
  simp [rayFault, rateInfinite, rateAboveLimit, finite, least]

end NoiseSettings

namespace Habitat

theorem strikeCount_fault? {noise : NoiseSettings} (sound : noise.Sound) (h : Habitat) :
    (h.strikeCount noise).fault? = noise.rayFault := by
  unfold strikeCount
  dsimp only
  split
  · next zero =>
      rw [NoiseSettings.rayFault_of_zero zero]
      rfl
  · next some =>
      have positive : noise.cosmicRayRate.isNegative = false := by
        have above := sound
        simp only [NoiseSettings.Sound, Binary64.isNonnegative, Bool.and_eq_true,
          Bool.or_eq_true, Bool.not_eq_true'] at above
        exact above.2.resolve_right some
      have order : NoiseSettings.largestMean.bits < noise.cosmicRayRate.bits ↔
          noise.cosmicRayRate.isAbove NoiseSettings.largestMean = true := by
        rw [Binary64.bits_lt_iff (by decide) positive, Binary64.isAbove, decide_eq_true_eq]
      cases mode : noise.cosmicRayMode with
      | poisson =>
          simp only [NoiseSettings.rayFault, NoiseSettings.rateInfinite,
            NoiseSettings.rateAboveLimit, mode, order]
          split <;> simp_all
      | expected =>
          simp only [NoiseSettings.rayFault, NoiseSettings.rateInfinite,
            NoiseSettings.rateAboveLimit, mode]
          split
          · simp_all
          · split <;> simp_all

theorem cosmicRays_fault? {noise : NoiseSettings} (sound : noise.Sound) (h : Habitat) :
    (h.cosmicRays noise).fault? = noise.rayFault :=
  (Attempt.fault?_andThen_sure fun _ _ => rfl).trans (strikeCount_fault? sound h)

end Habitat

def Instruction.writingMnemonics : List String := ["ma", "mb", "mc"]

theorem Instruction.writes_iff_mnemonic (byte : UInt8) :
    (ofByte? byte).any writes =
      (entryAt byte).any fun entry => writingMnemonics.contains entry.mnemonic := by
  have rows : ∀ entry ∈ table,
      entry.instruction.writes = writingMnemonics.contains entry.mnemonic := by decide +kernel
  unfold ofByte?
  cases found : entryAt byte with
  | none => rfl
  | some entry => exact rows entry (List.mem_of_getElem? found)

namespace Simulation
open Population Attempt

def writesNext (s : Simulation) (slot : SlotId) : Bool :=
  (s.population.get? slot).any fun o =>
    (Instruction.entryAt (s.grid.read o.ip)).any fun entry =>
      Instruction.writingMnemonics.contains entry.mnemonic

def writing (s : Simulation) (slot : SlotId) : List SlotId :=
  if s.writesNext slot then [slot] else []

/-- The organisms that come to their turn in a cycle and have a byte that writes under their pointer
then. -/
def writers (s : Simulation) : List SlotId := notes writing executeSlot s.ready s

section Turns
variable {s : Simulation} {width height : Nat}

theorem adopt_fault? (s : Simulation) {child : Organism} (alive : child.phase ≠ .dead) :
    (s.adopt child).fault? = none := by
  rw [adopt_alive s alive]
  rfl

theorem executeSlot_fault? (sound : s.Sound width height) (slot : SlotId) :
    (s.executeSlot slot).fault? =
      if s.writesNext slot then s.settings.noise.writeFault else none := by
  unfold executeSlot writesNext
  cases found : s.population.get? slot with
  | none => rfl
  | some o =>
      have scene := sound.scene found
      have executed := Scene.execute_fault? scene s.rules
      rw [Instruction.writes_iff_mnemonic] at executed
      dsimp only
      refine (fault?_andThen_sure ?_).trans executed
      intro effect answer
      cases effect with
      | proceed => rfl
      | spawn child =>
          have good := (Scene.execute_sound scene s.rules).value _ answer
          rw [fault?_map]
          exact adopt_fault? _ good.alive
      | halt =>
          -- The organism is where its new state was just put.
          have live := mem_slots_of_get? found
          have found' := get?_update_self sound.population.tidy.distinct live
            (Scene.execute s.rules ⟨o, s.habitat⟩).state.organism
          simp only [fault?_map, inside_state, remove_live .halt found']
          rfl

theorem executions_fault? (sound : s.Sound width height) (slots : List SlotId) :
    (Attempt.forEach executeSlot slots s).fault? =
      if notes writing executeSlot slots s = [] then none else s.settings.noise.writeFault := by
  induction slots generalizing s with
  | nil => rfl
  | cons slot rest ih =>
      have turn := executeSlot_fault? sound slot
      have settings : (s.executeSlot slot).state.settings = s.settings :=
        (executeSlot_settings rfl slot).state
      have later := ih (sound.executeSlot slot).state
      rw [settings] at later
      rw [Attempt.forEach, fault?_andThen _ fun _ _ => later, turn, notes, writing]
      cases writes : s.writesNext slot with
      | true =>
          -- Whether it fails or not, a writer is noted here.
          cases s.settings.noise.writeFault <;> simp
      | false =>
          rw [writes] at turn
          obtain ⟨_, ended⟩ := fault?_eq_none_iff.mp turn
          simp [ended]

end Turns

/-- What the defaults have and every change of one field keeps is had by all settings. -/
theorem Reachable.settings_keep {P : RunSettings → Prop} (start : P {})
    (keeps : ∀ s t field v, P s → RunSettings.set s field v = .ok t → P t) {s : Simulation}
    (reachable : Reachable s) : P s.settings := by
  have adjusted {s t : Simulation} (sound : P s.settings) (later : s.Adjusted t) :
      P t.settings := by
    rcases later with same | ⟨field, v, taken⟩
    · rw [same]
      exact sound
    · exact keeps _ _ field v sound (RunSettings.set_of_assign taken)
  -- What was read at the start is sound, and every later change is checked as it was.
  obtain ⟨fresh, ⟨_, _, _, settings, _, _, _, _, taken, built⟩, reached⟩ := reachable
  induction reached with
  | refl =>
      unfold build at built
      split at built
      · cases built
      · cases built
        exact RunSettings.read_keeps keeps start taken
  | perform _ operation _ ih => exact adjusted ih (perform_adjusted _ operation)
  | assign _ field v ih => exact adjusted ih (assign_adjusted _ field v).state
  | start _ ih => exact ih

theorem Reachable.noise {s : Simulation} (reachable : Reachable s) : s.settings.noise.Sound :=
  reachable.settings_keep (P := fun settings => settings.noise.Sound) rfl
    fun _ _ _ _ => RunSettings.set_noise

section Cycle
variable {s : Simulation}

def untilCull (s : Simulation) : Attempt Simulation Unit :=
  (Attempt.forEach executeSlot s.ready s).andThen fun t _ =>
  (Attempt.forEach tickSlot s.delaying t).andThen fun t _ =>
  t.irradiate

def fromCull (s : Simulation) (slots : List SlotId) : Attempt Simulation Unit :=
  s.enforceMax.andThen fun t _ => t.closing slots

theorem stepCycle_eq_untilCull (s : Simulation) :
    s.stepCycle = s.untilCull.andThen fun t _ => t.fromCull s.ready := by
  simp only [stepCycle, untilCull, fromCull, closing, finish, andThen_assoc]

theorem enforceMax_fault? (tidy : s.population.Tidy) : s.enforceMax.fault? = none := by
  obtain ⟨victims, _, answer⟩ := enforceMax_account s.remover s.settings.limits.maxPopulation
    s.habitat.generator s.population tidy
  have ended : s.enforceMax.answer = .ok () := by simp [enforceMax, answer, Except.map]
  exact fault?_of_ok ended

theorem charge_fault? (tidy : s.population.Tidy) (slots : List SlotId) :
    (s.charge slots).fault? = none := by
  obtain ⟨_, _, _, _, answer⟩ := charge_account slots s.population tidy
  have charged : (s.onPopulation (s.population.charge slots)).answer = .ok _ := answer
  rw [charge, fault?_map]
  exact fault?_of_ok charged

theorem dedupIfDue_fault? (tidy : s.population.Tidy) : s.dedupIfDue.fault? = none := by
  have ended : s.dedup.answer = .ok _ := (dedup_account s.population tidy).2
  unfold dedupIfDue
  split
  · rw [fault?_map]
    exact fault?_of_ok ended
  · rfl

/-- Nothing can go wrong once the rays have struck. -/
theorem fromCull_fault? (prepared : s.Prepared) (slots : List SlotId) :
    (s.fromCull slots).fault? = none := by
  have culled : s.enforceMax.state.Prepared := prepared.along fun _ =>
    enforceMax_books fun _ => trivial
  refine (fault?_andThen_sure fun _ _ => ?_).trans (enforceMax_fault? prepared.tidy)
  have charged : (s.enforceMax.state.charge slots).state.Prepared := culled.along fun _ =>
    charge_books (fun _ _ _ => trivial) fun _ _ => trivial
  refine (fault?_andThen_sure fun _ _ => ?_).trans (charge_fault? culled.tidy slots)
  exact (fault?_andThen_sure fun _ _ => rfl).trans
    (dedupIfDue_fault? (s := { (s.enforceMax.state.charge slots).state with cycle := _ })
      charged.tidy)

/-- Until the cull nobody leaves but who halts. -/
theorem untilCull_books {law : Law} (changes : ∀ slot before after, law.change slot before after)
    (halts : ∀ slot, law.leave slot .halt) : Along (Books law) s s.untilCull := by
  have chain := books_chain law
  apply chain.andThen (chain.forEach s.ready (fun _ slot _ =>
    executeSlot_books (fun _ _ _ => changes slot _ _) (halts slot)) s)
  intro _ _
  apply chain.andThen (chain.forEach s.delaying (fun _ slot _ =>
    tickSlot_books fun _ _ _ => changes slot _ _) _)
  intro _ _
  exact irradiate_books

theorem executeSlot_cycle (s : Simulation) (slot : SlotId) :
    (s.executeSlot slot).state.cycle = s.cycle := by
  unfold executeSlot
  split
  · rfl
  · next o _ =>
      have placed : ((Scene.execute s.rules ⟨o, s.habitat⟩).inside fun scene =>
          ({ s with
            population := s.population.update slot scene.organism
            habitat := scene.habitat } : Simulation)).Ensures (fun t => t.cycle = s.cycle)
              (fun _ => True) := ⟨rfl, fun _ _ => trivial⟩
      refine (placed.andThen (S := fun _ => True) ?_).state
      intro t effect same _
      cases effect with
      | proceed => exact .done same trivial
      | spawn child =>
          have entered : (t.onPopulation (t.population.insertChild t.settings.limits child)).Ensures
              (fun t => t.cycle = s.cycle) (fun _ => True) := ⟨same, fun _ _ => trivial⟩
          have counted : (t.adopt child).Ensures (fun t => t.cycle = s.cycle) (fun _ => True) :=
            entered.andThen fun u _ same _ => .done same trivial
          exact counted.map fun _ _ => trivial
      | halt => exact ⟨same, fun _ _ => trivial⟩

theorem tickSlot_cycle (s : Simulation) (slot : SlotId) :
    (s.tickSlot slot).state.cycle = s.cycle := by
  unfold tickSlot
  split <;> rfl

theorem untilCull_cycle (s : Simulation) : s.untilCull.state.cycle = s.cycle := by
  have counted (t : Simulation) (same : t.cycle = s.cycle) {attempt : Attempt Simulation Unit}
      (kept : attempt.state.cycle = t.cycle) :
      attempt.Ensures (fun u => u.cycle = s.cycle) (fun _ => True) :=
    ⟨kept.trans same, fun _ _ => trivial⟩
  have executed := Attempt.Ensures.forEach s.ready
    (fun t slot _ same => counted t same (executeSlot_cycle t slot)) s rfl
  refine (executed.andThen (S := fun _ => True) fun t _ same _ => ?_).state
  have ticked := Attempt.Ensures.forEach s.delaying
    (fun t slot _ same => counted t same (tickSlot_cycle t slot)) t same
  exact ticked.andThen fun u _ same _ => counted u same rfl

theorem untilCull_fault? (reachable : Reachable s) :
    s.untilCull.fault? =
      (if s.writers = [] then none else s.settings.noise.writeFault).or
        s.settings.noise.rayFault := by
  have prepared := reachable.prepared.along (freely_executions (s := s) s.ready)
  have settings : (Attempt.forEach executeSlot s.ready s).state.settings = s.settings :=
    ((freely_executions s.ready _) reachable.prepared rfl).2
  have struck : (Attempt.forEach tickSlot s.delaying
      (Attempt.forEach executeSlot s.ready s).state).state.settings = s.settings :=
    ((freely_ticks s.delaying _) prepared rfl).2.trans settings
  -- Turns fail first, delays never do, and the rays come last.
  rw [untilCull, fault?_andThen s.settings.noise.rayFault,
    executions_fault? reachable.sound]
  · rfl
  · intro _ _
    have ticked := fault?_of_ok (ticks_end prepared s.delaying)
    rw [fault?_andThen s.settings.noise.rayFault, ticked, Option.none_or]
    intro _ _
    rw [irradiate, fault?_map, fault?_inside, struck]
    exact Habitat.cosmicRays_fault? reachable.noise _

theorem untilCull_prepared (prepared : s.Prepared) : s.untilCull.state.Prepared :=
  prepared.along fun _ => untilCull_books (fun _ _ _ => trivial) fun _ => trivial

def cycleFault (s : Simulation) : Option Fault :=
  if s.settings.noise.chanceTooLarge = true ∧ s.writers ≠ [] then some .integerTooLarge
  else s.settings.noise.rayFault

theorem stepCycle_fault? (reachable : Reachable s) : s.stepCycle.fault? = s.cycleFault := by
  rw [stepCycle_eq_untilCull, fault?_andThen_sure fun _ _ =>
    fromCull_fault? (untilCull_prepared reachable.prepared) s.ready, untilCull_fault? reachable,
    NoiseSettings.writeFault, cycleFault]
  by_cases writes : s.writers = [] <;> cases s.settings.noise.chanceTooLarge <;> simp [writes]

theorem cycleFault_eq_some_iff {fault : Fault} : s.cycleFault = some fault ↔
    (fault = .integerTooLarge ∧ s.settings.noise.chanceTooLarge = true ∧ s.writers ≠ []) ∨
      ¬(s.settings.noise.chanceTooLarge = true ∧ s.writers ≠ []) ∧
        s.settings.noise.rayFault = some fault := by
  unfold cycleFault
  split
  · next large => simp [large, eq_comm]
  · next small => simp [small]

/-- A cycle that fails has done nothing after its rays. -/
theorem stepCycle_of_error (prepared : s.Prepared) {fault : Fault}
    (failed : s.stepCycle.answer = .error fault) :
    s.stepCycle.state = s.untilCull.state ∧ s.stepCycle.events = s.untilCull.events := by
  rw [stepCycle_eq_untilCull] at failed ⊢
  cases answer : s.untilCull.answer with
  | error cause =>
      rw [andThen_of_error _ answer]
      exact ⟨rfl, rfl⟩
  | ok value =>
      obtain ⟨_, ended⟩ := fault?_eq_none_iff.mp
        (fromCull_fault? (untilCull_prepared prepared) s.ready)
      rw [andThen_of_ok _ answer, ended] at failed
      cases failed

theorem untilCull_removals (prepared : s.Prepared) {slot : SlotId} {cause : RemovalCause}
    (told : (slot, cause) ∈ removals s.untilCull.events) : cause = .halt := by
  let law : Law := ⟨s.settings.limits, fun _ _ _ => True, fun _ cause => cause = .halt⟩
  have booked : Along (Books law) s s.untilCull :=
    untilCull_books (fun _ _ _ => trivial) fun _ => rfl
  exact (booked prepared rfl).1.leaves told

theorem untilCull_counted (prepared : s.Prepared) {cause : RemovalCause} (other : cause ≠ .halt) :
    s.untilCull.state.metrics.removalsBy cause = s.metrics.removalsBy cause := by
  have booked : Along (Books (freely s.settings.limits)) s s.untilCull :=
    untilCull_books (fun _ _ _ => trivial) fun _ => trivial
  have absent : cause ∉ Event.causes s.untilCull.events := by
    intro among
    obtain ⟨removal, told, rfl⟩ := List.mem_map.mp among
    have removed : (removal.1, removal.2.2) ∈ removals s.untilCull.events :=
      List.mem_map.mpr ⟨removal, told, rfl⟩
    exact other (untilCull_removals prepared removed)
  rw [(booked prepared rfl).1.counted, List.count_eq_zero.mpr absent]
  omega

end Cycle

/-- A cycle fails when an organism comes to its turn with a byte that writes under its pointer while
the chance of a write error is too large a number, or when the rate of cosmic rays is infinite or
above what can be counted; and for no other cause, so that no phase, buffer, slot or draw is ever
refused. A cycle that fails does not count, and nobody has been culled, charged or removed as a
double in it. -/
theorem cycle_fails_only_on_numbers {s : Simulation} (reachable : Reachable s) :
    let noise := s.settings.noise
    ((∃ fault, s.stepCycle.answer = .error fault) ↔
      noise.chanceTooLarge = true ∧ s.writers ≠ [] ∨ noise.rateInfinite = true ∨
        noise.rateAboveLimit = true) ∧
    (∀ fault, s.stepCycle.answer = .error fault →
      (fault = .integerTooLarge ∧ noise.chanceTooLarge = true ∧ s.writers ≠ [] ∨
        fault = .infiniteRate ∧ noise.rateInfinite = true ∨
        fault = .rateTooLarge ∧ noise.rateAboveLimit = true) ∧
      s.stepCycle.state.cycle = s.cycle ∧
      (∀ slot cause, (slot, cause) ∈ removals s.stepCycle.events → cause = .halt) ∧
      s.stepCycle.state.metrics.culled = s.metrics.culled ∧
      s.stepCycle.state.metrics.expired = s.metrics.expired ∧
      s.stepCycle.state.metrics.deduped = s.metrics.deduped) ∧
    0 < s.grid.width ∧ 0 < s.grid.height := by
  intro noise
  have prepared := reachable.prepared
  have failing (fault : Fault) : s.stepCycle.answer = .error fault ↔
      (fault = .integerTooLarge ∧ noise.chanceTooLarge = true ∧ s.writers ≠ []) ∨
        ¬(noise.chanceTooLarge = true ∧ s.writers ≠ []) ∧ noise.rayFault = some fault := by
    rw [← fault?_eq_some_iff, stepCycle_fault? reachable, cycleFault_eq_some_iff]
  refine ⟨⟨?_, ?_⟩, ?_, s.grid.width_pos, s.grid.height_pos⟩
  · rintro ⟨fault, failed⟩
    rcases (failing fault).mp failed with ⟨_, large⟩ | ⟨_, rays⟩
    · exact Or.inl large
    · exact Or.inr (noise.rayFault_eq_some_iff.mp rays |>.imp And.right And.right)
  · intro wrong
    by_cases large : noise.chanceTooLarge = true ∧ s.writers ≠ []
    · exact ⟨_, (failing _).mpr (Or.inl ⟨rfl, large⟩)⟩
    · rcases wrong.resolve_left large with infinite | above
      · exact ⟨_, (failing _).mpr (Or.inr ⟨large,
          noise.rayFault_eq_some_iff.mpr (Or.inl ⟨rfl, infinite⟩)⟩)⟩
      · exact ⟨_, (failing _).mpr (Or.inr ⟨large,
          noise.rayFault_eq_some_iff.mpr (Or.inr ⟨rfl, above⟩)⟩)⟩
  · intro fault failed
    obtain ⟨state, events⟩ := stepCycle_of_error prepared failed
    have counted (cause : RemovalCause) (other : cause ≠ .halt) :
        s.stepCycle.state.metrics.removalsBy cause = s.metrics.removalsBy cause := by
      rw [state]
      exact untilCull_counted prepared other
    refine ⟨?_, ?_, ?_, counted .culled nofun, counted .expired nofun,
      counted .dedup nofun⟩
    · rcases (failing fault).mp failed with large | ⟨_, rays⟩
      · exact Or.inl large
      · exact Or.inr (noise.rayFault_eq_some_iff.mp rays)
    · rw [state, untilCull_cycle]
    · intro slot cause told
      rw [events] at told
      exact untilCull_removals prepared told

/-- A write while one in `2 ^ 1100` is to go wrong. -/
theorem cycle_fails_only_on_numbers_twoCells :
    let s := twoCells.performAll [.writeInstruction ⟨0, 0⟩ "ma", .spawn ⟨0, 0⟩ .right,
      .set .writeErrorChance (.int (2 ^ 1100))]
    s.settings.noise.chanceTooLarge = true ∧ s.writers = [⟨0, 0⟩] ∧
      s.stepCycle.answer = .error .integerTooLarge ∧ s.stepCycle.state.cycle = s.cycle := by
  intro s
  have reachable : Reachable s := ⟨twoCells, twoCells_fresh, Reaches.performAll _ (by decide)⟩
  have large : s.settings.noise.chanceTooLarge = true := by decide +kernel
  have writers : s.writers = [⟨0, 0⟩] := by decide +kernel
  obtain ⟨fails, causes, _⟩ := cycle_fails_only_on_numbers reachable
  obtain ⟨fault, failed⟩ := fails.mpr (Or.inl ⟨large, by simp [writers]⟩)
  obtain ⟨cause, cycle, _⟩ := causes fault failed
  have calm : s.settings.noise.rateInfinite = false ∧ s.settings.noise.rateAboveLimit = false := by
    decide +kernel
  rw [calm.1, calm.2] at cause
  obtain ⟨rfl, _⟩ | ⟨_, infinite⟩ | ⟨_, above⟩ := cause
  · exact ⟨large, writers, failed, cycle⟩
  · cases infinite
  · cases above

end Simulation
end Terrarium
