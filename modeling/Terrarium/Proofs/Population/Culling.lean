import Mathlib.Data.List.Nodup
import Terrarium.Proofs.Population.Account
import Terrarium.Proofs.Simulation.Reachability

/-!
Culling at random, all at once and one at a time. The batch draws its victims from a list of handles
that shrinks, and removes them afterwards; one at a time, a place is drawn among those who are there
now, and who is there leaves before the next draw. Both enumerations are the same at every draw.
-/

namespace Terrarium

def Generator.belowEach : List Nat → Generator → List Nat × Generator
  | [], g => ([], g)
  | bound :: rest, g =>
      let (first, g) := g.below bound
      let (others, g) := belowEach rest g
      (first :: others, g)

namespace Population
variable {p : Population} {slot : SlotId} {limit : Nat}

theorem place_inside (crowded : limit < p.size) (g : Generator) :
    (g.below p.size).1 < p.slots.length := by
  have inside := Generator.below_lt (Nat.zero_lt_of_lt crowded) g
  rwa [slots_length]

theorem size_vacate_lt (live : slot ∈ p.slots) : (p.vacate slot).size < p.size := by
  obtain ⟨m, member, same⟩ := List.mem_map.mp live
  exact List.length_filter_lt_length_iff_exists.mpr ⟨m, member, by simp [same]⟩

theorem size_remove_lt (live : slot ∈ p.slots) (cause : RemovalCause) :
    (p.remove slot cause).state.size < p.size := by
  obtain ⟨o, found⟩ := get?_of_mem_slots live
  simpa [remove_live cause found] using size_vacate_lt live

/-- As long as there are more than the limit allows, a place is drawn among those who are there, and
who is there is removed. The answer is who went, in order. -/
def cullSingly (limit : Nat) (p : Population) (g : Generator) :
    Attempt (Population × Generator) (List SlotId) :=
  if crowded : limit < p.size then
    let slot := p.slots.get ⟨(g.below p.size).1, place_inside crowded g⟩
    let removed := p.remove slot .culled
    let later := cullSingly limit removed.state (g.below p.size).2
    { state := later.state
      events := removed.events ++ later.events
      answer := removed.answer.bind fun _ => later.answer.map fun others => slot :: others }
  else .done (p, g) []
termination_by p.size
decreasing_by exact size_remove_lt (List.get_mem _ _) _

def sizesDown (limit size : Nat) : List Nat := (List.range (size - limit)).map fun gone => size - gone

theorem sizesDown_length (limit size : Nat) : (sizesDown limit size).length = size - limit := by
  simp [sizesDown]

theorem sizesDown_cons {limit size : Nat} (crowded : limit < size) :
    sizesDown limit size = size :: sizesDown limit (size - 1) := by
  have count : size - limit = size - 1 - limit + 1 := by omega
  simp only [sizesDown, count, List.range_succ_eq_map, List.map_cons, List.map_map, Nat.sub_zero,
    List.cons.injEq, true_and]
  apply List.map_congr_left
  intro gone _
  simp only [Function.comp_apply]
  omega

/-- Each member taken out is one draw below the number of those who are left. -/
theorem drawOut_draws {α : Type} (limit count : Nat) (members : List α)
    (many : members.length - limit = count) (g : Generator) :
    (Remover.drawOut count members g).2 = (g.belowEach (sizesDown limit members.length)).2 := by
  induction count generalizing members g with
  | zero => simp [Remover.drawOut, sizesDown, many, Generator.belowEach]
  | succ count ih =>
      have crowded : limit < members.length := by omega
      have inside : (g.below members.length).1 < members.length :=
        Generator.below_lt (Nat.zero_lt_of_lt crowded) g
      have left : (members.eraseIdx (g.below members.length).1).length = members.length - 1 :=
        List.length_eraseIdx_of_lt inside
      have later := ih (members.eraseIdx (g.below members.length).1) (by omega)
        (g.below members.length).2
      rw [left] at later
      rw [sizesDown_cons crowded]
      simp only [Remover.drawOut, List.getElem?_eq_getElem inside, Generator.belowEach]
      exact later

theorem slots_vacate_at (distinct : p.slots.Nodup) {place : Nat} (inside : place < p.slots.length) :
    (p.vacate p.slots[place]).slots = p.slots.eraseIdx place := by
  rw [slots_vacate, ← distinct.erase_getElem place inside, distinct.erase_eq_filter]
  exact List.filter_congr fun other _ => by rw [bne, beq_eq_decide, decide_not]

theorem removeAll_cons {o : Organism} (found : p.get? slot = some o) (cause : RemovalCause)
    (rest : List SlotId) :
    p.removeAll cause (slot :: rest) =
      ⟨((p.vacate slot).removeAll cause rest).state,
        .removed slot o.kill cause :: ((p.vacate slot).removeAll cause rest).events,
        ((p.vacate slot).removeAll cause rest).answer⟩ := by
  have removed : ((p.remove slot cause).map fun _ => ()).answer = .ok () := by
    simp [remove_live cause found, Except.map]
  rw [removeAll, Attempt.forEach, Attempt.andThen_of_ok _ removed]
  simp only [Attempt.map_state, Attempt.map_events, remove_live cause found]
  rfl

theorem cullSingly_crowded (crowded : limit < p.size) {g : Generator} {o : Organism}
    (inside : (g.below p.size).1 < p.slots.length)
    (found : p.get? p.slots[(g.below p.size).1] = some o) :
    let slot := p.slots[(g.below p.size).1]
    let later := (p.vacate slot).cullSingly limit (g.below p.size).2
    p.cullSingly limit g =
      ⟨later.state, .removed slot o.kill .culled :: later.events,
        later.answer.map fun others => slot :: others⟩ := by
  intro slot later
  have removed := remove_live .culled found
  rw [cullSingly]
  simp only [crowded, ↓reduceDIte, List.get_eq_getElem, removed]
  rfl

/-- One at a time: the victims are those the batch draws, and they leave in that order. By induction
on how many are too many; the list that the batch draws from is that of the handles still there. -/
theorem cullSingly_eq (count : Nat) (p : Population) (distinct : p.slots.Nodup)
    (many : p.size - limit = count) (g : Generator) :
    let drawn := Remover.drawOut count p.slots g
    let gone := p.removeAll .culled drawn.1
    p.cullSingly limit g = ⟨(gone.state, drawn.2), gone.events, .ok drawn.1⟩ := by
  induction count generalizing p g with
  | zero =>
      have few : ¬ limit < p.size := by omega
      rw [cullSingly]
      simp only [few, ↓reduceDIte]
      rfl
  | succ count ih =>
      have crowded : limit < p.size := by omega
      have length := p.slots_length
      have inside := place_inside crowded g
      obtain ⟨o, found⟩ := get?_of_mem_slots (List.getElem_mem inside)
      have left := slots_vacate_at distinct inside
      have distinct' : (p.vacate p.slots[(g.below p.size).1]).slots.Nodup := by
        rw [left]
        exact distinct.eraseIdx _
      have many' : (p.vacate p.slots[(g.below p.size).1]).size - limit = count := by
        have fewer := congrArg List.length left
        rw [List.length_eraseIdx_of_lt inside] at fewer
        rw [length, slots_length] at fewer
        omega
      have later := ih _ distinct' many' (g.below p.size).2
      rw [left] at later
      have drawn : Remover.drawOut (count + 1) p.slots g =
          (p.slots[(g.below p.size).1] ::
              (Remover.drawOut count (p.slots.eraseIdx (g.below p.size).1) (g.below p.size).2).1,
            (Remover.drawOut count (p.slots.eraseIdx (g.below p.size).1) (g.below p.size).2).2) := by
        simp only [Remover.drawOut, length, List.getElem?_eq_getElem inside]
      rw [drawn, cullSingly_crowded crowded inside found, later]
      dsimp only
      rw [removeAll_cons found]
      rfl

/-- The batch draws its victims first and removes them afterwards. -/
theorem enforceMax_random (p : Population) (limit : Nat) (g : Generator) :
    let drawn := Remover.drawOut (p.size - limit) p.slots g
    let gone := p.removeAll .culled drawn.1
    gone.answer = .ok () → p.enforceMax .random (some limit) g =
      ⟨(gone.state, drawn.2),
        gone.events ++ (if p.size - limit = 0 then [] else [.culled (p.size - limit) limit]),
        .ok (p.size - limit)⟩ := by
  intro drawn gone answer
  have length := p.slots_length
  have count : drawn.1.length = p.size - limit := drawOut_length (by omega) g
  by_cases few : p.size ≤ limit
  · have none : p.size - limit = 0 := Nat.sub_eq_zero_of_le few
    simp only [gone, drawn, enforceMax, few, ↓reduceIte, none]
    rfl
  · have chosen : Remover.random.choose p.slots limit g = .done drawn.2 drawn.1 := by
      have kept : ¬ (limit : Int) < 0 := by omega
      have many : ((p.slots.length : Int) - max (limit : Int) 0).toNat = p.size - limit := by omega
      simp only [Remover.choose, many, kept, ↓reduceIte]
      rfl
    have counted : p.removeCounted .culled (fun count => .culled count limit) drawn.1 =
        ⟨gone.state, gone.events ++
          (if drawn.1.length = 0 then [] else [.culled drawn.1.length limit]),
          .ok drawn.1.length⟩ := by
      rw [removeCounted, Attempt.andThen_of_ok _ answer]
    simp only [enforceMax, few, ↓reduceIte, chosen, ← count]
    change (Attempt.done (p, drawn.2) drawn.1).andThen _ = _
    rw [Attempt.done_andThen, counted]
    rfl

/-- Culling at random all at once is culling one at a time. With handles all different, the batch
leaves the same population and the same generator as drawing and removing one after the other for as
long as there are too many: the same organisms go, in the same order, and the same ones stay, in
theirs. It takes as many draws as there are too many, below each size on the way down to the limit
and none besides. -/
theorem culling_is_one_at_a_time (p : Population) (limit : Nat) (g : Generator)
    (distinct : p.slots.Nodup) :
    let batch := p.enforceMax .random (some limit) g
    let single := p.cullSingly limit g
    ∃ victims : List SlotId,
      single.answer = .ok victims ∧ victims.length = p.size - limit ∧
      batch.answer = .ok (p.size - limit) ∧
      removals batch.events = victims.map (fun slot => (slot, .culled)) ∧
      removals single.events = victims.map (fun slot => (slot, .culled)) ∧
      batch.state.1 = single.state.1 ∧ batch.state.2 = single.state.2 ∧
      batch.state.1.members = p.members.filter (fun m => m.1 ∉ victims) ∧
      batch.state.2 = (g.belowEach (sizesDown limit p.size)).2 ∧
      (sizesDown limit p.size).length = p.size - limit := by
  intro batch single
  have length : p.slots.length = p.size := by simp [slots, size]
  let victims := (Remover.drawOut (p.size - limit) p.slots g).1
  have count : victims.length = p.size - limit := drawOut_length (by omega) g
  obtain ⟨others, perm⟩ := drawOut_perm (p.size - limit) p.slots g
  have apart : victims.Nodup := (List.nodup_append.mp (perm.nodup_iff.mpr distinct)).1
  have live : ∀ slot ∈ victims, slot ∈ p.slots := fun slot member =>
    perm.mem_iff.mp (List.mem_append_left _ member)
  obtain ⟨account, answered⟩ := removeAll_account .culled victims p apart live
  have told : removals (p.removeAll .culled victims).events =
      victims.map fun slot => (slot, .culled) := by
    rw [account.told, List.filterMap_map]
    exact congrFun List.filterMap_eq_map victims
  have batched : batch = _ := enforceMax_random p limit g answered
  have singled : single = _ := cullSingly_eq (p.size - limit) p distinct rfl g
  have draws := drawOut_draws limit (p.size - limit) p.slots (by rw [length]) g
  rw [length] at draws
  have remark : Event.removals (if p.size - limit = 0 then []
      else [Event.culled (p.size - limit) limit]) = [] := by split <;> rfl
  rw [batched, singled]
  refine ⟨victims, rfl, count, rfl, ?_, told, rfl, rfl, account.trail.members_of_leaves, draws,
    sizesDown_length limit p.size⟩
  rw [← told, removals, Event.removals_append, remark, List.append_nil]
  rfl

/-- Two where only one may be: both ways the same one goes, by one draw. -/
theorem culling_is_one_at_a_time_twoCells :
    let p := (Simulation.twoCells.performAll
      [.spawn ⟨0, 0⟩ .right, .spawn ⟨1, 0⟩ .right]).population
    let g := Simulation.twoCells.habitat.generator
    p.slots.Nodup ∧ p.size = 2 ∧ sizesDown 1 p.size = [2] ∧
      (p.enforceMax .random (some 1) g).answer = .ok 1 ∧
      (p.enforceMax .random (some 1) g).state.1 = (p.cullSingly 1 g).state.1 ∧
      (p.enforceMax .random (some 1) g).state.2 = (g.below 2).2 := by
  intro p g
  have distinct : p.slots.Nodup := by decide +kernel
  have two : p.size = 2 := by decide +kernel
  obtain ⟨_, _, _, answer, _, _, same, _, _, draws, _⟩ := culling_is_one_at_a_time p 1 g distinct
  rw [two] at answer draws
  exact ⟨distinct, two, by rw [two]; rfl, answer, same, draws⟩

end Population
end Terrarium
