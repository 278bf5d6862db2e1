import Terrarium.Proofs.Instruction.Failure
import Terrarium.Proofs.Instruction.Standing

/-!
What an instruction takes off the child budget of its organism: one child if a child comes of it,
and nothing otherwise, also where it fails. Of a budget that is used up no child comes.
-/

namespace Terrarium

namespace Organism

def Solvent (o : Organism) : Prop := ∀ left, o.children = some left → 0 ≤ left

/-- After so many children, for which there was room in the budget. -/
structure Spends (count : Nat) (before after : Organism) : Prop where
  children : after.children = before.children.map (· - (count : Int))
  enough : before.Solvent → ∀ left, before.children = some left → (count : Int) ≤ left

section Budgets
variable {budget : Option Int}

theorem less_less (budget : Option Int) (m n : Nat) :
    (budget.map (· - (m : Int))).map (· - (n : Int)) = budget.map (· - ((m + n : Nat) : Int)) := by
  rw [Option.map_map]
  congr 1
  funext all
  simp only [Function.comp_apply]
  omega

theorem Solvent.of_less {o : Organism} {count : Nat}
    (children : o.children = budget.map (· - (count : Int)))
    (enough : ∀ all, budget = some all → (count : Int) ≤ all) : o.Solvent := by
  intro left found
  rw [children, Option.map_eq_some_iff] at found
  obtain ⟨all, given, rfl⟩ := found
  have room := enough all given
  omega

end Budgets

namespace Spends
variable {o p q : Organism} {m n : Nat}

theorem of_same (same : p.children = o.children) : Spends 0 o p where
  children := by simp [same]
  enough solvent := solvent

theorem solvent (spends : Spends n o p) (solvent : o.Solvent) : p.Solvent :=
  .of_less spends.children (spends.enough solvent)

theorem trans (first : Spends m o p) (second : Spends n p q) : Spends (m + n) o q where
  children := by rw [second.children, first.children, less_less]
  enough := by
    intro solvent left budget
    have remaining : p.children = some (left - m) := by
      rw [first.children, budget]
      rfl
    have further := second.enough (first.solvent solvent) _ remaining
    omega

end Spends

theorem takeChild_spends (o : Organism) : Spends o.takeChild.2.toNat o o.takeChild.1 := by
  unfold takeChild
  cases budget : o.children with
  | none => exact ⟨by simp [budget], fun _ left found => by cases budget.symm.trans found⟩
  | some left =>
      dsimp only
      by_cases used : left = 0
      · rw [if_pos used]
        exact .of_same rfl
      · rw [if_neg used]
        refine ⟨by simp [budget], fun solvent rest found => ?_⟩
        cases budget.symm.trans found
        have positive := solvent left budget
        simp only [Bool.toNat_true]
        omega

theorem beginDelay_children (o : Organism) (cycles : Int) :
    (o.beginDelay cycles).state.children = o.children := by
  unfold beginDelay setPhase
  split
  · rfl
  · split <;> rfl

theorem tickDelay_children (o : Organism) (g : Grid) :
    (o.tickDelay g).state.children = o.children := by
  unfold tickDelay setPhase
  dsimp only
  repeat' split
  all_goals rfl

theorem tickLifespan_children (o : Organism) : o.tickLifespan.1.children = o.children := by
  unfold tickLifespan
  split <;> rfl

end Organism

def Effect.offspring : Effect → Nat
  | spawn _ => 1
  | _ => 0

namespace Scene
open Organism
variable {s : Scene}

theorem act_children (s : Scene) (rules : Rules) (instruction : Instruction) :
    (s.act rules instruction).state.organism.children = s.organism.children := by
  rcases act_standing s rules instruction with same | ⟨o, same, delayed⟩
  · exact congrArg Standing.children same
  · rw [delayed, beginDelay_children]
    exact congrArg Standing.children same

theorem moveOn_children (s : Scene) (advance : Bool) :
    (s.moveOn advance).organism.children = s.organism.children :=
  congrArg Standing.children (standing_moveOn s advance)

theorem fork_spawns_iff (s : Scene) (kind : ForkKind) :
    (∃ child, (s.fork kind).answer = .ok (.spawn child)) ↔ s.organism.children ≠ some 0 := by
  rw [(s.fork_eq kind).2]
  by_cases used : s.organism.children = some 0 <;> simp [used]

theorem fork_spends (s : Scene) (kind : ForkKind) :
    (s.fork kind).Grants fun t effect => Spends effect.offspring s.organism t.organism := by
  intro effect given
  obtain ⟨state, answer⟩ := s.fork_eq kind
  have budget : (kind.flagged s.organism).children = s.organism.children := by cases kind <;> rfl
  have spends := (Spends.of_same budget).trans (takeChild_spends (kind.flagged s.organism))
  have counted : effect.offspring = (kind.flagged s.organism).takeChild.2.toNat := by
    rw [answer] at given
    rw [takeChild_eq, budget]
    by_cases used : s.organism.children = some 0
    · rw [if_pos used] at given ⊢
      cases given
      rfl
    · rw [if_neg used] at given ⊢
      cases given
      rfl
  rw [Nat.zero_add, ← counted] at spends
  rwa [state]

theorem run_spends (s : Scene) (rules : Rules) (advance : Bool) (instruction : Option Instruction) :
    (s.run rules advance instruction).Grants fun t effect =>
      Spends effect.offspring s.organism t.organism := by
  unfold run
  refine Attempt.Grants.andThen
    (P := fun t _ => t.organism.children = s.organism.children) ?_ fun t outcome same => ?_
  · cases instruction with
    | none => exact .done rfl
    | some instruction => exact fun _ _ => act_children s rules instruction
  · cases outcome with
    | halt => exact .done (.of_same same)
    | proceed => exact .done (.of_same ((t.moveOn_children advance).trans same))
    | fork kind =>
        intro effect answer
        have before : Spends 0 s.organism (t.moveOn advance).organism :=
          .of_same ((t.moveOn_children advance).trans same)
        have spends := before.trans (fork_spends (t.moveOn advance) kind effect answer)
        rwa [Nat.zero_add] at spends

/-- A child comes of a fork as long as the budget is not used up, and of nothing else. -/
theorem run_spawns_iff (s : Scene) (rules : Rules) (advance : Bool)
    (instruction : Option Instruction) :
    (∃ child, (s.run rules advance instruction).answer = .ok (.spawn child)) ↔
      ∃ kind, instruction = some (.fork kind) ∧ s.organism.children ≠ some 0 := by
  constructor
  · rintro ⟨child, answer⟩
    cases instruction with
    | none => cases answer
    | some instruction =>
        obtain ⟨outcome, acted, rest⟩ := Attempt.andThen_ok answer
        cases outcome with
        | halt => cases rest
        | proceed => cases rest
        | fork kind =>
            obtain ⟨_, rfl⟩ := act_grants s rules instruction _ acted kind rfl
            have spawned := (fork_spawns_iff _ kind).mp ⟨child, rest⟩
            rw [moveOn_children] at spawned
            exact ⟨kind, rfl, spawned⟩
  · rintro ⟨kind, rfl, room⟩
    have acted : s.act rules (.fork kind) = .done s (.fork kind) := rfl
    simp only [run, acted, Attempt.done_andThen]
    apply (fork_spawns_iff _ kind).mpr
    rwa [moveOn_children]

theorem run_stuck {rules : Rules} {advance : Bool} {instruction : Option Instruction}
    {fault : Fault} (failed : (s.run rules advance instruction).answer = .error fault) :
    (s.run rules advance instruction).state.organism.children = s.organism.children := by
  cases instruction with
  | none => cases failed
  | some instruction =>
      rcases s.run_cases rules advance instruction with ⟨same, _⟩ | ⟨ended, _⟩ | ⟨kind, rfl, forked⟩
      · rw [same, act_children]
      · cases ended.symm.trans failed
      · have ended := fork_fault? (s.moveOn advance) kind
        rw [Attempt.fault?_eq_none_iff, ← forked] at ended
        obtain ⟨effect, ended⟩ := ended
        cases ended.symm.trans failed

end Scene
end Terrarium
