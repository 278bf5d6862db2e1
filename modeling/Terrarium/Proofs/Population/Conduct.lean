import Terrarium.Proofs.Organism.Standing
import Terrarium.Proofs.Population.Account

/-!
How organisms fare along the moves of a population. A law says under which limits newcomers
come, how the organism of a slot may change, and for what causes it may leave. Along moves that
keep a law an organism stays and changes in these ways only, or it leaves once and for all, and
then that is told of it and nothing else.
-/

namespace Terrarium.Population

structure Law where
  limits : Limits
  change : SlotId → Organism → Organism → Prop
  leave : SlotId → RemovalCause → Prop

structure Entrant (limits : Limits) (o : Organism) : Prop where
  lifespan : o.lifespan = limits.lifespan.map Int.ofNat
  children : o.children = limits.maxChildren.map Int.ofNat
  timed : o.Timed

def Law.Admits (law : Law) (p : Population) : Move → Prop
  | .enter _ o => Entrant law.limits o
  | .change slot o => o.Timed ∧ ∀ before, p.get? slot = some before → law.change slot before o
  | .leave slot cause => law.leave slot cause
  | .look _ => True

def Lawful (law : Law) : Population → List Move → Prop
  | _, [] => True
  | p, move :: rest => law.Admits p move ∧ Lawful law (p.moved move) rest

section Lawful
variable {law : Law} {p q : Population}

theorem Lawful.append {first second : List Move} (trail : Trail p first q)
    (head : Lawful law p first) (tail : Lawful law q second) : Lawful law p (first ++ second) := by
  induction trail with
  | stay _ => exact tail
  | go _ _ ih => exact ⟨head.1, ih head.2 tail⟩

/-- Moves that a law has in any population. -/
theorem lawful_of_admitted {moves : List Move} (admitted : ∀ move ∈ moves, ∀ p, law.Admits p move)
    (p : Population) : Lawful law p moves := by
  induction moves generalizing p with
  | nil => trivial
  | cons move rest ih =>
      exact ⟨admitted move List.mem_cons_self p,
        ih (fun other later => admitted other (List.mem_cons_of_mem _ later)) _⟩

theorem Lawful.leaves {moves : List Move} (lawful : Lawful law p moves) {slot : SlotId}
    {cause : RemovalCause} (told : (slot, cause) ∈ moves.filterMap Move.removal?) :
    law.leave slot cause := by
  induction moves generalizing p with
  | nil => simp at told
  | cons move rest ih =>
      cases move with
      | leave other why =>
          rcases List.mem_cons.mp told with same | later
          · cases same
            exact lawful.1
          · exact ih lawful.2 later
      | enter other o => exact ih lawful.2 told
      | change other o => exact ih lawful.2 told
      | look focus => exact ih lawful.2 told

end Lawful

section Members
variable {law : Law} {p q : Population} {moves : List Move}

theorem get?_moved (tidy : p.Tidy) {move : Move} (allowed : p.Allowed move) {slot : SlotId}
    {o : Organism} (found : p.get? slot = some o) (spares : move.Spares slot) :
    (p.moved move).get? slot = some o :=
  get?_of_mem (moved_tidy tidy allowed).distinct
    (mem_moved allowed (mem_members_of_get? found) spares)

theorem Lawful.members (property : SlotId → Organism → Prop) (lawful : Lawful law p moves)
    (trail : Trail p moves q)
    (entering : ∀ slot ∈ entered moves, ∀ o, Entrant law.limits o → property slot o)
    (changing : ∀ slot before after, after.Timed → law.change slot before after →
      property slot before → property slot after)
    (start : ∀ m ∈ p.members, property m.1 m.2) : ∀ m ∈ q.members, property m.1 m.2 := by
  induction trail with
  | stay _ => exact start
  | @go p q move rest allowed _ ih =>
      obtain ⟨admitted, later⟩ := lawful
      have entering' : ∀ slot ∈ entered rest, ∀ o, Entrant law.limits o → property slot o := by
        intro slot new
        apply entering slot
        cases move with
        | enter other o => exact List.mem_cons_of_mem _ new
        | _ => exact new
      refine ih later entering' ?_
      intro m member
      cases move with
      | enter slot o =>
          simp only [moved, allocate_members, List.mem_append, List.mem_singleton] at member
          rcases member with old | rfl
          · exact start m old
          · exact entering slot (by simp) o admitted
      | change slot o =>
          obtain ⟨before, found⟩ := get?_of_mem_slots allowed
          rcases (mem_update_iff allowed o m).mp member with rfl | ⟨old, _⟩
          · exact changing slot before o admitted.1 (admitted.2 before found)
              (start _ (mem_members_of_get? found))
          · exact start m old
      | leave slot cause => exact start m ((mem_vacate_iff p slot m).mp member).1
      | look focus => exact start m member

theorem Lawful.timed (lawful : Lawful law p moves) (trail : Trail p moves q)
    (start : ∀ m ∈ p.members, m.2.Timed) : ∀ m ∈ q.members, m.2.Timed :=
  lawful.members (fun _ o => o.Timed) trail (fun _ _ _ entrant => entrant.timed)
    (fun _ _ _ timed _ _ => timed) start

end Members

theorem charged_timed {o : Organism} (timed : o.Timed) : o.tickLifespan.1.Timed := by
  unfold Organism.tickLifespan
  split
  · exact timed
  · exact timed

theorem chargeOne_lawful (law : Law) {p : Population} (tidy : p.Tidy)
    (timed : ∀ m ∈ p.members, m.2.Timed) {slot : SlotId}
    (charges : ∀ o, law.change slot o o.tickLifespan.1) (expires : law.leave slot .expired) :
    ∃ moves, Account p (p.chargeOne slot).state (p.chargeOne slot).events moves ∧
      Lawful law p moves ∧ entered moves = [] ∧
      ∃ expired, (p.chargeOne slot).answer = .ok expired := by
  cases found : p.get? slot with
  | none =>
      rw [chargeOne_absent found]
      exact ⟨[], .nothing p, trivial, rfl, false, rfl⟩
  | some o =>
      have live := mem_slots_of_get? found
      cases expired : o.tickLifespan.2 with
      | false =>
          rw [chargeOne_lasting found expired]
          refine ⟨_, ⟨.single (.change slot o.tickLifespan.1) live, rfl⟩, ⟨⟨?_, ?_⟩, trivial⟩, rfl,
            false, rfl⟩
          · exact charged_timed (timed _ (mem_members_of_get? found))
          · intro before here
            cases found.symm.trans here
            exact charges o
      | true =>
          rw [chargeOne_expired tidy.distinct found expired]
          exact ⟨_, leave_account live o.tickLifespan.1.kill .expired, ⟨expires, trivial⟩, rfl,
            true, rfl⟩

theorem charge_lawful (law : Law) {slots : List SlotId} {p : Population} (tidy : p.Tidy)
    (timed : ∀ m ∈ p.members, m.2.Timed)
    (charges : ∀ slot ∈ slots, ∀ o, law.change slot o o.tickLifespan.1)
    (expires : ∀ slot ∈ slots, law.leave slot .expired) :
    ∃ moves, Account p (p.charge slots).state (p.charge slots).events moves ∧
      Lawful law p moves ∧ entered moves = [] := by
  induction slots generalizing p with
  | nil => exact ⟨[], .nothing p, trivial, rfl⟩
  | cons slot rest ih =>
      obtain ⟨first, account, lawful, nobody, expired, answer⟩ := chargeOne_lawful law tidy timed
        (charges slot List.mem_cons_self) (expires slot List.mem_cons_self)
      obtain ⟨others, account', lawful', nobody'⟩ := ih (account.trail.tidy tidy)
        (lawful.timed account.trail timed)
        (fun other later => charges other (List.mem_cons_of_mem _ later))
        (fun other later => expires other (List.mem_cons_of_mem _ later))
      refine ⟨first ++ others, ?_, lawful.append account.trail lawful', ?_⟩
      · rw [charge, Attempt.andThen_of_ok _ answer]
        exact account.append account'
      · rw [entered_append, nobody, nobody', List.append_nil]

/-- The organism of a slot is still there as it should be, and nothing is told of it; or it has
left for one of these causes, and that alone is told. -/
inductive Fate (kept : Organism → Prop) (ends : RemovalCause → Prop) (slot : SlotId)
    (told : List (SlotId × RemovalCause)) (p : Population) : Prop where
  | stays {o : Organism} (here : p.get? slot = some o) (good : kept o)
      (untold : ∀ cause, (slot, cause) ∉ told)
  | leaves {cause : RemovalCause} (gone : p.Spent slot) (reason : ends cause)
      (named : ∀ other, (slot, other) ∈ told ↔ other = cause)

section Fates
variable {law : Law} {p q : Population} {moves : List Move} {slot : SlotId}

theorem Trail.untold_of_spent (trail : Trail p moves q) (tidy : p.Tidy) (spent : p.Spent slot)
    (cause : RemovalCause) : (slot, cause) ∉ moves.filterMap Move.removal? := by
  induction trail with
  | stay _ => simp
  | @go p q move rest allowed _ ih =>
      have later := ih (moved_tidy tidy allowed) (moved_spent spent)
      cases move with
      | leave other why =>
          intro told
          rcases List.mem_cons.mp told with same | rest
          · cases same
            exact tidy.not_spent allowed spent
          · exact later rest
      | enter other o => exact later
      | change other o => exact later
      | look focus => exact later

theorem Lawful.fate (kept : Organism → Prop) (lawful : Lawful law p moves)
    (trail : Trail p moves q) (tidy : p.Tidy)
    (changing : ∀ before after, after.Timed → law.change slot before after →
      kept before → kept after)
    {o : Organism} (found : p.get? slot = some o) (good : kept o) :
    Fate kept (law.leave slot) slot (moves.filterMap Move.removal?) q := by
  -- The organism is followed from move to move as long as it stays.
  induction trail generalizing o with
  | stay _ => exact .stays found good (by simp)
  | @go p q move rest allowed onwards ih =>
      obtain ⟨admitted, later⟩ := lawful
      have tidy' := moved_tidy tidy allowed
      cases move with
      | enter other newcomer =>
          exact ih later tidy' (get?_moved tidy allowed found trivial) good
      | change other changed =>
          by_cases same : other = slot
          · subst same
            exact ih later tidy' (get?_update_self tidy.distinct allowed changed)
              (changing o changed admitted.1 (admitted.2 o found) good)
          · exact ih later tidy' (get?_moved tidy allowed found same) good
      | leave other cause =>
          by_cases same : other = slot
          · subst same
            have spent := left_spent tidy allowed
            refine .leaves (onwards.spent spent) admitted fun why => ?_
            simp only [List.filterMap_cons, Move.removal?, List.mem_cons, Prod.mk.injEq, true_and]
            exact or_iff_left (onwards.untold_of_spent tidy' spent why)
          · -- The departure of another is told before what is told of this one.
            have apart (why : RemovalCause) : (slot, why) ∈
                (Move.leave other cause :: rest).filterMap Move.removal? ↔
                  (slot, why) ∈ rest.filterMap Move.removal? := by
              simp [Move.removal?, Ne.symm same]
            cases ih later tidy' (get?_moved tidy allowed found same) good with
            | stays here good untold =>
                exact .stays here good fun why told => untold why ((apart why).mp told)
            | leaves gone reason named =>
                exact .leaves gone reason fun why => (apart why).trans (named why)
      | look focus => exact ih later tidy' found good

/-- What comes after is told after, and of whoever has left nothing more is told. -/
theorem Fate.append {kept kept' : Organism → Prop} {ends ends' : RemovalCause → Prop}
    {told later : List (SlotId × RemovalCause)} (first : Fate kept ends slot told p)
    (onwards : ∀ o, p.get? slot = some o → kept o → Fate kept' ends' slot later q)
    (gone : p.Spent slot → q.Spent slot ∧ ∀ cause, (slot, cause) ∉ later)
    (reasons : ∀ cause, ends cause → ends' cause) : Fate kept' ends' slot (told ++ later) q := by
  cases first with
  | stays here good untold =>
      cases onwards _ here good with
      | stays here' good' untold' =>
          refine .stays here' good' fun cause member => ?_
          exact (List.mem_append.mp member).elim (untold cause) (untold' cause)
      | leaves spent reason named =>
          refine .leaves spent reason fun cause => ?_
          rw [List.mem_append, ← named cause]
          exact or_iff_right (untold cause)
  | leaves spent reason named =>
      obtain ⟨spent', untold⟩ := gone spent
      refine .leaves spent' (reasons _ reason) fun cause => ?_
      rw [List.mem_append, ← named cause]
      exact or_iff_left (untold cause)

theorem Fate.weaken {kept kept' : Organism → Prop} {ends ends' : RemovalCause → Prop}
    {told : List (SlotId × RemovalCause)} (fate : Fate kept ends slot told p)
    (good : ∀ o, kept o → kept' o) (reasons : ∀ cause, ends cause → ends' cause) :
    Fate kept' ends' slot told p := by
  cases fate with
  | stays here kept untold => exact .stays here (good _ kept) untold
  | leaves gone reason named => exact .leaves gone (reasons _ reason) named

theorem removals_append (first second : List Event) :
    removals (first ++ second) = removals first ++ removals second := by
  simp [removals, Event.removals_append]

theorem chargeOne_fate (tidy : p.Tidy) {o : Organism} (found : p.get? slot = some o) :
    Fate (fun after => o.tickLifespan = (after, false))
      (fun cause => cause = .expired ∧ o.tickLifespan.2 = true) slot
      (removals (p.chargeOne slot).events) (p.chargeOne slot).state := by
  have live := mem_slots_of_get? found
  cases expired : o.tickLifespan.2 with
  | false =>
      rw [chargeOne_lasting found expired]
      exact .stays (get?_update_self tidy.distinct live _) (by rw [← expired])
        (by simp [removals, Event.removals])
  | true =>
      rw [chargeOne_expired tidy.distinct found expired]
      exact .leaves (left_spent tidy live) ⟨rfl, rfl⟩ (by simp [removals, Event.removals])

section Charges
variable (tidy : p.Tidy) (timed : ∀ m ∈ p.members, m.2.Timed) {slots : List SlotId}
include tidy timed

theorem chargeOne_spares {other : SlotId} (apart : slot ≠ other) {o : Organism}
    (found : p.get? slot = some o) :
    Fate (· = o) (fun _ => False) slot (removals (p.chargeOne other).events)
      (p.chargeOne other).state := by
  let law : Law := ⟨{}, fun slot _ _ => slot = other, fun slot _ => slot = other⟩
  obtain ⟨moves, account, lawful, _⟩ :=
    chargeOne_lawful law tidy timed (fun _ => (rfl : other = other)) rfl
  rw [account.told]
  exact (lawful.fate (· = o) account.trail tidy (fun _ _ _ same => absurd same apart) found
    rfl).weaken (fun _ => id) fun _ same => apart same

theorem charge_spares (outside : slot ∉ slots) {o : Organism} (found : p.get? slot = some o) :
    Fate (· = o) (fun _ => False) slot (removals (p.charge slots).events)
      (p.charge slots).state := by
  let law : Law := ⟨{}, fun slot _ _ => slot ∈ slots, fun slot _ => slot ∈ slots⟩
  obtain ⟨moves, account, lawful, _⟩ := charge_lawful law tidy timed
    (fun _ charged _ => charged) (fun _ charged => charged)
  rw [account.told]
  exact (lawful.fate (· = o) account.trail tidy (fun _ _ _ charged => absurd charged outside) found
    rfl).weaken (fun _ => id) fun _ charged => outside charged

omit timed in
theorem charge_spent (spent : p.Spent slot) : (p.charge slots).state.Spent slot ∧
    ∀ cause, (slot, cause) ∉ removals (p.charge slots).events := by
  obtain ⟨moves, account, _⟩ := charge_account slots p tidy
  rw [account.told]
  exact ⟨account.trail.spent spent, account.trail.untold_of_spent tidy spent⟩

theorem charge_fate (distinct : slots.Nodup) (charged : slot ∈ slots) {o : Organism}
    (found : p.get? slot = some o) :
    Fate (fun after => o.tickLifespan = (after, false))
      (fun cause => cause = .expired ∧ o.tickLifespan.2 = true) slot
      (removals (p.charge slots).events) (p.charge slots).state := by
  induction slots generalizing p with
  | nil => simp at charged
  | cons other rest ih =>
      obtain ⟨apart, distinct⟩ := List.nodup_cons.mp distinct
      let law : Law := ⟨{}, fun _ _ _ => True, fun _ _ => True⟩
      have free (o : Organism) : law.change other o o.tickLifespan.1 := trivial
      obtain ⟨_, account, lawful, _, _, answer⟩ := chargeOne_lawful law tidy timed free trivial
      have tidy' := account.trail.tidy tidy
      have timed' := lawful.timed account.trail timed
      rw [charge, Attempt.andThen_of_ok _ answer, removals_append]
      by_cases own : slot = other
      · subst own
        refine (chargeOne_fate tidy found).append ?_ (charge_spent tidy') fun _ => id
        intro after here kept
        exact (charge_spares tidy' timed' apart here).weaken (fun _ same => same ▸ kept)
          fun _ => False.elim
      · have later : slot ∈ rest := (List.mem_cons.mp charged).resolve_left own
        refine (chargeOne_spares tidy timed own found).append ?_ (charge_spent tidy')
          fun _ => False.elim
        rintro after here rfl
        exact ih tidy' timed' distinct later here

end Charges
end Fates
end Terrarium.Population
