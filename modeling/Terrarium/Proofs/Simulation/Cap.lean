import Terrarium.Proofs.Simulation.Accounting
import Terrarium.Proofs.Simulation.Delay

/-!
The population cap. A population above its limit loses exactly as many as are too many, all of
them live, and the others stay as they are. Main statement: a cycle that comes to its end leaves no
more organisms than the limit allows.
-/

namespace Terrarium

namespace Population

theorem Trail.size_of_leaves {p q : Population} {victims : List SlotId} {cause : RemovalCause}
    (trail : Trail p (victims.map fun slot => .leave slot cause) q) (distinct : p.slots.Nodup) :
    q.size + victims.length = p.size := by
  induction victims generalizing p with
  | nil =>
      cases trail
      rfl
  | cons slot rest ih =>
      cases trail with
      | go allowed onwards =>
          have one : (p.vacate slot).size + 1 = p.size := size_vacate distinct allowed
          have distinct' : (p.vacate slot).slots.Nodup := by
            rw [slots_vacate]
            exact distinct.filter _
          have later : q.size + rest.length = (p.vacate slot).size := ih onwards distinct'
          rw [List.length_cons]
          omega

theorem filter_not_mem_take {p : Population} (distinct : p.slots.Nodup) (count : Nat) :
    p.members.filter (fun m => m.1 ∉ p.slots.take count) = p.members.drop count := by
  have firsts : p.slots.take count = (p.members.take count).map Prod.fst := List.map_take.symm
  have apart :
      ((p.members.take count).map Prod.fst ++ (p.members.drop count).map Prod.fst).Nodup := by
    rw [← List.map_append, List.take_append_drop]
    exact distinct
  have gone : (p.members.take count).filter (fun m => m.1 ∉ p.slots.take count) = [] := by
    rw [firsts]
    exact List.filter_eq_nil_iff.mpr fun m member => by simpa using List.mem_map_of_mem member
  have kept : (p.members.drop count).filter (fun m => m.1 ∉ p.slots.take count) =
      p.members.drop count := by
    rw [firsts]
    refine List.filter_eq_self.mpr fun m member => ?_
    have outside : m.1 ∉ (p.members.take count).map Prod.fst := fun inside =>
      (List.nodup_append.mp apart).2.2 m.1 inside m.1 (List.mem_map_of_mem member) rfl
    simpa using outside
  calc p.members.filter (fun m => m.1 ∉ p.slots.take count)
      = (p.members.take count ++ p.members.drop count).filter
          (fun m => m.1 ∉ p.slots.take count) := by rw [List.take_append_drop]
    _ = p.members.drop count := by rw [List.filter_append, gone, kept, List.nil_append]

end Population

namespace Simulation
open Population Attempt
variable {s t : Simulation} {limit : Nat}

structure Capped (limit : Nat) (s : Simulation) : Prop where
  tidy : s.population.Tidy
  few : s.population.size ≤ limit

/-- Nobody is born once everyone has had a turn. -/
theorem Capped.onwards {permitted : Move → Prop} (capped : s.Capped limit)
    (course : Course permitted [] s t) : t.Capped limit := by
  refine ⟨course.tidy capped.tidy, ?_⟩
  have fewer := (course.order capped.tidy).length_le
  simp only [slots, List.map_nil, List.append_nil, List.length_map] at fewer
  exact Nat.le_trans fewer capped.few

theorem enforceMax_capped (tidy : s.population.Tidy)
    (cap : s.settings.limits.maxPopulation = some limit) : s.enforceMax.state.Capped limit := by
  obtain ⟨victims, account, _, _, _, many, _⟩ := enforceMax_culls s.remover
    s.settings.limits.maxPopulation s.habitat.generator s.population tidy.distinct
  have excessive : victims.length = s.population.size - limit := by simpa [cap, excess] using many
  have size := account.trail.size_of_leaves tidy.distinct
  refine ⟨account.trail.tidy tidy, ?_⟩
  change (s.population.enforceMax _ _ _).state.1.size ≤ limit
  omega

/-- What comes after the cull only removes. -/
theorem settle_capped (tidy : s.population.Tidy)
    (cap : s.settings.limits.maxPopulation = some limit) (slots : List SlotId) :
    (s.settle slots).Grants fun t _ => t.Capped limit := by
  -- The rays change neither the population nor the limit that the cull works with.
  have irradiated : s.irradiate.Grants fun t _ =>
      t.population = s.population ∧ t.settings = s.settings := fun _ _ => ⟨rfl, rfl⟩
  refine irradiated.andThen fun t _ same => ?_
  obtain ⟨population, settings⟩ := same
  rw [← population] at tidy
  rw [← settings] at cap
  have culled : t.enforceMax.Grants fun t _ => t.Capped limit := fun _ _ =>
    enforceMax_capped tidy cap
  refine culled.andThen fun t _ capped => ?_
  have charged : (t.charge slots).Grants fun t _ => t.Capped limit := fun _ _ =>
    capped.onwards (charge_course slots capped.tidy)
  refine charged.andThen fun t _ capped => ?_
  have counted : ({ t with cycle := t.cycle + 1 } : Simulation).Capped limit := { capped with }
  have deduped : ({ t with cycle := t.cycle + 1 } : Simulation).dedupIfDue.Grants
      fun t _ => t.Capped limit := fun _ _ =>
    counted.onwards (dedupIfDue_course slots counted.tidy)
  refine deduped.andThen fun t _ capped => ?_
  exact .done { capped with }

theorem stepCycle_capped (prepared : s.Prepared)
    (cap : s.settings.limits.maxPopulation = some limit) :
    s.stepCycle.Grants fun t _ => t.Capped limit := by
  have ready {attempt : Attempt Simulation Unit} {t : Simulation}
      (booked : ∀ limits, Along (Books (freely limits)) t attempt) (prepared : t.Prepared)
      (cap : t.settings.limits.maxPopulation = some limit) :
      attempt.Grants fun t _ =>
        t.Prepared ∧ t.settings.limits.maxPopulation = some limit := fun _ _ =>
    ⟨prepared.along booked, by rw [(booked _ prepared rfl).2, cap]⟩
  rw [stepCycle_eq]
  refine (ready (freely_executions s.ready) prepared cap).andThen fun t _ same => ?_
  obtain ⟨prepared, cap⟩ := same
  refine (ready (freely_ticks s.delaying) prepared cap).andThen fun t _ same => ?_
  exact settle_capped same.1.tidy same.2 s.ready

/-- A completed cycle leaves no more than the limit. In every population with handles all different
the cap removes as many as are too many, each of them live and told once as culled, and says how
many; the others keep their handles, all they have and their order. Under the policy that takes the
oldest, those who stay are the last ones and nothing is drawn; nor is anything drawn when nobody
has to go. Without a limit nothing happens at all. -/
theorem population_stays_capped :
    (∀ (s : Simulation) (limit : Nat), Reachable s →
      s.settings.limits.maxPopulation = some limit → s.stepCycle.answer = .ok () →
      s.stepCycle.state.population.size ≤ limit) ∧
    (∀ (p : Population) (remover : Remover) (limit : Nat) (g : Generator), p.slots.Nodup →
      let culled := p.enforceMax remover (some limit) g
      ∃ victims : List SlotId, victims.Nodup ∧ (∀ slot ∈ victims, slot ∈ p.slots) ∧
        victims.length = p.size - limit ∧ culled.answer = .ok (p.size - limit) ∧
        removals culled.events = victims.map (fun slot => (slot, .culled)) ∧
        culled.state.1.members = p.members.filter (fun m => m.1 ∉ victims) ∧
        culled.state.1.size = min p.size limit ∧
        (remover = .oldest → culled.state.1.members = p.members.drop (p.size - limit)) ∧
        (p.size ≤ limit ∨ remover = .oldest → culled.state.2 = g)) ∧
    (∀ (p : Population) (remover : Remover) (g : Generator),
      p.enforceMax remover none g = .done (p, g) 0) := by
  refine ⟨?_, ?_, fun _ _ _ => rfl⟩
  · intro s limit reachable cap completed
    exact (stepCycle_capped reachable.prepared cap () completed).few
  · intro p remover limit g distinct culled
    obtain ⟨victims, account, answer, apart, live, many, first⟩ :=
      enforceMax_culls remover (some limit) g p distinct
    have excessive : victims.length = p.size - limit := many
    have survivors := account.trail.members_of_leaves
    have size := account.trail.size_of_leaves distinct
    refine ⟨victims, apart, live, excessive, excessive ▸ answer, ?_, survivors, ?_, ?_, ?_⟩
    · rw [account.told, List.filterMap_map]
      exact congrFun List.filterMap_eq_map victims
    · change culled.state.1.size + _ = _ at size
      omega
    · intro oldest
      rw [survivors, first oldest, filter_not_mem_take distinct]
      rfl
    · intro certain
      have still : p.excess (some limit) = 0 ∨ remover = .oldest :=
        certain.imp_left Nat.sub_eq_zero_of_le
      have undrawn := p.enforceMax_reseeded still g g
      exact congrArg (fun culled => culled.state.2) undrawn

/-- Two where only one may be: in the cycle the first goes, and the other policy would have to
take one as well. -/
theorem population_stays_capped_twoCells :
    let s := twoCells.performAll
      [.spawn ⟨0, 0⟩ .right, .spawn ⟨1, 0⟩ .right, .set .organismLimit (.int 1)]
    let drawn := s.population.enforceMax .random (some 1) s.habitat.generator
    s.settings.limits.maxPopulation = some 1 ∧ s.stepCycle.answer = .ok () ∧
      s.population.size = 2 ∧ s.stepCycle.state.population.size ≤ 1 ∧
      s.population.slots.Nodup ∧ drawn.answer = .ok 1 ∧ drawn.state.1.size = 1 := by
  intro s drawn
  have reachable : Reachable s := ⟨twoCells, twoCells_fresh, Reaches.performAll _ (by decide)⟩
  have cap : s.settings.limits.maxPopulation = some 1 := by decide +kernel
  have completed : s.stepCycle.answer = .ok () := Attempt.answer_of_succeeded (by decide +kernel)
  have two : s.population.size = 2 := by decide +kernel
  have distinct : s.population.slots.Nodup := by decide +kernel
  obtain ⟨capped, culls, _⟩ := population_stays_capped
  obtain ⟨_, _, _, _, answer, _, _, size, _⟩ :=
    culls s.population .random 1 s.habitat.generator distinct
  rw [two] at answer size
  exact ⟨cap, completed, two, capped s 1 reachable cap completed, distinct, answer, size⟩

end Simulation
end Terrarium
