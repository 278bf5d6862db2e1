import Terrarium.Population.Slot
import Terrarium.Settings.Value

/-!
Running counters of a simulation. Each removal is counted under its cause, and
`removals` is the sum over the causes.
-/

namespace Terrarium

structure Metrics where
  cycles : Nat := 0
  births : Nat := 0
  spawned : Nat := 0
  halts : Int := 0
  kills : Int := 0
  expired : Int := 0
  culled : Int := 0
  deduped : Int := 0
  writeErrors : Nat := 0
  strikes : Nat := 0
deriving DecidableEq

namespace Metrics

def removals (m : Metrics) : Int := m.halts + m.kills + m.expired + m.culled + m.deduped

def removalsBy (m : Metrics) : RemovalCause → Int
  | .halt => m.halts
  | .kill => m.kills
  | .expired => m.expired
  | .culled => m.culled
  | .dedup => m.deduped

def recordRemoval (m : Metrics) (cause : RemovalCause) (count : Int) : Metrics :=
  match cause with
  | .halt => { m with halts := m.halts + count }
  | .kill => { m with kills := m.kills + count }
  | .expired => { m with expired := m.expired + count }
  | .culled => { m with culled := m.culled + count }
  | .dedup => { m with deduped := m.deduped + count }

def fields (m : Metrics) : List (String × Value) := [
  ("cycles", .int m.cycles),
  ("births", .int m.births),
  ("spawned", .int m.spawned),
  ("halts", .int m.halts),
  ("kills", .int m.kills),
  ("expired", .int m.expired),
  ("culled", .int m.culled),
  ("deduped", .int m.deduped),
  ("removals", .int m.removals),
  ("write_errors", .int m.writeErrors),
  ("cosmic_ray_strikes", .int m.strikes)]

theorem removalsBy_recordRemoval (m : Metrics) (cause other : RemovalCause) (count : Int) :
    (m.recordRemoval cause count).removalsBy other =
      m.removalsBy other + if cause = other then count else 0 := by
  cases cause <;> cases other <;> simp [recordRemoval, removalsBy]

end Metrics

structure Status where
  running : Bool
  paused : Bool
  population : Nat
  focus : Option SlotId
  metrics : Metrics

def Status.fields (status : Status) : List (String × Value) :=
  [("running", .bool status.running),
   ("paused", .bool status.paused),
   ("population", .int status.population),
   ("focus", match status.focus with
     | some slot => .text slot.describe
     | none => .null)] ++ status.metrics.fields

end Terrarium
