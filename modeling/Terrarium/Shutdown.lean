/-!
Serving tasks and taking them down in order. The wait ends with the first signal or the
first task that is over, among those that were still running when it began. Then every stop
callback is called, tasks get a grace period, those still running after it are cancelled, and
the first failure in list order is raised. What the outside world does is given as occurrences,
and what serving does comes back as actions, in the order in which they were taken.
-/

namespace Terrarium.Shutdown

inductive Signal where
  | interrupt
  | terminate
deriving DecidableEq

def Signal.all : List Signal := [interrupt, terminate]

inductive Ending where
  | done
  | cancelled
  | failed (kind message : String)
deriving DecidableEq

/-- A task is running until it has an ending. -/
abbrev Progress := Option Ending

/-- Time passes in ticks; only the grace period is measured in them. -/
inductive Occurrence where
  | signal (signal : Signal)
  | ends (task : Nat) (ending : Ending)
  | elapses (ticks : Nat)
deriving DecidableEq

def Occurrence.rouses (watched : List Nat) : Occurrence → Bool
  | .signal _ => true
  | .ends task _ => watched.contains task
  | .elapses _ => false

inductive Action where
  | listen (signal : Signal)
  | wake
  | call (callback : Nat)
  | cancel (task : Nat)
  | ignore (signal : Signal)
deriving DecidableEq

/-- The wait is for some tasks only. The grace period has some ticks left, and those cancelled
after it are waited for in their turn. -/
inductive Stage where
  | waiting (watched : List Nat)
  | granting (left : Nat)
  | reaping
  | finished (raised : Option (String × String))
deriving DecidableEq

/-- An ending is for good: of two the first counts. -/
def settle (tasks : List Progress) (task : Nat) (ending : Ending) : List Progress :=
  tasks.modify task fun progress => some (progress.getD ending)

def running (tasks : List Progress) : List Nat :=
  tasks.zipIdx.filterMap fun (progress, i) => if progress.isNone then some i else none

def failure? : Progress → Option (String × String)
  | some (.failed kind message) => some (kind, message)
  | _ => none

def Action.heed (signals : List Signal) : Action → List Signal
  | .listen signal => signals ++ [signal]
  | .ignore signal => signals.filter (· ≠ signal)
  | _ => signals

def listening (actions : List Action) : List Signal := actions.foldl Action.heed []

structure Service where
  callbacks : Nat
  grace : Nat
  tasks : List Progress
  stage : Stage
  actions : List Action
deriving DecidableEq

namespace Service

/-- A task that is over already is not waited for. -/
def start (callbacks grace : Nat) (tasks : List Progress) : Service :=
  { callbacks := callbacks
    grace := grace
    tasks := tasks
    stage := .waiting (running tasks)
    actions := Signal.all.map .listen }

def close (s : Service) : Service :=
  { s with
    stage := .finished (s.tasks.findSome? failure?)
    actions := s.actions ++ Signal.all.map .ignore }

def closeIfOver (s : Service) : Service :=
  if running s.tasks = [] then s.close else s

def wake (s : Service) : Service :=
  { s with
    stage := .granting s.grace
    actions := s.actions ++ .wake :: (List.range s.callbacks).map .call }

/-- All that are late are cancelled at one time; their order in the list means nothing. -/
def cancelLate (s : Service) : Service :=
  { s with
    stage := .reaping
    actions := s.actions ++ (running s.tasks).map .cancel }

/-- Whatever the stage, a task that ends is over. -/
def hear (s : Service) : Occurrence → Service
  | .ends task ending => { s with tasks := settle s.tasks task ending }
  | _ => s

def occur (s : Service) (occurrence : Occurrence) : Service :=
  let s := s.hear occurrence
  match s.stage, occurrence with
  | .waiting watched, occurrence => if occurrence.rouses watched then s.wake.closeIfOver else s
  | .granting left, .elapses ticks =>
      if left ≤ ticks then s.cancelLate else { s with stage := .granting (left - ticks) }
  | .granting _, .ends _ _ | .reaping, .ends _ _ => s.closeIfOver
  | _, _ => s

def run (s : Service) (schedule : List Occurrence) : Service := schedule.foldl occur s

def waits (s : Service) : Bool := s.stage matches .waiting _

def isFinished (s : Service) : Bool := s.stage matches .finished _

def raised (s : Service) : Option (String × String) :=
  match s.stage with
  | .finished raised => raised
  | _ => none

def called (s : Service) : List Nat :=
  s.actions.filterMap fun
    | .call callback => some callback
    | _ => none

def cancelled (s : Service) : List Nat :=
  s.actions.filterMap fun
    | .cancel task => some task
    | _ => none

end Service

/-! Tasks that act by themselves: some end or signal at once, some end as soon as a stop
callback has been called, some only when they are cancelled. -/

structure Task where
  atOnce : Option Ending := none
  sends : Option Signal := none
  afterStop : Option Ending := none
  onCancel : Ending := .cancelled

def atOnce (tasks : List Task) : List Occurrence :=
  tasks.zipIdx.flatMap fun (task, i) =>
    task.atOnce.toList.map (Occurrence.ends i) ++ task.sends.toList.map Occurrence.signal

def afterStop (tasks : List Task) : List Occurrence :=
  tasks.zipIdx.flatMap fun (task, i) => task.afterStop.toList.map (Occurrence.ends i)

def onCancel (tasks : List Task) (cancelled : List Nat) : List Occurrence :=
  cancelled.map fun i => .ends i ((tasks[i]?).elim .cancelled Task.onCancel)

/-- Serves such tasks to the end, none if the wait never ends. With a head start they have had
a turn before, and those that end at once are over. -/
def serveTasks (callbacks : Nat) (tasks : List Task) (headStart : Nat := 0) : Option Service :=
  let begun := tasks.map fun task => if headStart = 0 then none else task.atOnce
  let waited := (Service.start callbacks 1 begun).run (atOnce tasks)
  if waited.waits then none
  else
    let late := (waited.run (if callbacks = 0 then [] else afterStop tasks)).occur (.elapses 1)
    some (late.run (onCancel tasks late.cancelled))

end Terrarium.Shutdown
