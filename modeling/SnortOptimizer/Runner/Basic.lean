import SnortOptimizer.Machine.Basic
import Mathlib.Logic.Function.Basic

/-!
# The Snort runner (`wrap/runner/runner.go`)

A `Runner` starts one Snort child at a time and keeps, under its mutex, the handles of the run in
progress: the command, the channel `waitDone`, `runInfo`, and the cancel functions and channels of
the two helper goroutines (alert tailer, system profiler). Callers use it concurrently, and every
start leaves a `waitForExit` goroutine behind that finishes the run once the child has exited.

The model is a machine whose actions are the mutex-protected sections and the steps between them:

* `Start` holds the mutex from its first line to its last, so it is one action;
* `Stop` is a snapshot, a signal, a wait for the snapshot's `waitDone`, and `clearStopped`;
* `waitForExit` is a locked section (`reap`), a sequence of unlocked steps (`drain`), and a last
  locked section.

The `n`-th successful start (counted from `0`) creates a command, a `waitDone` channel, cancel
functions and done channels; all of them are named by `n`. Whether a step of `Start` before
`cmd.Start` fails, when a child exits, and when a helper goroutine notices its cancellation is up
to the schedule. The handle of the output file is left out: closing it changes nothing else.
-/

namespace SnortOptimizer.Runner

/-- The switches of `wraptypes.Config` the life cycle of a run reads. -/
structure Config where
  needAlert : Bool
  needProfiler : Bool
  noClean : Bool
  deriving DecidableEq, Repr

/-- `wraptypes.RunInfo`. The child leads its own process group, so `PGID` is `PID`. -/
structure RunInfo where
  pid : Nat
  running : Bool
  deriving DecidableEq, Repr

/-- The cancel functions and done channels of the two helper goroutines. -/
structure Helpers where
  alertStop : Option Nat
  alertDone : Option Nat
  systemStop : Option Nat
  systemDone : Option Nat
  deriving DecidableEq, Repr

def Helpers.none : Helpers := ⟨Option.none, Option.none, Option.none, Option.none⟩

/-- A helper goroutine: never started, running, or returned (its done channel closed). -/
inductive Goroutine where
  | absent
  | running
  | returned
  deriving DecidableEq, Repr

/-- Where the `waitForExit` goroutine of one start stands: the statement it executes next. -/
inductive ExitStage where
  | waiting          -- `cmd.Wait()`, then the first locked section
  | stopAlerts       -- `alertStop()`
  | joinAlerts       -- `<-alertDone`
  | stopSystem       -- `systemStop()`
  | joinSystem       -- `<-systemDone`, then `InsertSystemProfile`
  | importProfiler   -- `ImportProfiler`
  | cleanup          -- `cleanupAlertFile`
  | closeDone        -- `close(done)`
  | clearWaitDone    -- the second locked section
  | closeUntracked   -- `close(done)` of the branch `r.cmd != cmd`
  | finished
  deriving DecidableEq, Repr

/-- The profiler import of the run is still ahead of `waitForExit`. -/
def ExitStage.beforeImport : ExitStage → Bool
  | .stopAlerts | .joinAlerts | .stopSystem | .joinSystem | .importProfiler => true
  | _ => false

/-- The alert-file cleanup of the run is still ahead of `waitForExit`. -/
def ExitStage.beforeCleanup : ExitStage → Bool
  | .stopAlerts | .joinAlerts | .stopSystem | .joinSystem | .importProfiler | .cleanup => true
  | _ => false

/-- One start: the Snort process, its `waitForExit` goroutine and its two helpers. -/
structure Child where
  alive : Bool
  stage : ExitStage
  /-- what the first locked section of `waitForExit` took over -/
  captured : Helpers
  doneClosed : Bool
  tailer : Goroutine
  tailerCancelled : Bool
  monitor : Goroutine
  monitorCancelled : Bool
  deriving DecidableEq, Repr

/-- A start that has not happened yet. -/
def Child.unstarted : Child :=
  { alive := false, stage := .finished, captured := Helpers.none, doneClosed := false
    tailer := .absent, tailerCancelled := false, monitor := .absent, monitorCancelled := false }

/-- The child a successful `Start` creates. -/
def Child.launched (cfg : Config) : Child :=
  { alive := true, stage := .waiting, captured := Helpers.none, doneClosed := false
    tailer := if cfg.needAlert then .running else .absent, tailerCancelled := false
    monitor := if cfg.needProfiler then .running else .absent, monitorCancelled := false }

/-- What a caller of the runner is doing. `restart` tells `Restart` from a plain `Stop`. -/
inductive Caller where
  | idle
  | signalling (info : RunInfo) (waitDone : Option Nat) (restart : Bool)
  | stopWaiting (waitDone : Option Nat) (restart : Bool)
  | clearing (restart : Bool)
  | restarting
  | waiting (waitDone : Nat)
  deriving DecidableEq, Repr

structure State where
  cmd : Option Nat
  waitDone : Option Nat
  runInfo : RunInfo
  helpers : Helpers
  started : Nat
  child : Nat → Child
  caller : Nat → Caller

/-- `New`: no run yet. -/
def State.new : State :=
  { cmd := none, waitDone := none, runInfo := ⟨0, false⟩, helpers := Helpers.none
    started := 0, child := fun _ => Child.unstarted, caller := fun _ => .idle }

def State.setCaller (s : State) (c : Nat) (p : Caller) : State :=
  { s with caller := Function.update s.caller c p }

def State.setChild (s : State) (n : Nat) (k : Child) : State :=
  { s with child := Function.update s.child n k }

/-- The successful end of `Start`: `cmd.Start` returned nil. -/
def State.launch (cfg : Config) (s : State) : State :=
  { s with
    cmd := some s.started
    waitDone := some s.started
    runInfo := ⟨s.started, true⟩
    helpers :=
      { alertStop := if cfg.needAlert then some s.started else s.helpers.alertStop
        alertDone := if cfg.needAlert then some s.started else s.helpers.alertDone
        systemStop := if cfg.needProfiler then some s.started else s.helpers.systemStop
        systemDone := if cfg.needProfiler then some s.started else s.helpers.systemDone }
    started := s.started + 1
    child := Function.update s.child s.started (Child.launched cfg) }

/-- `clearStopped`: forget whatever run the runner refers to. -/
def State.clearStopped (s : State) : State :=
  { s with
    cmd := none
    waitDone := none
    helpers := Helpers.none
    runInfo := { s.runInfo with running := false } }

/-- The first locked section of `waitForExit` for start `n`. -/
def State.reap (s : State) (n : Nat) : State :=
  if s.cmd = some n then
    { s with
      cmd := none
      helpers := Helpers.none
      runInfo := { s.runInfo with running := false }
      child := Function.update s.child n
        { s.child n with stage := .stopAlerts, captured := s.helpers } }
  else
    s.setChild n { s.child n with stage := .closeUntracked }

/-- A cancel function cancels the context of the goroutine it was made for; nil is not called. -/
def State.cancelTailer (s : State) : Option Nat → State
  | none => s
  | some k => s.setChild k { s.child k with tailerCancelled := true }

def State.cancelMonitor (s : State) : Option Nat → State
  | none => s
  | some k => s.setChild k { s.child k with monitorCancelled := true }

/-- A receive from `alertDone` goes through when the channel is nil (not received from at all) or
the tailer has returned. -/
def State.tailerJoined (s : State) : Option Nat → Bool
  | none => true
  | some k => (s.child k).tailer = .returned

def State.monitorJoined (s : State) : Option Nat → Bool
  | none => true
  | some k => (s.child k).monitor = .returned

def State.setStage (s : State) (n : Nat) (g : ExitStage) : State :=
  s.setChild n { s.child n with stage := g }

/-- The next statement of `waitForExit` after its first locked section. -/
def State.drain (s : State) (n : Nat) : Option State :=
  match (s.child n).stage with
  | .stopAlerts => some ((s.cancelTailer (s.child n).captured.alertStop).setStage n .joinAlerts)
  | .joinAlerts =>
      if s.tailerJoined (s.child n).captured.alertDone then some (s.setStage n .stopSystem)
      else none
  | .stopSystem => some ((s.cancelMonitor (s.child n).captured.systemStop).setStage n .joinSystem)
  | .joinSystem =>
      if s.monitorJoined (s.child n).captured.systemDone then some (s.setStage n .importProfiler)
      else none
  | .importProfiler => some (s.setStage n .cleanup)
  | .cleanup => some (s.setStage n .closeDone)
  | .closeDone =>
      some (s.setChild n { s.child n with doneClosed := true, stage := .clearWaitDone })
  | .clearWaitDone =>
      let t := s.setStage n .finished
      some (if s.waitDone = some n then { t with waitDone := none } else t)
  | .closeUntracked =>
      some (s.setChild n { s.child n with doneClosed := true, stage := .finished })
  | .waiting | .finished => none

/-- `waitDone` of a snapshot is closed; a receive from a nil channel never goes through. -/
def State.closed (s : State) : Option Nat → Bool
  | none => false
  | some d => (s.child d).doneClosed

/-- The actions of the machine. `c` names a caller, `n` a start. -/
inductive Action where
  | start (c : Nat) (ok : Bool)         -- `Start`; `ok` = no step before `cmd.Start` failed
  | stop (c : Nat) (restart : Bool)     -- the snapshot at the head of `Stop`
  | signal (c : Nat) (ok : Bool)        -- `syscall.Kill` of the snapshot's process group
  | awaitDone (c : Nat)                 -- `<-waitDone` of `Stop` (before or after the SIGKILL)
  | clear (c : Nat)                     -- `clearStopped`
  | wait (c : Nat)                      -- `Wait` reads `waitDone`
  | waitReturns (c : Nat)               -- ... and finds it closed
  | waitCancelled (c : Nat)             -- ... or its context is done
  | exit (n : Nat)                      -- the Snort process ends
  | reap (n : Nat)                      -- `cmd.Wait` returned: first locked section
  | drain (n : Nat)                     -- next statement of `waitForExit`
  | tailReturns (n : Nat)               -- the cancelled tailer returns
  | monitorReturns (n : Nat)            -- the cancelled profiler returns
  deriving DecidableEq, Repr

/-- An action of a goroutine of the runner, which no caller takes. -/
def Action.background : Action → Bool
  | .exit _ | .reap _ | .drain _ | .tailReturns _ | .monitorReturns _ => true
  | _ => false

/-- `Start`: refused while a run is in progress, otherwise it launches or fails half-way. -/
def State.start (cfg : Config) (s : State) (ok : Bool) : State :=
  if s.runInfo.running then s else if ok then s.launch cfg else s

/-- `Stop`'s snapshot of `cmd`, `runInfo` and `waitDone`, and its fast path. -/
def State.stop (s : State) (restart : Bool) : Caller :=
  if s.cmd = none ∨ s.runInfo.running = false then .clearing restart
  else .signalling s.runInfo s.waitDone restart

def step (cfg : Config) (s : State) : Action → Option State
  | .start c ok =>
      match s.caller c with
      | .idle | .restarting => some ((s.start cfg ok).setCaller c .idle)
      | _ => none
  | .stop c restart =>
      match s.caller c with
      | .idle => some (s.setCaller c (s.stop restart))
      | _ => none
  | .signal c ok =>
      match s.caller c with
      | .signalling _ waitDone restart =>
          some (s.setCaller c (if ok then .stopWaiting waitDone restart else .idle))
      | _ => none
  | .awaitDone c =>
      match s.caller c with
      | .stopWaiting waitDone restart =>
          if s.closed waitDone then some (s.setCaller c (.clearing restart)) else none
      | _ => none
  | .clear c =>
      match s.caller c with
      | .clearing restart =>
          some (s.clearStopped.setCaller c (if restart then .restarting else .idle))
      | _ => none
  | .wait c =>
      match s.caller c with
      | .idle => some (s.setCaller c ((s.waitDone.map Caller.waiting).getD .idle))
      | _ => none
  | .waitReturns c =>
      match s.caller c with
      | .waiting d => if s.closed (some d) then some (s.setCaller c .idle) else none
      | _ => none
  | .waitCancelled c =>
      match s.caller c with
      | .waiting _ => some (s.setCaller c .idle)
      | _ => none
  | .exit n =>
      if (s.child n).alive then some (s.setChild n { s.child n with alive := false }) else none
  | .reap n =>
      if (s.child n).stage = .waiting ∧ (s.child n).alive = false then some (s.reap n) else none
  | .drain n => s.drain n
  | .tailReturns n =>
      if (s.child n).tailer = .running ∧ (s.child n).tailerCancelled then
        some (s.setChild n { s.child n with tailer := .returned })
      else none
  | .monitorReturns n =>
      if (s.child n).monitor = .running ∧ (s.child n).monitorCancelled then
        some (s.setChild n { s.child n with monitor := .returned })
      else none

/-- One runner, used by any number of callers. -/
def machine (cfg : Config) : Machine State Action where
  init := State.new
  step := step cfg

end SnortOptimizer.Runner
