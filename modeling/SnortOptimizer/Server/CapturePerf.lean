import SnortOptimizer.Machine.Exclusive

/-!
# Capture jobs and performance tests (`server/api/jobs.go`)

`startCapture` and `startPerfTest` run one job of their kind at a time. Both check and reserve under
the server's mutex in one locked section, write the record of the job, and take the reservation back
if that fails; the goroutine writes its outcome to the record before it gives the slot back. They
differ in what the slot is (two fields of the server for a capture, a map of cancel functions for
performance tests) and in what the goroutine does.

The cancel function of a job is named by the job. Job ids are those of `uuid.NewString`, counted.
-/

namespace SnortOptimizer.Server

open Exclusive

/-- The statuses `finish` is called with. -/
inductive JobOutcome where
  | completed
  | failed
  | canceled
  deriving DecidableEq, Repr

/-! ## Captures -/

/-- The fields of the server a capture is kept in. -/
structure CaptureFields where
  captureCancel : Option Nat
  captureJobID : Option Nat
  deriving DecidableEq, Repr

def CaptureFields.release (s : CaptureFields) (jobID : Nat) : CaptureFields :=
  if s.captureJobID = some jobID then { captureCancel := none, captureJobID := none } else s

def captureSlot : Slot CaptureFields where
  empty := { captureCancel := none, captureJobID := none }
  isFree s := s.captureCancel.isNone
  reserve _ jobID := { captureCancel := some jobID, captureJobID := some jobID }
  release := CaptureFields.release
  cancels s := s.captureCancel.toList
  isFree_reserve _ := rfl
  release_reserve jobID := by simp [CaptureFields.release]

/-- Where `runCaptureJob` stands. `timer` is `stoppedByTimer`; `drained` says that the exit of
tcpdump has already been received from `done`, which holds one value. -/
inductive CaptureStage where
  | mkdir                                   -- before `os.MkdirAll`
  | launch                                  -- before `cmd.Start`
  | capturing                               -- the first `select`
  | stopping (timer drained : Bool)         -- SIGINT is sent; the second `select`
  | reaping (timer drained : Bool)          -- SIGKILL is sent; `<-done`
  | stat (timer : Bool)                     -- before `os.Stat`
  deriving DecidableEq, Repr

inductive CaptureEvent where
  | mkdirAll (ok : Bool)
  | cmdStart (ok : Bool)
  | ctxDone
  | timer
  | exited (ok : Bool)                      -- tcpdump's exit is received from `done`
  | grace                                   -- the three seconds after SIGINT are over
  | stat (ok : Bool)
  deriving DecidableEq, Repr

/-- `runCaptureJob`, up to its call of `finish`. -/
def runCaptureJob (canceled : Bool) :
    CaptureStage → CaptureEvent → Option (CaptureStage ⊕ JobOutcome)
  | .mkdir, .mkdirAll ok => some (if ok then .inl .launch else .inr .failed)
  | .launch, .cmdStart ok => some (if ok then .inl .capturing else .inr .failed)
  | .capturing, .ctxDone => if canceled then some (.inl (.stopping false false)) else none
  | .capturing, .timer => some (.inl (.stopping true false))
  | .capturing, .exited ok =>
      some (if ¬ok then .inr .failed
        else if canceled then .inl (.stopping false true)
        else .inl (.stat false))
  | .stopping timer drained, .exited ok =>
      if drained then none
      else some (if ¬ok ∧ ¬timer ∧ ¬canceled then .inr .failed else .inl (.stat timer))
  | .stopping timer drained, .grace => some (.inl (.reaping timer drained))
  | .reaping timer drained, .exited _ => if drained then none else some (.inl (.stat timer))
  | .stat timer, .stat ok =>
      some (.inr (if ¬ok then .failed else if canceled ∧ ¬timer then .canceled else .completed))
  | _, _ => none

def captureTask : Task CaptureStage CaptureEvent JobOutcome where
  start := .mkdir
  step := runCaptureJob

/-- `startCapture`, `runCaptureJob` and `handleCaptureStop` under any number of requests. -/
def captureMachine : Machine (State CaptureFields CaptureStage JobOutcome) (Action CaptureEvent) :=
  machine captureSlot captureTask

/-! ## Performance tests -/

/-- The keys of `perfCancels`. -/
abbrev PerfCancels := List Nat

def perfSlot : Slot PerfCancels where
  empty := []
  isFree s := s.isEmpty
  reserve s jobID := jobID :: s
  release s jobID := s.filter (· ≠ jobID)
  cancels s := s
  isFree_reserve _ := rfl
  release_reserve jobID := by simp

/-- Where `runPerfJob` stands. -/
inductive PerfStage where
  | newRunner
  | start
  | timed                                   -- the `select` of a test on an interface
  | stopTimed                               -- before `runner.Stop` after that
  | waiting                                 -- `runner.Wait(ctx)`
  | stopFailed                              -- `runner.Stop` after a failed wait
  | stopCanceled                            -- `runner.Stop` after a canceled wait
  | report                                  -- the queries for the result
  deriving DecidableEq, Repr

inductive PerfEvent where
  | newRunner (ok : Bool)
  | runnerStart (ok timed : Bool)           -- `timed`: interface mode with a duration
  | ctxDone
  | timer
  | runnerStop (ok : Bool)
  | runnerWait (ok : Bool)
  | report
  deriving DecidableEq, Repr

/-- `runPerfJob`, up to its call of `finish`. A canceled test is completed, too. -/
def runPerfJob (canceled : Bool) : PerfStage → PerfEvent → Option (PerfStage ⊕ JobOutcome)
  | .newRunner, .newRunner ok => some (if ok then .inl .start else .inr .failed)
  | .start, .runnerStart ok timed =>
      some (if ¬ok then .inr .failed else if timed then .inl .timed else .inl .waiting)
  | .timed, .ctxDone => if canceled then some (.inl .stopTimed) else none
  | .timed, .timer => some (.inl .stopTimed)
  | .stopTimed, .runnerStop ok => some (if ok then .inl .report else .inr .failed)
  | .waiting, .runnerWait ok =>
      some (if ok then .inl .report else if canceled then .inl .stopCanceled else .inl .stopFailed)
  | .stopFailed, .runnerStop _ => some (.inr .failed)
  | .stopCanceled, .runnerStop ok => some (if ok then .inl .report else .inr .failed)
  | .report, .report => some (.inr .completed)
  | _, _ => none

def perfTask : Task PerfStage PerfEvent JobOutcome where
  start := .newRunner
  step := runPerfJob

/-- `startPerfTest`, `runPerfJob` and `handlePerfTestStop` under any number of requests. -/
def perfMachine : Machine (State PerfCancels PerfStage JobOutcome) (Action PerfEvent) :=
  machine perfSlot perfTask

/-! ## Both kinds -/

/-- The two kinds share the mutex and the jobs table, but no field and no row. -/
def jobsMachine := captureMachine.prod perfMachine

/-- **Captures and performance tests exclude each other within their kind and settle.** In every
order of requests and of steps of the goroutines at most one goroutine of each kind is active,
while a slot is free no job of its kind is recorded as running, and a start that returns an error
leaves the slot as it found it. -/
theorem jobs_settle (s : State CaptureFields CaptureStage JobOutcome ×
      State PerfCancels PerfStage JobOutcome) (hr : jobsMachine.Reachable s) :
    (OneActive s.1 ∧ OneActive s.2) ∧
    (SettledWhenFree captureSlot s.1 ∧ SettledWhenFree perfSlot s.2) ∧
    (∀ a s' before, captureMachine.step s.1 a = some s' → StartFails captureSlot s.1 a before →
      s'.slot = before) ∧
    ∀ a s' before, perfMachine.step s.2 a = some s' → StartFails perfSlot s.2 a before →
      s'.slot = before := by
  obtain ⟨hc, hp⟩ := hr.of_prod
  have hcapture : Settles captureSlot captureTask s.1 := settles_of_reachable hc
  have hperf : Settles perfSlot perfTask s.2 := settles_of_reachable hp
  refine ⟨⟨hcapture.oneActive, hperf.oneActive⟩,
    ⟨hcapture.settledWhenFree, hperf.settledWhenFree⟩, ?_, ?_⟩
  · exact hcapture.startFails
  · exact hperf.startFails

/-- A capture is started, a second one refused, the first one stopped; a performance test fails to
write its record and is about to give the slot back. -/
def mixedSchedule : List (Action CaptureEvent ⊕ Action PerfEvent) :=
  [.inl (.reserve 0), .inl (.store 0 true), .inr (.reserve 2), .inl (.reserve 1),
    .inl (.spawn 0), .inr (.store 2 false), .inl (.work 0 (.mkdirAll true)),
    .inl (.work 0 (.cmdStart true)), .inl (.stop 3), .inl (.cancel 3), .inl (.work 0 .ctxDone),
    .inl (.work 0 (.exited false)), .inl (.work 0 (.stat true)), .inl (.settle 0),
    .inl (.release 0)]

theorem mixedSchedule_settles :
    ∃ s, jobsMachine.exec jobsMachine.init mixedSchedule = some s ∧
      s.1.jobs 0 = some (.settled .canceled) ∧ SettledWhenFree captureSlot s.1 ∧
      ∃ s', perfMachine.step s.2 (.rollback 2) = some s' ∧ s'.slot = [] := by
  have hexec : (jobsMachine.exec jobsMachine.init mixedSchedule).isSome = true := by decide
  obtain ⟨s, hs⟩ := Option.isSome_iff_exists.mp hexec
  have hjob : (jobsMachine.exec jobsMachine.init mixedSchedule).map (fun s => s.1.jobs 0) =
      some (some (.settled .canceled)) := by decide
  have hrequest : (jobsMachine.exec jobsMachine.init mixedSchedule).map
      (fun s => s.2.request 2) = some (.rollingBack 0 []) := by decide
  rw [hs] at hjob hrequest
  have hrequest : s.2.request 2 = .rollingBack 0 [] := Option.some.inj hrequest
  obtain ⟨_, hsettled, _, hperf⟩ := jobs_settle s ⟨mixedSchedule, hs⟩
  refine ⟨s, hs, Option.some.inj hjob, hsettled.1, ?_⟩
  have hstep : ∃ s', perfMachine.step s.2 (.rollback 2) = some s' := by
    simp [perfMachine, machine, Exclusive.step, hrequest]
  obtain ⟨s', hs'⟩ := hstep
  exact ⟨s', hs', hperf _ s' [] hs' (.rolledBack 2 0 [] hrequest)⟩

end SnortOptimizer.Server
