import SnortOptimizer.Machine.Basic
import Mathlib.Logic.Function.Basic

/-!
# Analysis jobs of the server (`server/api/jobs.go`)

`startAnalysis` checks under the server's mutex that no analysis is running, writes a job record,
and — in a second locked section — publishes the cancel function and the id of the new job before
it spawns `runAnalysisJob`. `handleAnalysisCancel` takes both fields out under the mutex, cancels
the context and marks the record. The goroutine itself gives the slot back when it has finished,
if the slot still is its own.

Each action is one locked section, one store operation, or one step of a job goroutine; the cancel
function and the context of a job are named by the job. What the schedule decides is the order,
which fallible steps fail, and when `analyser.Run` returns.
-/

namespace SnortOptimizer.Server

/-- The status texts a stored job record goes through. -/
inductive JobStatus where
  | running
  | completed
  | failed
  | canceled
  deriving DecidableEq, Repr

/-- Where a start or cancel request stands. -/
inductive AnalysisRequest where
  | idle
  | checked                        -- `startAnalysis` found `analysisCancel == nil`
  | stored (job : Nat)             -- `UpsertJob` returned nil
  | published (job : Nat)          -- the second locked section is done
  | cancelling (cancel jobID : Option Nat)   -- `handleAnalysisCancel` emptied the slot
  | loading (jobID : Nat)          -- before `GetJob`
  | marking (jobID : Nat)          -- before `UpsertJob` with status `canceled`
  deriving DecidableEq, Repr

/-- Where the goroutine of a job stands. -/
inductive JobStage where
  | absent
  | spawned                        -- before `analyser.New`
  | selecting                      -- before `selectStrategies`
  | ready                          -- before `a.Run(ctx)`
  | inRun                          -- between entering and leaving `a.Run`
  | finishing (status : JobStatus) -- `finish`, before its `UpsertJob`
  | releasing                      -- `finish`, before its locked section
  | done
  deriving DecidableEq, Repr

structure AnalysisState where
  analysisCancel : Option Nat
  analysisJobID : Option Nat
  canceled : Nat → Bool
  jobs : Nat → Option JobStatus
  nextJob : Nat
  stage : Nat → JobStage
  request : Nat → AnalysisRequest

def AnalysisState.new : AnalysisState :=
  { analysisCancel := none, analysisJobID := none, canceled := fun _ => false
    jobs := fun _ => none, nextJob := 0, stage := fun _ => .absent, request := fun _ => .idle }

def AnalysisState.setRequest (s : AnalysisState) (q : Nat) (p : AnalysisRequest) : AnalysisState :=
  { s with request := Function.update s.request q p }

def AnalysisState.setStage (s : AnalysisState) (j : Nat) (g : JobStage) : AnalysisState :=
  { s with stage := Function.update s.stage j g }

/-- `Store.UpsertJob`: insert or replace the record of a job. -/
def AnalysisState.upsertJob (s : AnalysisState) (j : Nat) (status : JobStatus) : AnalysisState :=
  { s with jobs := Function.update s.jobs j (some status) }

/-- The actions; `q` names a request, `j` a job. -/
inductive AnalysisAction where
  | check (q : Nat)                -- first locked section of `startAnalysis`
  | store (q : Nat) (ok : Bool)    -- its `MarshalConfig` and `UpsertJob`
  | publish (q : Nat)              -- its second locked section
  | spawn (q : Nat)                -- `go s.runAnalysisJob(...)`
  | new (j : Nat) (ok : Bool)      -- `analyser.New`
  | select (j : Nat) (ok : Bool)   -- `selectStrategies`
  | enter (j : Nat)                -- `a.Run` is entered
  | leave (j : Nat) (ok : Bool)    -- `a.Run` returns, with a nil error iff `ok`
  | finishStore (j : Nat) (ok : Bool)  -- `UpsertJob` of `finish`, its error ignored
  | release (j : Nat)              -- locked section of `finish`
  | cancel (q : Nat)               -- locked section of `handleAnalysisCancel`
  | cancelContext (q : Nat)        -- its `cancel()`
  | loadJob (q : Nat)              -- its `GetJob`
  | markCanceled (q : Nat) (ok : Bool) -- its `UpsertJob`, the error ignored
  deriving DecidableEq, Repr

/-- The status `runAnalysisJob` finishes with after `a.Run`. -/
def leaveStatus (ok canceled : Bool) : JobStatus :=
  if ok then .completed else if canceled then .canceled else .failed

def analysisStep (s : AnalysisState) : AnalysisAction → Option AnalysisState
  | .check q =>
      match s.request q with
      | .idle => some (if s.analysisCancel = none then s.setRequest q .checked else s)
      | _ => none
  | .store q ok =>
      match s.request q with
      | .checked =>
          some (if ok then
            { s.upsertJob s.nextJob .running with
              nextJob := s.nextJob + 1
              request := Function.update s.request q (.stored s.nextJob) }
          else s.setRequest q .idle)
      | _ => none
  | .publish q =>
      match s.request q with
      | .stored j =>
          some { s with
            analysisCancel := some j
            analysisJobID := some j
            request := Function.update s.request q (.published j) }
      | _ => none
  | .spawn q =>
      match s.request q with
      | .published j => some ((s.setStage j .spawned).setRequest q .idle)
      | _ => none
  | .new j ok =>
      match s.stage j with
      | .spawned => some (s.setStage j (if ok then .selecting else .finishing .failed))
      | _ => none
  | .select j ok =>
      match s.stage j with
      | .selecting => some (s.setStage j (if ok then .ready else .finishing .failed))
      | _ => none
  | .enter j =>
      match s.stage j with
      | .ready => some (s.setStage j .inRun)
      | _ => none
  | .leave j ok =>
      match s.stage j with
      | .inRun => some (s.setStage j (.finishing (leaveStatus ok (s.canceled j))))
      | _ => none
  | .finishStore j ok =>
      match s.stage j with
      | .finishing status =>
          some ((if ok then s.upsertJob j status else s).setStage j .releasing)
      | _ => none
  | .release j =>
      match s.stage j with
      | .releasing =>
          let t := s.setStage j .done
          some (if s.analysisJobID = some j then
            { t with analysisCancel := none, analysisJobID := none } else t)
      | _ => none
  | .cancel q =>
      match s.request q with
      | .idle =>
          some { s with
            analysisCancel := none
            analysisJobID := none
            request := Function.update s.request q
              (.cancelling s.analysisCancel s.analysisJobID) }
      | _ => none
  | .cancelContext q =>
      match s.request q with
      | .cancelling cancel jobID =>
          let t := match cancel with
            | none => s
            | some j => { s with canceled := Function.update s.canceled j true }
          some (t.setRequest q (match jobID with | none => .idle | some j => .loading j))
      | _ => none
  | .loadJob q =>
      match s.request q with
      | .loading j =>
          some (s.setRequest q (if (s.jobs j).isSome then .marking j else .idle))
      | _ => none
  | .markCanceled q ok =>
      match s.request q with
      | .marking j =>
          some ((if ok then s.upsertJob j .canceled else s).setRequest q .idle)
      | _ => none

/-- The server's analysis jobs under any number of concurrent requests. -/
def analysisMachine : Machine AnalysisState AnalysisAction where
  init := AnalysisState.new
  step := analysisStep

/-! ## Open analyses

An analysis is open from the moment a start request has passed its check until its goroutine has
left `analyser.Run`. -/

def AnalysisRequest.isOpen : AnalysisRequest → Bool
  | .checked | .stored _ | .published _ => true
  | _ => false

def JobStage.isOpen : JobStage → Bool
  | .spawned | .selecting | .ready | .inRun => true
  | _ => false

/-- No analysis is open. -/
def NoneOpen (s : AnalysisState) : Prop :=
  (∀ q, (s.request q).isOpen = false) ∧ ∀ j, (s.stage j).isOpen = false

/-- At most one analysis is open. -/
structure OneOpen (s : AnalysisState) : Prop where
  request : ∀ q q', (s.request q).isOpen = true → (s.request q').isOpen = true → q = q'
  stage : ∀ j j', (s.stage j).isOpen = true → (s.stage j').isOpen = true → j = j'
  apart : ∀ q j, (s.request q).isOpen = true → (s.stage j).isOpen = false

/-- At most one goroutine is inside `analyser.Run`. -/
def OneInRun (s : AnalysisState) : Prop :=
  ∀ j j', s.stage j = .inRun → s.stage j' = .inRun → j = j'

theorem OneOpen.oneInRun {s : AnalysisState} (h : OneOpen s) : OneInRun s := by
  intro j j' hj hj'
  exact h.stage j j' (by rw [hj]; rfl) (by rw [hj']; rfl)

/-- A start request passes its check only while no analysis is open. -/
def ChecksWhileNoneOpen (s : AnalysisState) : AnalysisAction → Prop
  | .check _ => s.analysisCancel = none → NoneOpen s
  | _ => True

variable {s s' : AnalysisState}

/-! ## What a step can do -/

/-- A request moves on; it does not become an open one, and the jobs stay as they are. -/
structure Moves (s s' : AnalysisState) (q : Nat) (p : AnalysisRequest) : Prop where
  request : s'.request = Function.update s.request q p
  stage : s'.stage = s.stage
  nextJob : s.nextJob ≤ s'.nextJob
  isOpen : p.isOpen = true → (s.request q).isOpen = true
  stored : ∀ j, p = .stored j → j < s'.nextJob
  published : ∀ j, p = .published j → s.request q = .stored j

/-- A goroutine moves on; it does not become an open one, and the requests stay as they are. -/
structure Proceeds (s s' : AnalysisState) (j : Nat) (g : JobStage) : Prop where
  request : s'.request = s.request
  stage : s'.stage = Function.update s.stage j g
  nextJob : s'.nextJob = s.nextJob
  isOpen : g.isOpen = true → (s.stage j).isOpen = true
  present : s.stage j ≠ .absent

/-- **Inversion of one step**: a check that passes opens a request, a spawn turns an open request
into an open goroutine, and every other step moves one request or one goroutine on, if anything. -/
theorem analysisStep_cases {a : AnalysisAction} (h : analysisStep s a = some s') :
    (∃ q, a = .check q ∧ s.analysisCancel = none ∧ s' = s.setRequest q .checked) ∨
    (∃ q j, a = .spawn q ∧ s.request q = .published j ∧
      s' = (s.setStage j .spawned).setRequest q .idle) ∨
    (∃ q p, Moves s s' q p) ∨ (∃ j g, Proceeds s s' j g) ∨ s' = s := by
  cases a with
  | check q =>
      simp only [analysisStep] at h
      split at h
      · split at h
        · next hc => exact .inl ⟨q, rfl, hc, (Option.some.inj h).symm⟩
        · exact .inr (.inr (.inr (.inr (Option.some.inj h).symm)))
      · cases h
  | spawn q =>
      simp only [analysisStep] at h
      split at h
      · next j hq => exact .inr (.inl ⟨q, j, rfl, hq, (Option.some.inj h).symm⟩)
      · cases h
  | store q ok =>
      simp only [analysisStep] at h
      split at h
      · next hq =>
          refine .inr (.inr (.inl ?_))
          cases ok with
          | false =>
              cases h
              exact ⟨q, .idle, rfl, rfl, Nat.le_refl _, by simp [AnalysisRequest.isOpen], by simp,
                by simp⟩
          | true =>
              cases h
              exact ⟨q, .stored s.nextJob, rfl, rfl, Nat.le_succ _,
                by simp [hq, AnalysisRequest.isOpen], by simp, by simp⟩
      · cases h
  | publish q =>
      simp only [analysisStep] at h
      split at h
      · next j hq =>
          cases h
          refine .inr (.inr (.inl ⟨q, .published j, rfl, rfl, Nat.le_refl _, ?_, by simp, ?_⟩))
          · simp [hq, AnalysisRequest.isOpen]
          · simp [hq]
      · cases h
  | cancel q =>
      simp only [analysisStep] at h
      split at h
      · cases h
        exact .inr (.inr (.inl ⟨q, _, rfl, rfl, Nat.le_refl _, by simp [AnalysisRequest.isOpen],
          by simp, by simp⟩))
      · cases h
  | cancelContext q =>
      simp only [analysisStep] at h
      split at h
      · next c id _ =>
          cases c <;> cases id <;> cases h <;>
            exact .inr (.inr (.inl ⟨q, _, rfl, rfl, Nat.le_refl _,
              by simp [AnalysisRequest.isOpen], by simp, by simp⟩))
      · cases h
  | loadJob q =>
      simp only [analysisStep] at h
      split at h
      · cases h
        refine .inr (.inr (.inl ⟨q, _, rfl, rfl, Nat.le_refl _, ?_, ?_, ?_⟩)) <;>
          split <;> simp [AnalysisRequest.isOpen]
      · cases h
  | markCanceled q ok =>
      simp only [analysisStep] at h
      split at h
      · cases ok <;> cases h <;>
          exact .inr (.inr (.inl ⟨q, _, rfl, rfl, Nat.le_refl _,
            by simp [AnalysisRequest.isOpen], by simp, by simp⟩))
      · cases h
  | new j ok | select j ok | leave j ok | finishStore j ok =>
      simp only [analysisStep] at h
      split at h
      · next hj =>
          cases ok <;> cases h <;>
            exact .inr (.inr (.inr (.inl ⟨j, _, rfl, rfl, rfl, by simp [hj, JobStage.isOpen],
              by simp [hj]⟩)))
      · cases h
  | enter j =>
      simp only [analysisStep] at h
      split at h
      · next hj =>
          cases h
          exact .inr (.inr (.inr (.inl ⟨j, _, rfl, rfl, rfl, by simp [hj, JobStage.isOpen],
            by simp [hj]⟩)))
      · cases h
  | release j =>
      simp only [analysisStep] at h
      split at h
      · next hj =>
          simp only [Option.some.injEq] at h
          subst h
          -- whether or not the slot is this job's, only its goroutine is done
          refine .inr (.inr (.inr (.inl ⟨j, .done, ?_, ?_, ?_, by simp [JobStage.isOpen],
            by simp [hj]⟩))) <;> split <;> rfl
      · cases h

/-- A step that opens no analysis. -/
structure OpensNone (s s' : AnalysisState) : Prop where
  request : ∀ q, (s'.request q).isOpen = true → (s.request q).isOpen = true
  stage : ∀ j, (s'.stage j).isOpen = true → (s.stage j).isOpen = true

theorem Moves.opensNone {q : Nat} {p : AnalysisRequest} (hm : Moves s s' q p) :
    OpensNone s s' := by
  constructor
  · intro q' h
    rw [hm.request] at h
    by_cases hq : q' = q
    · subst hq
      rw [Function.update_self] at h
      exact hm.isOpen h
    · rwa [Function.update_of_ne hq] at h
  · intro j h
    rwa [hm.stage] at h

theorem Proceeds.opensNone {j : Nat} {g : JobStage} (hp : Proceeds s s' j g) :
    OpensNone s s' := by
  constructor
  · intro q h
    rwa [hp.request] at h
  · intro j' h
    rw [hp.stage] at h
    by_cases hj : j' = j
    · subst hj
      rw [Function.update_self] at h
      exact hp.isOpen h
    · rwa [Function.update_of_ne hj] at h

theorem OneOpen.opensNone (hI : OneOpen s) (ho : OpensNone s s') : OneOpen s' := by
  refine ⟨fun q q' h₁ h₂ => ?_, fun j j' h₁ h₂ => ?_, fun q j h₁ => ?_⟩
  · exact hI.request q q' (ho.request q h₁) (ho.request q' h₂)
  · exact hI.stage j j' (ho.stage j h₁) (ho.stage j' h₂)
  · by_contra hne
    have := hI.apart q j (ho.request q h₁)
    rw [ho.stage j (by simpa using hne)] at this
    cases this

/-- A guarded step keeps at most one analysis open. -/
theorem oneOpen_step {a : AnalysisAction} (hI : OneOpen s) (hG : ChecksWhileNoneOpen s a)
    (h : analysisStep s a = some s') : OneOpen s' := by
  rcases analysisStep_cases h with ⟨q, rfl, hc, rfl⟩ | ⟨q, j, rfl, hq, rfl⟩ | ⟨q, p, hm⟩ |
    ⟨j, g, hp⟩ | rfl
  · -- the new request is the only open analysis
    obtain ⟨hreq, hstage⟩ := hG hc
    have honly : ∀ q', ((s.setRequest q .checked).request q').isOpen = true → q' = q := by
      intro q' h'
      by_contra hne
      simp [AnalysisState.setRequest, hne, hreq q'] at h'
    refine ⟨fun q₁ q₂ h₁ h₂ => ?_, fun j j' hj => ?_, fun _ j _ => hstage j⟩
    · rw [honly q₁ h₁, honly q₂ h₂]
    · have hj' : (s.stage j).isOpen = true := hj
      rw [hstage j] at hj'
      cases hj'
  · -- the open request was the only one, so its goroutine is
    have hopen : (s.request q).isOpen = true := by rw [hq]; rfl
    have hreq : ∀ q', (((s.setStage j .spawned).setRequest q .idle).request q').isOpen = false := by
      intro q'
      by_contra hne
      have hq' : q' ≠ q := by
        rintro rfl
        simp [AnalysisState.setRequest, AnalysisRequest.isOpen] at hne
      have : (s.request q').isOpen = true := by
        simpa [AnalysisState.setRequest, AnalysisState.setStage, hq'] using hne
      exact hq' (hI.request q' q this hopen)
    have hstage : ∀ j', (((s.setStage j .spawned).setRequest q .idle).stage j').isOpen = true →
        j' = j := by
      intro j' h'
      by_contra hne
      have : (s.stage j').isOpen = true := by
        simpa [AnalysisState.setRequest, AnalysisState.setStage, hne] using h'
      rw [hI.apart q j' hopen] at this
      cases this
    refine ⟨fun q₁ _ h₁ => ?_, fun j₁ j₂ h₁ h₂ => ?_, fun q' _ h' => ?_⟩
    · rw [hreq q₁] at h₁
      cases h₁
    · rw [hstage j₁ h₁, hstage j₂ h₂]
    · rw [hreq q'] at h'
      cases h'
  · exact hI.opensNone hm.opensNone
  · exact hI.opensNone hp.opensNone
  · exact hI

/-! ## An unguarded check can always be exploited

The guard is not stronger than it has to be: whenever a check passes while another analysis is
open, both can be driven into `analyser.Run`. Job numbers are handed out in order, which is what
tells the two jobs apart. -/

/-- Every job number in use has been handed out. -/
structure Numbered (s : AnalysisState) : Prop where
  stage : ∀ j, s.stage j ≠ .absent → j < s.nextJob
  stored : ∀ q j, s.request q = .stored j → j < s.nextJob
  published : ∀ q j, s.request q = .published j → j < s.nextJob

theorem Numbered.moves {q : Nat} {p : AnalysisRequest} (hI : Numbered s) (hm : Moves s s' q p) :
    Numbered s' := by
  have hle := hm.nextJob
  constructor
  · intro j hj
    rw [hm.stage] at hj
    have := hI.stage j hj
    omega
  · intro q' j hq
    rw [hm.request] at hq
    by_cases hqq : q' = q
    · subst hqq
      rw [Function.update_self] at hq
      exact hm.stored j hq
    · rw [Function.update_of_ne hqq] at hq
      have := hI.stored q' j hq
      omega
  · intro q' j hq
    rw [hm.request] at hq
    by_cases hqq : q' = q
    · -- what is published now was stored before
      subst hqq
      rw [Function.update_self] at hq
      have := hI.stored q' j (hm.published j hq)
      omega
    · rw [Function.update_of_ne hqq] at hq
      have := hI.published q' j hq
      omega

theorem Numbered.proceeds {j : Nat} {g : JobStage} (hI : Numbered s) (hp : Proceeds s s' j g) :
    Numbered s' := by
  constructor
  · intro j' hj'
    rw [hp.stage] at hj'
    rw [hp.nextJob]
    apply hI.stage j'
    by_cases hjj : j' = j
    · rw [hjj]
      exact hp.present
    · rwa [Function.update_of_ne hjj] at hj'
  · intro q j' hq
    rw [hp.request] at hq
    rw [hp.nextJob]
    exact hI.stored q j' hq
  · intro q j' hq
    rw [hp.request] at hq
    rw [hp.nextJob]
    exact hI.published q j' hq

/-- A request that names no job may replace any other. -/
theorem Numbered.setRequest (hI : Numbered s) (q : Nat) {p : AnalysisRequest}
    (hst : ∀ j, p ≠ .stored j) (hpub : ∀ j, p ≠ .published j) : Numbered (s.setRequest q p) := by
  refine ⟨hI.stage, fun q' j hq => ?_, fun q' j hq => ?_⟩
  · by_cases hqq : q' = q
    · subst hqq
      simp [AnalysisState.setRequest, hst] at hq
    · apply hI.stored q' j
      simpa [AnalysisState.setRequest, hqq] using hq
  · by_cases hqq : q' = q
    · subst hqq
      simp [AnalysisState.setRequest, hpub] at hq
    · apply hI.published q' j
      simpa [AnalysisState.setRequest, hqq] using hq

theorem numbered_step {a : AnalysisAction} (hI : Numbered s) (h : analysisStep s a = some s') :
    Numbered s' := by
  rcases analysisStep_cases h with ⟨q, _, _, rfl⟩ | ⟨q, j, _, hq, rfl⟩ | ⟨q, p, hm⟩ |
    ⟨j, g, hp⟩ | rfl
  · exact hI.setRequest q (by simp) (by simp)
  · -- the job of the new goroutine was published by the request
    apply Numbered.setRequest
    · refine ⟨fun j' hj' => ?_, hI.stored, hI.published⟩
      by_cases hjj : j' = j
      · rw [hjj]
        exact hI.published q j hq
      · apply hI.stage j'
        simpa [AnalysisState.setStage, hjj] using hj'
    · simp
    · simp
  · exact hI.moves hm
  · exact hI.proceeds hp
  · exact hI

theorem numbered_reachable (hr : analysisMachine.Reachable s) : Numbered s := by
  refine hr.invariant ⟨?_, ?_, ?_⟩ (fun s a s' hI h => numbered_step hI h)
  · intro j hj
    exact absurd rfl hj
  · intro q j hq
    cases hq
  · intro q j hq
    cases hq

/-- An open goroutine can be driven into `analyser.Run` without touching anything else. -/
theorem open_job_enters {j : Nat} (hopen : (s.stage j).isOpen = true) :
    ∃ acts, analysisMachine.exec s acts = some (s.setStage j .inRun) := by
  cases hst : s.stage j with
  | spawned =>
      refine ⟨[.new j true, .select j true, .enter j], ?_⟩
      simp [Machine.exec, analysisMachine, analysisStep, hst, AnalysisState.setStage]
  | selecting =>
      refine ⟨[.select j true, .enter j], ?_⟩
      simp [Machine.exec, analysisMachine, analysisStep, hst, AnalysisState.setStage]
  | ready =>
      refine ⟨[.enter j], ?_⟩
      simp [Machine.exec, analysisMachine, analysisStep, hst]
  | inRun =>
      refine ⟨[], ?_⟩
      simp [Machine.exec, AnalysisState.setStage, ← hst]
  | absent | finishing _ | releasing | done =>
      rw [hst] at hopen
      cases hopen

/-- A request that has published its job can be driven into `analyser.Run`. -/
theorem published_enters {q j : Nat} (hq : s.request q = .published j) :
    ∃ acts, analysisMachine.exec s acts =
      some (((s.setStage j .spawned).setRequest q .idle).setStage j .inRun) := by
  have hopen : (((s.setStage j .spawned).setRequest q .idle).stage j).isOpen = true := by
    simp [AnalysisState.setStage, AnalysisState.setRequest, JobStage.isOpen]
  obtain ⟨acts, h⟩ := open_job_enters hopen
  refine ⟨.spawn q :: acts, ?_⟩
  rw [Machine.exec_cons_eq_some]
  refine ⟨_, ?_, h⟩
  simp [analysisMachine, analysisStep, hq]

/-- What driving an open request into `analyser.Run` leaves behind: its job `j` is inside, the
other goroutines and requests are where they were. -/
structure Entered (s t : AnalysisState) (q j : Nat) : Prop where
  inRun : t.stage j = .inRun
  others : ∀ j', j' ≠ j → t.stage j' = s.stage j'
  requests : ∀ q', q' ≠ q → t.request q' = s.request q'
  handedOut : j < t.nextJob

theorem stored_enters {q j : Nat} (hq : s.request q = .stored j) (hj : j < s.nextJob) :
    ∃ acts t, analysisMachine.exec s acts = some t ∧ Entered s t q j := by
  let u : AnalysisState :=
    { s with
      analysisCancel := some j
      analysisJobID := some j
      request := Function.update s.request q (.published j) }
  obtain ⟨acts, h⟩ := published_enters (s := u) (q := q) (j := j) (Function.update_self ..)
  have hstep : analysisMachine.step s (.publish q) = some u := by
    simp [analysisMachine, analysisStep, hq, u]
  refine ⟨.publish q :: acts, _, Machine.exec_cons_eq_some.mpr ⟨u, hstep, h⟩, ?_⟩
  · constructor
    · simp [AnalysisState.setStage]
    · intro j' hj'
      simp [AnalysisState.setStage, AnalysisState.setRequest, hj', u]
    · intro q' hq'
      simp [AnalysisState.setStage, AnalysisState.setRequest, hq', u]
    · exact hj

theorem checked_enters {q : Nat} (hq : s.request q = .checked) :
    ∃ acts t, analysisMachine.exec s acts = some t ∧ Entered s t q s.nextJob := by
  let u : AnalysisState :=
    { s.upsertJob s.nextJob .running with
      nextJob := s.nextJob + 1
      request := Function.update s.request q (.stored s.nextJob) }
  obtain ⟨acts, t, h, hE⟩ :=
    stored_enters (s := u) (q := q) (j := s.nextJob) (Function.update_self ..) (Nat.lt_succ_self _)
  refine ⟨.store q true :: acts, t, ?_, ?_⟩
  · rw [Machine.exec_cons_eq_some]
    refine ⟨u, ?_, h⟩
    simp [analysisMachine, analysisStep, hq, u]
  · constructor
    · exact hE.inRun
    · intro j' hj'
      exact hE.others j' hj'
    · intro q' hq'
      rw [hE.requests q' hq']
      exact Function.update_of_ne hq' ..
    · exact hE.handedOut

/-- Whatever is open beside a checked request can be driven into `analyser.Run` first. -/
theorem open_enters_beside {q : Nat} (hI : Numbered s) (hidle : s.request q = .idle)
    (hopen : ¬ NoneOpen s) :
    ∃ acts t j, analysisMachine.exec (s.setRequest q .checked) acts = some t ∧
      t.stage j = .inRun ∧ j < t.nextJob ∧ t.request q = .checked := by
  have hself : (s.setRequest q .checked).request q = .checked := Function.update_self ..
  by_cases hreq : ∃ q', (s.request q').isOpen = true
  · obtain ⟨q', hq'⟩ := hreq
    have hne : q' ≠ q := by
      rintro rfl
      rw [hidle] at hq'
      cases hq'
    have hsame : (s.setRequest q .checked).request q' = s.request q' :=
      Function.update_of_ne hne ..
    -- wherever the other request stands, it can still publish and spawn its job
    have henter : ∃ acts t j, analysisMachine.exec (s.setRequest q .checked) acts = some t ∧
        Entered (s.setRequest q .checked) t q' j := by
      cases hst : s.request q' with
      | checked =>
          obtain ⟨acts, t, h, hE⟩ := checked_enters (hsame.trans hst)
          exact ⟨acts, t, _, h, hE⟩
      | stored j =>
          obtain ⟨acts, t, h, hE⟩ := stored_enters (hsame.trans hst) (hI.stored q' j hst)
          exact ⟨acts, t, j, h, hE⟩
      | published j =>
          obtain ⟨acts, h⟩ := published_enters (hsame.trans hst)
          refine ⟨acts, _, j, h, ⟨?_, ?_, ?_, hI.published q' j hst⟩⟩
          · simp [AnalysisState.setStage]
          · intro j' hj'
            simp [AnalysisState.setStage, AnalysisState.setRequest, hj']
          · intro q'' hq''
            simp [AnalysisState.setStage, AnalysisState.setRequest, hq'']
      | idle | cancelling _ _ | loading _ | marking _ =>
          rw [hst] at hq'
          cases hq'
    obtain ⟨acts, t, j, h, hE⟩ := henter
    exact ⟨acts, t, j, h, hE.inRun, hE.handedOut, (hE.requests q hne.symm).trans hself⟩
  · -- no request is open, so some goroutine is
    have hjob : ∃ j, (s.stage j).isOpen = true := by
      by_contra hnone
      apply hopen
      constructor
      · intro q'
        exact (Bool.not_eq_true _).mp fun h => hreq ⟨q', h⟩
      · intro j
        exact (Bool.not_eq_true _).mp fun h => hnone ⟨j, h⟩
    obtain ⟨j, hj⟩ := hjob
    have hlt : j < s.nextJob := by
      apply hI.stage j
      intro habs
      rw [habs] at hj
      cases hj
    obtain ⟨acts, h⟩ := open_job_enters (s := s.setRequest q .checked) hj
    refine ⟨acts, _, j, h, ?_, hlt, hself⟩
    simp [AnalysisState.setStage]

/-- **Analyses exclude each other exactly as far as the check is guarded.** In every schedule whose
start requests pass their check only while no analysis is open, at most one goroutine is inside
`analyser.Run` in every state; and a schedule after which a check passes while an analysis is open
has a continuation with two goroutines inside. -/
theorem oneInRun_of_guarded_check (acts : List AnalysisAction) :
    (analysisMachine.Guarded ChecksWhileNoneOpen AnalysisState.new acts →
      analysisMachine.Always OneInRun AnalysisState.new acts) ∧
    (∀ s q, analysisMachine.exec AnalysisState.new acts = some s → s.request q = .idle →
      s.analysisCancel = none → ¬ NoneOpen s →
        ∃ rest t, analysisMachine.exec s (.check q :: rest) = some t ∧ ¬ OneInRun t) := by
  constructor
  · intro hG
    have hnew : OneOpen AnalysisState.new := by
      constructor
      · intro q q' h
        cases h
      · intro j j' h
        cases h
      · intro q j h
        cases h
    have hall : analysisMachine.Always OneOpen AnalysisState.new acts :=
      Machine.always_of_guarded (fun s a s' hI hg h => oneOpen_step hI hg h) hnew hG
    exact hall.imp fun s hs => hs.oneInRun
  · intro s q hs hidle hfree hopen
    have hI := numbered_reachable ⟨acts, hs⟩
    obtain ⟨first, t, j, h, hj, hlt, hq⟩ := open_enters_beside hI hidle hopen
    -- the open analysis is inside; now the request that passed its check follows
    obtain ⟨second, u, h', hE⟩ := checked_enters hq
    refine ⟨first ++ second, u, ?_, ?_⟩
    · rw [Machine.exec_cons_eq_some]
      refine ⟨s.setRequest q .checked, ?_, Machine.exec_trans h h'⟩
      simp [analysisMachine, analysisStep, hidle, hfree]
    · intro hone
      have hne : j ≠ t.nextJob := by omega
      have hju : u.stage j = .inRun := by rw [hE.others j hne, hj]
      exact hne (hone j t.nextJob hju hE.inRun)

/-- Both windows of the check are real. Two start requests may both pass it before either has
published its job; and a cancel empties the slot while the cancelled goroutine is still inside. -/
theorem two_analyses_inside :
    (∃ s, analysisMachine.exec AnalysisState.new
        [.check 0, .check 1, .store 0 true, .publish 0, .spawn 0, .store 1 true, .publish 1,
          .spawn 1, .new 0 true, .select 0 true, .enter 0, .new 1 true, .select 1 true, .enter 1] =
          some s ∧
      s.stage 0 = .inRun ∧ s.stage 1 = .inRun ∧ ¬ OneInRun s) ∧
    (∃ s, analysisMachine.exec AnalysisState.new
        [.check 0, .store 0 true, .publish 0, .spawn 0, .new 0 true, .select 0 true, .enter 0,
          .cancel 2, .cancelContext 2,
          .check 1, .store 1 true, .publish 1, .spawn 1, .new 1 true, .select 1 true, .enter 1] =
        some s ∧
      s.canceled 0 = true ∧ s.stage 0 = .inRun ∧ s.stage 1 = .inRun ∧ ¬ OneInRun s) := by
  have hdistinct : ∀ s : AnalysisState, s.stage 0 = .inRun → s.stage 1 = .inRun → ¬ OneInRun s := by
    intro s h0 h1 hone
    have := hone 0 1 h0 h1
    cases this
  exact ⟨⟨_, rfl, rfl, rfl, hdistinct _ rfl rfl⟩, ⟨_, rfl, rfl, rfl, rfl, hdistinct _ rfl rfl⟩⟩

end SnortOptimizer.Server
