import SnortOptimizer.Runner.Tracking
import Mathlib.Data.List.Induction
import Mathlib.Algebra.Ring.Rat

/-!
# The system profile of a run (`wrap/runner/system_profile.go`)

While Snort runs, a monitor reads its processor time and its memory twice a second. Two successive
readings make a sample, and when the run is over, `waitForExit` collects what the monitor has added
up and puts one row with the averages into the store.

A reading that fails is remembered for good, and then `waitForExit` throws the whole profile away.
The monitor goes on reading until it is told to stop, which happens only after the process is gone
and the tail of its alerts is drained, so such readings are not rare. `profiled_iff_collected` says
exactly which schedules of the runner, its callers, the monitors and the exits give every sampled
run its row.

The numbers are of any type with the operations the monitor uses: nothing is known of them but that
they can be computed with, so that rounding is not in the way.
-/

namespace SnortOptimizer.Runner

/-! ## The monitor -/

structure ProcSample (F : Type) where
  cpuSeconds : F
  rssMB : F
  deriving DecidableEq, Repr

/-- What the ticker brings: the time in nanoseconds, and what reading `/proc` yields. -/
structure Tick (F : Type) where
  now : Int
  reading : Except String (ProcSample F)

structure SystemProfile (F : Type) where
  runID : Int
  avgCPU : F
  avgMemMB : F
  fp : F
  fn : F
  samples : Nat
  createdAt : String
  deriving DecidableEq, Repr

structure SystemProfileResult (F : Type) where
  profile : SystemProfile F
  err : Option String
  deriving DecidableEq, Repr

/-- The variables of `monitorSystemProfile`. The clock is past the zero time, so there is a previous
reading exactly if its time has been set. -/
structure Monitor (F : Type) where
  prev : Option (Int × ProcSample F)
  cpuSum : F
  memSum : F
  samples : Nat
  lastErr : Option String
  deriving DecidableEq, Repr

section Monitor

variable {F : Type} [Zero F] [Add F] [Sub F] [Mul F] [Div F] [LE F] [LT F] [DecidableLE F]
  [DecidableLT F] [NatCast F] (seconds : Int → F)

def Monitor.new : Monitor F :=
  { prev := none, cpuSum := 0, memSum := 0, samples := 0, lastErr := none }

/-- The sample two readings make, if it is accepted: processor time in per cent, and memory.
`seconds` is `Duration.Seconds`. -/
def acceptedSample (prev current : Int × ProcSample F) : Option (F × F) :=
  let elapsed := seconds (current.1 - prev.1)
  if 0 < elapsed ∧ prev.2.cpuSeconds ≤ current.2.cpuSeconds then
    let cpuPct := (current.2.cpuSeconds - prev.2.cpuSeconds) / elapsed * ((100 : Nat) : F)
    if 0 < cpuPct ∨ 0 < current.2.rssMB then some (cpuPct, current.2.rssMB) else none
  else none

def Monitor.add (m : Monitor F) (x : F × F) : Monitor F :=
  { m with cpuSum := m.cpuSum + x.1, memSum := m.memSum + x.2, samples := m.samples + 1 }

/-- The body of the loop at a tick. -/
def Monitor.tick (m : Monitor F) (t : Tick F) : Monitor F :=
  match t.reading with
  | .error e => { m with lastErr := some e }
  | .ok current =>
      let sample := m.prev.bind fun prev => acceptedSample seconds prev (t.now, current)
      { sample.elim m m.add with prev := some (t.now, current) }

def average (sum : F) (count : Nat) : F := if count = 0 then 0 else sum / (count : F)

/-- What the monitor sends when its context is done. -/
def Monitor.result (m : Monitor F) (runID : Int) : SystemProfileResult F :=
  { profile :=
      { runID, avgCPU := average m.cpuSum m.samples, avgMemMB := average m.memSum m.samples
        fp := 0, fn := 0, samples := m.samples, createdAt := "" }
    err := m.lastErr }

/-! ## What a monitor should report -/

/-- The readings that succeeded, with their times. -/
def readings (ticks : List (Tick F)) : List (Int × ProcSample F) :=
  ticks.filterMap fun t => t.reading.toOption.map fun s => (t.now, s)

/-- The samples that successive readings make. -/
def accepted (ticks : List (Tick F)) : List (F × F) :=
  ((readings ticks).zip (readings ticks).tail).filterMap fun p => acceptedSample seconds p.1 p.2

/-- Every reading succeeded. -/
def AllRead (ticks : List (Tick F)) : Prop := ∀ t ∈ ticks, t.reading.isOk = true

/-- The profile with the averages over these samples. -/
def profileOf (runID : Int) (samples : List (F × F)) (createdAt : String) : SystemProfile F :=
  { runID, avgCPU := average ((samples.map Prod.fst).foldl (· + ·) 0) samples.length
    avgMemMB := average ((samples.map Prod.snd).foldl (· + ·) 0) samples.length
    fp := 0, fn := 0, samples := samples.length, createdAt }

end Monitor

/-- The pairs of neighbours in a list that grows at its end. -/
theorem zip_tail_concat {α : Type} (l : List α) (x : α) :
    (l ++ [x]).zip (l ++ [x]).tail = l.zip l.tail ++ (l.getLast?.map (·, x)).toList := by
  induction l with
  | nil => rfl
  | cons a l ih =>
      cases l with
      | nil => rfl
      | cons b l =>
          rw [List.getLast?_cons_cons]
          simp only [List.cons_append, List.tail_cons, List.zip_cons_cons] at ih ⊢
          rw [ih]

section Summary

variable {F : Type} [Zero F] [Add F] [Sub F] [Mul F] [Div F] [LE F] [LT F] [DecidableLE F]
  [DecidableLT F] [NatCast F] {seconds : Int → F}

/-- **What the monitor has added up**, after whatever ticks. -/
structure Summary (seconds : Int → F) (m : Monitor F) (ticks : List (Tick F)) : Prop where
  prev : m.prev = (readings ticks).getLast?
  cpuSum : m.cpuSum = ((accepted seconds ticks).map Prod.fst).foldl (· + ·) 0
  memSum : m.memSum = ((accepted seconds ticks).map Prod.snd).foldl (· + ·) 0
  samples : m.samples = (accepted seconds ticks).length
  lastErr : m.lastErr = none ↔ AllRead ticks

theorem summary_new : Summary seconds Monitor.new [] where
  prev := rfl
  cpuSum := rfl
  memSum := rfl
  samples := rfl
  lastErr := iff_of_true rfl fun _ ht => absurd ht List.not_mem_nil

theorem Summary.tick {m : Monitor F} {ticks : List (Tick F)} (h : Summary seconds m ticks)
    (t : Tick F) : Summary seconds (m.tick seconds t) (ticks ++ [t]) := by
  have hallRead : AllRead (ticks ++ [t]) ↔ AllRead ticks ∧ t.reading.isOk = true := by
    simp [AllRead, or_imp, forall_and]
  rw [Monitor.tick]
  cases ht : t.reading with
  | error e =>
      have hreadings : readings (ticks ++ [t]) = readings ticks := by
        simp [readings, List.filterMap_append, ht, Except.toOption]
      have haccepted : accepted seconds (ticks ++ [t]) = accepted seconds ticks := by
        rw [accepted, hreadings, accepted]
      rw [ht] at hallRead
      refine ⟨?_, ?_, ?_, ?_, ?_⟩
      · rw [hreadings]
        exact h.prev
      · rw [haccepted]
        exact h.cpuSum
      · rw [haccepted]
        exact h.memSum
      · rw [haccepted]
        exact h.samples
      · rw [hallRead]
        simp [Except.isOk, Except.toBool]
  | ok current =>
      have hreadings : readings (ticks ++ [t]) = readings ticks ++ [(t.now, current)] := by
        simp [readings, List.filterMap_append, ht, Except.toOption]
      have haccepted : accepted seconds (ticks ++ [t]) = accepted seconds ticks ++
          (m.prev.bind fun prev => acceptedSample seconds prev (t.now, current)).toList := by
        rw [accepted, hreadings, zip_tail_concat, List.filterMap_append, h.prev, accepted]
        congr 1
        cases (readings ticks).getLast? with
        | none => rfl
        | some prev =>
            simp only [Option.map_some, Option.toList_some, List.filterMap_cons, List.filterMap_nil,
              Option.bind_some]
            cases acceptedSample seconds prev (t.now, current) <;> rfl
      rw [ht] at hallRead
      have hlastErr : m.lastErr = none ↔ AllRead (ticks ++ [t]) := by
        rw [hallRead, h.lastErr]
        simp [Except.isOk, Except.toBool]
      dsimp only
      cases hsample : m.prev.bind fun prev => acceptedSample seconds prev (t.now, current) with
      | none =>
          rw [hsample, Option.toList_none, List.append_nil] at haccepted
          refine ⟨?_, ?_, ?_, ?_, hlastErr⟩
          · rw [hreadings, List.getLast?_concat]
          · rw [haccepted]
            exact h.cpuSum
          · rw [haccepted]
            exact h.memSum
          · rw [haccepted]
            exact h.samples
      | some x =>
          rw [hsample, Option.toList_some] at haccepted
          refine ⟨?_, ?_, ?_, ?_, hlastErr⟩
          · rw [hreadings, List.getLast?_concat]
          · rw [haccepted, List.map_append, List.foldl_append, ← h.cpuSum]
            rfl
          · rw [haccepted, List.map_append, List.foldl_append, ← h.memSum]
            rfl
          · rw [haccepted, List.length_append, ← h.samples]
            rfl

/-- What the monitor sends. -/
theorem Summary.result_profile {m : Monitor F} {ticks : List (Tick F)}
    (h : Summary seconds m ticks) (runID : Int) (createdAt : String) :
    { (m.result runID).profile with createdAt } =
      profileOf runID (accepted seconds ticks) createdAt := by
  simp only [Monitor.result, profileOf, h.cpuSum, h.memSum, h.samples]

end Summary

/-! ## The runner with its monitors -/

/-- The state of the runner, of the monitor of every start, and of the store. `seen` keeps what each
monitor has read, and a row comes with the start whose `waitForExit` has put it in. -/
structure ProfiledState (F : Type) where
  runner : State
  monitor : Nat → Monitor F
  seen : Nat → List (Tick F)
  result : Nat → Option (SystemProfileResult F)        -- what the monitor of a start has sent
  rows : List (Nat × SystemProfile F)

/-- An action of the runner, with the time at which a profile is stored, unless that fails; or
a tick of the monitor of a start. -/
inductive ProfiledAction (F : Type) where
  | run (a : Action) (stored : Option String)
  | tick (n : Nat) (t : Tick F)

def effectiveRunID (cfgRunID runID : Int) : Int := if runID ≠ 0 then runID else cfgRunID

/-- The row of `InsertSystemProfile`. -/
def profileRow {F : Type} (cfgRunID : Int) (profile : SystemProfile F) (now : String) :
    SystemProfile F :=
  { profile with
    runID := effectiveRunID cfgRunID profile.runID
    createdAt := if profile.createdAt = "" then now else profile.createdAt }

section ProfiledMachine

variable {F : Type} [Zero F] [Add F] [Sub F] [Mul F] [Div F] [LE F] [LT F] [DecidableLE F]
  [DecidableLT F] [NatCast F] (cfg : Config) (runID : Int) (seconds : Int → F)

/-- What `waitForExit` does with the profile it receives. It stands at the receive until the monitor
has sent. -/
def ProfiledState.collect (s : ProfiledState F) (n : Nat) (stored : Option String) :
    List (Nat × SystemProfile F) :=
  match (s.runner.child n).captured.systemDone.bind s.result with
  | none => s.rows
  | some result =>
      if result.err = none ∧ 0 < result.profile.samples then
        s.rows ++ (stored.map fun now => (n, profileRow runID result.profile now)).toList
      else s.rows

/-- What an action of the runner that leads to `r` does to the monitors and to the store. -/
def ProfiledState.after (s : ProfiledState F) (a : Action) (stored : Option String) (r : State) :
    ProfiledState F :=
  match a with
  | .monitorReturns n =>
      { s with
        runner := r
        result := Function.update s.result n (some ((s.monitor n).result runID)) }
  | .drain n =>
      { s with
        runner := r
        rows :=
          if (s.runner.child n).stage = .joinSystem then s.collect runID n stored else s.rows }
  | _ => { s with runner := r }

def profiledMachine : Machine (ProfiledState F) (ProfiledAction F) where
  init :=
    { runner := State.new, monitor := fun _ => Monitor.new, seen := fun _ => []
      result := fun _ => none, rows := [] }
  step s
    | .run a stored => (step cfg s.runner a).map (s.after runID a stored)
    | .tick n t =>
        if (s.runner.child n).monitor = .running then
          some { s with
            monitor := Function.update s.monitor n ((s.monitor n).tick seconds t)
            seen := Function.update s.seen n (s.seen n ++ [t]) }
        else none

def ProfiledState.rowsOf (s : ProfiledState F) (n : Nat) : List (SystemProfile F) :=
  (s.rows.filter (·.1 = n)).map Prod.snd

/-- `waitForExit` is past the profile, or has ended without one. -/
def ExitStage.pastProfile : ExitStage → Bool
  | .importProfiler | .cleanup | .closeDone | .clearWaitDone | .finished => true
  | _ => false

/-- **Every sampled run has its profile**: where `waitForExit` is past it and two readings have made
a sample, it has put in one row, with the averages over the samples. -/
def Profiled (s : ProfiledState F) : Prop :=
  ∀ n, (s.runner.child n).stage.pastProfile = true → accepted seconds (s.seen n) ≠ [] →
    ∃ createdAt, s.rowsOf n = [profileOf runID (accepted seconds (s.seen n)) createdAt]

/-- **The profile is not lost** in this step. When `waitForExit` collects it, all readings have
succeeded and the row is stored, unless there is no sample; and a start the runner no longer refers
to has none, nor gets one later. -/
def Collected (s : ProfiledState F) : ProfiledAction F → Prop
  | .run (.drain n) stored =>
      ((s.runner.child n).stage = .joinSystem →
        accepted seconds (s.seen n) = [] ∨ (AllRead (s.seen n) ∧ stored.isSome = true)) ∧
      ((s.runner.child n).stage = .closeUntracked → accepted seconds (s.seen n) = [])
  | .tick n t =>
      (s.runner.child n).stage.pastProfile = true → accepted seconds (s.seen n ++ [t]) = []
  | _ => True

end ProfiledMachine

/-! ## What one step of the runner does to a start -/

/-- The statement after this one in `waitForExit`. -/
def ExitStage.next : ExitStage → Option ExitStage
  | .stopAlerts => some .joinAlerts
  | .joinAlerts => some .stopSystem
  | .stopSystem => some .joinSystem
  | .joinSystem => some .importProfiler
  | .importProfiler => some .cleanup
  | .cleanup => some .closeDone
  | .closeDone => some .clearWaitDone
  | .clearWaitDone => some .finished
  | .closeUntracked => some .finished
  | .waiting | .finished => none

/-- Only the stages of the starts may be different. -/
structure SameBut (s s' : State) (stage : Nat → ExitStage) : Prop where
  cmd : s'.cmd = s.cmd
  helpers : s'.helpers = s.helpers
  started : s'.started = s.started
  stage : ∀ n, (s'.child n).stage = stage n
  captured : ∀ n, (s'.child n).captured = (s.child n).captured
  monitor : ∀ n, (s'.child n).monitor = (s.child n).monitor

variable {cfg : Config} {s s' : State}

theorem sameBut_setChild (n : Nat) (k : Child) (hcaptured : k.captured = (s.child n).captured)
    (hmonitor : k.monitor = (s.child n).monitor) :
    SameBut s (s.setChild n k) (Function.update (fun m => (s.child m).stage) n k.stage) := by
  refine ⟨rfl, rfl, rfl, ?_, ?_, ?_⟩ <;> intro m <;> by_cases hm : m = n <;>
    simp_all [State.setChild]

theorem SameBut.setStage {t : State} {stage : Nat → ExitStage} (h : SameBut s t stage) (n : Nat)
    (g : ExitStage) : SameBut s (t.setStage n g) (Function.update stage n g) := by
  refine ⟨h.cmd, h.helpers, h.started, ?_, ?_, ?_⟩ <;> intro m <;> by_cases hm : m = n <;>
    simp_all [State.setStage, State.setChild, h.stage, h.captured, h.monitor]

theorem sameBut_cancel (k : Option Nat) :
    SameBut s (s.cancelTailer k) (fun n => (s.child n).stage) ∧
      SameBut s (s.cancelMonitor k) (fun n => (s.child n).stage) := by
  cases k with
  | none => exact ⟨⟨rfl, rfl, rfl, fun _ => rfl, fun _ => rfl, fun _ => rfl⟩,
      ⟨rfl, rfl, rfl, fun _ => rfl, fun _ => rfl, fun _ => rfl⟩⟩
  | some k =>
      have hsame : Function.update (fun m => (s.child m).stage) k (s.child k).stage =
          fun m => (s.child m).stage := Function.update_eq_self k _
      refine ⟨hsame ▸ sameBut_setChild k _ rfl rfl, hsame ▸ sameBut_setChild k _ rfl rfl⟩

/-- A step of `waitForExit` behind its first locked section. -/
theorem drain_eq_some {n : Nat} (h : s.drain n = some s') :
    ∃ g, (s.child n).stage.next = some g ∧
      SameBut s s' (Function.update (fun m => (s.child m).stage) n g) ∧
      ((s.child n).stage = .joinSystem →
        s.monitorJoined (s.child n).captured.systemDone = true) := by
  unfold State.drain at h
  have hstage : ∀ g, SameBut s (s.setStage n g)
      (Function.update (fun m => (s.child m).stage) n g) := fun g =>
    sameBut_setChild n _ rfl rfl
  split at h
  · next hg =>
      cases h
      exact ⟨_, by rw [hg]; rfl, (sameBut_cancel _).1.setStage n _, by simp [hg]⟩
  · next hg =>
      split at h
      · cases h
        exact ⟨_, by rw [hg]; rfl, hstage _, by simp [hg]⟩
      · cases h
  · next hg =>
      cases h
      exact ⟨_, by rw [hg]; rfl, (sameBut_cancel _).2.setStage n _, by simp [hg]⟩
  · next hg =>
      split at h
      · next hjoined =>
          cases h
          exact ⟨_, by rw [hg]; rfl, hstage _, fun _ => hjoined⟩
      · cases h
  · next hg =>
      cases h
      exact ⟨_, by rw [hg]; rfl, hstage _, by simp [hg]⟩
  · next hg =>
      cases h
      exact ⟨_, by rw [hg]; rfl, hstage _, by simp [hg]⟩
  · next hg =>
      cases h
      exact ⟨_, by rw [hg]; rfl, sameBut_setChild n _ rfl rfl, by simp [hg]⟩
  · next hg =>
      have hsame := hstage .finished
      refine ⟨_, by rw [hg]; rfl, ?_, by simp [hg]⟩
      simp only [Option.some.injEq] at h
      subst h
      split
      · exact ⟨hsame.cmd, hsame.helpers, hsame.started, hsame.stage, hsame.captured, hsame.monitor⟩
      · exact hsame
  · next hg =>
      cases h
      exact ⟨_, by rw [hg]; rfl, sameBut_setChild n _ rfl rfl, by simp [hg]⟩
  · cases h
  · cases h

/-- **Inversion of one step**, as far as the profile goes: a step launches a child, reaps one,
clears the runner, moves a `waitForExit` on or ends a monitor, and otherwise changes nothing. -/
theorem profile_cases {a : Action} (h : step cfg s a = some s') :
    (∃ c p, a = .start c true ∧ s' = (s.launch cfg).setCaller c p) ∨
    (∃ n, a = .reap n ∧ (s.child n).stage = .waiting ∧ s' = s.reap n) ∨
    (∃ c p, a = .clear c ∧ s' = s.clearStopped.setCaller c p) ∨
    (∃ n, a = .drain n ∧ s.drain n = some s') ∨
    (∃ n, a = .monitorReturns n ∧ (s.child n).monitor = .running ∧
      s' = s.setChild n { s.child n with monitor := .returned }) ∨
    ((∀ n, a ≠ .drain n ∧ a ≠ .monitorReturns n) ∧ SameBut s s' fun n => (s.child n).stage) := by
  have hcaller : ∀ c p, SameBut s (s.setCaller c p) fun n => (s.child n).stage := fun c p =>
    ⟨rfl, rfl, rfl, fun _ => rfl, fun _ => rfl, fun _ => rfl⟩
  have hchild : ∀ n k, k.stage = (s.child n).stage → k.captured = (s.child n).captured →
      k.monitor = (s.child n).monitor → SameBut s (s.setChild n k) fun n => (s.child n).stage := by
    intro n k hstage hcaptured hmonitor
    have hsame := sameBut_setChild n k hcaptured hmonitor
    rw [hstage, Function.update_eq_self n fun m => (s.child m).stage] at hsame
    exact hsame
  cases a with
  | start c ok =>
      simp only [step] at h
      split at h
      case h_3 => cases h
      all_goals
        simp only [Option.some.injEq] at h
        unfold State.start at h
        split at h
        · subst h
          exact .inr (.inr (.inr (.inr (.inr ⟨by simp, hcaller c _⟩))))
        · cases ok with
          | true => exact .inl ⟨c, _, rfl, h.symm⟩
          | false =>
              subst h
              exact .inr (.inr (.inr (.inr (.inr ⟨by simp, hcaller c _⟩))))
  | clear c =>
      simp only [step] at h
      split at h
      · exact .inr (.inr (.inl ⟨c, _, rfl, (Option.some.inj h).symm⟩))
      · cases h
  | reap n =>
      simp only [step] at h
      split at h
      · next hn => exact .inr (.inl ⟨n, rfl, hn.1, (Option.some.inj h).symm⟩)
      · cases h
  | drain n => exact .inr (.inr (.inr (.inl ⟨n, rfl, h⟩)))
  | monitorReturns n =>
      simp only [step] at h
      split at h
      · next hn => exact .inr (.inr (.inr (.inr (.inl ⟨n, rfl, hn.1, (Option.some.inj h).symm⟩))))
      · cases h
  | exit n | tailReturns n =>
      simp only [step] at h
      split at h
      · cases h
        exact .inr (.inr (.inr (.inr (.inr ⟨by simp, hchild n _ rfl rfl rfl⟩))))
      · cases h
  | stop c _ | signal c _ | awaitDone c | wait c | waitReturns c | waitCancelled c =>
      -- these only move the caller on, whichever branch they take
      simp only [step] at h
      repeat' split at h
      all_goals first
        | cases h; done
        | (simp only [Option.some.injEq] at h
           subst h
           exact .inr (.inr (.inr (.inr (.inr ⟨by simp, hcaller c _⟩)))))

/-! ## Channels and stages -/

/-- The stages in which `waitForExit` has taken the channels over and not yet read the profile. -/
def ExitStage.collecting : ExitStage → Bool
  | .stopAlerts | .joinAlerts | .stopSystem | .joinSystem => true
  | _ => false

theorem ExitStage.collecting_of_next {g g' : ExitStage} (h : g.next = some g')
    (hg : g'.collecting = true) : g.collecting = true := by
  cases g <;> cases h <;> first | rfl | cases hg

theorem ExitStage.pastProfile_of_next {g g' : ExitStage} (h : g.next = some g') :
    g'.pastProfile = true ↔ g = .joinSystem ∨ g = .closeUntracked ∨ g.pastProfile = true := by
  cases g <;> cases h <;> decide

theorem ExitStage.finished_of_next {g : ExitStage} (h : ExitStage.closeUntracked.next = some g) :
    g = .finished := by
  cases h
  rfl

/-- **How the profile is wired**: the runner holds the channel of the run it refers to, and
`waitForExit` takes it over; once it has read the profile, the monitor has returned. -/
structure Wired (cfg : Config) (s : State) : Prop where
  held : ∀ n, s.cmd = some n → s.helpers.systemDone = if cfg.needProfiler then some n else none
  unused : cfg.needProfiler = false →
    s.helpers.systemDone = none ∧ ∀ n, (s.child n).monitor = .absent
  taken : ∀ n, (s.child n).stage.collecting = true →
    (s.child n).captured.systemDone = if cfg.needProfiler then some n else none
  joined : ∀ n, (s.child n).stage.pastProfile = true → (s.child n).stage ≠ .finished →
    (s.child n).monitor ≠ .running
  fresh : ∀ n, s.started ≤ n → (s.child n).stage = .finished ∧ (s.child n).monitor = .absent

theorem wired_new : Wired cfg State.new where
  held n h := by cases h
  unused _ := ⟨rfl, fun _ => rfl⟩
  taken n h := by cases h
  joined n _ h := absurd rfl h
  fresh n _ := ⟨rfl, rfl⟩

theorem Wired.sameBut (h : Wired cfg s) (hs : SameBut s s' fun n => (s.child n).stage) :
    Wired cfg s' := by
  constructor
  · rw [hs.cmd, hs.helpers]
    exact h.held
  · simp only [hs.helpers, hs.monitor]
    exact h.unused
  · simp only [hs.stage, hs.captured]
    exact h.taken
  · simp only [hs.stage, hs.monitor]
    exact h.joined
  · simp only [hs.started, hs.stage, hs.monitor]
    exact h.fresh

theorem Wired.launch (h : Wired cfg s) : Wired cfg (s.launch cfg) := by
  constructor
  · intro n hn
    cases hn
    cases hneed : cfg.needProfiler with
    | true => simp [State.launch, hneed]
    | false => simp [State.launch, hneed, (h.unused hneed).1]
  · intro hneed
    refine ⟨by simp [State.launch, hneed, (h.unused hneed).1], ?_⟩
    intro n
    rw [launch_child]
    split
    · simp [Child.launched, hneed]
    · exact (h.unused hneed).2 n
  · intro n
    rw [launch_child]
    split
    · exact fun h => absurd h (by simp [Child.launched, ExitStage.collecting])
    · exact h.taken n
  · intro n
    rw [launch_child]
    split
    · exact fun h => absurd h (by simp [Child.launched, ExitStage.pastProfile])
    · exact h.joined n
  · intro n hn
    have hlt : s.started + 1 ≤ n := hn
    rw [launch_child, if_neg (by omega)]
    exact h.fresh n (by omega)

/-- Reaping takes the channel over, or leaves a forgotten start alone. -/
theorem reap_child (s : State) (n m : Nat) :
    ((s.reap n).child m).monitor = (s.child m).monitor ∧
      (m ≠ n → (s.reap n).child m = s.child m) ∧
      (s.cmd = some n → ((s.reap n).child n).stage = .stopAlerts ∧
        ((s.reap n).child n).captured = s.helpers) ∧
      (s.cmd ≠ some n → ((s.reap n).child n).stage = .closeUntracked) := by
  unfold State.reap
  split <;> by_cases hm : m = n <;> simp_all [State.setChild]

theorem Wired.reap (h : Wired cfg s) {n : Nat} (hn : (s.child n).stage = .waiting) :
    Wired cfg (s.reap n) := by
  have hstage : ∀ m, m ≠ n → (s.reap n).child m = s.child m := fun m hm => (reap_child s n m).2.1 hm
  have hcapture := (reap_child s n n).2.2.1
  have hforgot := (reap_child s n n).2.2.2
  constructor
  · intro m hm
    unfold State.reap at hm ⊢
    split at hm
    · cases hm
    · next hcmd =>
        rw [if_neg hcmd]
        exact h.held m hm
  · intro hneed
    constructor
    · unfold State.reap
      split
      · rfl
      · exact (h.unused hneed).1
    · intro m
      rw [(reap_child s n m).1]
      exact (h.unused hneed).2 m
  · intro m hm
    by_cases hmn : m = n
    · subst hmn
      by_cases hcmd : s.cmd = some m
      · rw [(hcapture hcmd).2]
        exact h.held m hcmd
      · rw [hforgot hcmd] at hm
        cases hm
    · rw [hstage m hmn] at hm ⊢
      exact h.taken m hm
  · intro m hm
    by_cases hmn : m = n
    · subst hmn
      by_cases hcmd : s.cmd = some m
      · rw [(hcapture hcmd).1] at hm
        cases hm
      · rw [hforgot hcmd] at hm
        cases hm
    · rw [hstage m hmn] at hm ⊢
      exact h.joined m hm
  · intro m hm
    have hstarted : (s.reap n).started = s.started := by
      unfold State.reap
      split <;> rfl
    rw [hstarted] at hm
    have hmn : m ≠ n := by
      rintro rfl
      rw [(h.fresh m hm).1] at hn
      cases hn
    rw [hstage m hmn]
    exact h.fresh m hm

theorem Wired.clearStopped (h : Wired cfg s) : Wired cfg s.clearStopped where
  held n hn := by cases hn
  unused hneed := ⟨rfl, (h.unused hneed).2⟩
  taken := h.taken
  joined := h.joined
  fresh := h.fresh

theorem Wired.drain (h : Wired cfg s) {n : Nat} (hd : s.drain n = some s') : Wired cfg s' := by
  obtain ⟨g, hnext, hs, hjoined⟩ := drain_eq_some hd
  have hother : ∀ m, m ≠ n → (s'.child m).stage = (s.child m).stage := by
    intro m hm
    rw [hs.stage, Function.update_of_ne hm]
  have hself : (s'.child n).stage = g := by
    rw [hs.stage, Function.update_self]
  constructor
  · rw [hs.cmd, hs.helpers]
    exact h.held
  · simp only [hs.helpers, hs.monitor]
    exact h.unused
  · intro m hm
    rw [hs.captured]
    by_cases hmn : m = n
    · subst hmn
      rw [hself] at hm
      exact h.taken m (ExitStage.collecting_of_next hnext hm)
    · rw [hother m hmn] at hm
      exact h.taken m hm
  · intro m hm hne
    rw [hs.monitor]
    by_cases hmn : m = n
    · subst hmn
      rw [hself] at hm hne
      rcases (ExitStage.pastProfile_of_next hnext).mp hm with hstage | hstage | hpast
      · -- the profile has just been received
        have hreceived := hjoined hstage
        rw [h.taken m (by rw [hstage]; rfl)] at hreceived
        intro hrunning
        cases hneed : cfg.needProfiler with
        | true => simp [State.monitorJoined, hneed, hrunning] at hreceived
        | false => simp [(h.unused hneed).2 m] at hrunning
      · rw [hstage] at hnext
        exact absurd (ExitStage.finished_of_next hnext) hne
      · apply h.joined m hpast
        intro hfinished
        simp [hfinished, ExitStage.next] at hnext
    · rw [hother m hmn] at hm hne
      exact h.joined m hm hne
  · intro m hm
    rw [hs.started] at hm
    have hmn : m ≠ n := by
      rintro rfl
      simp [(h.fresh m hm).1, ExitStage.next] at hnext
    rw [hother m hmn, hs.monitor]
    exact h.fresh m hm

theorem Wired.monitorReturns (h : Wired cfg s) {n : Nat} (hn : (s.child n).monitor = .running) :
    Wired cfg (s.setChild n { s.child n with monitor := .returned }) := by
  have hstage : ∀ m, ((s.setChild n { s.child n with monitor := .returned }).child m).stage =
      (s.child m).stage := by
    intro m
    by_cases hm : m = n <;> simp [State.setChild, hm]
  have hcaptured : ∀ m, ((s.setChild n { s.child n with monitor := .returned }).child m).captured =
      (s.child m).captured := by
    intro m
    by_cases hm : m = n <;> simp [State.setChild, hm]
  have hmonitor : ∀ m, ((s.setChild n { s.child n with monitor := .returned }).child m).monitor =
      if m = n then .returned else (s.child m).monitor := by
    intro m
    by_cases hm : m = n <;> simp [State.setChild, hm]
  constructor
  · exact h.held
  · intro hneed
    simp [(h.unused hneed).2 n] at hn
  · simp only [hstage, hcaptured]
    exact h.taken
  · intro m hm hne
    rw [hstage] at hm hne
    rw [hmonitor]
    split
    · simp
    · exact h.joined m hm hne
  · intro m hm
    have hmn : m ≠ n := by
      rintro rfl
      simp [(h.fresh m hm).2] at hn
    rw [hstage, hmonitor, if_neg hmn]
    exact h.fresh m hm

theorem Wired.step (h : Wired cfg s) {a : Action} (hs : step cfg s a = some s') :
    Wired cfg s' := by
  rcases profile_cases hs with ⟨c, p, -, rfl⟩ | ⟨n, -, hn, rfl⟩ | ⟨c, p, -, rfl⟩ |
    ⟨n, -, hd⟩ | ⟨n, -, hn, rfl⟩ | ⟨-, hsame⟩
  · have hl := h.launch
    exact ⟨hl.held, hl.unused, hl.taken, hl.joined, hl.fresh⟩
  · exact h.reap hn
  · have hc := h.clearStopped
    exact ⟨hc.held, hc.unused, hc.taken, hc.joined, hc.fresh⟩
  · exact h.drain hd
  · exact h.monitorReturns hn
  · exact h.sameBut hsame

/-! ## The books -/

theorem rowsOf_eq_of_rows {F : Type} {p p' : ProfiledState F} (h : p'.rows = p.rows)
    (n : Nat) : p'.rowsOf n = p.rowsOf n := by
  rw [ProfiledState.rowsOf, h, ProfiledState.rowsOf]

theorem rowsOf_concat {F : Type} {p p' : ProfiledState F} {n : Nat} {row : SystemProfile F}
    (h : p'.rows = p.rows ++ [(n, row)]) (m : Nat) :
    p'.rowsOf m = p.rowsOf m ++ if m = n then [row] else [] := by
  rw [ProfiledState.rowsOf, h, List.filter_append, List.map_append, ProfiledState.rowsOf]
  by_cases hm : m = n
  · simp [hm]
  · simp [hm, Ne.symm hm]

theorem after_of_ne {F : Type} [Zero F] [Div F] [NatCast F] {p : ProfiledState F} {runID : Int}
    {a : Action} (h : ∀ n, a ≠ .drain n ∧ a ≠ .monitorReturns n) (stored : Option String)
    (r : State) : p.after runID a stored r = { p with runner := r } := by
  cases a with
  | drain n => exact absurd rfl (h n).1
  | monitorReturns n => exact absurd rfl (h n).2
  | _ => rfl

theorem effectiveRunID_self (runID : Int) : effectiveRunID runID runID = runID := ite_self runID

section Books

variable {F : Type} [Zero F] [Add F] [Sub F] [Mul F] [Div F] [LE F] [LT F] [DecidableLE F]
  [DecidableLT F] [NatCast F] {runID : Int} {seconds : Int → F} {p p' : ProfiledState F}

/-- **The books are kept**: each monitor has added up what it has read, what has returned has sent
its sums, and there are rows only of starts that are past the profile. -/
structure Booked (cfg : Config) (runID : Int) (seconds : Int → F) (p : ProfiledState F) : Prop where
  wired : Wired cfg p.runner
  summary : ∀ n, Summary seconds (p.monitor n) (p.seen n)
  sent : ∀ n, (p.runner.child n).monitor = .returned →
    p.result n = some ((p.monitor n).result runID)
  unread : ∀ n, (p.runner.child n).monitor = .absent → p.seen n = []
  collected : ∀ n, p.rowsOf n ≠ [] → (p.runner.child n).stage.pastProfile = true ∧
    (p.runner.child n).monitor = .returned

/-- Where the runner moves on and neither monitors nor rows change. -/
theorem Booked.move (h : Booked cfg runID seconds p) {r : State} (hwired : Wired cfg r)
    (hmonitor : ∀ n, (r.child n).monitor = (p.runner.child n).monitor)
    (hpast : ∀ n, (p.runner.child n).stage.pastProfile = true →
      (p.runner.child n).monitor = .returned → (r.child n).stage.pastProfile = true) :
    Booked cfg runID seconds { p with runner := r } := by
  refine ⟨hwired, h.summary, ?_, ?_, ?_⟩
  · intro n hn
    exact h.sent n (hmonitor n ▸ hn)
  · intro n hn
    exact h.unread n (hmonitor n ▸ hn)
  · intro n hrows
    obtain ⟨hstage, hreturned⟩ := h.collected n hrows
    exact ⟨hpast n hstage hreturned, (hmonitor n).trans hreturned⟩

theorem Booked.tick (h : Booked cfg runID seconds p) {n : Nat}
    (hn : (p.runner.child n).monitor = .running) (t : Tick F) :
    Booked cfg runID seconds
      { p with
        monitor := Function.update p.monitor n ((p.monitor n).tick seconds t)
        seen := Function.update p.seen n (p.seen n ++ [t]) } := by
  refine ⟨h.wired, ?_, ?_, ?_, h.collected⟩
  · intro m
    by_cases hm : m = n
    · subst hm
      simp only [Function.update_self]
      exact (h.summary m).tick t
    · simp only [Function.update_of_ne hm]
      exact h.summary m
  · intro m hreturned
    have hm : m ≠ n := by
      rintro rfl
      rw [hn] at hreturned
      cases hreturned
    simp only [Function.update_of_ne hm]
    exact h.sent m hreturned
  · intro m habsent
    have hm : m ≠ n := by
      rintro rfl
      rw [hn] at habsent
      cases habsent
    simp only [Function.update_of_ne hm]
    exact h.unread m habsent

/-- What `waitForExit` receives from the monitor. -/
theorem Booked.received (h : Booked cfg runID seconds p) {n : Nat}
    (hstage : (p.runner.child n).stage = .joinSystem)
    (hjoined : p.runner.monitorJoined (p.runner.child n).captured.systemDone = true) :
    (p.runner.child n).captured.systemDone.bind p.result =
        (if cfg.needProfiler then some ((p.monitor n).result runID) else none) ∧
      (cfg.needProfiler = true → (p.runner.child n).monitor = .returned) := by
  have htaken := h.wired.taken n (by rw [hstage]; rfl)
  rw [htaken] at hjoined ⊢
  cases hneed : cfg.needProfiler with
  | false => exact ⟨rfl, fun h => absurd h (by decide)⟩
  | true =>
      have hreturned : (p.runner.child n).monitor = .returned := by
        simpa [State.monitorJoined, hneed] using hjoined
      refine ⟨?_, fun _ => hreturned⟩
      exact h.sent n hreturned

/-- **What is collected**: a row with the averages, if all readings succeeded and there are any
samples, and nothing otherwise. -/
theorem Booked.collect_eq (h : Booked cfg runID seconds p) {n : Nat}
    (hstage : (p.runner.child n).stage = .joinSystem)
    (hjoined : p.runner.monitorJoined (p.runner.child n).captured.systemDone = true)
    (stored : Option String) :
    (accepted seconds (p.seen n) ≠ [] ∧ AllRead (p.seen n) ∧
      ∃ now, stored = some now ∧
        p.collect runID n stored =
          p.rows ++ [(n, profileOf runID (accepted seconds (p.seen n)) now)]) ∨
    ((accepted seconds (p.seen n) = [] ∨ ¬ AllRead (p.seen n) ∨ stored = none) ∧
      p.collect runID n stored = p.rows) := by
  obtain ⟨hreceived, _⟩ := h.received hstage hjoined
  have hsummary := h.summary n
  rw [ProfiledState.collect, hreceived]
  cases hneed : cfg.needProfiler with
  | false =>
      right
      have hseen := h.unread n ((h.wired.unused hneed).2 n)
      exact ⟨.inl (by rw [hseen]; rfl), rfl⟩
  | true =>
      have herr : ((p.monitor n).result runID).err = none ↔ AllRead (p.seen n) := hsummary.lastErr
      have hsamples : 0 < ((p.monitor n).result runID).profile.samples ↔
          accepted seconds (p.seen n) ≠ [] := by
        show 0 < (p.monitor n).samples ↔ _
        rw [hsummary.samples, List.length_pos_iff]
      have hguard := and_congr herr hsamples
      simp only [if_true]
      by_cases hkept : AllRead (p.seen n) ∧ accepted seconds (p.seen n) ≠ []
      · rw [if_pos (hguard.mpr hkept)]
        cases stored with
        | none => exact .inr ⟨.inr (.inr rfl), List.append_nil _⟩
        | some now =>
            have hrow : profileRow runID ((p.monitor n).result runID).profile now =
                profileOf runID (accepted seconds (p.seen n)) now := by
              rw [← hsummary.result_profile runID now]
              simp [profileRow, effectiveRunID_self, Monitor.result]
            left
            refine ⟨hkept.2, hkept.1, now, rfl, ?_⟩
            rw [Option.map_some, hrow]
            rfl
      · right
        refine ⟨?_, if_neg (mt hguard.mp hkept)⟩
        by_cases hread : AllRead (p.seen n)
        · exact .inl (not_not.mp fun hne => hkept ⟨hread, hne⟩)
        · exact .inr (.inl hread)

/-- The step of `waitForExit` that collects. -/
theorem Booked.drain (h : Booked cfg runID seconds p) {n : Nat} {r : State}
    (hd : p.runner.drain n = some r) (stored : Option String) :
    Booked cfg runID seconds (p.after runID (.drain n) stored r) := by
  obtain ⟨g, hnext, hs, hjoined⟩ := drain_eq_some hd
  have hpast : ∀ m, (p.runner.child m).stage.pastProfile = true →
      (r.child m).stage.pastProfile = true := by
    intro m hm
    rw [hs.stage]
    by_cases hmn : m = n
    · subst hmn
      rw [Function.update_self, ExitStage.pastProfile_of_next hnext]
      exact .inr (.inr hm)
    · rw [Function.update_of_ne hmn]
      exact hm
  have hmove := h.move (h.wired.drain hd) hs.monitor fun m hm _ => hpast m hm
  have hafter : p.after runID (.drain n) stored r =
      { p with
        runner := r
        rows := if (p.runner.child n).stage = .joinSystem then p.collect runID n stored
          else p.rows } := rfl
  rw [hafter]
  by_cases hstage : (p.runner.child n).stage = .joinSystem
  · rw [if_pos hstage]
    rcases h.collect_eq hstage (hjoined hstage) stored with ⟨hsome, _, now, _, hcollect⟩ |
      ⟨_, hcollect⟩
    · refine ⟨hmove.wired, hmove.summary, hmove.sent, hmove.unread, ?_⟩
      intro m hrows
      rw [rowsOf_concat (p := p) hcollect] at hrows
      by_cases hmn : m = n
      · subst hmn
        have hneed : cfg.needProfiler = true := by
          by_contra hneed
          rw [Bool.not_eq_true] at hneed
          rw [h.unread m ((h.wired.unused hneed).2 m)] at hsome
          exact hsome rfl
        refine ⟨?_, (hs.monitor m).trans ((h.received hstage (hjoined hstage)).2 hneed)⟩
        show (r.child m).stage.pastProfile = true
        rw [hs.stage, Function.update_self, ExitStage.pastProfile_of_next hnext]
        exact .inl hstage
      · rw [if_neg hmn, List.append_nil] at hrows
        exact hmove.collected m hrows
    · rw [hcollect]
      exact hmove
  · rw [if_neg hstage]
    exact hmove

theorem Booked.monitorReturns (h : Booked cfg runID seconds p) {n : Nat}
    (hn : (p.runner.child n).monitor = .running) :
    Booked cfg runID seconds (p.after runID (.monitorReturns n) none
      (p.runner.setChild n { p.runner.child n with monitor := .returned })) := by
  refine ⟨h.wired.monitorReturns hn, h.summary, ?_, ?_, ?_⟩
  · intro m hm
    by_cases hmn : m = n
    · subst hmn
      exact Function.update_self ..
    · simp only [ProfiledState.after, State.setChild, Function.update_of_ne hmn] at hm ⊢
      exact h.sent m hm
  · intro m hm
    by_cases hmn : m = n
    · subst hmn
      simp [ProfiledState.after, State.setChild] at hm
    · simp only [ProfiledState.after, State.setChild, Function.update_of_ne hmn] at hm
      exact h.unread m hm
  · intro m hrows
    obtain ⟨hpast, hreturned⟩ := h.collected m hrows
    have hmn : m ≠ n := by
      rintro rfl
      rw [hn] at hreturned
      cases hreturned
    simp only [ProfiledState.after, State.setChild, Function.update_of_ne hmn]
    exact ⟨hpast, hreturned⟩

/-- Launching a child that has not been there. -/
theorem Booked.launch (h : Booked cfg runID seconds p) (c : Nat) (q : Caller) :
    Booked cfg runID seconds { p with runner := (p.runner.launch cfg).setCaller c q } := by
  have hl := h.wired.launch
  have hfresh := h.wired.fresh p.runner.started (Nat.le_refl _)
  have hchild : ∀ m, ((p.runner.launch cfg).setCaller c q).child m =
      if m = p.runner.started then Child.launched cfg else p.runner.child m := fun m =>
    launch_child cfg p.runner m
  refine ⟨⟨hl.held, hl.unused, hl.taken, hl.joined, hl.fresh⟩, h.summary, ?_, ?_, ?_⟩
  · intro m hm
    rw [hchild] at hm
    split at hm
    · cases hneed : cfg.needProfiler <;> simp [Child.launched, hneed] at hm
    · exact h.sent m hm
  · intro m hm
    rw [hchild] at hm
    split at hm
    · next heq =>
        subst heq
        exact h.unread _ hfresh.2
    · exact h.unread m hm
  · intro m hrows
    obtain ⟨hpast, hreturned⟩ := h.collected m hrows
    have hne : m ≠ p.runner.started := by
      rintro rfl
      rw [hfresh.2] at hreturned
      cases hreturned
    rw [hchild, if_neg hne]
    exact ⟨hpast, hreturned⟩

theorem Booked.step (h : Booked cfg runID seconds p) {a : ProfiledAction F}
    (hs : (profiledMachine cfg runID seconds).step p a = some p') :
    Booked cfg runID seconds p' := by
  cases a with
  | tick n t =>
      simp only [profiledMachine] at hs
      split at hs
      · next hn =>
          cases hs
          exact h.tick hn t
      · cases hs
  | run a stored =>
      obtain ⟨r, hr, rfl⟩ := Option.map_eq_some_iff.mp hs
      rcases profile_cases hr with ⟨c, q, rfl, rfl⟩ | ⟨n, rfl, hn, rfl⟩ | ⟨c, q, rfl, rfl⟩ |
        ⟨n, rfl, hd⟩ | ⟨n, rfl, hn, rfl⟩ | ⟨hne, hsame⟩
      · exact h.launch c q
      · rw [after_of_ne (by simp)]
        refine h.move (h.wired.step hr) (fun m => (reap_child p.runner n m).1) ?_
        intro m hm _
        have hmn : m ≠ n := by
          rintro rfl
          rw [hn] at hm
          cases hm
        rw [(reap_child p.runner n m).2.1 hmn]
        exact hm
      · rw [after_of_ne (by simp)]
        exact h.move (h.wired.step hr) (fun _ => rfl) fun _ hm _ => hm
      · exact h.drain hd stored
      · exact h.monitorReturns hn
      · rw [after_of_ne hne]
        refine h.move (h.wired.step hr) hsame.monitor ?_
        intro m hm _
        rw [hsame.stage]
        exact hm

theorem booked_new : Booked cfg runID seconds (profiledMachine cfg runID seconds).init := by
  refine ⟨wired_new, fun _ => summary_new, ?_, fun _ _ => rfl, fun n hn => absurd rfl hn⟩
  intro n hn
  cases hn

/-! ## Which schedules give every sampled run its profile -/

/-- Where one start is concerned and the others are as they were. -/
theorem profiled_iff_of_others {q : ProfiledState F} (hP : Profiled runID seconds p) (n : Nat)
    (hpast : ∀ m, m ≠ n → (q.runner.child m).stage.pastProfile = true →
      (p.runner.child m).stage.pastProfile = true)
    (hseen : ∀ m, m ≠ n → q.seen m = p.seen m) (hrows : ∀ m, m ≠ n → q.rowsOf m = p.rowsOf m) :
    Profiled runID seconds q ↔
      ((q.runner.child n).stage.pastProfile = true → accepted seconds (q.seen n) ≠ [] →
        ∃ createdAt, q.rowsOf n =
          [profileOf runID (accepted seconds (q.seen n)) createdAt]) := by
  constructor
  · exact fun h => h n
  · intro h m hm hsome
    by_cases hmn : m = n
    · subst hmn
      exact h hm hsome
    · rw [hseen m hmn] at hsome ⊢
      rw [hrows m hmn]
      exact hP m (hpast m hmn hm) hsome

/-- Where nothing has come past the profile. -/
theorem profiled_of_same (hP : Profiled runID seconds p) (hseen : p'.seen = p.seen)
    (hrows : p'.rows = p.rows)
    (hpast : ∀ m, (p'.runner.child m).stage.pastProfile = true →
      (p.runner.child m).stage.pastProfile = true) : Profiled runID seconds p' := by
  intro m hm hsome
  rw [hseen] at hsome ⊢
  rw [rowsOf_eq_of_rows hrows]
  exact hP m (hpast m hm) hsome

/-- **A tick** keeps the profiles unless it makes the first sample of a start that is over. -/
theorem profiled_tick_iff (h : Booked cfg runID seconds p) (hP : Profiled runID seconds p) {n : Nat}
    {t : Tick F} (hs : (profiledMachine cfg runID seconds).step p (.tick n t) = some p') :
    Profiled runID seconds p' ↔ Collected seconds p (.tick n t) := by
  simp only [profiledMachine] at hs
  split at hs
  · next hn =>
      cases hs
      have hnone : p.rowsOf n = [] := by
        by_contra hrows
        rw [(h.collected n hrows).2] at hn
        cases hn
      let q : ProfiledState F :=
        { p with
          monitor := Function.update p.monitor n ((p.monitor n).tick seconds t)
          seen := Function.update p.seen n (p.seen n ++ [t]) }
      refine (profiled_iff_of_others (q := q) hP n (fun m _ hm => hm)
        (fun m hm => Function.update_of_ne hm _ _) fun m _ => rfl).trans ?_
      have hseen : q.seen n = p.seen n ++ [t] := Function.update_self ..
      rw [hseen, Collected]
      apply imp_congr_right
      intro _
      constructor
      · intro hrow
        by_contra hsome
        obtain ⟨createdAt, hone⟩ := hrow hsome
        have hsame : q.rowsOf n = p.rowsOf n := rowsOf_eq_of_rows rfl n
        rw [hsame, hnone] at hone
        cases hone
      · exact fun hempty hsome => absurd hempty hsome
  · cases hs

/-- Where there is no row, none should be. -/
theorem imp_row_iff {F : Type} [Zero F] [Add F] [Div F] [NatCast F] (runID : Int)
    (samples : List (F × F)) :
    (samples ≠ [] → ∃ createdAt, [] = [profileOf runID samples createdAt]) ↔ samples = [] := by
  constructor
  · intro hrow
    by_contra hsome
    obtain ⟨_, hone⟩ := hrow hsome
    cases hone
  · exact fun hnosample hsome => absurd hnosample hsome

/-- **A step of `waitForExit`** keeps the profiles exactly if it collects what there is. -/
theorem profiled_drain_iff (h : Booked cfg runID seconds p) (hP : Profiled runID seconds p)
    {n : Nat} {r : State} (hd : p.runner.drain n = some r) (stored : Option String) :
    Profiled runID seconds (p.after runID (.drain n) stored r) ↔
      Collected seconds p (.run (.drain n) stored) := by
  obtain ⟨g, hnext, hs, hjoined⟩ := drain_eq_some hd
  have hother : ∀ m, m ≠ n → (r.child m).stage = (p.runner.child m).stage := by
    intro m hm
    rw [hs.stage, Function.update_of_ne hm]
  have hself : (r.child n).stage = g := by
    rw [hs.stage, Function.update_self]
  let q := p.after runID (.drain n) stored r
  have hnone : (p.runner.child n).stage.pastProfile = false → p.rowsOf n = [] := by
    intro hpast
    by_contra hrows
    rw [(h.collected n hrows).1] at hpast
    cases hpast
  have hothers : ∀ m, m ≠ n → (r.child m).stage.pastProfile = true →
      (p.runner.child m).stage.pastProfile = true := fun m hm => by rw [hother m hm]; exact id
  rw [Collected]
  by_cases hstage : (p.runner.child n).stage = .joinSystem
  · have hempty := hnone (by rw [hstage]; rfl)
    have hpast : g.pastProfile = true := (ExitStage.pastProfile_of_next hnext).mpr (.inl hstage)
    have hclosed : (p.runner.child n).stage = .closeUntracked →
        accepted seconds (p.seen n) = [] := by
      intro heq
      rw [hstage] at heq
      cases heq
    rw [and_iff_left hclosed, imp_iff_right hstage]
    have hrows : q.rows = p.collect runID n stored := if_pos hstage
    rcases h.collect_eq hstage (hjoined hstage) stored with
      ⟨hsome, hread, now, hstored, hcollect⟩ | ⟨hlost, hcollect⟩
    · refine iff_of_true ?_ (.inr ⟨hread, by rw [hstored]; rfl⟩)
      refine (profiled_iff_of_others (q := q) hP n hothers (fun m _ => rfl) ?_).mpr ?_
      · intro m hm
        rw [rowsOf_concat (hrows.trans hcollect), if_neg hm, List.append_nil]
      · intro _ _
        refine ⟨now, ?_⟩
        rw [rowsOf_concat (hrows.trans hcollect), if_pos rfl, hempty]
        rfl
    · refine (profiled_iff_of_others (q := q) hP n hothers (fun m _ => rfl)
        fun m _ => rowsOf_eq_of_rows (hrows.trans hcollect) m).trans ?_
      rw [show (q.runner.child n).stage = g from hself, imp_iff_right hpast,
        rowsOf_eq_of_rows (hrows.trans hcollect), hempty, imp_row_iff]
      constructor
      · exact .inl
      · rintro (hnosample | ⟨hread, hstored⟩)
        · exact hnosample
        · rcases hlost with hlost | hlost | hlost
          · exact hlost
          · exact absurd hread hlost
          · rw [hlost] at hstored
            cases hstored
  · rw [and_iff_right fun heq => absurd heq hstage]
    have hrows : q.rows = p.rows := if_neg hstage
    refine (profiled_iff_of_others (q := q) hP n hothers (fun m _ => rfl)
      fun m _ => rowsOf_eq_of_rows hrows m).trans ?_
    rw [show (q.runner.child n).stage = g from hself, ExitStage.pastProfile_of_next hnext,
      or_iff_right hstage]
    by_cases hclosed : (p.runner.child n).stage = .closeUntracked
    · have hempty := hnone (by rw [hclosed]; rfl)
      rw [imp_iff_right (Or.inl hclosed), imp_iff_right hclosed, rowsOf_eq_of_rows hrows,
        hempty, imp_row_iff]
      rfl
    · refine iff_of_true ?_ fun heq => absurd heq hclosed
      intro hpast hsome
      rw [rowsOf_eq_of_rows hrows]
      exact hP n (hpast.resolve_left hclosed) hsome

/-- **One step** keeps the profiles exactly if the guard allows it. -/
theorem profiled_step_iff (h : Booked cfg runID seconds p) (hP : Profiled runID seconds p)
    {a : ProfiledAction F} (hs : (profiledMachine cfg runID seconds).step p a = some p') :
    Profiled runID seconds p' ↔ Collected seconds p a := by
  cases a with
  | tick n t => exact profiled_tick_iff h hP hs
  | run a stored =>
      obtain ⟨r, hr, rfl⟩ := Option.map_eq_some_iff.mp hs
      rcases profile_cases hr with ⟨c, q, rfl, rfl⟩ | ⟨n, rfl, hn, rfl⟩ | ⟨c, q, rfl, rfl⟩ |
        ⟨n, rfl, hd⟩ | ⟨n, rfl, hn, rfl⟩ | ⟨hne, hsame⟩
      · refine iff_of_true (profiled_of_same hP rfl rfl ?_) trivial
        intro m hm
        have hchild : ((p.runner.launch cfg).setCaller c q).child m =
            if m = p.runner.started then Child.launched cfg else p.runner.child m :=
          launch_child cfg p.runner m
        have hm : (((p.runner.launch cfg).setCaller c q).child m).stage.pastProfile = true := hm
        rw [hchild] at hm
        split at hm
        · cases hm
        · exact hm
      · refine iff_of_true (profiled_of_same hP rfl rfl ?_) trivial
        intro m hm
        have hm : ((p.runner.reap n).child m).stage.pastProfile = true := hm
        by_cases hmn : m = n
        · subst hmn
          by_cases hcmd : p.runner.cmd = some m
          · rw [((reap_child p.runner m m).2.2.1 hcmd).1] at hm
            cases hm
          · rw [(reap_child p.runner m m).2.2.2 hcmd] at hm
            cases hm
        · rw [(reap_child p.runner n m).2.1 hmn] at hm
          exact hm
      · exact iff_of_true (profiled_of_same hP rfl rfl fun m hm => hm) trivial
      · exact profiled_drain_iff h hP hd stored
      · refine iff_of_true (profiled_of_same hP rfl rfl ?_) trivial
        intro m hm
        by_cases hmn : m = n
        · subst hmn
          simpa [ProfiledState.after, State.setChild] using hm
        · simpa [ProfiledState.after, State.setChild, hmn] using hm
      · rw [after_of_ne hne]
        have hguard : Collected seconds p (.run a stored) := by
          cases a with
          | drain n => exact absurd rfl (hne n).1
          | _ => trivial
        refine iff_of_true (profiled_of_same hP rfl rfl ?_) hguard
        intro m hm
        have hm : (r.child m).stage.pastProfile = true := hm
        rw [hsame.stage] at hm
        exact hm

/-- **Every sampled run gets its system profile** in a schedule exactly if no step of it loses one:
when `waitForExit` collects a profile with samples, no reading has failed and the row is stored, and
a start that the runner has forgotten has no samples. -/
theorem profiled_iff_collected (cfg : Config) (runID : Int) (seconds : Int → F)
    (acts : List (ProfiledAction F)) :
    (profiledMachine cfg runID seconds).Always (Profiled runID seconds)
        (profiledMachine cfg runID seconds).init acts ↔
      (profiledMachine cfg runID seconds).Guarded (Collected seconds)
        (profiledMachine cfg runID seconds).init acts := by
  refine Machine.always_iff_guarded (I := Booked cfg runID seconds) (fun s a s' h hs => h.step hs)
    (fun s a s' h hP hs => profiled_step_iff h hP hs) booked_new ?_
  exact fun n _ hsome => absurd rfl hsome

end Books

/-! ## A reading between the exit and the end of the tail -/

def nanosToSeconds (d : Int) : Rat := (d : Rat) / 1000000000

/-- Two readings half a second apart, and one while the alerts of the process, which is gone, are
still being read. -/
def lateReading : List (ProfiledAction Rat) :=
  [.run (.start 0 true) none,
    .tick 0 ⟨500000000, .ok ⟨1 / 10, 64⟩⟩,
    .tick 0 ⟨1000000000, .ok ⟨3 / 10, 96⟩⟩,
    .run (.exit 0) none, .run (.reap 0) none, .run (.drain 0) none,
    .tick 0 ⟨1500000000, .error "open /proc/4242/stat: no such file or directory"⟩,
    .run (.tailReturns 0) none, .run (.drain 0) none, .run (.drain 0) none,
    .run (.monitorReturns 0) none, .run (.drain 0) (some "2024-01-01T00:00:02Z")]

/-- **The late reading costs the profile**: there is a sample, at 40 per cent and 96 megabytes, and
no row. -/
theorem late_reading_loses_profile :
    (∃ p, (profiledMachine ⟨true, true, false⟩ 1 nanosToSeconds).exec
        (profiledMachine ⟨true, true, false⟩ 1 nanosToSeconds).init lateReading = some p ∧
      accepted nanosToSeconds (p.seen 0) = [(40, 96)] ∧ p.rows = []) ∧
    ¬ (profiledMachine ⟨true, true, false⟩ 1 nanosToSeconds).Always (Profiled 1 nanosToSeconds)
        (profiledMachine ⟨true, true, false⟩ 1 nanosToSeconds).init lateReading := by
  have hrun : ∃ p, (profiledMachine ⟨true, true, false⟩ 1 nanosToSeconds).exec
        (profiledMachine ⟨true, true, false⟩ 1 nanosToSeconds).init lateReading = some p ∧
      (p.runner.child 0).stage.pastProfile = true ∧
      accepted nanosToSeconds (p.seen 0) = [(40, 96)] ∧ p.rows = [] := by
    refine ⟨_, rfl, ?_, ?_, ?_⟩
    · decide +kernel
    · decide +kernel
    · decide +kernel
  obtain ⟨p, hexec, hpast, hsample, hrows⟩ := hrun
  refine ⟨⟨p, hexec, hsample, hrows⟩, ?_⟩
  intro halways
  obtain ⟨createdAt, hone⟩ := halways.last hexec 0 hpast (by rw [hsample]; simp)
  rw [ProfiledState.rowsOf, hrows] at hone
  cases hone

end SnortOptimizer.Runner
