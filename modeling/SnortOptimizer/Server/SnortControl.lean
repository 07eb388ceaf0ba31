import SnortOptimizer.Runner.Tracking

/-!
# The production Snort of the server (`server/api/server.go`)

`Server.runner` points to the runner of the production Snort. `startRunner` (behind
`/api/snort/start` and `/restart`) creates a runner, publishes it in that field under the server's
mutex, stops the runner it replaced, starts its own, and puts the old pointer back if — and only
if — `Start` failed. `handleSnortStop` reads the field under the mutex and stops what it found.

Requests run concurrently. Each action below is a section under the server's mutex or one step of a
runner (`SnortOptimizer.Runner`), and a request that is inside `Stop` or `Start` is the caller of
that runner with the request's own number. A runner's `Stop` fails when its signal fails; a
`Start` fails when the schedule says so. Settings are read once, at creation, and of the
configuration built from them only the switches of `Runner.Config` matter here.
-/

namespace SnortOptimizer.Server

open SnortOptimizer.Runner (Live)

/-- What one request is doing. `current` is the runner that `startRunner` found in the server. -/
inductive Request where
  | idle
  | created (runner : Nat) (forceRestart : Bool)       -- `NewRunner` returned
  | stoppingOld (runner current : Nat)                 -- inside `current.Stop()`
  | launching (runner : Nat) (current : Option Nat)    -- before `runner.Start()`
  | restoring (runner : Nat) (current : Option Nat)    -- `runner.Start()` failed
  | stopping (runner : Nat)                            -- `handleSnortStop`, inside `runner.Stop()`
  deriving DecidableEq, Repr

/-- The runner a request created and has not started yet. -/
def Request.owned : Request → Option Nat
  | .created r _ | .stoppingOld r _ | .launching r _ | .restoring r _ => some r
  | .idle | .stopping _ => none

/-- The runner a request is stopping, and what it does once `Stop` has returned nil. -/
def Request.stopTarget : Request → Option (Nat × Request)
  | .stoppingOld r current => some (current, .launching r (some current))
  | .stopping r => some (r, .idle)
  | _ => none

structure SnortState where
  runner : Option Nat
  created : Nat
  config : Nat → Runner.Config
  runners : Nat → Runner.State
  request : Nat → Request

def SnortState.new : SnortState :=
  { runner := none, created := 0, config := fun _ => ⟨true, false, false⟩
    runners := fun _ => Runner.State.new, request := fun _ => .idle }

def SnortState.setRequest (s : SnortState) (q : Nat) (p : Request) : SnortState :=
  { s with request := Function.update s.request q p }

def SnortState.setRunner (s : SnortState) (r : Nat) (t : Runner.State) : SnortState :=
  { s with runners := Function.update s.runners r t }

/-- `buildWrapConfig`, as far as the life cycle of the runner reads it. -/
def buildWrapConfig (needProfiler : Bool) : Runner.Config :=
  { needAlert := true, needProfiler := needProfiler, noClean := false }

/-- The head of `startRunner`, up to `wrap.NewRunner`. -/
def SnortState.create (s : SnortState) (q : Nat) (forceRestart needProfiler : Bool) : SnortState :=
  { s with
    created := s.created + 1
    config := Function.update s.config s.created (buildWrapConfig needProfiler)
    request := Function.update s.request q (.created s.created forceRestart) }

/-- The check of the locked section: a running Snort is replaced only by a restart. -/
def SnortState.refuses (s : SnortState) (forceRestart : Bool) : Bool :=
  match s.runner with
  | none => false
  | some current => (s.runners current).runInfo.running && !forceRestart

/-- The locked section of `startRunner`. -/
def SnortState.publish (s : SnortState) (q r : Nat) (forceRestart : Bool) : SnortState :=
  if s.refuses forceRestart then s.setRequest q .idle
  else
    { s with
      runner := some r
      request := Function.update s.request q
        (match s.runner with
          | none => .launching r none
          | some current => .stoppingOld r current) }

/-- One runner takes one step, and the request `q` behind it goes on to `p`. -/
def SnortState.runnerStep (s : SnortState) (r : Nat) (a : Runner.Action) (q : Nat) (p : Request) :
    Option SnortState :=
  (Runner.step (s.config r) (s.runners r) a).map fun t => (s.setRunner r t).setRequest q p

/-- The actions; `q` names a request, `r` a runner. -/
inductive SnortAction where
  | create (q : Nat) (forceRestart needProfiler : Bool)   -- `startRunner` up to `NewRunner`
  | publish (q : Nat)                     -- its locked section
  | launch (q : Nat) (ok : Bool)          -- `runner.Start()`
  | restore (q : Nat)                     -- the locked section after a failed `Start`
  | handleStop (q : Nat)                  -- the locked section of `handleSnortStop`
  | stopCall (q : Nat)                    -- `Stop` of the runner the request is stopping:
  | stopSignal (q : Nat) (ok : Bool)      -- its snapshot, its signal,
  | stopAwait (q : Nat)                   -- its wait,
  | stopClear (q : Nat)                   -- its `clearStopped`
  | background (r : Nat) (a : Runner.Action)
  deriving DecidableEq, Repr

def snortStep (s : SnortState) : SnortAction → Option SnortState
  | .create q forceRestart needProfiler =>
      match s.request q with
      | .idle => some (s.create q forceRestart needProfiler)
      | _ => none
  | .publish q =>
      match s.request q with
      | .created r forceRestart => some (s.publish q r forceRestart)
      | _ => none
  | .launch q ok =>
      match s.request q with
      | .launching r current =>
          s.runnerStep r (.start q ok) q
            (if ok ∧ (s.runners r).runInfo.running = false then .idle else .restoring r current)
      | _ => none
  | .restore q =>
      match s.request q with
      | .restoring r current =>
          some { s with
            runner := if s.runner = some r then current else s.runner
            request := Function.update s.request q .idle }
      | _ => none
  | .handleStop q =>
      match s.request q with
      | .idle =>
          some (s.setRequest q (match s.runner with | none => .idle | some r => .stopping r))
      | _ => none
  | .stopCall q =>
      match (s.request q).stopTarget with
      | some (r, _) => s.runnerStep r (.stop q false) q (s.request q)
      | none => none
  | .stopSignal q ok =>
      match (s.request q).stopTarget with
      | some (r, _) => s.runnerStep r (.signal q ok) q (if ok then s.request q else .idle)
      | none => none
  | .stopAwait q =>
      match (s.request q).stopTarget with
      | some (r, _) => s.runnerStep r (.awaitDone q) q (s.request q)
      | none => none
  | .stopClear q =>
      match (s.request q).stopTarget with
      | some (r, next) => s.runnerStep r (.clear q) q next
      | none => none
  | .background r a =>
      if a.background then
        (Runner.step (s.config r) (s.runners r) a).map fun t => s.setRunner r t
      else none

/-- The server's Snort control under any number of concurrent requests. -/
def snortMachine : Machine SnortState SnortAction where
  init := SnortState.new
  step := snortStep

/-! ## What one step can do -/

variable {s s' : SnortState}

/-- A step that leaves the pointer alone, creates no runner, starts no child and takes on no new
runner of its own. -/
structure Still (s s' : SnortState) : Prop where
  runner : s'.runner = s.runner
  created : s'.created = s.created
  live : ∀ k, Live (s'.runners k) → Live (s.runners k)
  owned : ∀ q r, (s'.request q).owned = some r → (s.request q).owned = some r

theorem still_setRequest (s : SnortState) (q : Nat) (p : Request)
    (hp : ∀ r, p.owned = some r → (s.request q).owned = some r) : Still s (s.setRequest q p) := by
  refine ⟨rfl, rfl, fun _ h => h, fun q' r h => ?_⟩
  by_cases hq : q' = q
  · subst hq
    exact hp r (by simpa [SnortState.setRequest] using h)
  · simpa [SnortState.setRequest, hq] using h

/-- A runner step other than a successful `Start` is still. -/
theorem still_runnerStep {r q : Nat} {a : Runner.Action} {p : Request}
    (h : s.runnerStep r a q p = some s')
    (ha : ∀ c, a = .start c true → (s.runners r).runInfo.running = true)
    (hp : ∀ k, p.owned = some k → (s.request q).owned = some k) : Still s s' := by
  obtain ⟨t, ht, rfl⟩ := Option.map_eq_some_iff.mp h
  have hstill := still_setRequest (s.setRunner r t) q p hp
  refine ⟨hstill.runner, hstill.created, fun k hk => ?_, hstill.owned⟩
  have hk' := hstill.live k hk
  by_cases hkr : k = r
  · subst hkr
    simp only [SnortState.setRunner, Function.update_self] at hk'
    rcases Runner.live_of_step ht hk' with hl | ⟨c, hc, hrun⟩
    · exact hl
    · simp [ha c hc] at hrun
  · simpa [SnortState.setRunner, hkr] using hk'

/-- **Inversion of one step**: creating a runner, publishing one, starting one, putting the old
pointer back, or a still step. -/
theorem snortStep_cases {a : SnortAction} (h : snortStep s a = some s') :
    (∃ q f p, a = .create q f p ∧ (s.request q).owned = none ∧ s' = s.create q f p) ∨
    (∃ q r f, a = .publish q ∧ s.request q = .created r f ∧ s.refuses f = false ∧
      s' = s.publish q r f) ∨
    (∃ q r current t, a = .launch q true ∧ s.request q = .launching r current ∧
      (s.runners r).runInfo.running = false ∧
      Runner.step (s.config r) (s.runners r) (.start q true) = some t ∧
      s' = (s.setRunner r t).setRequest q .idle) ∨
    (∃ q r current, a = .restore q ∧ s.request q = .restoring r current ∧
      s' = { s with
        runner := if s.runner = some r then current else s.runner
        request := Function.update s.request q .idle }) ∨
    ((∀ q r f, a = .publish q → s.request q = .created r f → s.refuses f = true) ∧
      (∀ q r current, a = .launch q true → s.request q = .launching r current →
        (s.runners r).runInfo.running = true) ∧ Still s s') := by
  cases a with
  | create q f p =>
      simp only [snortStep] at h
      split at h
      · next hq => exact .inl ⟨q, f, p, rfl, by simp [hq, Request.owned], (Option.some.inj h).symm⟩
      · cases h
  | publish q =>
      simp only [snortStep] at h
      split at h
      · next r f hq =>
          cases hf : s.refuses f with
          | false => exact .inr (.inl ⟨q, r, f, rfl, hq, hf, (Option.some.inj h).symm⟩)
          | true =>
              simp only [SnortState.publish, hf, if_true, Option.some.injEq] at h
              subst h
              refine .inr (.inr (.inr (.inr ⟨?_, by simp, ?_⟩)))
              · intro q' r' f' ha hq'
                cases ha
                rw [hq] at hq'
                cases hq'
                exact hf
              · exact still_setRequest s q _ (by simp [Request.owned])
      · cases h
  | launch q ok =>
      simp only [snortStep] at h
      split at h
      · next r current hq =>
          by_cases hgo : ok = true ∧ (s.runners r).runInfo.running = false
          · obtain ⟨rfl, hrun⟩ := hgo
            rw [if_pos ⟨rfl, hrun⟩] at h
            obtain ⟨t, ht, rfl⟩ := Option.map_eq_some_iff.mp h
            exact .inr (.inr (.inl ⟨q, r, current, t, rfl, hq, hrun, ht, rfl⟩))
          · -- `Start` fails, or finds its runner running already
            rw [if_neg hgo] at h
            refine .inr (.inr (.inr (.inr ⟨by simp, ?_, ?_⟩)))
            · intro q' r' current' ha hq'
              cases ha
              rw [hq] at hq'
              cases hq'
              simpa using hgo
            · refine still_runnerStep h (fun c hc => ?_) ?_
              · cases hc
                simpa using hgo
              · simp [Request.owned, hq]
      · cases h
  | restore q =>
      simp only [snortStep] at h
      split at h
      · next r current hq =>
          exact .inr (.inr (.inr (.inl ⟨q, r, current, rfl, hq, (Option.some.inj h).symm⟩)))
      · cases h
  | handleStop q =>
      simp only [snortStep] at h
      split at h
      · cases h
        refine .inr (.inr (.inr (.inr ⟨by simp, by simp, still_setRequest s q _ ?_⟩)))
        intro r hr
        split at hr <;> cases hr
      · cases h
  | stopCall q | stopAwait q =>
      simp only [snortStep] at h
      split at h
      · exact .inr (.inr (.inr (.inr ⟨by simp, by simp,
          still_runnerStep h (by simp) (fun _ hk => hk)⟩)))
      · cases h
  | stopSignal q ok =>
      simp only [snortStep] at h
      split at h
      · refine .inr (.inr (.inr (.inr ⟨by simp, by simp, still_runnerStep h (by simp) ?_⟩)))
        intro k hk
        cases ok with
        | true => exact hk
        | false => cases hk
      · cases h
  | stopClear q =>
      simp only [snortStep] at h
      split at h
      · next r next hq =>
          refine .inr (.inr (.inr (.inr ⟨by simp, by simp, still_runnerStep h (by simp) ?_⟩)))
          intro k hk
          cases hreq : s.request q <;> simp_all [Request.stopTarget, Request.owned]
          · obtain ⟨-, rfl⟩ := hq
            exact Option.some.inj hk
          · obtain ⟨-, rfl⟩ := hq
            cases hk
      · cases h
  | background r a =>
      simp only [snortStep] at h
      split at h
      · next hbg =>
          -- as a runner step of a request that stays where it is
          have hstep : s.runnerStep r a 0 (s.request 0) = some s' := by
            obtain ⟨t, ht, rfl⟩ := Option.map_eq_some_iff.mp h
            simp [SnortState.runnerStep, ht, SnortState.setRequest, SnortState.setRunner]
          refine .inr (.inr (.inr (.inr ⟨by simp, by simp, still_runnerStep hstep ?_ ?_⟩)))
          · rintro c rfl
            cases hbg
          · exact fun _ hk => hk
      · cases h

/-! ## Runners that have not been started

A runner belongs to the request that created it until that request has called its `Start`. Until
then it has no child, and no two requests own the same one. No step can break this. -/

structure Ownership (s : SnortState) : Prop where
  uncreated : ∀ r, s.created ≤ r → ¬ Live (s.runners r)
  unstarted : ∀ q r, (s.request q).owned = some r → r < s.created ∧ ¬ Live (s.runners r)
  exclusive : ∀ q q' r, (s.request q).owned = some r → (s.request q').owned = some r → q = q'

theorem ownership_new : Ownership SnortState.new where
  uncreated := by
    rintro r - ⟨n, hn⟩
    cases hn
  unstarted := by
    intro q r h
    cases h
  exclusive := by
    intro q q' r h
    cases h

theorem Ownership.still (hI : Ownership s) (hs : Still s s') : Ownership s' where
  uncreated := by
    intro r hr hl
    rw [hs.created] at hr
    exact hI.uncreated r hr (hs.live r hl)
  unstarted := by
    intro q r h
    obtain ⟨hlt, hdead⟩ := hI.unstarted q r (hs.owned q r h)
    rw [hs.created]
    exact ⟨hlt, fun hl => hdead (hs.live r hl)⟩
  exclusive := by
    intro q q' r h h'
    exact hI.exclusive q q' r (hs.owned q r h) (hs.owned q' r h')

theorem ownership_create (hI : Ownership s) (q : Nat) (f p : Bool) :
    Ownership (s.create q f p) where
  uncreated := by
    intro r hr
    have hle : s.created ≤ r := by
      have : s.created + 1 ≤ r := hr
      omega
    exact hI.uncreated r hle
  unstarted := by
    intro q' r h
    show r < s.created + 1 ∧ ¬ Live (s.runners r)
    by_cases hq : q' = q
    · subst hq
      have hr : s.created = r := by simpa [SnortState.create, Request.owned] using h
      subst hr
      exact ⟨by omega, hI.uncreated _ (Nat.le_refl _)⟩
    · have h' : (s.request q').owned = some r := by simpa [SnortState.create, hq] using h
      obtain ⟨hlt, hdead⟩ := hI.unstarted q' r h'
      exact ⟨by omega, hdead⟩
  exclusive := by
    -- the new runner's number is above every number owned so far
    have hother : ∀ q' r, q' ≠ q → ((s.create q f p).request q').owned = some r →
        (s.request q').owned = some r := by
      intro q' r hne h
      simpa [SnortState.create, hne] using h
    have hself : ∀ r, ((s.create q f p).request q).owned = some r → r = s.created := by
      intro r h
      have : s.created = r := by simpa [SnortState.create, Request.owned] using h
      exact this.symm
    intro q₁ q₂ r h₁ h₂
    by_cases hq₁ : q₁ = q <;> by_cases hq₂ : q₂ = q
    · exact hq₁.trans hq₂.symm
    · subst hq₁
      have := (hI.unstarted q₂ r (hother q₂ r hq₂ h₂)).1
      have := hself r h₁
      omega
    · subst hq₂
      have := (hI.unstarted q₁ r (hother q₁ r hq₁ h₁)).1
      have := hself r h₂
      omega
    · exact hI.exclusive q₁ q₂ r (hother q₁ r hq₁ h₁) (hother q₂ r hq₂ h₂)

/-- Changing the pointer and moving one request on, without a new runner of its own. -/
theorem Ownership.setPointer (hI : Ownership s) (q : Nat) (p : Request) (x : Option Nat)
    (hp : ∀ r, p.owned = some r → (s.request q).owned = some r) :
    Ownership { s with runner := x, request := Function.update s.request q p } := by
  have hI' := hI.still (still_setRequest s q p hp)
  exact ⟨hI'.uncreated, hI'.unstarted, hI'.exclusive⟩

theorem ownership_launch (hI : Ownership s) {q r : Nat} {t : Runner.State} {x : Option Nat}
    (hq : s.request q = .launching r x) : Ownership ((s.setRunner r t).setRequest q .idle) := by
  have hown : (s.request q).owned = some r := by rw [hq]; rfl
  have hlt : r < s.created := (hI.unstarted q r hown).1
  -- a request that still owns a runner is another one, so its runner is another one too
  have hother : ∀ q' r', (((s.setRunner r t).setRequest q .idle).request q').owned = some r' →
      r' ≠ r ∧ (s.request q').owned = some r' := by
    intro q' r' h
    have hne : q' ≠ q := by
      rintro rfl
      simp [SnortState.setRequest, Request.owned] at h
    have h' : (s.request q').owned = some r' := by
      simpa [SnortState.setRequest, SnortState.setRunner, hne] using h
    refine ⟨?_, h'⟩
    rintro rfl
    exact hne (hI.exclusive q' q r' h' hown)
  constructor
  · intro k hk
    have hk' : s.created ≤ k := hk
    have hkr : k ≠ r := by omega
    simpa [SnortState.setRequest, SnortState.setRunner, hkr] using hI.uncreated k hk'
  · intro q' r' h
    obtain ⟨hne, h'⟩ := hother q' r' h
    simpa [SnortState.setRequest, SnortState.setRunner, hne] using hI.unstarted q' r' h'
  · intro q₁ q₂ r' h₁ h₂
    exact hI.exclusive q₁ q₂ r' (hother q₁ r' h₁).2 (hother q₂ r' h₂).2

theorem ownership_step {a : SnortAction} (hI : Ownership s) (h : snortStep s a = some s') :
    Ownership s' := by
  rcases snortStep_cases h with ⟨q, f, p, -, -, rfl⟩ | ⟨q, r, f, -, hq, hf, rfl⟩ |
    ⟨q, r, x, t, -, hq, -, -, rfl⟩ | ⟨q, r, x, -, hq, rfl⟩ | ⟨-, -, hs⟩
  · exact ownership_create hI q f p
  · unfold SnortState.publish
    rw [hf]
    apply hI.setPointer
    intro k hk
    rw [hq]
    split at hk <;> exact hk
  · exact ownership_launch hI hq
  · apply hI.setPointer
    intro k hk
    cases hk
  · exact hI.still hs

/-! ## One production Snort -/

/-- At most one runner has a live child, and the server points to it. -/
def SingleSnort (s : SnortState) : Prop :=
  (∀ k k', Live (s.runners k) → Live (s.runners k') → k = k') ∧
    ∀ k, Live (s.runners k) → s.runner = some k

/-- The second half is the whole property. -/
theorem singleSnort_iff : SingleSnort s ↔ ∀ k, Live (s.runners k) → s.runner = some k := by
  refine ⟨fun h => h.2, fun h => ⟨fun k k' hk hk' => ?_, h⟩⟩
  have := (h k hk).symm.trans (h k' hk')
  exact Option.some.inj this

/-- A runner is published only while no Snort is alive, and started only while the server still
points to it. -/
def PublishesIdleStartsCurrent (s : SnortState) : SnortAction → Prop
  | .publish q => ∀ r f, s.request q = .created r f → s.refuses f = false →
      ∀ k, ¬ Live (s.runners k)
  | .launch q true => ∀ r x, s.request q = .launching r x →
      (s.runners r).runInfo.running = false → s.runner = some r
  | _ => True

theorem singleSnort_publish (hI : Ownership s) {q r : Nat} {f : Bool}
    (hq : s.request q = .created r f) (hf : s.refuses f = false) :
    SingleSnort (s.publish q r f) ↔ ∀ k, ¬ Live (s.runners k) := by
  have hown : (s.request q).owned = some r := by rw [hq]; rfl
  have hdead : ¬ Live (s.runners r) := (hI.unstarted q r hown).2
  have hpub : s.publish q r f =
      { s with
        runner := some r
        request := Function.update s.request q
          (match s.runner with
            | none => .launching r none
            | some current => .stoppingOld r current) } := by
    simp [SnortState.publish, hf]
  rw [singleSnort_iff, hpub]
  constructor
  · -- a live runner would have to be the one just published, which has no child yet
    intro hS k hk
    have hkr : r = k := Option.some.inj (hS k hk)
    subst hkr
    exact hdead hk
  · intro hnone k hk
    exact absurd hk (hnone k)

theorem singleSnort_launch (hS : SingleSnort s) {q r : Nat} {t : Runner.State}
    (hrun : (s.runners r).runInfo.running = false)
    (ht : Runner.step (s.config r) (s.runners r) (.start q true) = some t) :
    SingleSnort ((s.setRunner r t).setRequest q .idle) ↔ s.runner = some r := by
  have hlive : Live t := Runner.live_of_start ht hrun
  rw [singleSnort_iff] at hS ⊢
  constructor
  · intro h
    exact h r (by simpa [SnortState.setRequest, SnortState.setRunner] using hlive)
  · intro hcur k hk
    by_cases hkr : k = r
    · subst hkr
      exact hcur
    · have hk' : Live (s.runners k) := by
        simpa [SnortState.setRequest, SnortState.setRunner, hkr] using hk
      exact hS k hk'

theorem singleSnort_step {a : SnortAction} (hI : Ownership s) (hS : SingleSnort s)
    (h : snortStep s a = some s') : SingleSnort s' ↔ PublishesIdleStartsCurrent s a := by
  rcases snortStep_cases h with ⟨q, f, p, rfl, -, rfl⟩ | ⟨q, r, f, rfl, hq, hf, rfl⟩ |
    ⟨q, r, x, t, rfl, hq, hrun, ht, rfl⟩ | ⟨q, r, x, rfl, hq, rfl⟩ | ⟨hpub, hlaunch, hs⟩
  · exact ⟨fun _ => trivial, fun _ => hS⟩
  · rw [singleSnort_publish hI hq hf]
    constructor
    · intro hnone r' f' _ _
      exact hnone
    · intro hG
      exact hG r f hq hf
  · rw [singleSnort_launch hS hrun ht]
    constructor
    · intro hcur r' x' hq' _
      rw [hq] at hq'
      cases hq'
      exact hcur
    · intro hG
      exact hG r x hq hrun
  · -- the runner whose `Start` failed has no child, so while it is current nothing is alive
    refine ⟨fun _ => trivial, fun _ => ?_⟩
    have hown : (s.request q).owned = some r := by rw [hq]; rfl
    have hdead : ¬ Live (s.runners r) := (hI.unstarted q r hown).2
    rw [singleSnort_iff] at hS ⊢
    intro k hk
    have hcur : s.runner = some k := hS k hk
    have hne : s.runner ≠ some r := by
      intro hr
      rw [hcur] at hr
      cases hr
      exact hdead hk
    show (if s.runner = some r then x else s.runner) = some k
    rw [if_neg hne, hcur]
  · refine ⟨fun _ => ?_, fun _ => ?_⟩
    · cases a with
      | publish q =>
          intro r f hq hf
          rw [hpub q r f rfl hq] at hf
          cases hf
      | launch q ok =>
          cases ok with
          | true =>
              intro r x hq hrun
              rw [hlaunch q r x rfl hq] at hrun
              cases hrun
          | false => trivial
      | _ => trivial
    · rw [singleSnort_iff] at hS ⊢
      intro k hk
      rw [hs.runner]
      exact hS k (hs.live k hk)

/-- **One production Snort, exactly when.** Over every schedule of start, restart and stop requests:
at most one runner has a live Snort and the server points to it, in every state, iff every runner
is published while no Snort is alive and started while the server still points to it. -/
theorem singleSnort_iff_guarded (acts : List SnortAction) :
    snortMachine.Always SingleSnort SnortState.new acts ↔
      snortMachine.Guarded PublishesIdleStartsCurrent SnortState.new acts := by
  refine Machine.always_iff_guarded (I := Ownership) (fun s a s' hI h => ownership_step hI h)
    (fun s a s' hI hS h => singleSnort_step hI hS h) ownership_new ?_
  rw [singleSnort_iff]
  rintro k ⟨n, hn⟩
  cases hn

/-- Two overlapping `/api/snort/start` requests leave two live Snorts: the second finds the first
runner published but not started, replaces it, finds nothing to stop, and both go on to start. -/
theorem overlapping_starts_run_twice :
    ∃ s, snortMachine.exec SnortState.new
        [.create 0 false false, .publish 0, .create 1 false false, .publish 1,
          .stopCall 1, .stopClear 1, .launch 1 true, .launch 0 true] = some s ∧
      Live (s.runners 0) ∧ Live (s.runners 1) ∧ s.runner = some 1 ∧ ¬ SingleSnort s := by
  have h0 : ∀ s, snortMachine.exec SnortState.new
      [.create 0 false false, .publish 0, .create 1 false false, .publish 1,
        .stopCall 1, .stopClear 1, .launch 1 true, .launch 0 true] = some s →
      Live (s.runners 0) ∧ Live (s.runners 1) ∧ s.runner = some 1 := by
    intro s h
    cases h
    exact ⟨⟨0, rfl⟩, ⟨0, rfl⟩, rfl⟩
  refine ⟨_, rfl, (h0 _ rfl).1, (h0 _ rfl).2.1, (h0 _ rfl).2.2, fun hS => ?_⟩
  have := hS.1 0 1 (h0 _ rfl).1 (h0 _ rfl).2.1
  cases this

end SnortOptimizer.Server
