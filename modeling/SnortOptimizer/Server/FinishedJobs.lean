import SnortOptimizer.Server.AnalysisJobs

/-!
# When a finished analysis stays finished

Two parties write the outcome of an analysis into its record: the goroutine, with the copy it has
held since the start, and a cancel request, with the copy it has just loaded. Neither looks at what
the other has written. As long as they agree on the outcome it does not matter who is last; the
schedules in which they cannot disagree are those of `EndsOnce`.
-/

namespace SnortOptimizer.Server

variable {s s' : AnalysisState}

/-- The job a start request is about to spawn. -/
def AnalysisRequest.starts : AnalysisRequest → Option Nat
  | .stored j | .published j => some j
  | _ => none

/-- The job a cancel request has taken out of the slot. -/
def AnalysisRequest.cancels : AnalysisRequest → Option Nat
  | .cancelling _ jobID => jobID
  | .loading j | .marking j => some j
  | _ => none

/-- The outcomes that a cancel request does not write. -/
def JobStatus.isOther : JobStatus → Bool
  | .completed | .failed => true
  | .running | .canceled => false

/-- A cancel request is about to mark the job, or has done so. -/
def CancelOf (s : AnalysisState) (j : Nat) : Prop :=
  (∃ q, (s.request q).cancels = some j) ∨ s.jobs j = some .canceled

/-- The goroutine of the job is about to write another outcome, or has done so. -/
def OtherOutcome (s : AnalysisState) (j : Nat) : Prop :=
  (∃ st, s.stage j = .finishing st ∧ st.isOther = true) ∨
    ∃ st, s.jobs j = some st ∧ st.isOther = true

/-- A cancel request does not take a job whose goroutine has another outcome, and a goroutine whose
job is being canceled ends as canceled. -/
def EndsOnce (s : AnalysisState) : AnalysisAction → Prop
  | .cancel _ => ∀ j, s.analysisJobID = some j → ¬ OtherOutcome s j
  | .new j ok | .select j ok => ok = false → ¬ CancelOf s j
  | .leave j ok => leaveStatus ok (s.canceled j) ≠ .canceled → ¬ CancelOf s j
  | _ => True

/-! ## What a step can do -/

/-- A step moves one request or one goroutine on and writes at most one record: that of a new job,
the outcome of a goroutine, or the mark of a cancel request. -/
inductive Effect (s s' : AnalysisState) (a : AnalysisAction) : Prop where
  | request (q : Nat) (p : AnalysisRequest) (hrequest : s'.request = Function.update s.request q p)
      (hstage : s'.stage = s.stage) (hjobs : s'.jobs = s.jobs) (hnext : s'.nextJob = s.nextJob)
      (hslot : s'.analysisJobID = s.analysisJobID ∨ s'.analysisJobID = none)
      (hstarts : p.starts = none)
      (hcancels : p.cancels = none ∨ p.cancels = (s.request q).cancels ∨
        (a = .cancel q ∧ p.cancels = s.analysisJobID))
  | store (q : Nat) (hq : s.request q = .checked)
      (hrequest : s'.request = Function.update s.request q (.stored s.nextJob))
      (hstage : s'.stage = s.stage)
      (hjobs : s'.jobs = Function.update s.jobs s.nextJob (some .running))
      (hnext : s'.nextJob = s.nextJob + 1) (hslot : s'.analysisJobID = s.analysisJobID)
  | publish (q j : Nat) (hq : s.request q = .stored j)
      (hrequest : s'.request = Function.update s.request q (.published j))
      (hstage : s'.stage = s.stage) (hjobs : s'.jobs = s.jobs) (hnext : s'.nextJob = s.nextJob)
      (hslot : s'.analysisJobID = some j)
  | spawn (q j : Nat) (hq : s.request q = .published j)
      (hrequest : s'.request = Function.update s.request q .idle)
      (hstage : s'.stage = Function.update s.stage j .spawned) (hjobs : s'.jobs = s.jobs)
      (hnext : s'.nextJob = s.nextJob) (hslot : s'.analysisJobID = s.analysisJobID)
  | stage (j : Nat) (g : JobStage) (hrequest : s'.request = s.request)
      (hstage : s'.stage = Function.update s.stage j g) (hjobs : s'.jobs = s.jobs)
      (hnext : s'.nextJob = s.nextJob)
      (hslot : s'.analysisJobID = s.analysisJobID ∨ s'.analysisJobID = none)
      (hmove : ((s.stage j).isOpen = true ∧ g.isOpen = true) ∨
        (∃ st, (s.stage j).isOpen = true ∧ g = .finishing st ∧ st ≠ .running ∧
          (EndsOnce s a → st.isOther = true → ¬ CancelOf s j)) ∨
        (∃ st, s.stage j = .finishing st ∧ g = .releasing) ∨
        (s.stage j = .releasing ∧ g = .done))
  | finish (j : Nat) (st : JobStatus) (hj : s.stage j = .finishing st)
      (hrequest : s'.request = s.request)
      (hstage : s'.stage = Function.update s.stage j .releasing)
      (hjobs : s'.jobs = Function.update s.jobs j (some st)) (hnext : s'.nextJob = s.nextJob)
      (hslot : s'.analysisJobID = s.analysisJobID)
  | mark (q j : Nat) (hq : s.request q = .marking j)
      (hrequest : s'.request = Function.update s.request q .idle) (hstage : s'.stage = s.stage)
      (hjobs : s'.jobs = Function.update s.jobs j (some .canceled))
      (hnext : s'.nextJob = s.nextJob) (hslot : s'.analysisJobID = s.analysisJobID)

theorem leaveStatus_ne_running (ok canceled : Bool) : leaveStatus ok canceled ≠ .running := by
  cases ok <;> cases canceled <;> simp [leaveStatus]

theorem JobStatus.ne_canceled_of_isOther {st : JobStatus} (h : st.isOther = true) :
    st ≠ .canceled := by
  rintro rfl
  cases h

theorem analysisStep_effect {a : AnalysisAction} (h : analysisStep s a = some s') :
    Effect s s' a := by
  cases a with
  | check q =>
      simp only [analysisStep] at h
      split at h
      · next hq =>
          split at h
          · cases h
            exact .request q .checked rfl rfl rfl rfl (.inl rfl) rfl (.inl rfl)
          · cases h
            exact .request q .idle (by rw [← hq, Function.update_eq_self]) rfl rfl rfl (.inl rfl)
              rfl (.inl rfl)
      · cases h
  | store q ok =>
      simp only [analysisStep] at h
      split at h
      · next hq =>
          cases ok with
          | false =>
              cases h
              exact .request q .idle rfl rfl rfl rfl (.inl rfl) rfl (.inl rfl)
          | true =>
              cases h
              exact .store q hq rfl rfl rfl rfl rfl
      · cases h
  | publish q =>
      simp only [analysisStep] at h
      split at h
      · next j hq =>
          cases h
          exact .publish q j hq rfl rfl rfl rfl rfl
      · cases h
  | spawn q =>
      simp only [analysisStep] at h
      split at h
      · next j hq =>
          cases h
          exact .spawn q j hq rfl rfl rfl rfl rfl
      · cases h
  | new j ok | select j ok =>
      simp only [analysisStep] at h
      split at h
      · next hj =>
          cases ok with
          | true =>
              cases h
              exact .stage j _ rfl rfl rfl rfl (.inl rfl) (.inl ⟨by rw [hj]; rfl, rfl⟩)
          | false =>
              cases h
              refine .stage j _ rfl rfl rfl rfl (.inl rfl) (.inr (.inl ⟨.failed, ?_⟩))
              exact ⟨by rw [hj]; rfl, rfl, by simp, fun hG _ => hG rfl⟩
      · cases h
  | enter j =>
      simp only [analysisStep] at h
      split at h
      · next hj =>
          cases h
          exact .stage j _ rfl rfl rfl rfl (.inl rfl) (.inl ⟨by rw [hj]; rfl, rfl⟩)
      · cases h
  | leave j ok =>
      simp only [analysisStep] at h
      split at h
      · next hj =>
          cases h
          refine .stage j _ rfl rfl rfl rfl (.inl rfl) (.inr (.inl ⟨_, by rw [hj]; rfl, rfl, ?_⟩))
          exact ⟨leaveStatus_ne_running _ _, fun hG hother =>
            hG (JobStatus.ne_canceled_of_isOther hother)⟩
      · cases h
  | finishStore j ok =>
      simp only [analysisStep] at h
      split at h
      · next st hj =>
          cases ok with
          | false =>
              cases h
              exact .stage j _ rfl rfl rfl rfl (.inl rfl) (.inr (.inr (.inl ⟨st, hj, rfl⟩)))
          | true =>
              cases h
              exact .finish j st hj rfl rfl rfl rfl rfl
      · cases h
  | release j =>
      simp only [analysisStep] at h
      split at h
      · next hj =>
          simp only [Option.some.injEq] at h
          subst h
          refine .stage j .done ?_ ?_ ?_ ?_ ?_ (.inr (.inr (.inr ⟨hj, rfl⟩))) <;> split <;>
            first | rfl | exact .inr rfl | exact .inl rfl
      · cases h
  | cancel q =>
      simp only [analysisStep] at h
      split at h
      · cases h
        exact .request q _ rfl rfl rfl rfl (.inr rfl) rfl (.inr (.inr ⟨rfl, rfl⟩))
      · cases h
  | cancelContext q =>
      simp only [analysisStep] at h
      split at h
      · next c id hq =>
          cases c <;> cases id <;> cases h <;>
            exact .request q _ rfl rfl rfl rfl (.inl rfl) rfl (.inr (.inl (by rw [hq]; rfl)))
      · cases h
  | loadJob q =>
      simp only [analysisStep] at h
      split at h
      · next j hq =>
          cases h
          refine .request q _ rfl rfl rfl rfl (.inl rfl) ?_ ?_
          · split <;> rfl
          · split
            · exact .inr (.inl (by rw [hq]; rfl))
            · exact .inl rfl
      · cases h
  | markCanceled q ok =>
      simp only [analysisStep] at h
      split at h
      · next j hq =>
          cases ok with
          | false =>
              cases h
              exact .request q .idle rfl rfl rfl rfl (.inl rfl) rfl (.inl rfl)
          | true =>
              cases h
              exact .mark q j hq rfl rfl rfl rfl rfl
      · cases h

/-! ## What no step breaks -/

/-- Each job is started once, by the request that stored it, and writes its outcome once. -/
structure StartedOnce (s : AnalysisState) : Prop where
  fresh : ∀ j, s.nextJob ≤ j → s.jobs j = none ∧ s.stage j = .absent
  starts : ∀ q j, (s.request q).starts = some j → j < s.nextJob ∧ s.stage j = .absent
  oneStart : ∀ q q' j, (s.request q).starts = some j → (s.request q').starts = some j → q = q'
  known : ∀ j, j < s.nextJob → (s.jobs j).isSome = true
  cancels : ∀ q j, (s.request q).cancels = some j → j < s.nextJob
  slot : ∀ j, s.analysisJobID = some j → j < s.nextJob
  running : ∀ j, s.stage j ≠ .finishing .running
  written : ∀ j st, s.jobs j = some st → st.isOther = true →
    s.stage j = .releasing ∨ s.stage j = .done

/-- A request moves on. It goes on starting its job, or does not start one any more. -/
theorem StartedOnce.setRequest (h : StartedOnce s) {q : Nat} {p : AnalysisRequest}
    (hrequest : s'.request = Function.update s.request q p) (hstage : s'.stage = s.stage)
    (hjobs : s'.jobs = s.jobs) (hnext : s'.nextJob = s.nextJob)
    (hslot : ∀ j, s'.analysisJobID = some j → j < s.nextJob)
    (hstarts : ∀ j, p.starts = some j → (s.request q).starts = some j)
    (hcancels : ∀ j, p.cancels = some j → j < s.nextJob) : StartedOnce s' := by
  have hold : ∀ q' j, (s'.request q').starts = some j → (s.request q').starts = some j := by
    intro q' j hj
    rw [hrequest, Function.update_apply] at hj
    split at hj
    · next hq =>
        rw [hq]
        exact hstarts j hj
    · exact hj
  constructor
  · rw [hnext, hjobs, hstage]
    exact h.fresh
  · rw [hnext, hstage]
    exact fun q' j hj => h.starts q' j (hold q' j hj)
  · exact fun q' q'' j hj hj' => h.oneStart q' q'' j (hold q' j hj) (hold q'' j hj')
  · rw [hnext, hjobs]
    exact h.known
  · intro q' j hj
    rw [hrequest, Function.update_apply] at hj
    rw [hnext]
    split at hj
    · exact hcancels j hj
    · exact h.cancels q' j hj
  · rw [hnext]
    exact hslot
  · rw [hstage]
    exact h.running
  · rw [hjobs, hstage]
    exact h.written

/-- The goroutine of a job moves on that no request is about to start. -/
theorem StartedOnce.setStage (h : StartedOnce s) {j : Nat} {g : JobStage}
    (hrequest : s'.request = s.request) (hstage : s'.stage = Function.update s.stage j g)
    (hjobs : s'.jobs = s.jobs) (hnext : s'.nextJob = s.nextJob)
    (hslot : ∀ k, s'.analysisJobID = some k → k < s.nextJob) (hj : j < s.nextJob)
    (hstarted : ∀ q, (s.request q).starts ≠ some j) (hg : g ≠ .finishing .running)
    (hwritten : ∀ st, s.jobs j = some st → st.isOther = true → g = .releasing ∨ g = .done) :
    StartedOnce s' := by
  have hother : ∀ k, k ≠ j → s'.stage k = s.stage k := by
    intro k hk
    rw [hstage, Function.update_of_ne hk]
  have hself : s'.stage j = g := by rw [hstage, Function.update_self]
  constructor
  · intro k hk
    rw [hnext] at hk
    have hkj : k ≠ j := by omega
    rw [hjobs, hother k hkj]
    exact h.fresh k hk
  · intro q k hk
    rw [hrequest] at hk
    have hkj : k ≠ j := fun hkj => hstarted q (hkj ▸ hk)
    rw [hnext, hother k hkj]
    exact h.starts q k hk
  · rw [hrequest]
    exact h.oneStart
  · rw [hnext, hjobs]
    exact h.known
  · rw [hrequest, hnext]
    exact h.cancels
  · rw [hnext]
    exact hslot
  · intro k
    by_cases hk : k = j
    · rw [hk, hself]
      exact hg
    · rw [hother k hk]
      exact h.running k
  · intro k st hst hisOther
    rw [hjobs] at hst
    by_cases hk : k = j
    · subst hk
      rw [hself]
      exact hwritten st hst hisOther
    · rw [hother k hk]
      exact h.written k st hst hisOther

/-- The record of a job is written again. -/
theorem StartedOnce.setJob (h : StartedOnce s) {j : Nat} {st : JobStatus}
    (hrequest : s'.request = s.request) (hstage : s'.stage = s.stage)
    (hjobs : s'.jobs = Function.update s.jobs j (some st)) (hnext : s'.nextJob = s.nextJob)
    (hslot : s'.analysisJobID = s.analysisJobID) (hj : j < s.nextJob)
    (hwritten : st.isOther = true → s.stage j = .releasing ∨ s.stage j = .done) :
    StartedOnce s' := by
  have hother : ∀ k, k ≠ j → s'.jobs k = s.jobs k := by
    intro k hk
    rw [hjobs, Function.update_of_ne hk]
  have hself : s'.jobs j = some st := by rw [hjobs, Function.update_self]
  constructor
  · intro k hk
    rw [hnext] at hk
    have hkj : k ≠ j := by omega
    rw [hother k hkj, hstage]
    exact h.fresh k hk
  · rw [hrequest, hnext, hstage]
    exact h.starts
  · rw [hrequest]
    exact h.oneStart
  · intro k hk
    rw [hnext] at hk
    by_cases hkj : k = j
    · rw [hkj, hself]
      rfl
    · rw [hother k hkj]
      exact h.known k hk
  · rw [hrequest, hnext]
    exact h.cancels
  · rw [hslot, hnext]
    exact h.slot
  · rw [hstage]
    exact h.running
  · intro k st' hst' hisOther
    rw [hstage]
    by_cases hkj : k = j
    · subst hkj
      rw [hself] at hst'
      cases hst'
      exact hwritten hisOther
    · rw [hother k hkj] at hst'
      exact h.written k st' hst' hisOther

/-- A start request has stored its job. -/
theorem StartedOnce.store (h : StartedOnce s) {q : Nat}
    (hrequest : s'.request = Function.update s.request q (.stored s.nextJob))
    (hstage : s'.stage = s.stage)
    (hjobs : s'.jobs = Function.update s.jobs s.nextJob (some .running))
    (hnext : s'.nextJob = s.nextJob + 1) (hslot : s'.analysisJobID = s.analysisJobID) :
    StartedOnce s' := by
  have hother : ∀ j, j ≠ s.nextJob → s'.jobs j = s.jobs j := by
    intro j hj
    rw [hjobs, Function.update_of_ne hj]
  have hself : s'.jobs s.nextJob = some .running := by rw [hjobs, Function.update_self]
  -- the new job is the only one that is started by `q`, and by nobody else
  have hnew : ∀ q' j, (s'.request q').starts = some j →
      (q' = q ∧ j = s.nextJob) ∨ (q' ≠ q ∧ (s.request q').starts = some j) := by
    intro q' j hj
    rw [hrequest, Function.update_apply] at hj
    split at hj
    · next hq =>
        cases hj
        exact .inl ⟨hq, rfl⟩
    · next hq => exact .inr ⟨hq, hj⟩
  constructor
  · intro j hj
    rw [hnext] at hj
    have hne : j ≠ s.nextJob := by omega
    rw [hother j hne, hstage]
    exact h.fresh j (by omega)
  · intro q' j hj
    rw [hnext, hstage]
    rcases hnew q' j hj with ⟨-, rfl⟩ | ⟨-, hold⟩
    · exact ⟨by omega, (h.fresh _ (Nat.le_refl _)).2⟩
    · obtain ⟨hlt, habsent⟩ := h.starts q' j hold
      exact ⟨by omega, habsent⟩
  · intro q' q'' j hj hj'
    rcases hnew q' j hj with ⟨hq, hjnew⟩ | ⟨-, hold⟩ <;>
      rcases hnew q'' j hj' with ⟨hq', hjnew'⟩ | ⟨-, hold'⟩
    · rw [hq, hq']
    · have hlt := (h.starts q'' j hold').1
      omega
    · have hlt := (h.starts q' j hold).1
      omega
    · exact h.oneStart q' q'' j hold hold'
  · intro j hj
    rw [hnext] at hj
    by_cases hne : j = s.nextJob
    · rw [hne, hself]
      rfl
    · rw [hother j hne]
      exact h.known j (by omega)
  · intro q' j hj
    rw [hrequest, Function.update_apply] at hj
    rw [hnext]
    split at hj
    · cases hj
    · have hlt := h.cancels q' j hj
      omega
  · intro j hj
    rw [hslot] at hj
    have hlt := h.slot j hj
    omega
  · rw [hstage]
    exact h.running
  · intro j st hst hisOther
    rw [hstage]
    by_cases hne : j = s.nextJob
    · rw [hne, hself] at hst
      cases hst
      cases hisOther
    · rw [hother j hne] at hst
      exact h.written j st hst hisOther

/-- A job whose goroutine is there has been stored, and no request is about to start it. -/
theorem StartedOnce.of_stage (h : StartedOnce s) {j : Nat} (hj : s.stage j ≠ .absent) :
    j < s.nextJob ∧ ∀ q, (s.request q).starts ≠ some j := by
  constructor
  · by_contra hlt
    exact hj (h.fresh j (by omega)).2
  · exact fun q hq => hj (h.starts q j hq).2

theorem startedOnce_step {a : AnalysisAction} (hI : StartedOnce s)
    (h : analysisStep s a = some s') : StartedOnce s' := by
  cases analysisStep_effect h with
  | request q p hrequest hstage hjobs hnext hslot hp hc =>
      refine hI.setRequest hrequest hstage hjobs hnext ?_ (by simp [hp]) ?_
      · intro j hj
        rcases hslot with hslot | hslot
        · exact hI.slot j (hslot ▸ hj)
        · rw [hslot] at hj
          cases hj
      · intro j hj
        rcases hc with hc | hc | ⟨-, hc⟩
        · rw [hc] at hj
          cases hj
        · exact hI.cancels q j (hc ▸ hj)
        · exact hI.slot j (hc ▸ hj)
  | store q hq hrequest hstage hjobs hnext hslot =>
      exact hI.store hrequest hstage hjobs hnext hslot
  | publish q j hq hrequest hstage hjobs hnext hslot =>
      have hstarts : (s.request q).starts = some j := by rw [hq]; rfl
      refine hI.setRequest hrequest hstage hjobs hnext ?_ (fun k hk => hstarts.trans hk) ?_
      · intro k hk
        rw [hslot] at hk
        cases hk
        exact (hI.starts q j hstarts).1
      · intro k hk
        cases hk
  | spawn q j hq hrequest hstage hjobs hnext hslot =>
      have hstarts : (s.request q).starts = some j := by rw [hq]; rfl
      -- the request is done with the job before its goroutine is there
      have hidle : StartedOnce { s with request := Function.update s.request q .idle } :=
        hI.setRequest rfl rfl rfl rfl hI.slot (fun k hk => by cases hk) (fun k hk => by cases hk)
      refine hidle.setStage hrequest hstage hjobs hnext (hslot ▸ hI.slot)
        (hI.starts q j hstarts).1 ?_ (by simp) ?_
      · intro q' hq'
        simp only [Function.update_apply] at hq'
        split at hq'
        · cases hq'
        · next hne => exact hne (hI.oneStart q' q j hq' hstarts)
      · intro st hst hisOther
        have habsent := (hI.starts q j hstarts).2
        rcases hI.written j st hst hisOther with hg | hg <;> rw [habsent] at hg <;> cases hg
  | stage j g hrequest hstage hjobs hnext hslot hmove =>
      have hthere : s.stage j ≠ .absent := by
        intro habsent
        rw [habsent] at hmove
        rcases hmove with ⟨hopen, -⟩ | ⟨_, hopen, -⟩ | ⟨_, hfinishing, -⟩ | ⟨hreleasing, -⟩
        · cases hopen
        · cases hopen
        · cases hfinishing
        · cases hreleasing
      obtain ⟨hj, hstarted⟩ := hI.of_stage hthere
      refine hI.setStage hrequest hstage hjobs hnext ?_ hj hstarted ?_ ?_
      · intro k hk
        rcases hslot with hslot | hslot
        · exact hI.slot k (hslot ▸ hk)
        · rw [hslot] at hk
          cases hk
      · rintro rfl
        rcases hmove with ⟨-, hopen⟩ | ⟨st, -, hg, hne, -⟩ | ⟨_, -, hg⟩ | ⟨-, hg⟩
        · cases hopen
        · cases hg
          exact hne rfl
        · cases hg
        · cases hg
      · -- nothing is written before the goroutine is done
        intro st hst hisOther
        rcases hmove with ⟨hopen, -⟩ | ⟨_, hopen, -⟩ | ⟨_, -, hg⟩ | ⟨-, hg⟩
        · rcases hI.written j st hst hisOther with hg | hg <;> rw [hg] at hopen <;> cases hopen
        · rcases hI.written j st hst hisOther with hg | hg <;> rw [hg] at hopen <;> cases hopen
        · exact .inl hg
        · exact .inr hg
  | finish j st hj hrequest hstage hjobs hnext hslot =>
      obtain ⟨hlt, hstarted⟩ := hI.of_stage (j := j) (by simp [hj])
      have hdone : StartedOnce { s with stage := Function.update s.stage j .releasing } :=
        hI.setStage rfl rfl rfl rfl hI.slot hlt hstarted (by simp) (fun _ _ _ => .inl rfl)
      refine hdone.setJob hrequest hstage hjobs hnext hslot hlt fun _ => .inl ?_
      simp
  | mark q j hq hrequest hstage hjobs hnext hslot =>
      have hcancels : (s.request q).cancels = some j := by rw [hq]; rfl
      have hidle : StartedOnce { s with request := Function.update s.request q .idle } :=
        hI.setRequest rfl rfl rfl rfl hI.slot (fun k hk => by cases hk) (fun k hk => by cases hk)
      exact hidle.setJob hrequest hstage hjobs hnext hslot (hI.cancels q j hcancels)
        fun hisOther => by cases hisOther

theorem startedOnce_new : StartedOnce AnalysisState.new := by
  constructor <;> simp [AnalysisState.new, AnalysisRequest.starts, AnalysisRequest.cancels]

/-! ## Guarded steps -/

/-- No job is both canceled and ended otherwise. -/
def Apart (s : AnalysisState) : Prop := ∀ j, OtherOutcome s j → ¬ CancelOf s j

theorem apart_new : Apart AnalysisState.new := by
  intro j hother
  simp [OtherOutcome, AnalysisState.new] at hother

theorem apart_step {a : AnalysisAction} (hS : StartedOnce s) (hI : Apart s) (hG : EndsOnce s a)
    (h : analysisStep s a = some s') : Apart s' := by
  have hknown := hS.known
  have hfresh := hS.fresh
  have hcancels := hS.cancels
  have hwritten := hS.written
  cases analysisStep_effect h with
  | request q p hrequest hstage hjobs hnext hslot hp hc =>
      intro j hother hcancel
      simp only [OtherOutcome, hstage, hjobs] at hother
      simp only [CancelOf, hrequest, hjobs, Function.update_apply] at hcancel
      rcases hcancel with ⟨q', hq'⟩ | hjob
      · split at hq'
        · rcases hc with hc | hc | ⟨rfl, hc⟩
          · rw [hc] at hq'
            cases hq'
          · exact hI j hother (.inl ⟨q, hc ▸ hq'⟩)
          · -- the request takes the job out of the slot
            exact hG j (hc ▸ hq') hother
        · exact hI j hother (.inl ⟨q', hq'⟩)
      · exact hI j hother (.inr hjob)
  | stage j g hrequest hstage hjobs hnext hslot hmove =>
      intro j' hother hcancel
      simp only [OtherOutcome, hstage, hjobs, Function.update_apply] at hother
      have hcancel' : CancelOf s j' := by
        simpa only [CancelOf, hrequest, hjobs] using hcancel
      by_cases hjj : j' = j
      · subst hjj
        rcases hother with ⟨st, hst, hisOther⟩ | hjob
        · -- the goroutine has just got its outcome
          rw [if_pos rfl] at hst
          rcases hmove with ⟨_, hg⟩ | ⟨st', _, hg, _, hnone⟩ | ⟨_, _, hg⟩ | ⟨_, hg⟩
          · rw [hst] at hg
            cases hg
          · rw [hst] at hg
            cases hg
            exact hnone hG hisOther hcancel'
          · rw [hst] at hg
            cases hg
          · rw [hst] at hg
            cases hg
        · exact hI j' (.inr hjob) hcancel'
      · rw [if_neg hjj] at hother
        exact hI j' hother hcancel'
  | store q hq hrequest hstage hjobs hnext hslot =>
      unfold Apart OtherOutcome CancelOf at *
      simp only [hrequest, hstage, hjobs, Function.update_apply]
      grind [AnalysisRequest.cancels, JobStatus.isOther]
  | publish q j hq hrequest hstage hjobs hnext hslot
  | spawn q j hq hrequest hstage hjobs hnext hslot =>
      unfold Apart OtherOutcome CancelOf at *
      simp only [hrequest, hstage, hjobs, Function.update_apply]
      grind [AnalysisRequest.cancels]
  | finish j st hj hrequest hstage hjobs hnext hslot =>
      unfold Apart OtherOutcome CancelOf at *
      simp only [hrequest, hstage, hjobs, Function.update_apply]
      grind [JobStatus.isOther]
  | mark q j hq hrequest hstage hjobs hnext hslot =>
      unfold Apart OtherOutcome CancelOf at *
      simp only [hrequest, hstage, hjobs, Function.update_apply]
      grind [AnalysisRequest.cancels, JobStatus.isOther]

theorem JobStatus.isOther_of_ne {st : JobStatus} (hrunning : st ≠ .running)
    (hcanceled : st ≠ .canceled) : st.isOther = true := by
  cases st <;> simp_all [JobStatus.isOther]

/-- While no job is both, a written outcome is not overwritten by another. -/
theorem status_step {a : AnalysisAction} (hS : StartedOnce s) (hI : Apart s)
    (h : analysisStep s a = some s') {j : Nat} {st : JobStatus} (hj : s.jobs j = some st)
    (hst : st ≠ .running) : s'.jobs j = some st := by
  cases analysisStep_effect h with
  | request q p hrequest hstage hjobs hnext hslot hp hc => rw [hjobs, hj]
  | publish q j' hq hrequest hstage hjobs hnext hslot => rw [hjobs, hj]
  | spawn q j' hq hrequest hstage hjobs hnext hslot => rw [hjobs, hj]
  | stage j' g hrequest hstage hjobs hnext hslot hmove => rw [hjobs, hj]
  | store q hq hrequest hstage hjobs hnext hslot =>
      have hne : j ≠ s.nextJob := by
        rintro rfl
        rw [(hS.fresh _ (Nat.le_refl _)).1] at hj
        cases hj
      rw [hjobs, Function.update_of_ne hne, hj]
  | finish j' st' hj' hrequest hstage hjobs hnext hslot =>
      by_cases hjj : j = j'
      · subst hjj
        rw [hjobs, Function.update_self, Option.some_inj]
        have hrunning : st' ≠ .running := by
          rintro rfl
          exact hS.running j hj'
        by_cases hcanceled : st = .canceled
        · -- a cancel request was first, so the goroutine was canceled
          subst hcanceled
          by_contra hne
          exact hI j (.inl ⟨st', hj', JobStatus.isOther_of_ne hrunning hne⟩) (.inr hj)
        · have hother := JobStatus.isOther_of_ne hst hcanceled
          rcases hS.written j st hj hother with hdone | hdone <;> rw [hj'] at hdone <;> cases hdone
      · rw [hjobs, Function.update_of_ne hjj, hj]
  | mark q j' hq hrequest hstage hjobs hnext hslot =>
      by_cases hjj : j = j'
      · subst hjj
        rw [hjobs, Function.update_self, Option.some_inj]
        by_contra hne
        refine hI j (.inr ⟨st, hj, JobStatus.isOther_of_ne hst (Ne.symm hne)⟩) (.inl ⟨q, ?_⟩)
        rw [hq]
        rfl
      · rw [hjobs, Function.update_of_ne hjj, hj]

/-! ## Unguarded steps -/

/-- Some continuation ends with the record of a job marked as canceled. -/
def CanBeMarked (s : AnalysisState) (j : Nat) : Prop :=
  ∃ acts t, analysisMachine.exec s acts = some t ∧ t.jobs j = some .canceled

theorem CanBeMarked.of_step {a : AnalysisAction} {j : Nat} (h : analysisStep s a = some s')
    (hs' : CanBeMarked s' j) : CanBeMarked s j := by
  obtain ⟨acts, t, ht, hj⟩ := hs'
  exact ⟨a :: acts, t, Machine.exec_cons_eq_some.mpr ⟨s', h, ht⟩, hj⟩

theorem marking_marks {q j : Nat} (hq : s.request q = .marking j) : CanBeMarked s j := by
  have hstep : analysisStep s (.markCanceled q true) =
      some ((s.upsertJob j .canceled).setRequest q .idle) := by
    simp [analysisStep, hq]
  refine .of_step hstep ⟨[], _, rfl, ?_⟩
  simp [AnalysisState.setRequest, AnalysisState.upsertJob]

theorem loading_marks {q j : Nat} (hq : s.request q = .loading j)
    (hj : (s.jobs j).isSome = true) : CanBeMarked s j := by
  have hstep : analysisStep s (.loadJob q) = some (s.setRequest q (.marking j)) := by
    simp [analysisStep, hq, hj]
  apply CanBeMarked.of_step hstep
  exact marking_marks (Function.update_self ..)

/-- A cancel request that has a job can mark it, whatever else has happened. -/
theorem cancel_marks {q j : Nat} (hq : (s.request q).cancels = some j)
    (hj : (s.jobs j).isSome = true) : CanBeMarked s j := by
  cases hr : s.request q with
  | cancelling c id =>
      rw [hr] at hq
      cases hq
      obtain ⟨u, hstep, hload, hjobs⟩ : ∃ u, analysisStep s (.cancelContext q) = some u ∧
          u.request q = .loading j ∧ u.jobs = s.jobs := by
        cases c <;> simp [analysisStep, hr, AnalysisState.setRequest]
      exact .of_step hstep (loading_marks hload (by rw [hjobs]; exact hj))
  | loading j' =>
      rw [hr] at hq
      cases hq
      exact loading_marks hr hj
  | marking j' =>
      rw [hr] at hq
      cases hq
      exact marking_marks hr
  | idle | checked | stored _ | published _ =>
      rw [hr] at hq
      cases hq

theorem finishStore_writes {j : Nat} {st : JobStatus} (hj : s.stage j = .finishing st) :
    ∃ u, analysisStep s (.finishStore j true) = some u ∧ u.jobs j = some st ∧
      u.request = s.request := by
  refine ⟨(s.upsertJob j st).setStage j .releasing, by simp [analysisStep, hj], ?_, rfl⟩
  simp [AnalysisState.setStage, AnalysisState.upsertJob]

/-- From here on some continuation writes an outcome over another. -/
def CanOverwrite (s : AnalysisState) : Prop :=
  ∃ first rest u t j st, analysisMachine.exec s first = some u ∧ u.jobs j = some st ∧
    st ≠ .running ∧ analysisMachine.exec u rest = some t ∧ t.jobs j ≠ some st

/-- A job that is both canceled and ended otherwise will be written twice, if all goes on. -/
theorem canOverwrite_of_both {j : Nat} (hother : OtherOutcome s j)
    (hcancel : CancelOf s j) : CanOverwrite s := by
  have hne {st : JobStatus} (h : st.isOther = true) : st ≠ .running ∧ st ≠ .canceled := by
    constructor <;> rintro rfl <;> cases h
  rcases hcancel with ⟨q, hq⟩ | hmarked
  · -- the request still marks the job, after the outcome is written
    obtain ⟨first, u, st, hfirst, hwritten, hisOther, hrequest⟩ : ∃ first u st,
        analysisMachine.exec s first = some u ∧ u.jobs j = some st ∧ st.isOther = true ∧
          u.request = s.request := by
      rcases hother with ⟨st, hst, hisOther⟩ | ⟨st, hst, hisOther⟩
      · obtain ⟨u, hstep, hwritten, hrequest⟩ := finishStore_writes hst
        exact ⟨[.finishStore j true], u, st, Machine.exec_cons_eq_some.mpr ⟨u, hstep, rfl⟩,
          hwritten, hisOther, hrequest⟩
      · exact ⟨[], s, st, rfl, hst, hisOther, rfl⟩
    obtain ⟨rest, t, hrest, hcanceled⟩ : CanBeMarked u j := by
      apply cancel_marks (q := q)
      · rw [hrequest, hq]
      · rw [hwritten]
        rfl
    refine ⟨first, rest, u, t, j, st, hfirst, hwritten, (hne hisOther).1, hrest, ?_⟩
    rw [hcanceled]
    exact fun h => (hne hisOther).2 (Option.some.inj h).symm
  · rcases hother with ⟨st, hst, hisOther⟩ | ⟨st, hst, hisOther⟩
    · -- the goroutine still writes its outcome over the mark
      obtain ⟨u, hstep, hwritten, _⟩ := finishStore_writes hst
      refine ⟨[], [.finishStore j true], s, u, j, .canceled, rfl, hmarked, by simp,
        Machine.exec_cons_eq_some.mpr ⟨u, hstep, rfl⟩, ?_⟩
      rw [hwritten]
      exact fun h => (hne hisOther).2 (Option.some.inj h)
    · rw [hmarked] at hst
      cases hst
      cases hisOther

/-- A step that the guard refuses leaves a job both canceled and ended otherwise. -/
theorem both_of_not_endsOnce {a : AnalysisAction} (h : analysisStep s a = some s')
    (hG : ¬ EndsOnce s a) : ∃ j, OtherOutcome s' j ∧ CancelOf s' j := by
  cases a with
  | cancel q =>
      simp only [EndsOnce, not_forall, not_not] at hG
      obtain ⟨j, hslot, hother⟩ := hG
      simp only [analysisStep] at h
      split at h
      · cases h
        refine ⟨j, hother, .inl ⟨q, ?_⟩⟩
        simp [AnalysisRequest.cancels, hslot]
      · cases h
  | new j ok | select j ok =>
      simp only [EndsOnce, not_forall, not_not] at hG
      obtain ⟨rfl, hcancel⟩ := hG
      simp only [analysisStep] at h
      split at h
      · cases h
        refine ⟨j, .inl ⟨.failed, ?_, rfl⟩, hcancel⟩
        simp [AnalysisState.setStage]
      · cases h
  | leave j ok =>
      simp only [EndsOnce, not_forall, not_not] at hG
      obtain ⟨hst, hcancel⟩ := hG
      simp only [analysisStep] at h
      split at h
      · cases h
        refine ⟨j, .inl ⟨leaveStatus ok (s.canceled j), ?_, ?_⟩, hcancel⟩
        · simp [AnalysisState.setStage]
        · exact JobStatus.isOther_of_ne (leaveStatus_ne_running _ _) hst
      · cases h
  | check _ | store _ _ | publish _ | spawn _ | enter _ | finishStore _ _ | release _
  | cancelContext _ | loadJob _ | markCanceled _ _ => exact absurd trivial hG

/-! ## Whole schedules -/

/-- Once a record has an outcome, no later step of the schedule changes it. -/
def StaysFinished (acts : List AnalysisAction) : Prop :=
  ∀ pre rest s t j st, acts = pre ++ rest → analysisMachine.exec AnalysisState.new pre = some s →
    s.jobs j = some st → st ≠ .running → analysisMachine.exec s rest = some t →
      t.jobs j = some st

/-- **A finished job stays finished exactly as far as its two writers cannot disagree.** In every
schedule in which no cancel request takes a job whose goroutine has another outcome, and every
goroutine whose job is being canceled ends as canceled, no step changes an outcome once it is
written; and any other step, after whatever schedule, has a continuation that changes one. -/
theorem finished_stays_of_endsOnce (acts : List AnalysisAction) :
    (analysisMachine.Guarded EndsOnce AnalysisState.new acts → StaysFinished acts) ∧
    (∀ s a s', analysisMachine.exec AnalysisState.new acts = some s →
      analysisMachine.step s a = some s' → ¬ EndsOnce s a →
        ∃ rest, ¬ StaysFinished (acts ++ a :: rest)) := by
  constructor
  · intro hG pre rest s t j st hacts hpre hj hst hrest
    have hkeeps (s : AnalysisState) (a : AnalysisAction) (s' : AnalysisState)
        (hI : StartedOnce s ∧ Apart s) (hga : EndsOnce s a)
        (h : analysisMachine.step s a = some s') : StartedOnce s' ∧ Apart s' :=
      ⟨startedOnce_step hI.1 h, apart_step hI.1 hI.2 hga h⟩
    obtain ⟨hGpre, hGrest⟩ := (hacts ▸ hG : analysisMachine.Guarded _ _ (pre ++ rest)).split hpre
    have hs : StartedOnce s ∧ Apart s :=
      (Machine.always_of_guarded hkeeps ⟨startedOnce_new, apart_new⟩ hGpre).last hpre
    have ht : (StartedOnce t ∧ Apart t) ∧ t.jobs j = some st := by
      refine (Machine.always_of_guarded (P := fun u => (StartedOnce u ∧ Apart u) ∧
        u.jobs j = some st) (fun u a u' hI hga h => ?_) ⟨hs, hj⟩ hGrest).last hrest
      exact ⟨hkeeps u a u' hI.1 hga h, status_step hI.1.1 hI.1.2 h hI.2 hst⟩
    exact ht.2
  · intro s a s' hs hstep hG
    obtain ⟨j, hother, hcancel⟩ := both_of_not_endsOnce hstep hG
    obtain ⟨first, rest, u, t, j, st, hfirst, hwritten, hst, hrest, hchanged⟩ :=
      canOverwrite_of_both hother hcancel
    refine ⟨first ++ rest, fun hstays => hchanged ?_⟩
    have hpre : analysisMachine.exec AnalysisState.new (acts ++ a :: first) = some u :=
      Machine.exec_trans hs (Machine.exec_cons_eq_some.mpr ⟨s', hstep, hfirst⟩)
    exact hstays (acts ++ a :: first) rest u t j st (by simp) hpre hwritten hst hrest

/-- Both orders happen. A job that has completed is marked as canceled by a request that came
before the slot was given back; and a job that is marked as canceled has completed all the same. -/
theorem finished_job_changes :
    ¬ StaysFinished
        [.check 0, .store 0 true, .publish 0, .spawn 0, .new 0 true, .select 0 true, .enter 0,
          .leave 0 true, .finishStore 0 true, .cancel 1, .cancelContext 1, .loadJob 1,
          .markCanceled 1 true] ∧
    ¬ StaysFinished
        [.check 0, .store 0 true, .publish 0, .spawn 0, .new 0 true, .select 0 true, .enter 0,
          .cancel 1, .cancelContext 1, .loadJob 1, .markCanceled 1 true, .leave 0 true,
          .finishStore 0 true] := by
  constructor
  · intro hstays
    have hcompleted := hstays
      [.check 0, .store 0 true, .publish 0, .spawn 0, .new 0 true, .select 0 true, .enter 0,
        .leave 0 true, .finishStore 0 true]
      [.cancel 1, .cancelContext 1, .loadJob 1, .markCanceled 1 true] _ _ 0 .completed rfl rfl rfl
      (by simp) rfl
    cases hcompleted
  · intro hstays
    have hcanceled := hstays
      [.check 0, .store 0 true, .publish 0, .spawn 0, .new 0 true, .select 0 true, .enter 0,
        .cancel 1, .cancelContext 1, .loadJob 1, .markCanceled 1 true]
      [.leave 0 true, .finishStore 0 true] _ _ 0 .canceled rfl rfl rfl (by simp) rfl
    cases hcanceled

end SnortOptimizer.Server
