import SnortOptimizer.Sorting.Ties
import SnortOptimizer.Table.Basic
import SnortOptimizer.Time.TextOrder
import Mathlib.Order.OrderDual

/-!
# The jobs table (`server/store/store.go`)

`LatestJob` and `ListJobs` order the jobs of a kind by `updated_at`, a text. What they return is the
latest of the jobs, and the list of them from the latest on, as far as the order of the texts is
that of time: `latestJob_iff` says for which jobs it is.
-/

namespace SnortOptimizer.Server

open Sorting Time

structure JobRecord where
  id : String
  kind : String
  status : String
  workDir : String
  configJSON : String
  resultJSON : String
  error : String
  startedAt : String
  finishedAt : String
  updatedAt : String
  deriving DecidableEq, Repr

/-- The primary key of `jobs`. -/
def JobRecord.Conflict (r s : JobRecord) : Prop := r.id = s.id

instance decidableJobConflict (r s : JobRecord) : Decidable (r.Conflict s) :=
  inferInstanceAs (Decidable (_ = _))

abbrev JobTable := Table JobRecord JobRecord.Conflict

/-- `ON CONFLICT(id) DO UPDATE`: the kind and the start stay as they are. -/
def replaceJob (job row : JobRecord) : JobRecord :=
  if row.id = job.id then { job with kind := row.kind, startedAt := row.startedAt } else row

theorem replaceJob_id (job row : JobRecord) : (replaceJob job row).id = row.id := by
  unfold replaceJob
  split
  · next h => exact h.symm
  · rfl

theorem replaceJob_updatedAt (job row : JobRecord) :
    (replaceJob job row).updatedAt = job.updatedAt ∨
      (replaceJob job row).updatedAt = row.updatedAt := by
  unfold replaceJob
  split
  · exact .inl rfl
  · exact .inr rfl

/-- The times of a record, where they are missing. -/
def JobRecord.withTimes (now : String) (job : JobRecord) : JobRecord :=
  { job with
    updatedAt := if job.updatedAt = "" then now else job.updatedAt
    startedAt := if job.startedAt = "" then now else job.startedAt }

def upsertJob (now : String) (t : JobTable) (job : JobRecord) : JobTable :=
  let job := job.withTimes now
  if t.rows.any (·.id = job.id) then
    t.update (replaceJob job) fun r s h => by
      simpa only [JobRecord.Conflict, replaceJob_id] using h
  else t.insertOrIgnore job

/-- `ORDER BY updated_at DESC`. -/
def jobLess (a b : JobRecord) : Prop := b.updatedAt < a.updatedAt

/-- The jobs of a kind. -/
def ofKind (t : JobTable) (kind : String) : List JobRecord := t.rows.filter (·.kind = kind)

/-- `LatestJob`, given what the database does with ties and whether it can be read. -/
def latestJob (sort : SliceSort jobLess) (db : Except String JobTable) (kind : String) :
    Except String (Option JobRecord) := do
  let t ← db
  return (sort.sort (ofKind t kind)).head?

/-- The number of jobs that `ListJobs` returns at most. -/
def listLimit (limit : Int) : Nat := if limit ≤ 0 ∨ 200 < limit then 50 else limit.toNat

def listJobs (sort : SliceSort jobLess) (db : Except String JobTable) (kind : String)
    (limit : Int) : Except String (List JobRecord) := do
  let t ← db
  return (sort.sort (ofKind t kind)).take (listLimit limit)

/-! ## Stamps -/

/-- Every row has been updated at some instant. -/
def Stamped (t : JobTable) : Prop := ∀ row ∈ t.rows, ∃ at_ : Instant, row.updatedAt = at_.text

/-- What is stored with the time of an instant is stamped, and so is what is stored without a
time. -/
theorem upsertJob_stamped {t : JobTable} (ht : Stamped t) {now : Instant} {job : JobRecord}
    (hjob : job.updatedAt = "" ∨ ∃ at_ : Instant, job.updatedAt = at_.text) :
    Stamped (upsertJob now.text t job) := by
  have hnew : ∃ at_ : Instant, (job.withTimes now.text).updatedAt = at_.text := by
    unfold JobRecord.withTimes
    dsimp only
    split
    · exact ⟨now, rfl⟩
    · next hne => exact hjob.resolve_left hne
  intro row hrow
  unfold upsertJob at hrow
  dsimp only at hrow
  split at hrow
  · obtain ⟨old, hold, rfl⟩ := List.mem_map.mp hrow
    rcases replaceJob_updatedAt (job.withTimes now.text) old with h | h
    · rw [h]
      exact hnew
    · rw [h]
      exact ht old hold
  · rcases Table.mem_insertOrIgnore hrow with hold | rfl
    · exact ht row hold
    · exact hnew

/-! ## The order of the texts and the order of time -/

/-- The latest come first. -/
def textKey (job : JobRecord) : Stringᵒᵈ := OrderDual.toDual job.updatedAt

theorem jobLess_iff (a b : JobRecord) : jobLess a b ↔ textKey a < textKey b := Iff.rfl

theorem listLimit_pos (limit : Int) : 0 < listLimit limit := by
  unfold listLimit
  split
  · decide
  · omega

section Order

variable {t : JobTable} {kind : String} {time : JobRecord → Instant}

/-- The jobs of the kind have been updated at different instants. -/
structure StampedBy (t : JobTable) (kind : String) (time : JobRecord → Instant) : Prop where
  text : ∀ job ∈ ofKind t kind, job.updatedAt = (time job).text
  distinct : ∀ a ∈ ofKind t kind, ∀ b ∈ ofKind t kind, time a = time b → a = b

/-- How many jobs of the kind are later. -/
def laterJobs (t : JobTable) (kind : String) (time : JobRecord → Instant) (job : JobRecord) : Nat :=
  (ofKind t kind).countP fun other => time job < time other

theorem ofKind_nodup (t : JobTable) (kind : String) : (ofKind t kind).Nodup := by
  refine List.Nodup.filter _ (t.apart.imp fun {a b} hapart hab => hapart ?_)
  rw [hab]
  rfl

theorem StampedBy.textKeys (h : StampedBy t kind time) :
    ((ofKind t kind).map textKey).Nodup := by
  refine List.Nodup.map_on (fun a ha b hb hab => ?_) (ofKind_nodup t kind)
  apply h.distinct a ha b hb
  apply Instant.text_inj
  rw [← h.text a ha, ← h.text b hb]
  exact OrderDual.toDual_inj.mp hab

/-- The latest come first. -/
def timeKey (time : JobRecord → Instant) (job : JobRecord) : Instantᵒᵈ :=
  OrderDual.toDual (time job)

theorem timeKey_lt_iff (time : JobRecord → Instant) (a b : JobRecord) :
    time b < time a ↔ timeKey time a < timeKey time b := Iff.rfl

theorem StampedBy.timeKeys (h : StampedBy t kind time) :
    ((ofKind t kind).map (timeKey time)).Nodup := by
  refine List.Nodup.map_on (fun a ha b hb hab => ?_) (ofKind_nodup t kind)
  exact h.distinct a ha b hb (OrderDual.toDual_inj.mp hab)

/-- The jobs in the order of time, the latest first. -/
def byTime (time : JobRecord → Instant) : SliceSort fun a b => time b < time a :=
  SliceSort.stable (timeKey_lt_iff time)

/-- No text of one of the `limit` latest jobs goes on where the text of another job ends. -/
def NoCutOff (t : JobTable) (kind : String) (time : JobRecord → Instant) (limit : Nat) : Prop :=
  ∀ a ∈ ofKind t kind, ∀ b ∈ ofKind t kind, (time a).CutOff (time b) →
    limit ≤ laterJobs t kind time b

theorem laterJobs_le (t : JobTable) (kind : String) {a b : JobRecord} (h : time a < time b) :
    laterJobs t kind time b ≤ laterJobs t kind time a := by
  apply List.countP_mono_left
  intro other _ hother
  have hlater : time b < time other := of_decide_eq_true hother
  exact decide_eq_true (h.trans hlater)

/-- For one of the latest jobs, the other jobs are on the same side by text and by time. -/
theorem NoCutOff.text_lt_iff {limit : Nat} (h : NoCutOff t kind time limit)
    (hs : StampedBy t kind time) {x y : JobRecord} (hx : x ∈ ofKind t kind)
    (hy : y ∈ ofKind t kind) (hlater : laterJobs t kind time x < limit) :
    x.updatedAt < y.updatedAt ↔ time x < time y := by
  rw [hs.text x hx, hs.text y hy, Instant.text_lt_iff]
  constructor
  · rintro (⟨hlt, _⟩ | hcut)
    · exact hlt
    · have hle := h y hy x hx hcut
      omega
  · intro hlt
    refine .inl ⟨hlt, fun hcut => ?_⟩
    have hle := h x hx y hy hcut
    have hmono := laterJobs_le t kind hlt
    omega

/-- The latest jobs stand in the same places by text and by time. -/
theorem NoCutOff.take_eq {limit : Nat} (h : NoCutOff t kind time limit) (hs : StampedBy t kind time)
    (sort : SliceSort jobLess) :
    (sort.sort (ofKind t kind)).take limit = ((byTime time).sort (ofKind t kind)).take limit := by
  have hnodup : ((byTime time).sort (ofKind t kind)).Nodup :=
    ((byTime time).perm _).nodup_iff.mpr (ofKind_nodup t kind)
  apply List.ext_getElem?
  intro i
  rw [List.getElem?_take, List.getElem?_take]
  split
  · next hi =>
      cases hx : ((byTime time).sort (ofKind t kind))[i]? with
      | none =>
          rw [List.getElem?_eq_none_iff, ((byTime time).perm _).length_eq] at hx
          rw [List.getElem?_eq_none_iff, (sort.perm _).length_eq]
          exact hx
      | some x =>
          have hmem : x ∈ ofKind t kind :=
            ((byTime time).perm _).subset (List.mem_of_getElem? hx)
          have hplace : ((byTime time).sort (ofKind t kind))[laterJobs t kind time x]? = some x :=
            SliceSort.getElem?_countP (timeKey_lt_iff time) (byTime time) hs.timeKeys hmem
          have hlater : laterJobs t kind time x = i := by
            obtain ⟨hj, _⟩ := List.getElem?_eq_some_iff.mp hplace
            exact (List.getElem?_inj hj hnodup).mp (hplace.trans hx.symm)
          have hcount : (ofKind t kind).countP (fun y => textKey y < textKey x) = i := by
            rw [← hlater]
            apply List.countP_congr
            intro y hy
            simp only [decide_eq_true_eq]
            exact h.text_lt_iff hs hmem hy (by omega)
          rw [← hcount]
          exact SliceSort.getElem?_countP jobLess_iff sort hs.textKeys hmem
  · rfl

/-- The jobs that are listed, from the latest on. -/
structure LatestFirst (t : JobTable) (kind : String) (time : JobRecord → Instant) (limit : Nat)
    (jobs : List JobRecord) : Prop where
  length : jobs.length = min limit (ofKind t kind).length
  falling : jobs.Pairwise fun a b => time b < time a
  latest : ∀ a ∈ jobs, ∀ b ∈ ofKind t kind, b ∉ jobs → time b < time a

theorem StampedBy.byTime_falling (hs : StampedBy t kind time) :
    ((byTime time).sort (ofKind t kind)).Pairwise fun a b => time b < time a := by
  have hnodup : ((byTime time).sort (ofKind t kind)).Nodup :=
    ((byTime time).perm _).nodup_iff.mpr (ofKind_nodup t kind)
  refine (((byTime time).sorted _).and hnodup).imp_of_mem fun {a b} ha hb hab => ?_
  rcases lt_or_eq_of_le (not_lt.mp hab.1) with hlt | heq
  · exact hlt
  · refine absurd ?_ hab.2
    exact hs.distinct a (((byTime time).perm _).subset ha) b (((byTime time).perm _).subset hb)
      heq.symm

theorem NoCutOff.latestFirst {limit : Nat} (h : NoCutOff t kind time limit)
    (hs : StampedBy t kind time) (sort : SliceSort jobLess) :
    LatestFirst t kind time limit ((sort.sort (ofKind t kind)).take limit) := by
  have hfalling := hs.byTime_falling
  refine ⟨?_, ?_, fun a ha b hb hnot => ?_⟩
  · rw [List.length_take, (sort.perm _).length_eq]
  · rw [h.take_eq hs sort]
    exact hfalling.take
  · rw [h.take_eq hs sort] at ha hnot
    rw [← List.take_append_drop limit ((byTime time).sort _), List.pairwise_append] at hfalling
    refine hfalling.2.2 a ha b ?_
    have hall : b ∈ (byTime time).sort (ofKind t kind) := ((byTime time).perm _).mem_iff.mpr hb
    rw [← List.take_append_drop limit ((byTime time).sort _), List.mem_append] at hall
    exact hall.resolve_left hnot

/-- A list that is cut off before a job has `limit` jobs that are later. -/
theorem LatestFirst.le_laterJobs {limit : Nat} {jobs : List JobRecord}
    (h : LatestFirst t kind time limit jobs) (hjobs : jobs.Subperm (ofKind t kind)) {b : JobRecord}
    (hb : b ∈ ofKind t kind) (hnot : b ∉ jobs) : limit ≤ laterJobs t kind time b := by
  have hall : jobs.countP (fun other => time b < time other) = jobs.length := by
    rw [List.countP_eq_length]
    exact fun a ha => decide_eq_true (h.latest a ha b hb hnot)
  have hle : jobs.length ≤ laterJobs t kind time b := by
    rw [← hall]
    exact hjobs.countP_le _
  have hlength := h.length
  have hfull : limit ≤ (ofKind t kind).length := by
    by_contra hlt
    rw [Nat.min_eq_right (not_le.mp hlt).le] at hlength
    exact hnot ((hjobs.perm_of_length_le hlength.ge).mem_iff.mpr hb)
  omega

theorem LatestFirst.noCutOff {limit : Nat} (sort : SliceSort jobLess) (hs : StampedBy t kind time)
    (h : LatestFirst t kind time limit ((sort.sort (ofKind t kind)).take limit)) :
    NoCutOff t kind time limit := by
  intro a ha b hb hcut
  by_cases hmem : b ∈ (sort.sort (ofKind t kind)).take limit
  · -- the text of the earlier job comes first, so it is listed before the later one
    have htext : b.updatedAt < a.updatedAt := by
      rw [hs.text a ha, hs.text b hb, Instant.text_lt_iff]
      exact .inr hcut
    have hsorted := SliceSort.sorted_key jobLess_iff sort (ofKind t kind)
    have hfalling := h.falling
    obtain ⟨before, after, hsplit⟩ := List.append_of_mem hmem
    rw [hsplit, List.pairwise_append] at hfalling
    have hall : a ∈ before ++ b :: (after ++ (sort.sort (ofKind t kind)).drop limit) := by
      rw [← List.cons_append, ← List.append_assoc, ← hsplit, List.take_append_drop]
      exact (sort.perm _).mem_iff.mpr ha
    rw [← List.take_append_drop limit (sort.sort _), hsplit, List.append_assoc, List.cons_append,
      List.pairwise_append] at hsorted
    rcases List.mem_append.mp hall with hbefore | hrest
    · have hlt := hfalling.2.2 a hbefore b List.mem_cons_self
      exact absurd hcut.1 hlt.asymm
    · rcases List.mem_cons.mp hrest with rfl | hafter
      · exact absurd htext (lt_irrefl _)
      · have hle := List.rel_of_pairwise_cons hsorted.2.1 hafter
        exact absurd htext (not_lt.mpr (OrderDual.toDual_le_toDual.mp hle))
  · refine h.le_laterJobs ?_ hb hmem
    exact ((List.take_sublist _ _).subperm).trans (sort.perm _).subperm

end Order

/-- The latest of the jobs of a kind. -/
def IsLatest (t : JobTable) (kind : String) (time : JobRecord → Instant) (job : JobRecord) : Prop :=
  job ∈ ofKind t kind ∧ ∀ other ∈ ofKind t kind, other ≠ job → time other < time job

/-- **The order of the texts is that of time exactly if no fraction is cut off.** For jobs of a kind
that have been updated at different instants, `LatestJob` returns the latest one and `ListJobs` the
latest ones in the order of time if and only if the fraction of none of these jobs goes on where the
fraction of another job of the same second ends. -/
theorem latestJob_iff (sort : SliceSort jobLess) {t : JobTable} {kind : String}
    {time : JobRecord → Instant} (hs : StampedBy t kind time) (hne : ofKind t kind ≠ [])
    (limit : Int) :
    ((∃ job, latestJob sort (.ok t) kind = .ok (some job) ∧ IsLatest t kind time job) ∧
      ∃ jobs, listJobs sort (.ok t) kind limit = .ok jobs ∧
        LatestFirst t kind time (listLimit limit) jobs) ↔
      ∀ a ∈ ofKind t kind, ∀ b ∈ ofKind t kind, (time a).CutOff (time b) →
        listLimit limit ≤ laterJobs t kind time b := by
  constructor
  · rintro ⟨_, jobs, hlist, hlatest⟩
    cases hlist
    exact hlatest.noCutOff sort hs
  · intro h
    have horder : NoCutOff t kind time (listLimit limit) := h
    have hlist := horder.latestFirst hs sort
    refine ⟨?_, _, rfl, hlist⟩
    have hsome : sort.sort (ofKind t kind) ≠ [] := by
      intro hnil
      have hperm := sort.perm (ofKind t kind)
      rw [hnil] at hperm
      exact hne hperm.nil_eq.symm
    obtain ⟨job, rest, hsort⟩ := List.exists_cons_of_ne_nil hsome
    obtain ⟨k, hk⟩ : ∃ k, listLimit limit = k + 1 :=
      ⟨_, (Nat.succ_pred_eq_of_pos (listLimit_pos limit)).symm⟩
    rw [hsort, hk, List.take_succ_cons] at hlist
    refine ⟨job, ?_, ?_, fun other hother hne => ?_⟩
    · show Except.ok (sort.sort (ofKind t kind)).head? = _
      rw [hsort]
      rfl
    · apply (sort.perm _).subset
      rw [hsort]
      exact List.mem_cons_self
    · by_cases hlisted : other ∈ rest.take k
      · exact List.rel_of_pairwise_cons hlist.falling hlisted
      · refine hlist.latest job List.mem_cons_self other hother fun hmem => ?_
        rcases List.mem_cons.mp hmem with h | h
        · exact hne h
        · exact hlisted h

/-! ## Two jobs -/

def analysisAt (id : String) (at_ : Instant) : JobRecord :=
  { id := id, kind := "analysis", status := "completed", workDir := "", configJSON := ""
    resultJSON := "", error := "", startedAt := at_.text, finishedAt := at_.text
    updatedAt := at_.text }

def twoAnalyses (a b : Instant) : JobTable :=
  ⟨[analysisAt "1" a, analysisAt "2" b], by
    simp [JobRecord.Conflict, analysisAt]⟩

def twoTimes (a b : Instant) (job : JobRecord) : Instant := if job.id = "1" then a else b

theorem ofKind_twoAnalyses (a b : Instant) :
    ofKind (twoAnalyses a b) "analysis" = [analysisAt "1" a, analysisAt "2" b] := by
  simp [ofKind, twoAnalyses, analysisAt]

theorem twoAnalyses_stamped {a b : Instant} (h : a ≠ b) :
    StampedBy (twoAnalyses a b) "analysis" (twoTimes a b) := by
  constructor
  · simp [ofKind_twoAnalyses, analysisAt, twoTimes]
  · simp [ofKind_twoAnalyses, analysisAt, twoTimes, h, h.symm]

/-- `2024-01-01T00:00:00.5Z` -/
def halfPast : Instant := ⟨1704067200500000000, by decide⟩

/-- `2024-01-01T00:00:00.51Z` -/
def littleLater : Instant := ⟨1704067200510000000, by decide⟩

/-- `2024-01-01T00:00:01Z` -/
def nextSecond : Instant := ⟨1704067201000000000, by decide⟩

def byText : SliceSort jobLess := SliceSort.stable jobLess_iff

theorem halfPast_nextSecond :
    (∃ job, latestJob byText (.ok (twoAnalyses halfPast nextSecond)) "analysis" = .ok (some job) ∧
      IsLatest (twoAnalyses halfPast nextSecond) "analysis" (twoTimes halfPast nextSecond) job) ∧
    ∃ jobs, listJobs byText (.ok (twoAnalyses halfPast nextSecond)) "analysis" 10 = .ok jobs ∧
      LatestFirst (twoAnalyses halfPast nextSecond) "analysis" (twoTimes halfPast nextSecond)
        (listLimit 10) jobs := by
  have hs := twoAnalyses_stamped (show halfPast ≠ nextSecond by decide)
  refine (latestJob_iff byText hs (by simp [ofKind_twoAnalyses]) 10).mpr ?_
  -- the two instants are not in one second
  have hapart (a b : Instant) (ha : a = halfPast ∨ a = nextSecond)
      (hb : b = halfPast ∨ b = nextSecond) : ¬ a.CutOff b := by
    rintro ⟨hlt, hseconds, _⟩
    rcases ha with rfl | rfl <;> rcases hb with rfl | rfl
    · exact lt_irrefl _ hlt
    · exact absurd hseconds (by decide)
    · exact absurd hseconds (by decide)
    · exact lt_irrefl _ hlt
  have htime (job : JobRecord) : twoTimes halfPast nextSecond job = halfPast ∨
      twoTimes halfPast nextSecond job = nextSecond := by
    unfold twoTimes
    split
    · exact .inl rfl
    · exact .inr rfl
  exact fun a _ b _ hcut => absurd hcut (hapart _ _ (htime a) (htime b))

/-- Of two jobs that are updated ten milliseconds apart the earlier one is returned. -/
theorem later_job_missed :
    StampedBy (twoAnalyses halfPast littleLater) "analysis" (twoTimes halfPast littleLater) ∧
    ∀ sort : SliceSort jobLess,
      latestJob sort (.ok (twoAnalyses halfPast littleLater)) "analysis" =
        .ok (some (analysisAt "1" halfPast)) ∧
      ¬ IsLatest (twoAnalyses halfPast littleLater) "analysis" (twoTimes halfPast littleLater)
        (analysisAt "1" halfPast) := by
  have hs := twoAnalyses_stamped (show halfPast ≠ littleLater by decide)
  have hcut : halfPast.CutOff littleLater := ⟨by decide, by decide, 8, by decide⟩
  refine ⟨hs, fun sort => ⟨?_, fun hlatest => ?_⟩⟩
  · have htext : littleLater.text < halfPast.text := (Instant.text_lt_iff _ _).mpr (.inr hcut)
    have hcount : (ofKind (twoAnalyses halfPast littleLater) "analysis").countP
        (fun y => textKey y < textKey (analysisAt "1" halfPast)) = 0 := by
      rw [ofKind_twoAnalyses, List.countP_eq_zero]
      intro y hy
      rcases List.mem_pair.mp hy with rfl | rfl
      · simp
      · intro h
        have hlt : halfPast.text < littleLater.text := of_decide_eq_true h
        exact lt_asymm htext hlt
    have hfirst := SliceSort.getElem?_countP jobLess_iff sort hs.textKeys
      (show analysisAt "1" halfPast ∈ _ by rw [ofKind_twoAnalyses]; exact List.mem_cons_self)
    rw [hcount, ← List.head?_eq_getElem?] at hfirst
    exact congrArg Except.ok hfirst
  · have hlt := hlatest.2 (analysisAt "2" littleLater)
      (by rw [ofKind_twoAnalyses]; simp) (by simp [analysisAt])
    exact absurd hlt (by decide)

end SnortOptimizer.Server
