import SnortOptimizer.Analyser.Accounting

/-!
# What a run writes to the analyser's store

`analyser.db` is read by the server while the scheduler is still writing it, and it stays behind
when a run fails. So the store is looked at here write by write, also for runs that end with an
error: `searchReached` are the states of the search up to the point where it stops, and
`Scheduler.storeLog` the writes made on the way there, each with the accepted run at that time.
-/

namespace SnortOptimizer.Analyser

/-! ## The states a run passes through -/

/-- The states at the end of each round. -/
def iterRoundsReached (sch : Scheduler) (env : Externals) (flows : FlowSet)
    (fn : RegisteredFunction) : Nat → Nat → ℚ → SearchState → List SearchState
  | 0, _, _, _ => []
  | n + 1, round, factor, s =>
      match iterRound sch env flows fn round factor s with
      | .error _ => []
      | .ok (.exhausted s) => [s]
      | .ok (.committed s) => s :: iterRoundsReached sch env flows fn n (round + 1) factor s.advance
      | .ok (.rolledBack s) =>
          s :: if factor / 2 ≤ factorCutoff then []
            else iterRoundsReached sch env flows fn n (round + 1) (factor / 2) s.advance

def iterFunctionsReached (sch : Scheduler) (env : Externals) (flows : FlowSet) :
    List RegisteredFunction → SearchState → List SearchState
  | [], _ => []
  | fn :: fns, s =>
      iterRoundsReached sch env flows fn sch.cfg.maxRound.toNat 1 sch.cfg.initialFactor s ++
        match iterRounds sch env flows fn sch.cfg.maxRound.toNat 1 sch.cfg.initialFactor s with
        | .error _ => []
        | .ok s => iterFunctionsReached sch env flows fns s

/-- What `Scheduler.Run` reaches after the baseline run, until it returns with or without an
error. -/
def searchReached (sch : Scheduler) (env : Externals) (flows : FlowSet) (s : SearchState) :
    List SearchState :=
  s :: match safeStage sch env flows s with
    | .error _ => []
    | .ok s => s :: iterFunctionsReached sch env flows (sch.functionsByType .ITER) s

/-! ## Writes -/

/-- `InsertTrimDecisions` is one transaction, `InsertRunResult` one statement. -/
inductive StoreWrite where
  | trimDecisions (rows : List TrimDecisionRow)
  | runResult (r : RunResult)

def AnalyserStore.empty : AnalyserStore := { runs := [], trimDecisions := [] }

def AnalyserStore.write (store : AnalyserStore) : StoreWrite → AnalyserStore
  | .trimDecisions rows => { store with trimDecisions := store.trimDecisions ++ rows }
  | .runResult r => { store with runs := store.runs ++ [r] }

/-- The writes that lead from one store to a later one, in the order of the source: first the
decisions of a round, unless there are none, and then its result. -/
def writesBetween (store store' : AnalyserStore) : List StoreWrite :=
  let rows := store'.trimDecisions.drop store.trimDecisions.length
  (if rows = [] then [] else [.trimDecisions rows]) ++
    (store'.runs.drop store.runs.length).map .runResult

/-- What an observer can see of a state of the search: the store, and the accepted run. -/
abbrev StorePoint := AnalyserStore × Int

def SearchState.point (s : SearchState) : StorePoint := (s.store, s.acceptedRunID)

/-- A write together with the accepted run once the scheduler has dealt with it. -/
abbrev LoggedWrite := StoreWrite × Int

def writeLog : AnalyserStore → List StorePoint → List LoggedWrite
  | _, [] => []
  | store, point :: rest =>
      (writesBetween store point.1).map (fun w => (w, point.2)) ++ writeLog point.1 rest

/-- All writes of a run, until it returns with or without an error. -/
def Scheduler.storeLog (sch : Scheduler) (env : Externals) (dbs : Databases)
    (store : AnalyserStore) : List LoggedWrite :=
  match prepareRuleDatabases sch.cfg env dbs store with
  | .error _ => []
  | .ok (dbs, store) =>
      match env.flows with
      | .error _ => []
      | .ok flows =>
          match baseline sch env flows dbs store with
          | .error _ => []
          | .ok s => writeLog store ((searchReached sch env flows s).map SearchState.point)

/-- The store after some writes. -/
def AnalyserStore.replay (store : AnalyserStore) (log : List LoggedWrite) : AnalyserStore :=
  (log.map Prod.fst).foldl AnalyserStore.write store

/-- The accepted run as of the last result in the log, `accepted` when there is none. -/
def acceptedAsOf (accepted : Int) : List LoggedWrite → Int
  | [] => accepted
  | (.trimDecisions _, _) :: log => acceptedAsOf accepted log
  | (.runResult _, id) :: log => acceptedAsOf id log

/-! ## One round at a time -/

/-- Between two points at most one round was recorded. -/
inductive Books : StorePoint → StorePoint → Prop where
  | still (p : StorePoint) : Books p p
  | round (p : StorePoint) (rows : List TrimDecisionRow) (r : RunResult) (accepted : Int) :
      Books p ({ runs := p.1.runs ++ [r], trimDecisions := p.1.trimDecisions ++ rows }, accepted)

theorem writesBetween_self (store : AnalyserStore) : writesBetween store store = [] := by
  simp [writesBetween]

theorem writesBetween_round (store : AnalyserStore) (rows : List TrimDecisionRow) (r : RunResult) :
    writesBetween store
        { runs := store.runs ++ [r], trimDecisions := store.trimDecisions ++ rows } =
      (if rows = [] then [] else [.trimDecisions rows]) ++ [.runResult r] := by
  simp [writesBetween]

theorem AnalyserStore.replay_append (store : AnalyserStore) (log log' : List LoggedWrite) :
    store.replay (log ++ log') = (store.replay log).replay log' := by
  rw [replay, List.map_append, List.foldl_append]
  rfl

theorem acceptedAsOf_append (accepted : Int) (log log' : List LoggedWrite) :
    acceptedAsOf accepted (log ++ log') = acceptedAsOf (acceptedAsOf accepted log) log' := by
  induction log generalizing accepted with
  | nil => rfl
  | cons entry log ih =>
      obtain ⟨w, id⟩ := entry
      cases w with
      | trimDecisions rows => exact ih accepted
      | runResult r => exact ih id

/-- The writes between two points lead from one to the other. -/
theorem Books.replay {p q : StorePoint} (h : Books p q) :
    p.1.replay ((writesBetween p.1 q.1).map fun w => (w, q.2)) = q.1 ∧
      acceptedAsOf p.2 ((writesBetween p.1 q.1).map fun w => (w, q.2)) = q.2 := by
  cases h with
  | still =>
      rw [writesBetween_self]
      exact ⟨rfl, rfl⟩
  | round rows r accepted =>
      rw [writesBetween_round]
      by_cases hrows : rows = []
      · subst hrows
        simp [AnalyserStore.replay, AnalyserStore.write, acceptedAsOf]
      · simp [hrows, AnalyserStore.replay, AnalyserStore.write, acceptedAsOf]

/-- Replaying the whole log leads to the last point. -/
theorem replay_writeLog {p : StorePoint} {points : List StorePoint}
    (h : (p :: points).IsChain Books) :
    (p.1.replay (writeLog p.1 points), acceptedAsOf p.2 (writeLog p.1 points)) =
      (p :: points).getLast (List.cons_ne_nil p points) := by
  induction points generalizing p with
  | nil => rfl
  | cons q rest ih =>
      rw [List.isChain_cons_cons] at h
      obtain ⟨hstore, haccepted⟩ := h.1.replay
      rw [writeLog, AnalyserStore.replay_append, acceptedAsOf_append, hstore, haccepted]
      rw [List.getLast_cons (List.cons_ne_nil q rest)]
      exact ih h.2

/-- What a point looks like when only the decisions of the next round have been written. -/
def StorePoint.With (p : StorePoint) (rows : List TrimDecisionRow) (store : AnalyserStore)
    (accepted : Int) : Prop :=
  store = { runs := p.1.runs, trimDecisions := p.1.trimDecisions ++ rows } ∧ accepted = p.2

theorem Books.cut {p q : StorePoint} (h : Books p q) {log : List LoggedWrite}
    (hlog : log <+: (writesBetween p.1 q.1).map fun w => (w, q.2)) :
    log = ((writesBetween p.1 q.1).map fun w => (w, q.2)) ∨
      ∃ rows, p.With rows (p.1.replay log) (acceptedAsOf p.2 log) := by
  cases h with
  | still =>
      left
      rw [writesBetween_self] at hlog ⊢
      exact List.prefix_nil.mp hlog
  | round rows r accepted =>
      rw [writesBetween_round, List.map_append, List.map_singleton] at hlog ⊢
      rcases List.prefix_concat_iff.mp hlog with hall | hpart
      · exact .inl hall
      · -- without the result there are at most the decisions
        right
        by_cases hrows : rows = []
        · rw [if_pos hrows, List.map_nil, List.prefix_nil] at hpart
          subst hpart
          exact ⟨[], by simp [StorePoint.With, AnalyserStore.replay, acceptedAsOf]⟩
        · rw [if_neg hrows, List.map_singleton] at hpart
          rcases List.prefix_cons_iff.mp hpart with hnil | ⟨tail, hcons, htail⟩
          · subst hnil
            exact ⟨[], by simp [StorePoint.With, AnalyserStore.replay, acceptedAsOf]⟩
          · rw [List.prefix_nil] at htail
            subst htail hcons
            refine ⟨rows, ?_⟩
            simp [StorePoint.With, AnalyserStore.replay, AnalyserStore.write, acceptedAsOf]

/-- **Prefix rule**: wherever the writing stops, the store is that of a point passed through, but
for the decisions of the round that is being recorded. -/
theorem prefix_writeLog {p : StorePoint} {points : List StorePoint} {log : List LoggedWrite}
    (h : (p :: points).IsChain Books) (hlog : log <+: writeLog p.1 points) :
    ∃ q ∈ p :: points, ∃ rows, q.With rows (p.1.replay log) (acceptedAsOf p.2 log) := by
  induction points generalizing p log with
  | nil =>
      rw [writeLog, List.prefix_nil] at hlog
      subst hlog
      refine ⟨p, List.mem_cons_self, [], ?_⟩
      simp [StorePoint.With, AnalyserStore.replay, acceptedAsOf]
  | cons q rest ih =>
      rw [List.isChain_cons_cons] at h
      rw [writeLog] at hlog
      -- either the next round is not written to its end, or the log goes on behind it
      rcases List.prefix_or_prefix_of_prefix hlog (List.prefix_append _ _) with hshort | ⟨more, rfl⟩
      · rcases h.1.cut hshort with hall | ⟨rows, hrows⟩
        · subst hall
          obtain ⟨hstore, haccepted⟩ := h.1.replay
          refine ⟨q, List.mem_cons_of_mem p List.mem_cons_self, [], ?_⟩
          rw [hstore, haccepted]
          simp [StorePoint.With]
        · exact ⟨p, List.mem_cons_self, rows, hrows⟩
      · rw [List.prefix_append_right_inj] at hlog
        obtain ⟨hstore, haccepted⟩ := h.1.replay
        obtain ⟨q', hq', rows, hrows⟩ := ih h.2 hlog
        refine ⟨q', List.mem_cons_of_mem p hq', rows, ?_⟩
        rw [AnalyserStore.replay_append, acceptedAsOf_append, hstore, haccepted]
        exact hrows

/-! ## The rounds of a run -/

variable {cfg : Config} {env : Externals} {flows : FlowSet} {typ : FunctionType}
  {s s' : SearchState}

/-- Points that follow each other round by round from `s`, each of a state that the search can
step to. -/
structure Passes (cfg : Config) (env : Externals) (flows : FlowSet) (typ : FunctionType)
    (s : SearchState) (points : List StorePoint) : Prop where
  books : (s.point :: points).IsChain Books
  steps : ∀ p ∈ points, ∃ u, Steps cfg env flows typ s u ∧ u.point = p

theorem Passes.nil (s : SearchState) : Passes cfg env flows typ s [] :=
  ⟨List.isChain_singleton _, fun _ hp => absurd hp List.not_mem_nil⟩

/-- A round in front of further rounds. -/
theorem Passes.cons {points : List StorePoint} (hbooks : Books s.point s'.point)
    (hsteps : Steps cfg env flows typ s s') (h : Passes cfg env flows typ s' points) :
    Passes cfg env flows typ s (s'.point :: points) := by
  refine ⟨List.isChain_cons_cons.mpr ⟨hbooks, h.books⟩, ?_⟩
  intro p hp
  rcases List.mem_cons.mp hp with rfl | hp
  · exact ⟨s', hsteps, rfl⟩
  · obtain ⟨u, hu, hpoint⟩ := h.steps p hp
    exact ⟨u, hsteps.trans hu, hpoint⟩

/-- Points that end where further ones begin. -/
theorem Passes.append {points points' : List StorePoint} (h : Passes cfg env flows typ s points)
    (hlast : (s.point :: points).getLast (List.cons_ne_nil _ _) = s'.point)
    (hsteps : Steps cfg env flows typ s s') (h' : Passes cfg env flows typ s' points') :
    Passes cfg env flows typ s (points ++ points') := by
  constructor
  · rw [← List.cons_append, List.isChain_append]
    refine ⟨h.books, h'.books.tail, ?_⟩
    intro p hp q hq
    rw [List.getLast?_eq_some_getLast (List.cons_ne_nil _ _), hlast, Option.mem_some_iff] at hp
    subst hp
    cases points' with
    | nil => cases hq
    | cons q' rest =>
        rw [List.head?_cons, Option.mem_some_iff] at hq
        exact hq ▸ (List.isChain_cons_cons.mp h'.books).1
  · intro p hp
    rcases List.mem_append.mp hp with hp | hp
    · exact h.steps p hp
    · obtain ⟨u, hu, hpoint⟩ := h'.steps p hp
      exact ⟨u, hsteps.trans hu, hpoint⟩

/-- The points of `iterRounds`, with what its last state looks like. -/
structure Ends (cfg : Config) (env : Externals) (flows : FlowSet) (s : SearchState)
    (points : List StorePoint) (result : Except String SearchState) : Prop where
  passes : Passes cfg env flows .ITER s points
  last : ∀ s', result = .ok s' → (s.point :: points).getLast (List.cons_ne_nil _ _) = s'.point

theorem Ends.nil (s : SearchState) : Ends cfg env flows s [] (.ok s) :=
  ⟨Passes.nil s, fun s' h => by cases h; rfl⟩

theorem Ends.error (s : SearchState) (e : String) : Ends cfg env flows s [] (.error e) :=
  ⟨Passes.nil s, fun s' h => by cases h⟩

theorem Ends.cons {p : StorePoint} {points : List StorePoint}
    {result : Except String SearchState} (hsteps : Steps cfg env flows .ITER s s')
    (hbooks : Books s.point s'.point) (h : Ends cfg env flows s' points result)
    (hp : s'.point = p) : Ends cfg env flows s (p :: points) result := by
  subst hp
  refine ⟨h.passes.cons hbooks hsteps, fun t ht => ?_⟩
  rw [List.getLast_cons (List.cons_ne_nil _ _)]
  exact h.last t ht

theorem iterRoundsReached_ends (sch : Scheduler) (fn : RegisteredFunction) (n round : Nat)
    (factor : ℚ) (s : SearchState) :
    Ends sch.cfg env flows s
      ((iterRoundsReached sch env flows fn n round factor s).map SearchState.point)
      (iterRounds sch env flows fn n round factor s) := by
  induction n generalizing round factor s with
  | zero => exact Ends.nil s
  | succ n ih =>
      rw [iterRoundsReached, iterRounds]
      cases hround : iterRound sch env flows fn round factor s with
      | error e => exact Ends.error s e
      | ok outcome =>
          rcases iterRound_cases hround with ⟨clock, rfl⟩ |
            ⟨clock, clock', dbs, trimmed, r, htried, hid, _, hj, rfl⟩
          · exact Ends.cons (.single (.tick s clock)) (.still _) (Ends.nil _) rfl
          · have htick : Steps sch.cfg env flows .ITER s { s with clock := clock } :=
              .single (.tick s clock)
            cases hc : r.committed with
            | true =>
                have hcommit := htick.tail (.commit { s with clock := clock } clock' dbs trimmed r
                  htried hid hc fun _ => hj ▸ hc)
                -- the point of the round is that of the state before `nextRunID++`
                exact Ends.cons hcommit (.round s.point _ r s.nextRunID) (ih (round + 1) factor _)
                  rfl
            | false =>
                have hroll := htick.tail (.rollback { s with clock := clock } clock' dbs trimmed r
                  htried hid hc (hj ▸ hc))
                rw [if_neg Bool.false_ne_true]
                by_cases hcut : factor / 2 ≤ factorCutoff
                · simp only [if_pos hcut]
                  exact Ends.cons hroll (.round s.point _ r s.acceptedRunID) (Ends.nil _) rfl
                · simp only [if_neg hcut]
                  exact Ends.cons (hroll.tail (.advance _)) (.round s.point _ r s.acceptedRunID)
                    (ih (round + 1) (factor / 2) _) rfl

/-- Rounds that are followed by the rounds of further functions. -/
theorem Ends.append {points points' : List StorePoint} {result : Except String SearchState}
    (h : Ends cfg env flows s points (.ok s')) (hsteps : Steps cfg env flows .ITER s s')
    (h' : Ends cfg env flows s' points' result) :
    Ends cfg env flows s (points ++ points') result := by
  have hlast := h.last s' rfl
  refine ⟨h.passes.append hlast hsteps h'.passes, fun t ht => ?_⟩
  have hend := h'.last t ht
  cases points' with
  | nil =>
      rw [← hend, List.getLast_singleton, ← hlast]
      simp only [List.append_nil]
  | cons p rest =>
      rw [List.getLast_cons (List.cons_ne_nil p rest)] at hend
      rw [← hend, List.getLast_cons (List.append_ne_nil_of_right_ne_nil _ (List.cons_ne_nil _ _)),
        List.getLast_append_of_ne_nil _ (List.cons_ne_nil p rest)]

theorem iterFunctionsReached_ends (sch : Scheduler) (fns : List RegisteredFunction)
    (s : SearchState) :
    Ends sch.cfg env flows s ((iterFunctionsReached sch env flows fns s).map SearchState.point)
      (iterFunctions sch env flows fns s) := by
  induction fns generalizing s with
  | nil => exact Ends.nil s
  | cons fn fns ih =>
      have hrounds : Ends sch.cfg env flows s _ _ :=
        iterRoundsReached_ends sch fn sch.cfg.maxRound.toNat 1 sch.cfg.initialFactor s
      rw [iterFunctionsReached, iterFunctions, List.map_append]
      cases hr : iterRounds sch env flows fn sch.cfg.maxRound.toNat 1 sch.cfg.initialFactor s with
      | error e =>
          rw [List.map_nil, List.append_nil]
          exact ⟨hrounds.passes, fun s' h => by cases h⟩
      | ok t =>
          rw [hr] at hrounds
          exact hrounds.append (iterRounds_steps hr) (ih t)

/-! ## Whole runs -/

/-- The baseline run is the first round that is recorded. -/
theorem baseline_books {sch : Scheduler} {dbs : Databases} {store : AnalyserStore}
    (h : baseline sch env flows dbs store = .ok s) : Books (store, 0) s.point := by
  unfold baseline at h
  obtain ⟨dbs', _, h⟩ := bind_eq_ok.mp h
  cases h
  exact .round (store, 0) [] _ 0

/-- The SAFE stage records at most one round. -/
theorem safeStage_books {sch : Scheduler} (h : safeStage sch env flows s = .ok s') :
    Books s.point s'.point := by
  rcases safeStage_cases h with ⟨clock, rfl⟩ | ⟨_, clock', dbs, trimmed, r, _, _, _, rfl⟩
  · exact .still s.point
  · exact .round s.point _ r s.nextRunID

theorem searchReached_books (sch : Scheduler) (s : SearchState) {p : StorePoint}
    (h : Books p s.point) :
    (p :: (searchReached sch env flows s).map SearchState.point).IsChain Books := by
  rw [searchReached, List.map_cons, List.isChain_cons_cons]
  refine ⟨h, ?_⟩
  cases hsafe : safeStage sch env flows s with
  | error e => exact List.isChain_singleton _
  | ok safe =>
      rw [List.map_cons, List.isChain_cons_cons]
      exact ⟨safeStage_books hsafe, (iterFunctionsReached_ends sch _ safe).passes.books⟩

/-- Every point is that of a state which the SAFE and then the ITER stage can step to. -/
theorem searchReached_steps {sch : Scheduler} {p : StorePoint}
    (h : p ∈ (searchReached sch env flows s).map SearchState.point) :
    ∃ t u, Steps sch.cfg env flows .SAFE s t ∧ Steps sch.cfg env flows .ITER t u ∧
      u.point = p := by
  rw [searchReached, List.map_cons] at h
  rcases List.mem_cons.mp h with rfl | h
  · exact ⟨s, s, .refl, .refl, rfl⟩
  · cases hsafe : safeStage sch env flows s with
    | error e =>
        rw [hsafe] at h
        cases h
    | ok safe =>
        rw [hsafe] at h
        rcases List.mem_cons.mp h with rfl | h
        · exact ⟨safe, safe, safeStage_steps hsafe, .refl, rfl⟩
        · obtain ⟨u, hu, hpoint⟩ := (iterFunctionsReached_ends sch _ safe).passes.steps p h
          exact ⟨safe, u, safeStage_steps hsafe, hu, hpoint⟩

/-- A run that returns a result leaves the store which its writes lead to. -/
theorem replay_storeLog {sch : Scheduler} {dbs : Databases} {store : AnalyserStore} {out : Output}
    (h : sch.run env dbs store = .ok out) :
    ∃ dbs₀ store₀, prepareRuleDatabases sch.cfg env dbs store = .ok (dbs₀, store₀) ∧
      store₀.replay (sch.storeLog env dbs store) = out.store ∧
      acceptedAsOf 0 (sch.storeLog env dbs store) = out.result.finalRunID := by
  obtain ⟨flows, dbs₀, store₀, s, safe, final, hflows, hprep, hbase, hsafe, hiter, rfl⟩ :=
    run_eq_ok h
  have hlog : sch.storeLog env dbs store =
      writeLog store₀ ((searchReached sch env flows s).map SearchState.point) := by
    simp only [Scheduler.storeLog, hprep, hflows, hbase]
  have hbooks : ((store₀, (0 : Int)) :: (searchReached sch env flows s).map
      SearchState.point).IsChain Books := searchReached_books sch s (baseline_books hbase)
  have hreplay := replay_writeLog hbooks
  have hlast : ((store₀, (0 : Int)) :: (searchReached sch env flows s).map
      SearchState.point).getLast (List.cons_ne_nil _ _) = final.point := by
    have hends := (iterFunctionsReached_ends sch (sch.functionsByType .ITER) safe).last final hiter
    simp only [searchReached, hsafe, List.map_cons]
    rw [List.getLast_cons (List.cons_ne_nil _ _), List.getLast_cons (List.cons_ne_nil _ _)]
    exact hends
  rw [hlast] at hreplay
  refine ⟨dbs₀, store₀, hprep, ?_, ?_⟩
  · rw [hlog]
    exact congrArg Prod.fst hreplay
  · rw [hlog]
    exact congrArg Prod.snd hreplay

end SnortOptimizer.Analyser
