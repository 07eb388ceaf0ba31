import SnortOptimizer.Analyser.Trim
import SnortOptimizer.Path.Basic
import Mathlib.Logic.Relation
import Mathlib.Tactic.Linarith
import Mathlib.Tactic.NormNum

/-!
# The scheduler (`analyser/scheduler/*.go`)

`Scheduler.Run` searches for a smaller rule set. It evaluates the initial rules as run 0, commits
what the SAFE functions trim without further questions, and then lets one ITER function after the
other propose candidates: each is copied to a new run id in all three Snort databases, executed,
evaluated, and accepted or rolled back by comparison with the last accepted evaluation. After a
rollback the function is asked again with half the factor.

Everything outside the scheduler is a parameter: the registered functions return what they like,
Snort raises what alerts it likes, and either may fail; the clock tells one call from the next, so
that two calls with equal arguments may have different outcomes. `factor` and all rates are exact
rationals; halving a double is exact, and the cut-off is the value of the double `0.001`.
-/

namespace SnortOptimizer.Analyser

open Text

/-! ## Data -/

inductive Instance where
  | exp
  | real
  | base
  deriving DecidableEq, Repr

def Instance.name : Instance → String
  | .exp => "exp"
  | .real => "real"
  | .base => "base"

structure RuleFPRow where
  runID : Int
  gid : Int
  sid : Int
  rev : Int
  sourceFile : String
  msg : String
  alertedFlows : Nat
  benignAlertedFlows : Nat
  maliciousAlertedFlows : Nat
  unmatchedAlerts : Nat
  fpRate : ℚ
  utilization : ℚ

/-- The database of one Snort instance; `created` says whether its file exists. -/
structure SnortDB where
  created : Bool
  rules : RuleTable
  alerts : List (Int × AlertForEval)   -- with their `run_id`, in insertion order
  ruleFP : List RuleFPRow

def SnortDB.empty : SnortDB :=
  { created := false, rules := Table.empty, alerts := [], ruleFP := [] }

structure Databases where
  exp : SnortDB
  real : SnortDB
  base : SnortDB

def Databases.get (dbs : Databases) : Instance → SnortDB
  | .exp => dbs.exp
  | .real => dbs.real
  | .base => dbs.base

def Databases.empty : Databases := { exp := .empty, real := .empty, base := .empty }

structure Config where
  analyserWorkingDir : String
  rawSnortSQLite : String
  rawRulePath : String
  maxRound : Int
  initialFactor : ℚ
  maxMissRateIncrease : ℚ
  maxFPRateIncrease : ℚ
  preserveWorkDBs : Bool

structure FunctionInput where
  dbs : Databases                  -- what the database paths lead to
  round : Nat
  sourceRunID : Int
  factor : ℚ

abbrev TrimFunction := Nat → FunctionInput → Except String (List TrimDecision)

structure RegisteredFunction where
  name : String
  type : FunctionType
  fn : TrimFunction

structure RunResult where
  runID : Int
  committed : Bool
  rolledBack : Bool
  factor : ℚ
  reason : String
  evaluation : Evaluation
  deriving DecidableEq

structure TrimDecisionRow where
  runID : Int
  rule : TrimmedRule
  committed : Bool
  deriving DecidableEq

/-- The analyser's own database. -/
structure AnalyserStore where
  runs : List RunResult
  trimDecisions : List TrimDecisionRow

structure Result where
  finalRunID : Int
  trimmedRules : List TrimmedRule
  runs : List RunResult

/-- What the scheduler is given from outside. The flows, the rule sources and the reset of the
working directory may each be a failure. -/
structure Externals where
  rt : Runtime
  resetWorkDir : Except String Unit
  rawSnortSQLite : Except String (List Rule)   -- its rules of run 0
  rawRulePath : Except String (List Rule)      -- its parsed rule files
  flows : Except String FlowSet
  snort : Nat → Instance → Int → List Rule → Except String (List AlertForEval)

structure Scheduler where
  cfg : Config
  functions : List RegisteredFunction

/-! ## The numbers of a configuration -/

/-- The defaults of `normalizeConfig`, as the doubles nearest to 0.8, 0.01 and 0.02. -/
def defaultInitialFactor : ℚ := 3602879701896397 / 4503599627370496
def defaultMissIncrease : ℚ := 5764607523034235 / 576460752303423488
def defaultFPIncrease : ℚ := 5764607523034235 / 288230376151711744

/-- The numeric part of `normalizeConfig`. -/
def normalizeNumbers (cfg : Config) : Config :=
  let factor := if cfg.initialFactor ≤ 0 then defaultInitialFactor else cfg.initialFactor
  { cfg with
    maxRound := if cfg.maxRound ≤ 0 then 4 else cfg.maxRound
    initialFactor := if 1 < factor then 1 else factor
    maxMissRateIncrease :=
      if cfg.maxMissRateIncrease = 0 then defaultMissIncrease else cfg.maxMissRateIncrease
    maxFPRateIncrease :=
      if cfg.maxFPRateIncrease = 0 then defaultFPIncrease else cfg.maxFPRateIncrease }

/-- What `normalizeConfig` makes sure of. -/
structure Config.Normalized (cfg : Config) : Prop where
  maxRound : 1 ≤ cfg.maxRound
  factor_pos : 0 < cfg.initialFactor
  factor_le : cfg.initialFactor ≤ 1

theorem normalizeNumbers_normalized (cfg : Config) : (normalizeNumbers cfg).Normalized := by
  have hdefault : 0 < defaultInitialFactor ∧ defaultInitialFactor ≤ 1 := by
    unfold defaultInitialFactor
    norm_num
  have hpos : 0 < if cfg.initialFactor ≤ 0 then defaultInitialFactor else cfg.initialFactor := by
    split
    · exact hdefault.1
    · next h => exact lt_of_not_ge h
  have hclip : ∀ f : ℚ, 0 < f → 0 < (if 1 < f then 1 else f) ∧ (if 1 < f then 1 else f) ≤ 1 := by
    intro f hf
    split
    · exact ⟨by norm_num, le_refl 1⟩
    · next h => exact ⟨hf, le_of_not_gt h⟩
  refine ⟨?_, (hclip _ hpos).1, (hclip _ hpos).2⟩
  show 1 ≤ if cfg.maxRound ≤ 0 then 4 else cfg.maxRound
  split <;> omega

/-- The double `0.001`. -/
def factorCutoff : ℚ := 1152921504606847 / 1152921504606846976

/-! ## Preparing the databases -/

def initRuleDB (cfg : Config) (env : Externals) (db : SnortDB) : Except String SnortDB :=
  if cfg.rawSnortSQLite ≠ "" then do
    let rules ← env.rawSnortSQLite
    if rules = [] then throw "raw snort sqlite has no rules with run_id=0"
    return { db with created := true, rules := insertRules db.rules 0 rules }
  else do
    let records ← env.rawRulePath
    -- `InsertBatch` returns at once when there is nothing to insert
    return if records = [] then db
      else { db with created := true, rules := insertRules db.rules 0 records }

/-- The path of an instance's database, as `newInstanceSet` makes it. -/
def Config.dbPath (cfg : Config) (inst : Instance) : String :=
  Path.join [Path.join [cfg.analyserWorkingDir, inst.name], "snort.sqlite"]

/-- Put a text in front of an error. -/
def wrapError {α : Type} (pre : String) : Except String α → Except String α
  | .ok a => .ok a
  | .error e => .error (pre ++ e)

/-- The databases `prepareRuleDatabases` starts from, together with the analyser's own store in the
same directory. -/
def startDatabases (cfg : Config) (env : Externals) (dbs : Databases) (store : AnalyserStore) :
    Except String (Databases × AnalyserStore) :=
  if cfg.preserveWorkDBs then return (dbs, store)
  else do
    env.resetWorkDir
    return (Databases.empty, { runs := [], trimDecisions := [] })

def prepareRuleDatabases (cfg : Config) (env : Externals) (dbs : Databases)
    (store : AnalyserStore) : Except String (Databases × AnalyserStore) := do
  let (dbs, store) ← startDatabases cfg env dbs store
  let exp ← wrapError "exp init rules: " (initRuleDB cfg env dbs.exp)
  let real ← wrapError "real init rules: " (initRuleDB cfg env dbs.real)
  let base ← wrapError "base init rules: " (initRuleDB cfg env dbs.base)
  return ({ exp := exp, real := real, base := base }, store)

/-! ## Running Snort -/

/-- `ensureRuleStore` of the runner: only run 0 may still import rules, and only into a database
that did not exist. -/
def ensureRuleStore (cfg : Config) (env : Externals) (inst : Instance) (runID : Int)
    (db : SnortDB) : Except String SnortDB :=
  let dbPath := cfg.dbPath inst
  if runID ≠ 0 then
    if db.created = false then
      throw ("snort db " ++ dbPath ++ " does not exist for run-id " ++ toString runID)
    else if rowsOf db.rules runID = [] then
      throw ("snort db " ++ dbPath ++ " has no rules for run-id " ++ toString runID)
    else return db
  else if db.created then return db
  else do
    let records ← env.rawRulePath
    return { db with created := true, rules := insertRules db.rules 0 records }

/-- `snortInstance.run`: the alerts Snort raises are stored for the exp instance only. -/
def runInstance (cfg : Config) (env : Externals) (clock : Nat) (inst : Instance) (runID : Int)
    (db : SnortDB) : Except String SnortDB := do
  let db ← wrapError (inst.name ++ " start: ") (ensureRuleStore cfg env inst runID db)
  let alerts ← env.snort clock inst runID (listRulesFromDB db.rules runID true)
  return if inst = .exp then { db with alerts := db.alerts ++ alerts.map fun a => (runID, a) }
    else db

/-- `loadEvalAlerts`. -/
def loadEvalAlerts (db : SnortDB) (runID : Int) : List AlertForEval :=
  (db.alerts.filter (·.1 = runID)).map Prod.snd

def ruleFPRow (stats : RuleFPStats) (runID : Int) (rule : Rule) : RuleFPRow :=
  let stat := stats.get (ruleKey rule.gid rule.sid)
  { runID := runID, gid := rule.gid, sid := rule.sid, rev := rule.rev
    sourceFile := rule.sourceFile, msg := rule.msg
    alertedFlows := stat.alertedFlows, benignAlertedFlows := stat.benignAlertedFlows
    maliciousAlertedFlows := stat.maliciousAlertedFlows
    unmatchedAlerts := stat.unmatchedAlerts
    fpRate := if 0 < stat.alertedFlows then stat.benignAlertedFlows / stat.alertedFlows else 0
    utilization :=
      if 0 < stat.alertedFlows then stat.maliciousAlertedFlows / stat.alertedFlows else 0 }

/-- `RefreshRuleFP`. -/
def refreshRuleFP (rt : Runtime) (flows : FlowSet) (runID : Int) (db : SnortDB) : SnortDB :=
  let stats := buildRuleFPStats rt flows (loadEvalAlerts db runID)
  { db with
    ruleFP := db.ruleFP.filter (·.runID ≠ runID) ++
      (listRulesFromDB db.rules runID true).map (ruleFPRow stats runID) }

/-- `runAll`: exp with its derived statistics, then real, then base. -/
def runAll (cfg : Config) (env : Externals) (flows : FlowSet) (clock : Nat) (runID : Int)
    (dbs : Databases) : Except String Databases := do
  let exp ← runInstance cfg env clock .exp runID dbs.exp
  let exp := refreshRuleFP env.rt flows runID exp
  let real ← runInstance cfg env (clock + 1) .real runID dbs.real
  let base ← runInstance cfg env (clock + 2) .base runID dbs.base
  return { exp := exp, real := real, base := base }

def evaluateRun (rt : Runtime) (flows : FlowSet) (runID : Int) (dbs : Databases) : Evaluation :=
  evaluateAlerts rt flows (loadEvalAlerts dbs.exp runID)

/-! ## Judging a candidate -/

/-- `%.6f` of a rational: rounded to even on a tie. -/
def fixed6 (x : ℚ) : String :=
  let scaled := |x| * 1000000
  let q := scaled.num.toNat / scaled.den
  let r := scaled.num.toNat % scaled.den
  let n := if 2 * r < scaled.den ∨ (2 * r = scaled.den ∧ q % 2 = 0) then q else q + 1
  let fraction := (toString (n % 1000000)).toList
  (if x < 0 then "-" else "") ++ toString (n / 1000000) ++ "."
    ++ String.ofList (List.replicate (6 - fraction.length) '0' ++ fraction)

def evaluateCandidate (cfg : Config) (accepted candidate : Evaluation) : Bool × String :=
  let missDelta := candidate.missRate - accepted.missRate
  let fpDelta := candidate.falsePositiveRate - accepted.falsePositiveRate
  if 0 < candidate.maliciousFlows ∧ cfg.maxMissRateIncrease < missDelta then
    (false, "rollback: miss_rate_delta " ++ fixed6 missDelta ++ " exceeds "
      ++ fixed6 cfg.maxMissRateIncrease)
  else if 0 < candidate.totalFlows ∧ cfg.maxFPRateIncrease < fpDelta then
    (false, "rollback: false_positive_rate_delta " ++ fixed6 fpDelta ++ " exceeds "
      ++ fixed6 cfg.maxFPRateIncrease)
  else
    (true, "commit: miss_rate_delta " ++ fixed6 missDelta ++ " false_positive_rate_delta "
      ++ fixed6 fpDelta)

/-! ## The search -/

/-- The variables of `Scheduler.Run`. `trace` is not one of them: it keeps the databases as they
were when each run was recorded. -/
structure SearchState where
  dbs : Databases
  store : AnalyserStore
  clock : Nat
  acceptedRunID : Int
  acceptedEval : Evaluation
  nextRunID : Int
  trimmedRules : List TrimmedRule
  runs : List RunResult
  trace : List Databases

/-- One function with the given input; its decisions get its name and type. -/
def executeFunction (fn : RegisteredFunction) (clock : Nat) (input : FunctionInput) :
    Except String (List TrimDecision) := do
  let decisions ← wrapError (fn.name ++ ": ") (fn.fn clock input)
  return decisions.map fun d => { d with function := fn.name, type := fn.type }

/-- `execute`: all functions of a type, one after the other. -/
def execute (input : FunctionInput) :
    List RegisteredFunction → Nat → Except String (List TrimDecision)
  | [], _ => return []
  | fn :: fns, clock => do
      let decisions ← executeFunction fn clock input
      let rest ← execute input fns (clock + 1)
      return decisions ++ rest

def Scheduler.functionsByType (sch : Scheduler) (typ : FunctionType) : List RegisteredFunction :=
  sch.functions.filter (·.type = typ)

/-- `CloneRulesForRun`. -/
def cloneRulesForRun (cfg : Config) (dbs : Databases) (fromRunID toRunID : Int)
    (decisions : List TrimmedRule) : Except String Databases := do
  let refs := decisions.map TrimmedRule.toRuleRef
  let clone (inst : Instance) : Except String SnortDB := do
    let db := dbs.get inst
    let rules ← wrapError (cfg.dbPath inst ++ " clone rules: ")
      (cloneRulesInDB db.rules fromRunID toRunID refs)
    return { db with created := true, rules := rules }
  let exp ← clone .exp
  let real ← clone .real
  let base ← clone .base
  return { exp := exp, real := real, base := base }

def setTrimRunID (values : List TrimmedRule) (runID : Int) : List TrimmedRule :=
  values.map fun r => { r with runID := runID }

/-- A candidate is copied to the next run id, executed and evaluated. -/
def tryCandidate (cfg : Config) (env : Externals) (flows : FlowSet) (s : SearchState)
    (trimmed : List TrimmedRule) : Except String (SearchState × Evaluation) := do
  let dbs ← cloneRulesForRun cfg s.dbs s.acceptedRunID s.nextRunID trimmed
  let dbs ← runAll cfg env flows s.clock s.nextRunID dbs
  return ({ s with dbs := dbs, clock := s.clock + 3 },
    evaluateRun env.rt flows s.nextRunID dbs)

/-- `InsertTrimDecisions`, `InsertRunResult` and the append to `result.Runs`. -/
def SearchState.record (s : SearchState) (trimmed : List TrimmedRule) (r : RunResult) :
    SearchState :=
  { s with
    store :=
      { runs := s.store.runs ++ [r]
        trimDecisions := s.store.trimDecisions ++ trimmed.map fun t =>
          { runID := r.runID, rule := t, committed := r.committed } }
    runs := s.runs ++ [r]
    trace := s.trace ++ [s.dbs] }

/-- The candidate becomes the accepted rule set. -/
def SearchState.commit (s : SearchState) (trimmed : List TrimmedRule) (eval : Evaluation) :
    SearchState :=
  { s with
    trimmedRules := s.trimmedRules ++ trimmed
    acceptedRunID := s.nextRunID
    acceptedEval := eval }

/-- `nextRunID++`. -/
def SearchState.advance (s : SearchState) : SearchState := { s with nextRunID := s.nextRunID + 1 }

/-- The SAFE stage. -/
def safeStage (sch : Scheduler) (env : Externals) (flows : FlowSet) (s : SearchState) :
    Except String SearchState := do
  let fns := sch.functionsByType .SAFE
  let safeDecisions ← execute
    { dbs := s.dbs, round := 0, sourceRunID := s.acceptedRunID, factor := 1 } fns s.clock
  let s := { s with clock := s.clock + fns.length }
  let safeTrimmed := aggregateAndEnrich s.dbs.exp.rules s.acceptedRunID .SAFE safeDecisions
  if safeTrimmed = [] then return s
  else do
    let trimmed := setTrimRunID safeTrimmed s.nextRunID
    let (s, eval) ← tryCandidate sch.cfg env flows s trimmed
    let s := s.record trimmed
      { runID := s.nextRunID, committed := true, rolledBack := false, factor := 1
        reason := "SAFE functions are committed directly", evaluation := eval }
    return (s.commit trimmed eval).advance

/-- How a round of an ITER function ends. -/
inductive RoundOutcome where
  | exhausted (s : SearchState)    -- nothing left to trim
  | committed (s : SearchState)
  | rolledBack (s : SearchState)

/-- The body of the inner loop, up to the choice of the next factor and run id. -/
def iterRound (sch : Scheduler) (env : Externals) (flows : FlowSet) (fn : RegisteredFunction)
    (round : Nat) (factor : ℚ) (s : SearchState) : Except String RoundOutcome := do
  let iterDecisions ← executeFunction fn s.clock
    { dbs := s.dbs, round := round, sourceRunID := s.acceptedRunID, factor := factor }
  let s := { s with clock := s.clock + 1 }
  let iterTrimmed := aggregateAndEnrich s.dbs.exp.rules s.acceptedRunID .ITER iterDecisions
  if iterTrimmed = [] then return .exhausted s
  else do
    let trimmed := setTrimRunID iterTrimmed s.nextRunID
    let (s, eval) ← tryCandidate sch.cfg env flows s trimmed
    let (committed, reason) := evaluateCandidate sch.cfg s.acceptedEval eval
    let s := s.record trimmed
      { runID := s.nextRunID, committed := committed, rolledBack := !committed, factor := factor
        reason := fn.name ++ ": " ++ reason, evaluation := eval }
    return if committed then .committed (s.commit trimmed eval) else .rolledBack s

/-- The inner loop, by the number of rounds left. A rollback that brings the factor down to the
cut-off leaves the loop before the run id is advanced. -/
def iterRounds (sch : Scheduler) (env : Externals) (flows : FlowSet) (fn : RegisteredFunction) :
    Nat → Nat → ℚ → SearchState → Except String SearchState
  | 0, _, _, s => return s
  | n + 1, round, factor, s => do
      match ← iterRound sch env flows fn round factor s with
      | .exhausted s => return s
      | .committed s => iterRounds sch env flows fn n (round + 1) factor s.advance
      | .rolledBack s =>
          if factor / 2 ≤ factorCutoff then return s
          else iterRounds sch env flows fn n (round + 1) (factor / 2) s.advance

/-- The outer loop over the ITER functions. -/
def iterFunctions (sch : Scheduler) (env : Externals) (flows : FlowSet) :
    List RegisteredFunction → SearchState → Except String SearchState
  | [], s => return s
  | fn :: fns, s => do
      let s ← iterRounds sch env flows fn sch.cfg.maxRound.toNat 1 sch.cfg.initialFactor s
      iterFunctions sch env flows fns s

/-- The baseline run. -/
def baseline (sch : Scheduler) (env : Externals) (flows : FlowSet) (dbs : Databases)
    (store : AnalyserStore) : Except String SearchState := do
  let dbs ← runAll sch.cfg env flows 0 0 dbs
  let eval := evaluateRun env.rt flows 0 dbs
  let s : SearchState :=
    { dbs := dbs, store := store, clock := 3, acceptedRunID := 0, acceptedEval := eval
      nextRunID := 1, trimmedRules := [], runs := [], trace := [] }
  return s.record []
    { runID := 0, committed := true, rolledBack := false, factor := sch.cfg.initialFactor
      reason := "baseline run", evaluation := eval }

/-- `sortTrimmedRules`: by run, then by key. -/
def sortTrimmedRules (values : List TrimmedRule) : List TrimmedRule :=
  values.insertionSort fun a b => a.runID < b.runID ∨ (a.runID = b.runID ∧ keyLe a.key b.key)

/-- What a run leaves behind: its result, the databases, and, for the record, the databases as
each run was recorded and the number of runs recorded before the ITER stage. -/
structure Output where
  result : Result
  dbs : Databases
  store : AnalyserStore
  trace : List Databases
  safeRuns : Nat

/-- `Scheduler.Run`. -/
def Scheduler.run (sch : Scheduler) (env : Externals) (dbs : Databases) (store : AnalyserStore) :
    Except String Output := do
  let (dbs, store) ← prepareRuleDatabases sch.cfg env dbs store
  let flows ← env.flows
  let s ← baseline sch env flows dbs store
  let safe ← safeStage sch env flows s
  let s ← iterFunctions sch env flows (sch.functionsByType .ITER) safe
  return {
    result :=
      { finalRunID := s.acceptedRunID
        trimmedRules := sortTrimmedRules s.trimmedRules
        runs := s.runs }
    dbs := s.dbs, store := s.store, trace := s.trace, safeRuns := safe.runs.length }

end SnortOptimizer.Analyser
