import SnortOptimizer.Sql.Schema

/-!
# Operations on a file (`sql/alerts`, `sql/profiler`, `sql/rules`, `analyser/sql/rules_clone.go`,
`server/api/queries.go`)

Everything that the program does to the tables of a file. Each operation is a schema check followed
by a statement, a script or a transaction, and may fail at any step of it; `runAll` is one
operation after another, whatever becomes of them.

The rows are kept as far as their run goes: which of them a `SELECT` chooses is in `Sql.Listing`,
what an `INSERT` is read as in `Sql.Script`.
-/

namespace SnortOptimizer.Sql

open Analyser Effects

/-! ## Records -/

/-- `types.RuleProfilerMetric`. -/
structure RuleProfilerMetric where
  runID : Int
  gid : Int
  sid : Int
  rev : Int
  checks : Int
  matches_ : Int
  alerts : Int
  timeUS : Int
  avgCheck : FloatText
  avgMatch : FloatText
  avgNonMatch : FloatText
  timeouts : Int
  suspends : Int
  ruleTimePct : FloatText
  rawLine : String
  sourceFile : String
  createdAt : String

/-- `types.ModuleProfileMetric`. -/
structure ModuleProfileMetric where
  runID : Int
  rank : Int
  module_ : String
  layer : String
  checks : Int
  timeUS : Int
  avgCheck : FloatText
  callerPct : FloatText
  totalPct : FloatText
  rawLine : String
  sourceFile : String
  createdAt : String

/-- `types.SystemProfile`. -/
structure SystemProfile where
  runID : Int
  avgCPU : FloatText
  avgMemMB : FloatText
  fp : FloatText
  fn : FloatText
  samples : Int
  createdAt : String

def ruleMetricColumns : List String :=
  ["run_id", "gid", "sid", "rev", "checks", "matches", "alerts", "time_us", "avg_check",
    "avg_match", "avg_non_match", "timeouts", "suspends", "rule_time_pct", "raw_line",
    "source_file", "created_at"]

def ruleMetricInsert (cfg : Config) (now : String) (m : RuleProfilerMetric) : Insert where
  command := ["INSERT"]
  table := "rule_profiler_metrics"
  columns := ruleMetricColumns
  values := [.int (effectiveRunID cfg m.runID), .int m.gid, .int m.sid, .int m.rev, .int m.checks,
    .int m.matches_, .int m.alerts, .int m.timeUS, .float m.avgCheck, .float m.avgMatch,
    .float m.avgNonMatch, .int m.timeouts, .int m.suspends, .float m.ruleTimePct, .str m.rawLine,
    .str m.sourceFile, .str (if m.createdAt = "" then now else m.createdAt)]

def moduleMetricColumns : List String :=
  ["run_id", "rank", "module", "layer", "checks", "time_us", "avg_check", "caller_pct",
    "total_pct", "raw_line", "source_file", "created_at"]

def moduleMetricInsert (cfg : Config) (now : String) (m : ModuleProfileMetric) : Insert where
  command := ["INSERT"]
  table := "module_profile_metrics"
  columns := moduleMetricColumns
  values := [.int (effectiveRunID cfg m.runID), .int m.rank, .str m.module_, .str m.layer,
    .int m.checks, .int m.timeUS, .float m.avgCheck, .float m.callerPct, .float m.totalPct,
    .str m.rawLine, .str m.sourceFile, .str (if m.createdAt = "" then now else m.createdAt)]

def systemProfileColumns : List String :=
  ["run_id", "avg_cpu", "avg_mem_mb", "fp", "fn", "samples", "created_at"]

def systemProfileInsert (cfg : Config) (now : String) (p : SystemProfile) : Insert where
  command := ["INSERT"]
  table := "system_profiles"
  columns := systemProfileColumns
  values := [.int (effectiveRunID cfg p.runID), .float p.avgCPU, .float p.avgMemMB, .float p.fp,
    .float p.fn, .int p.samples, .str (if p.createdAt = "" then now else p.createdAt)]

/-! ## Statements on rows -/

/-- A statement that names some columns of a table and leaves it with other rows. -/
def changeRows (T : TableName) (columns : List String) (f : StoredTable → List StoredRow) :
    Db Unit :=
  change fun d => (d.findTable T columns).map fun t => d.set T { t with rows := f t }

def Insert.row (i : Insert) : StoredRow := ⟨fun c => (i.columns.zip i.values).lookup c⟩

def insertRow (T : TableName) (i : Insert) : Db Unit :=
  changeRows T i.columns fun t => t.rows ++ [i.row]

/-- `INSERT OR IGNORE`: a row that a constraint refuses is left out. -/
def insertOrIgnore (T : TableName) (i : Insert) : Db Unit := fun s =>
  match insertRow T i s with
  | .error .constraint next => .ok () next
  | result => result

/-- The rows that a `SELECT` of some columns chooses from. -/
def select (T : TableName) (columns : List String) : Db (List StoredRow) :=
  query fun d => (d.find T columns).map StoredTable.rows

def StoredRow.set (r : StoredRow) (column : String) (v : Value) : StoredRow :=
  ⟨Function.update r.value column (some v)⟩

def enabledColumns : List String := ["enabled", "run_id", "gid", "sid"]

/-- `UPDATE rules SET enabled = ... WHERE run_id = ... AND gid = ... AND sid = ...`. -/
def updateEnabled (enabled runID gid sid : Int) : Db Unit :=
  changeRows .rules enabledColumns fun t =>
    t.rows.map fun r =>
      if t.holds r "run_id" runID && t.holds r "gid" gid && t.holds r "sid" sid then
        r.set "enabled" (.int enabled)
      else r

/-- `DELETE FROM rules WHERE run_id = ...`. -/
def deleteRun (runID : Int) : Db Unit :=
  changeRows .rules ["run_id"] fun t => t.rows.filter (!t.holds · "run_id" runID)

/-- A row of the `SELECT` under another run. -/
def copyOf (runID : Int) (now : String) (r : StoredRow) : StoredRow :=
  ⟨fun c =>
    if c = "run_id" then some (.int runID)
    else if c = "created_at" then some (.str now)
    else if c ∈ ruleColumns then r.value c
    else none⟩

/-- `INSERT INTO rules (...) SELECT ... FROM ... WHERE run_id = ...`, given the rows of the
source. -/
def Database.insertCopies (d : Database) (rows : Except DbError (List StoredRow)) (runID : Int)
    (now : String) : Except DbError Database :=
  match rows with
  | .error e => .error e
  | .ok rows =>
      (d.findTable .rules ruleColumns).map fun t =>
        d.set .rules { t with rows := t.rows ++ rows.map (copyOf runID now) }

/-- The rows of a run. -/
def Database.runRows (d : Database) (runID : Int) : Except DbError (List StoredRow) :=
  (d.find .rules ruleColumns).map fun t => t.rows.filter (t.holds · "run_id" runID)

/-! ## Operations -/

/-- A batch in a transaction, after the schema check; nothing is done for no records. -/
def insertBatch {α : Type} (ensure : Db Unit) (insert : α → Db Unit) (batch : List α) : Db Unit :=
  if batch.isEmpty then pure ()
  else do
    ensure
    runScript [transaction (batch.forM insert)]

/-- `alerts.InsertBatch`. -/
def insertAlerts (cfg : Config) (now : String) : List Alert → Db Unit :=
  insertBatch ensureAlerts fun a => insertRow .alerts (alertInsert cfg now a)

/-- `profiler.InsertBatch`. -/
def insertMetrics (cfg : Config) (now : String) : List ProfilerMetric → Db Unit :=
  insertBatch ensureProfilerMetrics fun m => insertRow .profilerMetrics (metricInsert cfg now m)

def insertRuleBatch (cfg : Config) (now : String) : List RuleProfilerMetric → Db Unit :=
  insertBatch ensureRuleProfilerMetrics fun m =>
    insertRow .ruleProfilerMetrics (ruleMetricInsert cfg now m)

def insertModuleBatch (cfg : Config) (now : String) : List ModuleProfileMetric → Db Unit :=
  insertBatch ensureModuleProfileMetrics fun m =>
    insertRow .moduleProfileMetrics (moduleMetricInsert cfg now m)

def insertSystemProfile (cfg : Config) (now : String) (p : SystemProfile) : Db Unit := do
  ensureSystemProfiles
  runScript [insertRow .systemProfiles (systemProfileInsert cfg now p)]

/-- `rules.InsertBatch`. -/
def insertRules (cfg : Config) (now : String) : List Rule → Db Unit :=
  insertBatch ensureRules fun r => insertOrIgnore .rules (ruleInsert cfg now r)

def selectAlertColumns : List String :=
  ["id", "run_id", "timestamp", "pkt_num", "proto", "pkt_gen", "pkt_len", "dir", "src_ap",
    "dst_ap", "gid", "sid", "rev", "rule", "action", "raw_json", "created_at"]

def selectMetricColumns : List String :=
  ["id", "run_id", "section", "module", "metric", "value", "percent", "unit", "raw_line",
    "source_file", "created_at"]

def selectRuleColumns : List String :=
  ["run_id", "sid", "gid", "rev", "action", "proto", "src_net", "src_port", "direction", "dst_net",
    "dst_port", "msg", "classtype", "enabled", "source_file", "raw_text"]

/-- The conditions of a `List` name columns of its `SELECT` only. -/
def listTable (ensure : Db Unit) (T : TableName) (columns : List String) :
    Db (List StoredRow) := do
  ensure
  select T columns

/-- `alerts.List`, before the conditions. -/
def selectAlerts : Db (List StoredRow) := listTable ensureAlerts .alerts selectAlertColumns

/-- `profiler.List`, before the conditions. -/
def selectMetrics : Db (List StoredRow) :=
  listTable ensureProfilerMetrics .profilerMetrics selectMetricColumns

/-- `rules.List`, before the conditions. -/
def selectRules : Db (List StoredRow) := listTable ensureRules .rules selectRuleColumns

def setEnabled (runID gid sid : Int) (enabled : Bool) : Db Unit := do
  ensureRules
  runScript [updateEnabled (if enabled then 1 else 0) runID gid sid]

/-- `TableCount`. -/
structure TableCount where
  total : Nat
  run : Nat
  deriving DecidableEq, Repr

def countTable (runID : Int) (T : TableName) : Db (TableName × TableCount) := do
  if ← tableExists T then
    let total ← query fun d => (d.find T []).map fun t => t.rows.length
    let run ← query fun d =>
      (d.find T ["run_id"]).map fun t => t.rows.countP (t.holds · "run_id" runID)
    pure (T, ⟨total, run⟩)
  else pure (T, ⟨0, 0⟩)

def countTables (runID : Int) : Db (List (TableName × TableCount)) :=
  [.alerts, .rules, .profilerMetrics, .ruleProfilerMetrics, .moduleProfileMetrics,
    .systemProfiles].mapM (countTable runID)

/-- The statement is prepared, and fails then, even if there is nothing to disable. -/
def cloneRulesInDB (fromRunID toRunID : Int) (now : String) (decisions : List RuleRef) :
    Db Unit := do
  ensureRules
  transaction do
    deleteRun toRunID
    change fun d => d.insertCopies (d.runRows fromRunID) toRunID now
    query fun d => (d.findTable .rules enabledColumns).map fun _ => ()
    decisions.forM fun d => updateEnabled 0 toRunID d.gid d.sid

/-- The table as `copyRulesBetweenDBs` creates it. -/
def copyTableColumns : List String :=
  ["run_id", "sid", "gid", "rev", "action", "proto", "src_net", "src_port", "direction", "dst_net",
    "dst_port", "msg", "classtype", "enabled", "source_file", "raw_text", "created_at"]

/-- The file is the target; the source, `none` if there is no such file, is another one and only
read. -/
def copyRulesBetweenDBs (source : Option Database) (sourceAbs now : String)
    (sourceRunID targetRunID : Int) : Db Unit := do
  attempt   -- the paths, `Stat` and `MkdirAll`
  match source with
  | none => throw (.fault ("stat " ++ sourceAbs ++ ": no such file or directory"))
  | some source => do
      attempt   -- `ATTACH DATABASE`
      createTable .rules copyTableColumns
      deleteRun targetRunID
      change fun d => d.insertCopies (source.runRows sourceRunID) targetRunID now
      let copied ← query fun d =>
        (d.find .rules ["run_id"]).map fun t => t.rows.countP (t.holds · "run_id" targetRunID)
      if copied = 0 then
        throw (.noRules ("source db " ++ sourceAbs ++ " has no rules for run-id "
          ++ toString sourceRunID))
      else pure ()

/-- `rules.Reset`. -/
def resetRules : Db Unit := do
  ensureRules
  runScript [changeRows .rules [] fun _ => []]

/-- The file without anything in it, which is also how a missing file appears. -/
def Database.removed (d : Database) : Database := ⟨fun _ => none, [], d.drops⟩

/-- `schema.Reset`: the file, then its two companions. -/
def resetFile : Db Unit := do
  attempt
  modify fun s => { s with file := s.file.removed, ensured := fun _ => false }
  attempt
  attempt

inductive Op
  | ensureAll
  | ensureAlerts
  | ensureProfiler
  | ensureProfilerMetrics
  | ensureRuleProfilerMetrics
  | ensureModuleProfileMetrics
  | ensureSystemProfiles
  | ensureRules
  | ensureRuleFP
  | insertAlerts (cfg : Config) (now : String) (batch : List Alert)
  | insertMetrics (cfg : Config) (now : String) (metrics : List ProfilerMetric)
  | insertRuleBatch (cfg : Config) (now : String) (metrics : List RuleProfilerMetric)
  | insertModuleBatch (cfg : Config) (now : String) (metrics : List ModuleProfileMetric)
  | insertSystemProfile (cfg : Config) (now : String) (profile : SystemProfile)
  | insertRules (cfg : Config) (now : String) (records : List Rule)
  | listAlerts
  | listMetrics
  | listRules
  | setEnabled (runID gid sid : Int) (enabled : Bool)
  | countTables (runID : Int)
  | cloneRulesInDB (fromRunID toRunID : Int) (now : String) (decisions : List RuleRef)
  | copyRulesBetweenDBs (source : Option Database) (sourceAbs now : String)
      (sourceRunID targetRunID : Int)
  | resetRules
  | resetFile

def runOp : Op → Db Unit
  | .ensureAll => ensureAll
  | .ensureAlerts => ensureAlerts
  | .ensureProfiler => ensureProfiler
  | .ensureProfilerMetrics => ensureProfilerMetrics
  | .ensureRuleProfilerMetrics => ensureRuleProfilerMetrics
  | .ensureModuleProfileMetrics => ensureModuleProfileMetrics
  | .ensureSystemProfiles => ensureSystemProfiles
  | .ensureRules => ensureRules
  | .ensureRuleFP => ensureRuleFP
  | .insertAlerts cfg now batch => insertAlerts cfg now batch
  | .insertMetrics cfg now metrics => insertMetrics cfg now metrics
  | .insertRuleBatch cfg now metrics => insertRuleBatch cfg now metrics
  | .insertModuleBatch cfg now metrics => insertModuleBatch cfg now metrics
  | .insertSystemProfile cfg now profile => insertSystemProfile cfg now profile
  | .insertRules cfg now records => insertRules cfg now records
  | .listAlerts => do let _ ← selectAlerts
  | .listMetrics => do let _ ← selectMetrics
  | .listRules => do let _ ← selectRules
  | .setEnabled runID gid sid enabled => setEnabled runID gid sid enabled
  | .countTables runID => do let _ ← countTables runID
  | .cloneRulesInDB fromRunID toRunID now decisions =>
      cloneRulesInDB fromRunID toRunID now decisions
  | .copyRulesBetweenDBs source sourceAbs now sourceRunID targetRunID =>
      copyRulesBetweenDBs source sourceAbs now sourceRunID targetRunID
  | .resetRules => resetRules
  | .resetFile => resetFile

/-- One operation after another, whether they succeed or not. -/
def runAll (ops : List Op) (s : Session) : Session := ops.foldl (fun s op => after (runOp op) s) s

end SnortOptimizer.Sql
