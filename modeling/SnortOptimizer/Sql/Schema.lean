import SnortOptimizer.Sql.Database

/-!
# Schema checks (`sql/schema/schema.go`, `analyser/sql/rule_fp.go`)

Whoever reads or writes a table calls an `Ensure` function first, which creates the table and its
indexes where they are missing. A table of an earlier version that lacks a column the program goes
by, or has one it has given up, is dropped with everything in it and created again.

Whether it does is decided by one to three columns and by the exact spelling of the names, while
`CREATE TABLE IF NOT EXISTS` finds a table in any spelling. `ensureTable_ok` says what a check that
returns without an error leaves of a table: the one that was there, or the current one, empty.
-/

namespace SnortOptimizer.Sql

open Effects

/-! ## Statements on the schema -/

def Value.isInt : Value → Int → Bool
  | .int m, n => m = n
  | _, _ => false

/-- A table that has just been created. Its numbers are compared as such. -/
def createdTable (T : TableName) (columns : List String) : StoredTable where
  name := T.text
  view := false
  columns := columns
  compares _ v n := v.isInt n
  rows := []

/-- `CREATE TABLE IF NOT EXISTS`; a view counts as existing. -/
def Database.create (d : Database) (T : TableName) (columns : List String) : Database :=
  match d.tables T with
  | some _ => d
  | none => d.set T (createdTable T columns)

def createTable (T : TableName) (columns : List String) : Db Unit :=
  change fun d => .ok (d.create T columns)

/-- `CREATE INDEX IF NOT EXISTS`: the columns are looked at only if there is no such index. -/
def Database.createIndex (d : Database) (T : TableName) (index : String × List String) :
    Except DbError Database :=
  match d.findTable T [] with
  | .error e => .error e
  | .ok _ =>
      if d.indexes.any (sameName index.1 ·.name) then .ok d
      else
        match d.find T index.2 with
        | .error e => .error e
        | .ok _ => .ok { d with indexes := d.indexes ++ [⟨index.1, some T⟩] }

def createIndex (T : TableName) (index : String × List String) : Db Unit :=
  change fun d => d.createIndex T index

/-- `DROP TABLE IF EXISTS`. -/
def Database.dropTable (d : Database) (T : TableName) : Except DbError Database :=
  match d.tables T with
  | none => .ok d
  | some t => if t.view then .error (.isView T) else .ok (d.drop T)

def dropTable (T : TableName) : Db Unit := change fun d => d.dropTable T

/-- What `sqlite_master` lists as a table, under exactly its name. -/
def StoredTable.listedAs (t : StoredTable) (T : TableName) : Bool := !t.view && t.name == T.text

def tableExists (T : TableName) : Db Bool :=
  query fun d => .ok ((d.tables T).any (·.listedAs T))

/-- The keys of the map that `tableColumns` returns. -/
def StoredTable.columnNames (t : StoredTable) : List String := t.columns.filter (· ≠ "")

def tableColumns (T : TableName) : Db (List String) :=
  query fun d => .ok ((d.tables T).elim [] StoredTable.columnNames)

/-- The loops of `recreateIncompatibleTable`. -/
def incompatible (columns required forbidden : List String) : Bool :=
  required.any (!columns.contains ·) || forbidden.any (columns.contains ·)

def recreateIncompatibleTable (T : TableName) (required forbidden : List String) : Db Unit := do
  if ← tableExists T then
    let columns ← tableColumns T
    if incompatible columns required forbidden then dropTable T else pure ()
  else pure ()

/-! ## The tables -/

/-- What an `Ensure` function says of its table. -/
structure TableSchema where
  required : List String
  forbidden : List String
  columns : List String
  indexes : List (String × List String)
  lastIndexes : List (String × List String)

/-- The script that creates a table with its indexes, after `PRAGMA journal_mode=WAL`. -/
def createScript (T : TableName) (schema : TableSchema) : Db Unit :=
  runScript (attempt :: createTable T schema.columns :: schema.indexes.map (createIndex T))

/-- The check has returned without an error. -/
def markEnsured (T : TableName) : Db Unit :=
  modify fun s => { s with ensured := Function.update s.ensured T true }

def checkTable (T : TableName) (schema : TableSchema) : Db Unit := do
  recreateIncompatibleTable T schema.required schema.forbidden
  createScript T schema
  runScript (schema.lastIndexes.map (createIndex T))

/-- An `Ensure` function. -/
def ensureTable (T : TableName) (schema : TableSchema) : Db Unit := do
  checkTable T schema
  markEnsured T

def alertsSchema : TableSchema where
  required := ["run_id"]
  forbidden := []
  columns := ["id", "run_id", "timestamp", "pkt_num", "proto", "pkt_gen", "pkt_len", "dir",
    "src_ap", "dst_ap", "gid", "sid", "rev", "rule", "action", "raw_json", "source_file",
    "created_at"]
  indexes := [("idx_alerts_sid", ["sid"]), ("idx_alerts_created_at", ["created_at"]),
    ("idx_alerts_source_file", ["source_file"])]
  lastIndexes := [("idx_alerts_run_id", ["run_id"])]

def profilerMetricsSchema : TableSchema where
  required := ["run_id"]
  forbidden := []
  columns := ["id", "run_id", "section", "module", "metric", "value", "percent", "unit",
    "raw_line", "source_file", "created_at"]
  indexes := [("idx_profiler_section_module", ["section", "module"]),
    ("idx_profiler_created_at", ["created_at"])]
  lastIndexes := [("idx_profiler_run_id", ["run_id"])]

def ruleProfilerMetricsSchema : TableSchema where
  required := ["run_id"]
  forbidden := []
  columns := ["id", "run_id", "gid", "sid", "rev", "checks", "matches", "alerts", "time_us",
    "avg_check", "avg_match", "avg_non_match", "timeouts", "suspends", "rule_time_pct", "raw_line",
    "source_file", "created_at"]
  indexes := [("idx_rule_profiler_rule", ["gid", "sid", "rev"])]
  lastIndexes := [("idx_rule_profiler_run_id", ["run_id"])]

def moduleProfileMetricsSchema : TableSchema where
  required := ["run_id"]
  forbidden := []
  columns := ["id", "run_id", "rank", "module", "layer", "checks", "time_us", "avg_check",
    "caller_pct", "total_pct", "raw_line", "source_file", "created_at"]
  indexes := [("idx_module_profile_module", ["module"])]
  lastIndexes := [("idx_module_profile_run_id", ["run_id"])]

def systemProfilesSchema : TableSchema where
  required := ["run_id", "fp", "fn"]
  forbidden := []
  columns := ["id", "run_id", "avg_cpu", "avg_mem_mb", "fp", "fn", "samples", "created_at"]
  indexes := []
  lastIndexes := [("idx_system_profiles_run_id", ["run_id"])]

def rulesSchema : TableSchema where
  required := ["run_id"]
  forbidden := ["id"]
  columns := ["run_id", "sid", "gid", "rev", "action", "proto", "src_net", "src_port", "direction",
    "dst_net", "dst_port", "msg", "classtype", "enabled", "source_file", "raw_text", "created_at"]
  indexes := [("idx_rules_sid", ["sid"]), ("idx_rules_enabled", ["enabled"])]
  lastIndexes := [("idx_rules_run_id", ["run_id"]),
    ("idx_rules_run_source_raw", ["run_id", "source_file", "raw_text"])]

/-- No column of `rule_FP` is required or forbidden: `EnsureRuleFP` takes the table as it is. -/
def ruleFPSchema : TableSchema where
  required := []
  forbidden := []
  columns := ["run_id", "gid", "sid", "rev", "source_file", "msg", "alerted_flows",
    "benign_alerted_flows", "malicious_alerted_flows", "unmatched_alerts", "fp_rate", "utilization",
    "created_at"]
  indexes := [("idx_rule_FP_run_id", ["run_id"]), ("idx_rule_FP_fp_rate", ["run_id", "fp_rate"]),
    ("idx_rule_FP_utilization", ["run_id", "utilization"])]
  lastIndexes := []

def schemaOf : TableName → TableSchema
  | .alerts => alertsSchema
  | .profilerMetrics => profilerMetricsSchema
  | .ruleProfilerMetrics => ruleProfilerMetricsSchema
  | .moduleProfileMetrics => moduleProfileMetricsSchema
  | .systemProfiles => systemProfilesSchema
  | .rules => rulesSchema
  | .ruleFP => ruleFPSchema

def ensureAlerts : Db Unit := ensureTable .alerts alertsSchema

def ensureProfilerMetrics : Db Unit := ensureTable .profilerMetrics profilerMetricsSchema

def ensureRuleProfilerMetrics : Db Unit :=
  ensureTable .ruleProfilerMetrics ruleProfilerMetricsSchema

def ensureModuleProfileMetrics : Db Unit :=
  ensureTable .moduleProfileMetrics moduleProfileMetricsSchema

def ensureProfiler : Db Unit := do
  ensureProfilerMetrics
  ensureRuleProfilerMetrics
  ensureModuleProfileMetrics

def ensureSystemProfiles : Db Unit := ensureTable .systemProfiles systemProfilesSchema

def ensureRules : Db Unit := ensureTable .rules rulesSchema

def ensureAll : Db Unit := do
  ensureAlerts
  ensureProfiler
  ensureSystemProfiles
  ensureRules

def ensureRuleFP : Db Unit := do
  createScript .ruleFP ruleFPSchema
  markEnsured .ruleFP

/-! ## What a check leaves -/

/-- The check drops the table. -/
def TableSchema.discards (schema : TableSchema) (T : TableName) (t : StoredTable) : Bool :=
  t.listedAs T && incompatible t.columnNames schema.required schema.forbidden

/-- The table after the check. -/
def TableSchema.settle (schema : TableSchema) (T : TableName) :
    Option StoredTable → StoredTable
  | none => createdTable T schema.columns
  | some t => if schema.discards T t then createdTable T schema.columns else t

/-- The file after `recreateIncompatibleTable`. -/
def Database.recreate (d : Database) (T : TableName) (schema : TableSchema) : Database :=
  if (d.tables T).any (schema.discards T) then d.drop T else d

theorem dropTable_listed {d : Database} {T : TableName} {t : StoredTable}
    (ht : d.tables T = some t) (hlisted : t.listedAs T = true) :
    d.dropTable T = .ok (d.drop T) := by
  have hview : t.view = false := by
    rw [StoredTable.listedAs, Bool.and_eq_true, Bool.not_eq_true'] at hlisted
    exact hlisted.1
  rw [Database.dropTable, ht]
  simp [hview]

theorem tableExists_ok {T : TableName} {s s' : Session} {listed : Bool}
    (h : tableExists T s = .ok listed s') :
    (s.file.tables T).any (·.listedAs T) = listed ∧ s.Quiet s' :=
  ⟨Except.ok.inj (query_ok h).1, (query_ok h).2⟩

theorem tableColumns_ok {T : TableName} {s s' : Session} {columns : List String}
    (h : tableColumns T s = .ok columns s') :
    (s.file.tables T).elim [] StoredTable.columnNames = columns ∧ s.Quiet s' :=
  ⟨Except.ok.inj (query_ok h).1, (query_ok h).2⟩

theorem Session.Quiet.trans {s t u : Session} (h : s.Quiet t) (h' : t.Quiet u) : s.Quiet u :=
  ⟨h'.1.trans h.1, h'.2.trans h.2⟩

theorem recreate_ok {T : TableName} {schema : TableSchema} {s s' : Session} {u : Unit}
    (h : recreateIncompatibleTable T schema.required schema.forbidden s = .ok u s') :
    s'.file = s.file.recreate T schema ∧ s'.ensured = s.ensured := by
  obtain ⟨listed, s₁, hlisted, h⟩ := bind_eq_ok.mp h
  obtain ⟨hlisted, hquiet⟩ := tableExists_ok hlisted
  rw [Database.recreate]
  cases listed with
  | false =>
      -- missing, a view, or spelled in another way: nothing is dropped
      obtain ⟨-, rfl⟩ := pure_eq_ok.mp h
      have hkept : (s.file.tables T).any (schema.discards T) = false := by
        cases ht : s.file.tables T with
        | none => rfl
        | some t =>
            rw [ht, Option.any_some] at hlisted
            rw [Option.any_some, TableSchema.discards, hlisted, Bool.false_and]
      rw [hkept]
      exact hquiet
  | true =>
      -- nothing happens to the file between the two queries and the statement
      obtain ⟨t, ht, hl⟩ := (Option.any_eq_true _ _).mp hlisted
      obtain ⟨columns, s₂, hcolumns, h⟩ := bind_eq_ok.mp h
      obtain ⟨hcolumns, hquiet₂⟩ := tableColumns_ok hcolumns
      have hquiet := hquiet.trans hquiet₂
      rw [hquiet₂.1.symm.trans hquiet.1, ht, Option.elim_some] at hcolumns
      subst hcolumns
      rw [ht, Option.any_some, TableSchema.discards, hl, Bool.true_and]
      split at h
      · next hin =>
          obtain ⟨hdrop, hensured⟩ := change_ok h
          rw [hquiet.1, dropTable_listed ht hl] at hdrop
          rw [if_pos hin]
          exact ⟨(Except.ok.inj hdrop).symm, hensured.trans hquiet.2⟩
      · next hin =>
          obtain ⟨-, rfl⟩ := pure_eq_ok.mp h
          rw [if_neg hin]
          exact hquiet

/-- The tables are as before. -/
def SameTables (s s' : Session) : Prop := s'.file.tables = s.file.tables

instance sameTables_refl : Std.Refl SameTables := ⟨fun _ => rfl⟩

instance sameTables_trans : IsTrans Session SameTables := ⟨fun _ _ _ h h' => h'.trans h⟩

theorem Session.Quiet.sameTables (s s' : Session) (h : s.Quiet s') : SameTables s s' :=
  congrArg Database.tables h.1

/-- An index more, or the file as it is. -/
theorem Database.createIndex_ok {d d' : Database} {T : TableName} {index : String × List String}
    (h : d.createIndex T index = .ok d') : ∃ indexes, d' = { d with indexes } := by
  rw [createIndex] at h
  split at h
  · cases h
  · split at h
    · cases h
      exact ⟨d.indexes, rfl⟩
    · split at h
      · cases h
      · cases h
        exact ⟨_, rfl⟩

theorem keeps_createIndex_tables (T : TableName) (index : String × List String) :
    Keeps SameTables (createIndex T index) := by
  apply keeps_change Session.Quiet.sameTables
  intro s s' h _
  obtain ⟨indexes, heq⟩ := Database.createIndex_ok h
  rw [SameTables, heq]

theorem keeps_indexes_tables (T : TableName) (indexes : List (String × List String)) :
    ∀ x ∈ indexes.map (createIndex T), Keeps SameTables x := by
  intro x hx
  obtain ⟨index, -, rfl⟩ := List.mem_map.mp hx
  exact keeps_createIndex_tables T index

theorem createScript_ok {T : TableName} {schema : TableSchema} {s s' : Session} {u : Unit}
    (h : createScript T schema s = .ok u s') :
    s'.file.tables = (s.file.create T schema.columns).tables := by
  obtain ⟨_, s₁, h₁, h⟩ := bind_eq_ok.mp h
  obtain ⟨_, s₂, h₂, h⟩ := bind_eq_ok.mp h
  obtain ⟨_, s₃, h₃, h⟩ := bind_eq_ok.mp h
  have hopened : attempt s₁ = .ok _ s₂ := h₂
  have hcreated : createTable T schema.columns s₂ = .ok _ s₃ := h₃
  have hfile : s₂.file = s.file := ((query_ok h₁).2.trans (query_ok hopened).2).1
  have hcreated := Except.ok.inj (change_ok hcreated).1
  rw [hfile] at hcreated
  have hsame : SameTables s₃ s' :=
    (Keeps.forM (keeps_indexes_tables T schema.indexes)).ok h
  rw [hcreated]
  exact hsame

theorem create_recreate_self (d : Database) (T : TableName) (schema : TableSchema) :
    ((d.recreate T schema).create T schema.columns).tables T =
      some (schema.settle T (d.tables T)) := by
  rw [Database.recreate]
  cases ht : d.tables T with
  | none =>
      rw [Option.any_none, if_neg Bool.false_ne_true, Database.create, ht]
      exact Database.set_tables_self _ _ _
  | some t =>
      rw [Option.any_some, TableSchema.settle]
      split
      · rw [Database.create, Database.drop_tables_self]
        exact Database.set_tables_self _ _ _
      · rw [Database.create, ht]
        exact ht

theorem create_recreate_ne (d : Database) {T U : TableName} (hne : U ≠ T) (schema : TableSchema) :
    ((d.recreate T schema).create T schema.columns).tables U = d.tables U := by
  have hrecreate : (d.recreate T schema).tables U = d.tables U := by
    rw [Database.recreate]
    split
    · exact Database.drop_tables_ne d hne
    · rfl
  rw [Database.create]
  split
  · exact hrecreate
  · rw [Database.set_tables_ne _ hne, hrecreate]

/-- **A check that returns without an error** leaves the table that was there if it is not to be
dropped, and the current one otherwise; the other tables stay. -/
theorem checkTable_ok {T : TableName} {schema : TableSchema} {s s' : Session} {u : Unit}
    (h : checkTable T schema s = .ok u s') :
    s'.file.tables T = some (schema.settle T (s.file.tables T)) ∧
      ∀ U, U ≠ T → s'.file.tables U = s.file.tables U := by
  obtain ⟨_, s₁, h₁, h⟩ := bind_eq_ok.mp h
  obtain ⟨_, s₂, h₂, h⟩ := bind_eq_ok.mp h
  have hlast : SameTables s₂ s' :=
    (keeps_runScript Session.Quiet.sameTables (keeps_indexes_tables T schema.lastIndexes)).ok h
  have htables : s'.file.tables = ((s.file.recreate T schema).create T schema.columns).tables := by
    rw [← (recreate_ok h₁).1, ← createScript_ok h₂]
    exact hlast
  rw [htables]
  exact ⟨create_recreate_self _ _ _, fun U hne => create_recreate_ne _ hne _⟩

theorem markEnsured_ok {T : TableName} {s s' : Session} {u : Unit}
    (h : markEnsured T s = .ok u s') :
    s' = { s with ensured := Function.update s.ensured T true } := by
  cases h
  rfl

theorem ensureTable_ok {T : TableName} {schema : TableSchema} {s s' : Session} {u : Unit}
    (h : ensureTable T schema s = .ok u s') :
    s'.file.tables T = some (schema.settle T (s.file.tables T)) ∧
      ∀ U, U ≠ T → s'.file.tables U = s.file.tables U := by
  obtain ⟨_, s₁, hcheck, hmark⟩ := bind_eq_ok.mp h
  obtain rfl := markEnsured_ok hmark
  have hsettled := checkTable_ok hcheck
  exact hsettled

/-- The check of `rule_FP` is one that drops nothing. -/
theorem createScript_ruleFP_ok {s s' : Session} {u : Unit}
    (h : createScript .ruleFP ruleFPSchema s = .ok u s') :
    s'.file.tables .ruleFP = some (ruleFPSchema.settle .ruleFP (s.file.tables .ruleFP)) := by
  have hnone : ∀ t, ruleFPSchema.discards .ruleFP t = false := fun t => Bool.and_false _
  have hrecreate : s.file.recreate .ruleFP ruleFPSchema = s.file := by
    rw [Database.recreate]
    cases s.file.tables .ruleFP with
    | none => rfl
    | some t => rw [Option.any_some, hnone, if_neg Bool.false_ne_true]
  rw [createScript_ok h, ← create_recreate_self, hrecreate]

/-! ## Checks that fail -/

/-- A check of the columns that fails has changed nothing, and not for want of a column. -/
theorem recreate_error {T : TableName} {required forbidden : List String} {s s' : Session}
    {e : DbError} (h : recreateIncompatibleTable T required forbidden s = .error e s') :
    s.Quiet s' ∧ ¬ e.IsNoColumn := by
  rcases bind_eq_error.mp h with h | ⟨listed, s₁, hlisted, h⟩
  · exact ⟨query_error h, fun he => nomatch query_noColumn h he⟩
  · obtain ⟨-, hquiet⟩ := tableExists_ok hlisted
    cases listed with
    | false => cases h
    | true =>
        rcases bind_eq_error.mp h with h | ⟨columns, s₂, hcolumns, h⟩
        · exact ⟨hquiet.trans (query_error h), fun he => nomatch query_noColumn h he⟩
        · have hquiet := hquiet.trans (tableColumns_ok hcolumns).2
          split at h
          · refine ⟨hquiet.trans (change_error h), fun he => ?_⟩
            obtain ⟨U, column, rfl⟩ := he
            have hdrop := change_noColumn h ⟨U, column, rfl⟩
            rw [Database.dropTable] at hdrop
            split at hdrop
            · cases hdrop
            · split at hdrop
              · cases hdrop
              · cases hdrop
          · cases h

end SnortOptimizer.Sql
