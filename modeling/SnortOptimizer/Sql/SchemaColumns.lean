import SnortOptimizer.Sql.SchemaRuns

/-!
# The columns that the stores name

A schema check looks at three columns at most, while the statements of the stores name up to
seventeen. An old table that has the few and lacks others is kept as it is, and then every batch
fails. `usable_iff` says when a check that returns without an error has made the inserts possible.
-/

namespace SnortOptimizer.Sql

open Analyser Effects

variable {removals : List Removal} {T : TableName}

/-! ## Tables with all columns -/

/-- The columns of the `INSERT` statements. -/
def insertColumns : TableName → List String
  | .alerts => alertColumns
  | .profilerMetrics => metricColumns
  | .ruleProfilerMetrics => ruleMetricColumns
  | .moduleProfileMetrics => moduleMetricColumns
  | .systemProfiles => systemProfileColumns
  | .rules => ruleColumns
  | .ruleFP => ruleFPSchema.columns   -- `RefreshRuleFP` names them all

/-- The columns of the `SELECT` lists. -/
def selectColumns : TableName → List String
  | .alerts => selectAlertColumns
  | .profilerMetrics => selectMetricColumns
  | .rules => selectRuleColumns
  | _ => []

def namedColumns (T : TableName) : List String := insertColumns T ++ selectColumns T

def StoredTable.HasNamed (T : TableName) (t : StoredTable) : Prop :=
  ∀ c ∈ namedColumns T, t.hasColumn c = true

/-- The table has all columns, or will have them because the check creates it again. -/
def Complete (T : TableName) (d : Database) : Prop :=
  ∀ t, d.tables T = some t → (schemaOf T).discards T t = true ∨ t.HasNamed T

theorem hasColumn_of_mem {t : StoredTable} {c : String} (h : c ∈ t.columns) :
    t.hasColumn c = true :=
  List.any_eq_true.mpr ⟨c, h, decide_eq_true rfl⟩

theorem hasNamed_createdTable (T : TableName) :
    (createdTable T (schemaOf T).columns).HasNamed T := by
  have hmem : ∀ c ∈ namedColumns T, c ∈ (schemaOf T).columns := by
    cases T <;> decide +kernel
  exact fun c hc => hasColumn_of_mem (hmem c hc)

theorem indexes_named (T : TableName) :
    ∀ index ∈ (schemaOf T).indexes ++ (schemaOf T).lastIndexes, ∀ c ∈ index.2,
      c ∈ namedColumns T := by
  cases T <;> decide +kernel

theorem hasNamed_settle {d : Database} (h : Complete T d) :
    ((schemaOf T).settle T (d.tables T)).HasNamed T := by
  cases ht : d.tables T with
  | none => exact hasNamed_createdTable T
  | some t =>
      rw [TableSchema.settle]
      split
      · exact hasNamed_createdTable T
      · next hd => exact (h t ht).resolve_left hd

/-- What is complete stays so. -/
theorem Changes.complete {s s' : Session} (h : Changes removals s s') (hc : Complete T s.file) :
    Complete T s'.file :=
  h.forall_table (.inr (hasNamed_createdTable T)) (fun _ _ ht => ht) hc

/-! ## Statements that do not miss a column -/

/-- The computation does not fail for want of a column. -/
def NoMiss {α : Type} (x : Db α) (s : Session) : Prop :=
  ∀ e s', x s = .error e s' → ¬ e.IsNoColumn

theorem NoMiss.bind {α β : Type} {x : Db α} {f : α → Db β} {s : Session} (hx : NoMiss x s)
    (hf : ∀ a t, x s = .ok a t → NoMiss (f a) t) : NoMiss (x >>= f) s := by
  intro e s' h
  rcases bind_eq_error.mp h with h | ⟨a, t, ha, h⟩
  · exact hx e s' h
  · exact hf a t ha e s' h

theorem noMiss_attempt (s : Session) : NoMiss attempt s :=
  fun _ _ h he => nomatch query_noColumn h he

theorem noMiss_pure {α : Type} (a : α) (s : Session) : NoMiss (pure a : Db α) s := nofun

/-- The table is there, with all columns that are named. -/
def Has (T : TableName) (s : Session) : Prop :=
  ∃ t, s.file.tables T = some t ∧ t.HasNamed T

theorem Has.of_tables {s s' : Session} (h : Has T s) (htables : SameTables s s') : Has T s' := by
  rw [Has, htables]
  exact h

/-- From a table with all columns to one, without missing any. -/
def Safe (T : TableName) (x : Db Unit) : Prop :=
  ∀ s, Has T s → NoMiss x s ∧ ∀ u s', x s = .ok u s' → Has T s'

theorem Safe.bind {x : Db Unit} {f : Unit → Db Unit} (hx : Safe T x) (hf : ∀ u, Safe T (f u)) :
    Safe T (x >>= f) := by
  intro s hs
  obtain ⟨hmiss, hhas⟩ := hx s hs
  constructor
  · exact hmiss.bind fun u t ht => (hf u t (hhas u t ht)).1
  · intro u s' h
    obtain ⟨v, t, ht, h⟩ := bind_eq_ok.mp h
    exact (hf v t (hhas v t ht)).2 u s' h

theorem safe_attempt : Safe T attempt := fun s hs =>
  ⟨noMiss_attempt s, fun _ _ h => hs.of_tables (congrArg _ (query_ok h).2.1)⟩

theorem safe_forM {α : Type} {l : List α} {f : α → Db Unit} (h : ∀ a ∈ l, Safe T (f a)) :
    Safe T (l.forM f) := by
  induction l with
  | nil => exact fun s hs => ⟨noMiss_pure () s, fun _ _ h => (pure_eq_ok.mp h).2 ▸ hs⟩
  | cons a l ih =>
      rw [List.forall_mem_cons] at h
      exact Safe.bind h.1 fun _ => ih h.2

theorem safe_runScript {script : List (Db Unit)} (h : ∀ x ∈ script, Safe T x) :
    Safe T (runScript script) := Safe.bind safe_attempt fun _ => safe_forM h

theorem safe_transaction {script : Db Unit} (h : Safe T script) : Safe T (transaction script) := by
  have hall : Safe T (do attempt; script; attempt : Db Unit) :=
    Safe.bind safe_attempt fun _ => Safe.bind h fun _ => safe_attempt
  intro s hs
  obtain ⟨hmiss, hhas⟩ := hall s hs
  constructor
  · intro e s' herror
    rw [transaction] at herror
    split at herror
    · cases herror
    · next h =>
        cases herror
        exact hmiss _ _ h
  · intro u s' hok
    rw [transaction] at hok
    split at hok
    · next h =>
        cases hok
        exact hhas _ _ h
    · cases hok

theorem Has.not_lacking {s : Session} {columns : List String} (hs : Has T s)
    (hnamed : ∀ c ∈ columns, c ∈ namedColumns T) :
    ¬ ∃ t, s.file.tables T = some t ∧ ∃ c ∈ columns, t.hasColumn c = false := by
  rintro ⟨t, ht, c, hc, hlacks⟩
  obtain ⟨t', ht', hcolumns⟩ := hs
  rw [ht] at ht'
  cases ht'
  rw [hcolumns c (hnamed c hc)] at hlacks
  cases hlacks

theorem safe_createIndex {index : String × List String} (h : ∀ c ∈ index.2, c ∈ namedColumns T) :
    Safe T (createIndex T index) := by
  intro s hs
  constructor
  · intro e s' herror he
    have hfile := change_noColumn herror he
    obtain ⟨U, column, rfl⟩ := he
    rw [Database.createIndex] at hfile
    split at hfile
    · next hfind =>
        cases hfile
        exact hs.not_lacking (List.forall_mem_nil _) (Database.findTable_noColumn hfind)
    · split at hfile
      · cases hfile
      · split at hfile
        · next hfind =>
            cases hfile
            exact hs.not_lacking h (Database.find_noColumn hfind)
        · cases hfile
  · intro u s' hok
    exact hs.of_tables ((keeps_createIndex_tables T index).ok hok)

theorem safe_indexes {indexes : List (String × List String)}
    (h : ∀ index ∈ indexes, index ∈ (schemaOf T).indexes ++ (schemaOf T).lastIndexes) :
    ∀ x ∈ indexes.map (createIndex T), Safe T x := by
  intro x hx
  obtain ⟨index, hindex, rfl⟩ := List.mem_map.mp hx
  exact safe_createIndex (indexes_named T index (h index hindex))

theorem safe_changeRows {columns : List String} {f : StoredTable → List StoredRow}
    (h : ∀ c ∈ columns, c ∈ namedColumns T) : Safe T (changeRows T columns f) := by
  intro s hs
  constructor
  · intro e s' herror he
    have hfind := map_eq_error (change_noColumn herror he)
    obtain ⟨U, column, rfl⟩ := he
    exact hs.not_lacking h (Database.findTable_noColumn hfind)
  · intro u s' hok
    obtain ⟨t, ht, hnamed⟩ := hs
    obtain ⟨t', hfind, heq⟩ := map_eq_ok (change_ok hok).1
    have ht' := Database.findTable_ok hfind
    rw [ht] at ht'
    cases ht'
    rw [Has, ← heq, Database.set_tables_self]
    exact ⟨_, rfl, hnamed⟩

theorem safe_insertOrIgnore {i : Insert} (h : ∀ c ∈ i.columns, c ∈ namedColumns T) :
    Safe T (insertOrIgnore T i) := by
  intro s hs
  obtain ⟨hmiss, hhas⟩ := safe_changeRows (f := fun t => t.rows ++ [i.row]) h s hs
  constructor
  · intro e s' herror
    rw [insertOrIgnore] at herror
    split at herror
    · cases herror
    · exact hmiss e s' herror
  · intro u s' hok
    rw [insertOrIgnore] at hok
    split at hok
    · next hrefused =>
        cases hok
        rw [insertRow, changeRows] at hrefused
        exact hs.of_tables (congrArg _ (change_error hrefused).1)
    · exact hhas u s' hok

theorem noMiss_select {columns : List String} (h : ∀ c ∈ columns, c ∈ namedColumns T)
    {s : Session} (hs : Has T s) : NoMiss (select T columns) s := by
  intro e s' herror he
  have hfind := map_eq_error (query_noColumn herror he)
  obtain ⟨U, column, rfl⟩ := he
  exact hs.not_lacking h (Database.find_noColumn hfind)

/-! ## Operations that do not miss a column -/

theorem noMiss_createScript {s : Session}
    (h : ∃ t, (s.file.create T (schemaOf T).columns).tables T = some t ∧ t.HasNamed T) :
    NoMiss (createScript T (schemaOf T)) s := by
  refine (noMiss_attempt s).bind fun _ s₁ h₁ => ?_
  refine (noMiss_attempt s₁).bind fun _ s₂ h₂ => ?_
  have hopened : attempt s₁ = .ok _ s₂ := h₂
  have hfile : s₂.file = s.file := ((query_ok h₁).2.trans (query_ok hopened).2).1
  refine NoMiss.bind (x := createTable T (schemaOf T).columns) ?_ fun _ s₃ h₃ => ?_
  · exact fun e s' herror he => nomatch change_noColumn herror he
  · have hcreated : createTable T (schemaOf T).columns s₂ = .ok _ s₃ := h₃
    have hcreated := Except.ok.inj (change_ok hcreated).1
    rw [hfile] at hcreated
    rw [hcreated] at h
    exact (safe_forM (safe_indexes fun _ => List.mem_append_left _) s₃ h).1

theorem noMiss_checkTable {s : Session} (h : Complete T s.file) :
    NoMiss (checkTable T (schemaOf T)) s := by
  refine NoMiss.bind (fun _ _ herror => (recreate_error herror).2) fun _ s₁ h₁ => ?_
  have hcreated : ∃ t, (s₁.file.create T (schemaOf T).columns).tables T = some t ∧
      t.HasNamed T := by
    rw [(recreate_ok h₁).1]
    exact ⟨_, create_recreate_self _ _ _, hasNamed_settle h⟩
  -- the last indexes find the table that the script has left
  refine (noMiss_createScript hcreated).bind fun _ s₂ h₂ => ?_
  rw [← createScript_ok h₂] at hcreated
  exact (safe_runScript (safe_indexes fun _ => List.mem_append_right _) s₂ hcreated).1

/-- A check on a table that is complete, or will be. -/
theorem noMiss_ensureTable {α : Type} {s : Session} {x : Db α} (h : Complete T s.file)
    (hx : ∀ t, Has T t → NoMiss x t) : NoMiss (do ensureTable T (schemaOf T); x) s := by
  refine NoMiss.bind ?_ fun _ t ht => ?_
  · exact (noMiss_checkTable h).bind fun _ _ _ => nofun
  · exact hx t ⟨_, (ensureTable_ok ht).1, hasNamed_settle h⟩

theorem noMiss_insertBatch {α : Type} {s : Session} {insert : α → Db Unit}
    (h : Complete T s.file) (hinsert : ∀ a, Safe T (insert a)) (batch : List α) :
    NoMiss (insertBatch (ensureTable T (schemaOf T)) insert batch) s := by
  rw [insertBatch]
  split
  · exact noMiss_pure () s
  · refine noMiss_ensureTable h fun t ht => (safe_runScript ?_ t ht).1
    rw [List.forall_mem_singleton]
    exact safe_transaction (safe_forM fun a _ => hinsert a)

theorem noMiss_listTable {s : Session} {columns : List String} (h : Complete T s.file)
    (hcolumns : ∀ c ∈ columns, c ∈ namedColumns T) :
    NoMiss (listTable (ensureTable T (schemaOf T)) T columns) s :=
  noMiss_ensureTable h fun _ ht => noMiss_select hcolumns ht

/-- The table that an `InsertBatch` or a `List` is about. -/
def Op.target : Op → Option TableName
  | .insertAlerts _ _ _ => some .alerts
  | .insertMetrics _ _ _ => some .profilerMetrics
  | .insertRuleBatch _ _ _ => some .ruleProfilerMetrics
  | .insertModuleBatch _ _ _ => some .moduleProfileMetrics
  | .insertSystemProfile _ _ _ => some .systemProfiles
  | .insertRules _ _ _ => some .rules
  | .listAlerts => some .alerts
  | .listMetrics => some .profilerMetrics
  | .listRules => some .rules
  | _ => none

/-- **An `InsertBatch` or a `List`** on a complete table fails for other reasons only. -/
theorem noMiss_runOp {op : Op} {s : Session} (htarget : op.target = some T)
    (h : Complete T s.file) : NoMiss (runOp op) s := by
  have hinsert : ∀ U c, c ∈ insertColumns U → c ∈ namedColumns U :=
    fun _ _ => List.mem_append_left _
  have hselect : ∀ U c, c ∈ selectColumns U → c ∈ namedColumns U :=
    fun _ _ => List.mem_append_right _
  cases op with
  | insertAlerts cfg now batch =>
      cases htarget
      exact noMiss_insertBatch h (fun _ => safe_changeRows (hinsert .alerts)) batch
  | insertMetrics cfg now metrics =>
      cases htarget
      exact noMiss_insertBatch h (fun _ => safe_changeRows (hinsert .profilerMetrics)) metrics
  | insertRuleBatch cfg now metrics =>
      cases htarget
      exact noMiss_insertBatch h (fun _ => safe_changeRows (hinsert .ruleProfilerMetrics)) metrics
  | insertModuleBatch cfg now metrics =>
      cases htarget
      exact noMiss_insertBatch h (fun _ => safe_changeRows (hinsert .moduleProfileMetrics)) metrics
  | insertSystemProfile cfg now profile =>
      cases htarget
      refine noMiss_ensureTable h fun t ht => (safe_runScript ?_ t ht).1
      rw [List.forall_mem_singleton]
      exact safe_changeRows (hinsert .systemProfiles)
  | insertRules cfg now records =>
      cases htarget
      exact noMiss_insertBatch h (fun _ => safe_insertOrIgnore (hinsert .rules)) records
  | listAlerts =>
      cases htarget
      exact (noMiss_listTable h (hselect .alerts)).bind fun _ t _ => noMiss_pure _ t
  | listMetrics =>
      cases htarget
      exact (noMiss_listTable h (hselect .profilerMetrics)).bind fun _ t _ => noMiss_pure _ t
  | listRules =>
      cases htarget
      exact (noMiss_listTable h (hselect .rules)).bind fun _ t _ => noMiss_pure _ t
  | _ => cases htarget

/-! ## Checks make the inserts possible, or not -/

inductive Check
  | alerts
  | profiler
  | systemProfiles
  | rules
  deriving DecidableEq, Repr

def Check.run : Check → Db Unit
  | .alerts => ensureAlerts
  | .profiler => ensureProfiler
  | .systemProfiles => ensureSystemProfiles
  | .rules => ensureRules

def Check.tables : Check → List TableName
  | .alerts => [.alerts]
  | .profiler => [.profilerMetrics, .ruleProfilerMetrics, .moduleProfileMetrics]
  | .systemProfiles => [.systemProfiles]
  | .rules => [.rules]

/-- The tables have all columns that the stores name, and whatever happens later, no `InsertBatch`
and no `List` on them fails for want of one. -/
structure Usable (check : Check) (s : Session) : Prop where
  columns : ∀ T ∈ check.tables, ∃ t, s.file.tables T = some t ∧ t.HasNamed T
  later : ∀ ops op T, op.target = some T → T ∈ check.tables → NoMiss (runOp op) (runAll ops s)

theorem check_ok {check : Check} {s s' : Session} {u : Unit} (h : check.run s = .ok u s') :
    ∀ T ∈ check.tables, s'.file.tables T = some ((schemaOf T).settle T (s.file.tables T)) := by
  cases check with
  | alerts => exact List.forall_mem_singleton.mpr (ensureTable_ok h).1
  | systemProfiles => exact List.forall_mem_singleton.mpr (ensureTable_ok h).1
  | rules => exact List.forall_mem_singleton.mpr (ensureTable_ok h).1
  | profiler =>
      obtain ⟨_, s₁, h₁, h⟩ := bind_eq_ok.mp h
      obtain ⟨_, s₂, h₂, h₃⟩ := bind_eq_ok.mp h
      obtain ⟨hmetrics, hothers₁⟩ := ensureTable_ok h₁
      obtain ⟨hrules, hothers₂⟩ := ensureTable_ok h₂
      obtain ⟨hmodules, hothers₃⟩ := ensureTable_ok h₃
      rw [Check.tables, List.forall_mem_cons, List.forall_mem_cons, List.forall_mem_singleton]
      refine ⟨?_, ?_, ?_⟩
      · rw [hothers₃ _ (by decide), hothers₂ _ (by decide)]
        exact hmetrics
      · rw [hothers₃ _ (by decide), hrules, hothers₁ _ (by decide)]
        rfl
      · rw [hmodules, hothers₂ _ (by decide), hothers₁ _ (by decide)]
        rfl

/-- **Checks make the inserts possible** exactly if each of their tables is missing or has all the
columns, or else lacks a column that the check looks at, or has one that it will not have, and is
made again. -/
theorem usable_iff (check : Check) (s : Session) (h : failure check.run s = none) :
    Usable check (after check.run s) ↔ ∀ T ∈ check.tables, Complete T s.file := by
  obtain ⟨u, hok⟩ := eq_ok_of_failure h
  have hsettled := check_ok hok
  constructor
  · intro husable T hT t ht
    obtain ⟨t', ht', hnamed⟩ := husable.columns T hT
    rw [hsettled T hT, ht, TableSchema.settle] at ht'
    split at ht'
    · next hd => exact .inl hd
    · cases ht'
      exact .inr hnamed
  · intro hcomplete
    have hcolumns : ∀ T ∈ check.tables, ∃ t, (after check.run s).file.tables T = some t ∧
        t.HasNamed T :=
      fun T hT => ⟨_, hsettled T hT, hasNamed_settle (hcomplete T hT)⟩
    -- completeness is what later operations keep, through drops and resets
    refine ⟨hcolumns, fun ops op T htarget hT => ?_⟩
    obtain ⟨t, ht, hnamed⟩ := hcolumns T hT
    have hnow : Complete T (after check.run s).file := by
      intro t' ht'
      rw [ht] at ht'
      cases ht'
      exact .inr hnamed
    exact noMiss_runOp htarget ((changes_runAll ops _).complete hnow)

/-- A file with an `alerts` table that has some columns. -/
def alertsFile (columns : List String) : Database where
  tables
    | .alerts => some (createdTable .alerts columns)
    | _ => none
  indexes := []
  drops _ := 0

/-- The table of the first version, without runs, is made again. -/
theorem alerts_without_run_usable :
    let s := Session.start (alertsFile ["id", "raw_json", "created_at"]) fun _ => .done
    failure Check.alerts.run s = none ∧ Usable .alerts (after Check.alerts.run s) := by
  intro s
  have hnone : failure Check.alerts.run s = none := by decide +kernel
  refine ⟨hnone, (usable_iff .alerts s hnone).mpr ?_⟩
  refine List.forall_mem_singleton.mpr fun t ht => .inl ?_
  cases ht
  decide +kernel

def pingAlert : Alert :=
  { timestamp := "05/17-12:00:00", pktNum := 1, proto := "ICMP", pktGen := "raw", pktLen := 64,
    dir := "C2S", srcAP := "10.0.0.1:0", dstAP := "10.0.0.2:0", gid := 1, sid := 7, rev := 1,
    rule := "1:7:1", action := "allow", rawJSON := "", createdAt := "" }

/-- **A table that has a run and what the indexes need** is kept, and no alert can be stored in it
or read from it. -/
theorem alerts_with_run_unusable :
    let columns := ["id", "run_id", "sid", "raw_json", "source_file", "created_at"]
    let s := Session.start (alertsFile columns) fun _ => .done
    failure Check.alerts.run s = none ∧ ¬ Usable .alerts (after Check.alerts.run s) ∧
      failure (insertAlerts ⟨3, "alert_json.txt"⟩ "now" [pingAlert]) (after Check.alerts.run s) =
        some (.noColumn .alerts "timestamp") ∧
      failure selectAlerts (after Check.alerts.run s) = some (.noColumn .alerts "timestamp") := by
  intro columns s
  have hlacks : ((after Check.alerts.run s).file.tables .alerts).map
      (StoredTable.hasColumn · "timestamp") = some false := by decide +kernel
  refine ⟨by decide +kernel, ?_, by decide +kernel, by decide +kernel⟩
  intro husable
  obtain ⟨t, ht, hnamed⟩ := husable.columns .alerts (List.mem_singleton.mpr rfl)
  rw [ht, Option.map_some, hnamed "timestamp" (by decide)] at hlacks
  cases hlacks

end SnortOptimizer.Sql
