import SnortOptimizer.Sql.Stores
import Mathlib.Data.List.Forall2
import Mathlib.Logic.Relation

/-!
# What becomes of the tables

`SessionChange` lists what can happen to a file, one constructor for each kind of statement.
`keeps_runOp` says that an operation does nothing else, wherever it fails, and everything about
whole runs is proved from that list.

`ensured_table_stays` is the result: once a check has returned without an error for a table, no
operation drops it, and rows leave it only where an operation deletes them.
-/

namespace SnortOptimizer.Sql

open Analyser Effects Relation

/-! ## Changes -/

/-- The ways in which rows are taken away. -/
inductive Removal
  | run (runID : Int)
  | rules
  | file
  deriving DecidableEq, Repr

def Removal.covers (t : StoredTable) (r : StoredRow) : Removal → Bool
  | .run runID => t.holds r "run_id" runID
  | .rules => true
  | .file => true

def Op.removals : Op → List Removal
  | .cloneRulesInDB _ toRunID _ _ => [.run toRunID]
  | .copyRulesBetweenDBs _ _ _ _ targetRunID => [.run targetRunID]
  | .resetRules => [.rules]
  | .resetFile => [.file]
  | _ => []

/-- The same row, but for whether the rule is enabled. -/
def StoredRow.Same (r r' : StoredRow) : Prop := ∀ c, c ≠ "enabled" → r'.value c = r.value c

instance StoredRow.same_refl : Std.Refl StoredRow.Same := ⟨fun _ _ _ => rfl⟩

instance StoredRow.same_trans : IsTrans StoredRow StoredRow.Same :=
  ⟨fun _ _ _ h h' c hc => (h' c hc).trans (h c hc)⟩

inductive FileChange (removals : List Removal) (d : Database) : Database → Prop
  | index (indexes : List StoredIndex) : FileChange removals d { d with indexes }
  | create {T : TableName} (h : d.tables T = none) :
      FileChange removals d (d.set T (createdTable T (schemaOf T).columns))
  | drop {T : TableName} {t : StoredTable} (h : d.tables T = some t)
      (hd : (schemaOf T).discards T t = true) : FileChange removals d (d.drop T)
  | insert {T : TableName} {t : StoredTable} (h : d.tables T = some t) (rows : List StoredRow) :
      FileChange removals d (d.set T { t with rows := t.rows ++ rows })
  | update {T : TableName} {t : StoredTable} (h : d.tables T = some t)
      {f : StoredRow → StoredRow} (hf : ∀ r, StoredRow.Same r (f r)) :
      FileChange removals d (d.set T { t with rows := t.rows.map f })
  | delete {t : StoredTable} (h : d.tables .rules = some t) {x : Removal} (hx : x ∈ removals) :
      FileChange removals d
        (d.set .rules { t with rows := t.rows.filter fun r => !x.covers t r })

/-- What one step of an operation does to the session. -/
inductive SessionChange (removals : List Removal) (s : Session) : Session → Prop
  | quiet {s' : Session} (h : s.Quiet s') : SessionChange removals s s'
  | file {s' : Session} (h : FileChange removals s.file s'.file) (he : s'.ensured = s.ensured) :
      SessionChange removals s s'
  | ensure {T : TableName} {t : StoredTable} (h : s.file.tables T = some t)
      (hd : (schemaOf T).discards T t = false) :
      SessionChange removals s { s with ensured := Function.update s.ensured T true }
  | remove (h : .file ∈ removals) :
      SessionChange removals s { s with file := s.file.removed, ensured := fun _ => false }

def Changes (removals : List Removal) : Session → Session → Prop :=
  ReflTransGen (SessionChange removals)

section Changes

variable {removals : List Removal}

instance changes_refl : Std.Refl (Changes removals) := ⟨fun _ => .refl⟩

instance changes_trans : IsTrans Session (Changes removals) := ⟨fun _ _ _ h h' => h.trans h'⟩

theorem changes_of_quiet (s s' : Session) (h : s.Quiet s') : Changes removals s s' :=
  .single (.quiet h)

theorem keeps_query_changes {α : Type} (f : Database → Except DbError α) :
    Keeps (Changes removals) (query f) := keeps_query changes_of_quiet f

theorem keeps_attempt : Keeps (Changes removals) attempt := keeps_query_changes _

/-- A statement that makes one change, or none. -/
theorem keeps_change_changes {f : Database → Except DbError Database}
    (h : ∀ d d', f d = .ok d' → d' = d ∨ FileChange removals d d') :
    Keeps (Changes removals) (change f) := by
  apply keeps_change changes_of_quiet
  intro s s' hf hensured
  rcases h _ _ hf with heq | hchange
  · exact .single (.quiet ⟨heq, hensured⟩)
  · exact .single (.file hchange hensured)

theorem keeps_script {script : List (Db Unit)} (h : ∀ x ∈ script, Keeps (Changes removals) x) :
    Keeps (Changes removals) (runScript script) := keeps_runScript changes_of_quiet h

theorem keeps_script_singleton {x : Db Unit} (h : Keeps (Changes removals) x) :
    Keeps (Changes removals) (runScript [x]) :=
  keeps_script fun _ hx => List.mem_singleton.mp hx ▸ h

/-! ### Statements on rows -/

theorem keeps_changeRows {T : TableName} {columns : List String}
    {f : StoredTable → List StoredRow}
    (h : ∀ d t, d.tables T = some t → FileChange removals d (d.set T { t with rows := f t })) :
    Keeps (Changes removals) (changeRows T columns f) := by
  apply keeps_change_changes
  intro d d' hd'
  obtain ⟨t, ht, rfl⟩ := map_eq_ok hd'
  exact .inr (h d t (Database.findTable_ok ht))

theorem keeps_insertRow (T : TableName) (i : Insert) :
    Keeps (Changes removals) (insertRow T i) :=
  keeps_changeRows fun _ _ ht => .insert ht _

theorem keeps_insertOrIgnore (T : TableName) (i : Insert) :
    Keeps (Changes removals) (insertOrIgnore T i) := by
  intro s
  have hinsert : Changes removals s (after (insertRow T i) s) := keeps_insertRow T i s
  have hafter : after (insertOrIgnore T i) s = after (insertRow T i) s := by
    rw [after, after, insertOrIgnore]
    cases insertRow T i s with
    | ok u s' => rfl
    | error e s' => cases e <;> rfl
  rwa [hafter]

theorem same_set_enabled (r : StoredRow) (v : Value) : r.Same (r.set "enabled" v) :=
  fun _ hc => Function.update_of_ne hc _ _

theorem keeps_updateEnabled (enabled runID gid sid : Int) :
    Keeps (Changes removals) (updateEnabled enabled runID gid sid) := by
  apply keeps_changeRows
  intro d t ht
  apply FileChange.update ht
  intro r
  split
  · exact same_set_enabled r _
  · exact Std.Refl.refl r

theorem keeps_deleteRun {runID : Int} (h : .run runID ∈ removals) :
    Keeps (Changes removals) (deleteRun runID) :=
  keeps_changeRows fun _ _ ht => .delete ht h

theorem keeps_insertCopies (rows : Database → Except DbError (List StoredRow)) (runID : Int)
    (now : String) :
    Keeps (Changes removals) (change fun d => d.insertCopies (rows d) runID now) := by
  apply keeps_change_changes
  intro d d' hd'
  rw [Database.insertCopies.eq_def] at hd'
  split at hd'
  · cases hd'
  · obtain ⟨t, ht, rfl⟩ := map_eq_ok hd'
    exact .inr (.insert (Database.findTable_ok ht) _)

/-! ### Checks -/

theorem keeps_createTable (T : TableName) :
    Keeps (Changes removals) (createTable T (schemaOf T).columns) := by
  apply keeps_change_changes
  intro d d' hd'
  cases hd'
  rw [Database.create]
  split
  · exact .inl rfl
  · next hnone => exact .inr (.create hnone)

theorem keeps_createIndex (T : TableName) (index : String × List String) :
    Keeps (Changes removals) (createIndex T index) := by
  apply keeps_change_changes
  intro d d' hd'
  obtain ⟨indexes, rfl⟩ := Database.createIndex_ok hd'
  exact .inr (.index indexes)

theorem keeps_indexes (T : TableName) (indexes : List (String × List String)) :
    ∀ x ∈ indexes.map (createIndex T), Keeps (Changes removals) x := by
  intro x hx
  obtain ⟨index, -, rfl⟩ := List.mem_map.mp hx
  exact keeps_createIndex T index

theorem keeps_createScript (T : TableName) :
    Keeps (Changes removals) (createScript T (schemaOf T)) := by
  apply keeps_script
  rw [List.forall_mem_cons, List.forall_mem_cons]
  exact ⟨keeps_attempt, keeps_createTable T, keeps_indexes T _⟩

/-- A table is dropped only if the check finds it incompatible. -/
theorem keeps_recreate (T : TableName) :
    Keeps (Changes removals)
      (recreateIncompatibleTable T (schemaOf T).required (schemaOf T).forbidden) := by
  intro s
  cases h : recreateIncompatibleTable T (schemaOf T).required (schemaOf T).forbidden s with
  | error e s' =>
      rw [after_of_error h]
      exact changes_of_quiet _ _ (recreate_error h).1
  | ok u s' =>
      rw [after_of_ok h]
      obtain ⟨hfile, hensured⟩ := recreate_ok h
      rw [Database.recreate] at hfile
      split at hfile
      · next hany =>
          obtain ⟨t, ht, hd⟩ := (Option.any_eq_true _ _).mp hany
          exact .single (.file (hfile ▸ .drop ht hd) hensured)
      · exact changes_of_quiet _ _ ⟨hfile, hensured⟩

theorem keeps_checkTable (T : TableName) :
    Keeps (Changes removals) (checkTable T (schemaOf T)) :=
  Keeps.bind (keeps_recreate T) fun _ =>
    Keeps.bind (keeps_createScript T) fun _ => keeps_script (keeps_indexes T _)

theorem discards_createdTable (T : TableName) :
    (schemaOf T).discards T (createdTable T (schemaOf T).columns) = false := by
  cases T <;> decide +kernel

/-- What a check leaves, the next one leaves as well. -/
theorem discards_settle (T : TableName) (t : Option StoredTable) :
    (schemaOf T).discards T ((schemaOf T).settle T t) = false := by
  cases t with
  | none => exact discards_createdTable T
  | some t =>
      rw [TableSchema.settle]
      split
      · exact discards_createdTable T
      · next h => exact Bool.eq_false_iff.mpr h

/-- A check, and that it has returned without an error. -/
theorem keeps_markEnsured {T : TableName} {x : Db Unit} (hx : Keeps (Changes removals) x)
    (h : ∀ s s' u, x s = .ok u s' →
      s'.file.tables T = some ((schemaOf T).settle T (s.file.tables T))) :
    Keeps (Changes removals) (do x; markEnsured T) := by
  intro s
  have hs := hx s
  cases hxs : x s with
  | error e s' =>
      rw [after_of_error hxs] at hs
      rwa [after_of_error (bind_eq_error.mpr (.inl hxs))]
  | ok u s' =>
      rw [after_of_ok hxs] at hs
      have hmark : (do x; markEnsured T : Db Unit) s =
          .ok () { s' with ensured := Function.update s'.ensured T true } :=
        bind_eq_ok.mpr ⟨u, s', hxs, rfl⟩
      rw [after_of_ok hmark]
      -- the table is as the check leaves it, so the next one will not drop it
      exact hs.tail (.ensure (h s s' u hxs) (discards_settle T _))

theorem keeps_ensureTable (T : TableName) :
    Keeps (Changes removals) (ensureTable T (schemaOf T)) :=
  keeps_markEnsured (keeps_checkTable T) fun _ _ _ h => (checkTable_ok h).1

theorem keeps_ensureRuleFP : Keeps (Changes removals) ensureRuleFP :=
  keeps_markEnsured (keeps_createScript .ruleFP) fun _ _ _ h => createScript_ruleFP_ok h

theorem keeps_ensureProfiler : Keeps (Changes removals) ensureProfiler :=
  Keeps.bind (keeps_ensureTable .profilerMetrics) fun _ =>
    Keeps.bind (keeps_ensureTable .ruleProfilerMetrics) fun _ =>
      keeps_ensureTable .moduleProfileMetrics

theorem keeps_ensureAll : Keeps (Changes removals) ensureAll :=
  Keeps.bind (keeps_ensureTable .alerts) fun _ => Keeps.bind keeps_ensureProfiler fun _ =>
    Keeps.bind (keeps_ensureTable .systemProfiles) fun _ => keeps_ensureTable .rules

/-! ### Operations -/

theorem keeps_insertBatch {α : Type} {ensure : Db Unit} {insert : α → Db Unit}
    (hensure : Keeps (Changes removals) ensure) (hinsert : ∀ a, Keeps (Changes removals) (insert a))
    (batch : List α) : Keeps (Changes removals) (insertBatch ensure insert batch) := by
  rw [insertBatch]
  apply Keeps.ite
  · exact Keeps.pure ()
  · refine Keeps.bind hensure fun _ => keeps_script_singleton ?_
    exact keeps_transaction changes_of_quiet (Keeps.forM fun a _ => hinsert a)

theorem keeps_listTable (T : TableName) (columns : List String) :
    Keeps (Changes removals) (listTable (ensureTable T (schemaOf T)) T columns) :=
  Keeps.bind (keeps_ensureTable T) fun _ => keeps_query_changes _

theorem keeps_countTable (runID : Int) (T : TableName) :
    Keeps (Changes removals) (countTable runID T) := by
  refine Keeps.bind (keeps_query_changes _) fun listed => Keeps.ite ?_ (Keeps.pure _)
  exact Keeps.bind (keeps_query_changes _) fun _ =>
    Keeps.bind (keeps_query_changes _) fun _ => Keeps.pure _

theorem keeps_cloneRulesInDB {fromRunID toRunID : Int} (h : .run toRunID ∈ removals)
    (now : String) (decisions : List RuleRef) :
    Keeps (Changes removals) (cloneRulesInDB fromRunID toRunID now decisions) := by
  refine Keeps.bind (keeps_ensureTable .rules) fun _ => keeps_transaction changes_of_quiet ?_
  refine Keeps.bind (keeps_deleteRun h) fun _ =>
    Keeps.bind (keeps_insertCopies (fun d => d.runRows fromRunID) _ _) fun _ =>
      Keeps.bind (keeps_query_changes _) fun _ => ?_
  exact Keeps.forM fun d _ => keeps_updateEnabled _ _ _ _

theorem keeps_copyRulesBetweenDBs {targetRunID : Int} (h : .run targetRunID ∈ removals)
    (source : Option Database) (sourceAbs now : String) (sourceRunID : Int) :
    Keeps (Changes removals)
      (copyRulesBetweenDBs source sourceAbs now sourceRunID targetRunID) := by
  refine Keeps.bind keeps_attempt fun _ => ?_
  cases source with
  | none => exact Keeps.throw _
  | some source =>
      -- the columns it creates the table with are those of `EnsureRules`
      refine Keeps.bind keeps_attempt fun _ => Keeps.bind (keeps_createTable .rules) fun _ =>
        Keeps.bind (keeps_deleteRun h) fun _ =>
          Keeps.bind (keeps_insertCopies (fun _ => source.runRows sourceRunID) _ _) fun _ =>
            Keeps.bind (keeps_query_changes _) fun _ => ?_
      exact Keeps.ite (Keeps.throw _) (Keeps.pure _)

theorem keeps_resetRules (h : .rules ∈ removals) : Keeps (Changes removals) resetRules := by
  refine Keeps.bind (keeps_ensureTable .rules) fun _ => keeps_script_singleton ?_
  apply keeps_changeRows
  intro d t ht
  -- `DELETE FROM rules` has no condition, so nothing is left
  have hnone : t.rows.filter (fun r => !Removal.rules.covers t r) = [] :=
    List.filter_eq_nil_iff.mpr fun _ _ => Bool.false_ne_true
  rw [← hnone]
  exact .delete ht h

theorem keeps_resetFile (h : .file ∈ removals) : Keeps (Changes removals) resetFile := by
  refine Keeps.bind keeps_attempt fun _ => Keeps.bind (fun s => ?_) fun _ =>
    Keeps.bind keeps_attempt fun _ => keeps_attempt
  exact .single (.remove h)

/-- **What an operation can do**, wherever it fails. -/
theorem keeps_runOp (op : Op) (h : ∀ x ∈ op.removals, x ∈ removals) :
    Keeps (Changes removals) (runOp op) := by
  cases op with
  | ensureAll => exact keeps_ensureAll
  | ensureAlerts => exact keeps_ensureTable .alerts
  | ensureProfiler => exact keeps_ensureProfiler
  | ensureProfilerMetrics => exact keeps_ensureTable .profilerMetrics
  | ensureRuleProfilerMetrics => exact keeps_ensureTable .ruleProfilerMetrics
  | ensureModuleProfileMetrics => exact keeps_ensureTable .moduleProfileMetrics
  | ensureSystemProfiles => exact keeps_ensureTable .systemProfiles
  | ensureRules => exact keeps_ensureTable .rules
  | ensureRuleFP => exact keeps_ensureRuleFP
  | insertAlerts cfg now batch =>
      exact keeps_insertBatch (keeps_ensureTable .alerts) (fun _ => keeps_insertRow _ _) batch
  | insertMetrics cfg now metrics =>
      exact keeps_insertBatch (keeps_ensureTable .profilerMetrics) (fun _ => keeps_insertRow _ _)
        metrics
  | insertRuleBatch cfg now metrics =>
      exact keeps_insertBatch (keeps_ensureTable .ruleProfilerMetrics)
        (fun _ => keeps_insertRow _ _) metrics
  | insertModuleBatch cfg now metrics =>
      exact keeps_insertBatch (keeps_ensureTable .moduleProfileMetrics)
        (fun _ => keeps_insertRow _ _) metrics
  | insertSystemProfile cfg now profile =>
      exact Keeps.bind (keeps_ensureTable .systemProfiles) fun _ =>
        keeps_script_singleton (keeps_insertRow _ _)
  | insertRules cfg now records =>
      exact keeps_insertBatch (keeps_ensureTable .rules) (fun _ => keeps_insertOrIgnore _ _) records
  | listAlerts => exact Keeps.bind (keeps_listTable .alerts _) fun _ => Keeps.pure _
  | listMetrics => exact Keeps.bind (keeps_listTable .profilerMetrics _) fun _ => Keeps.pure _
  | listRules => exact Keeps.bind (keeps_listTable .rules _) fun _ => Keeps.pure _
  | setEnabled runID gid sid enabled =>
      exact Keeps.bind (keeps_ensureTable .rules) fun _ =>
        keeps_script_singleton (keeps_updateEnabled _ _ _ _)
  | countTables runID =>
      exact Keeps.bind (Keeps.mapM fun T _ => keeps_countTable runID T) fun _ => Keeps.pure _
  | cloneRulesInDB fromRunID toRunID now decisions =>
      exact keeps_cloneRulesInDB (h _ List.mem_cons_self) now decisions
  | copyRulesBetweenDBs source sourceAbs now sourceRunID targetRunID =>
      exact keeps_copyRulesBetweenDBs (h _ List.mem_cons_self) source sourceAbs now sourceRunID
  | resetRules => exact keeps_resetRules (h _ List.mem_cons_self)
  | resetFile => exact keeps_resetFile (h _ List.mem_cons_self)

theorem changes_runAll (ops : List Op) (s : Session) :
    Changes (ops.flatMap Op.removals) s (runAll ops s) :=
  Keeps.foldl (fun op hop => keeps_runOp op fun _ hx => List.mem_flatMap.mpr ⟨op, hop, hx⟩) s

end Changes

/-! ## What becomes of one table -/

variable {removals : List Removal} {T : TableName}

/-- Some operation may have deleted the row. -/
def gone (removals : List Removal) (T : TableName) (t : StoredTable) (r : StoredRow) : Bool :=
  decide (T = .rules) && removals.any (Removal.covers t r)

/-- The rows that no operation deletes are there, in their order. -/
def RowsKept (removals : List Removal) (T : TableName) (t : StoredTable)
    (rows : List StoredRow) : Prop :=
  List.SublistForall₂ StoredRow.Same (t.rows.filter fun r => !gone removals T t r) rows

inductive TableChange (removals : List Removal) (T : TableName) :
    Option StoredTable → Option StoredTable → Prop
  | absent : TableChange removals T none none
  | created : TableChange removals T none (some (createdTable T (schemaOf T).columns))
  | dropped {t : StoredTable} (h : (schemaOf T).discards T t = true) :
      TableChange removals T (some t) none
  | stayed {t : StoredTable} {rows : List StoredRow} (h : RowsKept removals T t rows) :
      TableChange removals T (some t) (some { t with rows })

theorem rowsKept_of_sublist {t : StoredTable} {rows : List StoredRow} (h : t.rows.Sublist rows) :
    RowsKept removals T t rows :=
  (List.filter_sublist.trans h).sublistForall₂

theorem rowsKept_map {t : StoredTable} {f : StoredRow → StoredRow}
    (hf : ∀ r, StoredRow.Same r (f r)) : RowsKept removals T t (t.rows.map f) := by
  have hmap : List.SublistForall₂ StoredRow.Same t.rows (t.rows.map f) := by
    refine List.sublistForall₂_map_right_iff.mpr ?_
    induction t.rows with
    | nil => exact .nil
    | cons r rows ih => exact .cons (hf r) ih
  exact IsTrans.trans _ _ _ (rowsKept_of_sublist (List.Sublist.refl _)) hmap

theorem rowsKept_delete {t : StoredTable} {x : Removal} (hx : x ∈ removals) :
    RowsKept removals .rules t (t.rows.filter fun r => !x.covers t r) := by
  apply List.Sublist.sublistForall₂
  apply List.monotone_filter_right
  intro r hr
  rw [Bool.not_eq_true', gone, decide_eq_true rfl, Bool.true_and, List.any_eq_false] at hr
  exact Bool.not_eq_true' .. ▸ Bool.eq_false_iff.mpr (hr x hx)

theorem tableChange_self (t : Option StoredTable) : TableChange removals T t t := by
  cases t with
  | none => exact .absent
  | some t => exact .stayed (rowsKept_of_sublist (List.Sublist.refl _))

/-- A statement on a table leaves the others as they are. -/
theorem tableChange_set {d : Database} {U : TableName} {t : StoredTable}
    (h : TableChange removals U (d.tables U) (some t)) :
    TableChange removals T (d.tables T) ((d.set U t).tables T) := by
  by_cases hne : T = U
  · subst hne
    rwa [Database.set_tables_self]
  · rw [Database.set_tables_ne _ hne]
    exact tableChange_self _

theorem FileChange.table {d d' : Database} (h : FileChange removals d d') (T : TableName) :
    TableChange removals T (d.tables T) (d'.tables T) := by
  cases h with
  | index indexes => exact tableChange_self _
  | create hnone => exact tableChange_set (hnone ▸ .created)
  | @drop U t ht hd =>
      by_cases hne : T = U
      · subst hne
        rw [Database.drop_tables_self, ht]
        exact .dropped hd
      · rw [Database.drop_tables_ne _ hne]
        exact tableChange_self _
  | insert ht rows =>
      exact tableChange_set (ht ▸ .stayed (rowsKept_of_sublist (List.sublist_append_left _ _)))
  | update ht hf => exact tableChange_set (ht ▸ .stayed (rowsKept_map hf))
  | delete ht hx => exact tableChange_set (ht ▸ .stayed (rowsKept_delete hx))

/-- A table that is not to be dropped stays. -/
theorem FileChange.stays {d d' : Database} (h : FileChange removals d d') {T : TableName}
    {t : StoredTable} (ht : d.tables T = some t) (hd : (schemaOf T).discards T t = false) :
    ∃ rows, d'.tables T = some { t with rows } ∧ RowsKept removals T t rows := by
  have htable := h.table T
  rw [ht] at htable
  generalize d'.tables T = after at htable
  cases htable with
  | dropped hdropped =>
      rw [hd] at hdropped
      cases hdropped
  | stayed hrows => exact ⟨_, rfl, hrows⟩

/-- A table is dropped only if it is incompatible. -/
theorem FileChange.drops {d d' : Database} (h : FileChange removals d d') {T : TableName}
    (hkept : ∀ t, d.tables T = some t → (schemaOf T).discards T t = false) :
    d'.drops T = d.drops T := by
  cases h with
  | @drop U t ht hd =>
      apply Database.drop_drops_ne
      rintro rfl
      rw [hkept t ht] at hd
      cases hd
  | _ => rfl

/-! ## Rows that stay -/

theorem sublistForall₂_filter {α : Type} {R : α → α → Prop} {p : α → Bool} {l l' : List α}
    (hp : ∀ a b, R a b → p a = p b) (h : List.SublistForall₂ R l l') :
    List.SublistForall₂ R (l.filter p) (l'.filter p) := by
  induction h with
  | nil => exact .nil
  | @cons a b l l' hab _ ih =>
      rw [List.filter_cons, List.filter_cons, hp a b hab]
      split
      · exact .cons hab ih
      · exact ih
  | @cons_right b l l' _ ih =>
      rw [List.filter_cons]
      split
      · exact .cons_right ih
      · exact ih

theorem gone_same {t : StoredTable} {r r' : StoredRow} (h : r.Same r') :
    gone removals T t r' = gone removals T t r := by
  have hcovers : Removal.covers t r' = Removal.covers t r := by
    funext x
    cases x with
    | run runID =>
        rw [Removal.covers, Removal.covers, StoredTable.holds, StoredTable.holds,
          h "run_id" (by decide)]
    | rules => rfl
    | file => rfl
  rw [gone, gone, hcovers]

theorem RowsKept.trans {t : StoredTable} {rows rows' : List StoredRow}
    (h : RowsKept removals T t rows) (h' : RowsKept removals T { t with rows } rows') :
    RowsKept removals T t rows' := by
  -- the rows that are deleted later were among those kept so far, and look the same
  have hfiltered := sublistForall₂_filter (p := fun r => !gone removals T t r)
    (fun r r' hr => congrArg _ (gone_same hr).symm) h
  rw [List.filter_filter] at hfiltered
  simp only [Bool.and_self] at hfiltered
  exact IsTrans.trans _ _ _ hfiltered h'

/-! ## Runs -/

theorem TableChange.forall_table {P : StoredTable → Prop} {o o' : Option StoredTable}
    (h : TableChange removals T o o') (hcreated : P (createdTable T (schemaOf T).columns))
    (hrows : ∀ t rows, P t → P { t with rows }) (ho : ∀ t, o = some t → P t) :
    ∀ t, o' = some t → P t := by
  intro t ht
  cases h with
  | absent => cases ht
  | created =>
      cases ht
      exact hcreated
  | dropped _ => cases ht
  | @stayed t rows _ =>
      cases ht
      exact hrows t rows (ho t rfl)

/-- What holds of a table that has just been created, and does not depend on the rows, holds of the
table ever after. -/
theorem Changes.forall_table {P : StoredTable → Prop} {s s' : Session} (h : Changes removals s s')
    (hcreated : P (createdTable T (schemaOf T).columns))
    (hrows : ∀ t rows, P t → P { t with rows }) (hs : ∀ t, s.file.tables T = some t → P t) :
    ∀ t, s'.file.tables T = some t → P t := by
  induction h with
  | refl => exact hs
  | tail _ hstep ih =>
      cases hstep with
      | quiet h => rwa [h.1]
      | file h _ => exact (h.table T).forall_table hcreated hrows ih
      | ensure _ _ => exact ih
      | remove _ => exact nofun

/-- The next check of the table will not drop it. -/
def Kept (T : TableName) (d : Database) : Prop :=
  ∀ t, d.tables T = some t → (schemaOf T).discards T t = false

theorem Changes.kept {s s' : Session} (h : Changes removals s s') (hkept : Kept T s.file) :
    Kept T s'.file :=
  h.forall_table (discards_createdTable T) (fun _ _ hd => hd) hkept

/-- **No step drops a table that is to be kept.** -/
theorem SessionChange.drops {s s' : Session} (h : SessionChange removals s s')
    (hkept : Kept T s.file) : s'.file.drops T = s.file.drops T := by
  cases h with
  | quiet h => rw [h.1]
  | file h _ => exact h.drops hkept
  | ensure _ _ => rfl
  | remove _ => rfl

theorem Changes.drops {s s' : Session} (h : Changes removals s s') (hkept : Kept T s.file) :
    s'.file.drops T = s.file.drops T := by
  induction h with
  | refl => rfl
  | tail hbefore hstep ih => exact (hstep.drops (Changes.kept hbefore hkept)).trans ih

/-- The table stays, with its columns and all rows that are not deleted. -/
def Stays (removals : List Removal) (T : TableName) (s s' : Session) : Prop :=
  ∀ t, s.file.tables T = some t → (schemaOf T).discards T t = false →
    ∃ rows, s'.file.tables T = some { t with rows } ∧ RowsKept removals T t rows

theorem stays_of_sameTables {s s' : Session} (h : SameTables s s') : Stays removals T s s' :=
  fun t ht _ => ⟨t.rows, (congrFun h T).trans ht, rowsKept_of_sublist (List.Sublist.refl _)⟩

theorem SessionChange.stays {s s' : Session} (h : SessionChange removals s s')
    (hfile : .file ∉ removals) : Stays removals T s s' := by
  cases h with
  | quiet h => exact stays_of_sameTables (congrArg _ h.1)
  | file h _ => exact fun t ht hd => h.stays ht hd
  | ensure _ _ => exact stays_of_sameTables rfl
  | remove h => exact absurd h hfile

theorem Changes.stays {s s' : Session} (h : Changes removals s s') (hfile : .file ∉ removals) :
    Stays removals T s s' := by
  induction h with
  | refl => exact stays_of_sameTables rfl
  | tail _ hstep ih =>
      intro t ht hd
      obtain ⟨rows, hrows, hkept⟩ := ih t ht hd
      obtain ⟨rows', hrows', hkept'⟩ := hstep.stays hfile _ hrows hd
      exact ⟨rows', hrows', hkept.trans hkept'⟩

/-- A table for which a check has returned without an error is there, and is to be kept. -/
def Sound (s : Session) : Prop :=
  ∀ T, s.ensured T = true → ∃ t, s.file.tables T = some t ∧ (schemaOf T).discards T t = false

theorem SessionChange.sound {s s' : Session} (h : SessionChange removals s s') (hs : Sound s) :
    Sound s' := by
  intro T hT
  cases h with
  | quiet h =>
      rw [h.1]
      exact hs T (h.2 ▸ hT)
  | file h he =>
      obtain ⟨t, ht, hd⟩ := hs T (he ▸ hT)
      obtain ⟨rows, hrows, -⟩ := h.stays ht hd
      exact ⟨_, hrows, hd⟩
  | @ensure U t ht hd =>
      by_cases hne : T = U
      · subst hne
        exact ⟨t, ht, hd⟩
      · have hbefore : Function.update s.ensured U true T = true := hT
        rw [Function.update_of_ne hne] at hbefore
        exact hs T hbefore
  | remove _ => cases hT

theorem Changes.sound {s s' : Session} (h : Changes removals s s') (hs : Sound s) : Sound s' := by
  induction h with
  | refl => exact hs
  | tail _ hstep ih => exact hstep.sound ih

theorem sound_runAll (file : Database) (outcomes : Nat → Outcome) (ops : List Op) :
    Sound (runAll ops (Session.start file outcomes)) :=
  (changes_runAll ops _).sound nofun

/-! ## Checks never discard current data -/

/-- The operation deletes the row. -/
def Op.deletes (T : TableName) (t : StoredTable) (r : StoredRow) (op : Op) : Bool :=
  gone op.removals T t r

/-- From one state to another nothing of the table is lost but what is deleted: it is not dropped,
and unless the file itself is removed, it is there with its name, its columns and, in their order,
all rows that no operation deletes. -/
structure Undisturbed (T : TableName) (later : List Op) (s s' : Session) : Prop where
  drops : s'.file.drops T = s.file.drops T
  stays : .resetFile ∉ later → ∃ t rows, s.file.tables T = some t ∧
    s'.file.tables T = some { t with rows } ∧
    List.SublistForall₂ StoredRow.Same
      (t.rows.filter fun r => !later.any (Op.deletes T t r)) rows

theorem gone_flatMap (ops : List Op) (T : TableName) (t : StoredTable) (r : StoredRow) :
    gone (ops.flatMap Op.removals) T t r = ops.any (Op.deletes T t r) := by
  induction ops with
  | nil => simp [gone]
  | cons op ops ih =>
      rw [List.any_cons, ← ih]
      simp only [gone, Op.deletes, List.flatMap_cons, List.any_append, Bool.and_or_distrib_left]

theorem file_notMem_removals {ops : List Op} (h : .resetFile ∉ ops) :
    .file ∉ ops.flatMap Op.removals := by
  intro hmem
  obtain ⟨op, hop, hfile⟩ := List.mem_flatMap.mp hmem
  cases op with
  | resetFile => exact h hop
  | _ => simp [Op.removals] at hfile

/-- **Schema checks never discard current data**: once a check has returned without an error for a
table, no operation drops the table, and rows leave it only through the deletion of the run that a
clone or a copy writes to, or a reset. -/
theorem ensured_table_stays (file : Database) (outcomes : Nat → Outcome) (ops later : List Op)
    (T : TableName) (h : (runAll ops (Session.start file outcomes)).ensured T = true) :
    Undisturbed T later (runAll ops (Session.start file outcomes))
      (runAll later (runAll ops (Session.start file outcomes))) := by
  have hsound := sound_runAll file outcomes ops
  generalize runAll ops (Session.start file outcomes) = s at h hsound ⊢
  obtain ⟨t, ht, hd⟩ := hsound T h
  have hchanges := changes_runAll later s
  -- from here on only the state after the check matters
  refine ⟨hchanges.drops ?_, fun hreset => ?_⟩
  · intro t' ht'
    rw [ht] at ht'
    cases ht'
    exact hd
  · obtain ⟨rows, hrows, hkept⟩ := hchanges.stays (file_notMem_removals hreset) t ht hd
    refine ⟨t, rows, ht, hrows, ?_⟩
    rw [RowsKept] at hkept
    simp only [gone_flatMap] at hkept
    exact hkept

/-- A file with one rule in run 1. -/
def oneRuleFile : Database where
  tables
    | .rules => some { createdTable .rules rulesSchema.columns with
        rows := [⟨fun c => if c = "run_id" then some (.int 1) else none⟩] }
    | _ => none
  indexes := []
  drops _ := 0

/-- The rules of run 1 are still there after run 2 has been made of them and a check more. -/
theorem oneRuleFile_undisturbed :
    let s := runAll [.ensureRules] (Session.start oneRuleFile fun _ => .done)
    let later := [.cloneRulesInDB 1 2 "now" [], .ensureRules]
    s.ensured .rules = true ∧ Undisturbed .rules later s (runAll later s) := by
  have hensured : (runAll [.ensureRules] (Session.start oneRuleFile fun _ => .done)).ensured
      .rules = true := by decide +kernel
  exact ⟨hensured, ensured_table_stays oneRuleFile (fun _ => .done) [.ensureRules]
    [.cloneRulesInDB 1 2 "now" [], .ensureRules] .rules hensured⟩

end SnortOptimizer.Sql
