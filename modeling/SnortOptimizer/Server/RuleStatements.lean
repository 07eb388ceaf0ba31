import SnortOptimizer.Server.ApplyAnalysis
import SnortOptimizer.Sql.Outcomes
import SnortOptimizer.Sql.SchemaColumns

/-!
# The rules table, statement by statement

Three descriptions of the rules of a database are in use. `Sql.Stores` runs every statement on a
file that may hold any table, and leaves open which statements a constraint refuses. The server's
`RulesTable` is a table with the current columns that knows its constraints, and the analyser's
`RuleTable` one whose rows all come from parsed rules.

Here each description is tied to the one below it. `HoldsRules` says which rows a file holds, and
the results of `ensureRules`, `copyRulesBetweenDBs` and `cloneRulesInDB` on tables are results the
statements can have, with the file holding the rows that were computed. What is proved in
`Sql.SchemaRuns` of all statements and all their outcomes is so true of the tables as well.
-/

namespace SnortOptimizer.Server

open Analyser Sql

/-! ## Rows -/

/-- The values of a row, in the order of `ruleColumns`. -/
def RulesRow.values (r : RulesRow) : List (Option Value) :=
  [some (.int r.runID), some (.int r.sid), some (.int r.gid), r.rev.map .int, r.action.map .str,
    r.proto.map .str, r.srcNet.map .str, r.srcPort.map .str, r.direction.map .str,
    r.dstNet.map .str, r.dstPort.map .str, r.msg.map .str, r.classtype.map .str,
    some (.int r.enabled), r.sourceFile.map .str, some (.str r.rawText), some (.str r.createdAt)]

def RulesRow.stored (r : RulesRow) : StoredRow :=
  ⟨fun c => ((ruleColumns.zip r.values).lookup c).join⟩

theorem join_lookup_zip {columns : List String} {c : String} (h : c ∉ columns)
    (values : List (Option Value)) : ((columns.zip values).lookup c).join = none := by
  have hnone : (columns.zip values).lookup c = none := by
    rw [List.lookup_eq_none_iff]
    rintro ⟨c', v⟩ hmem
    have hne : c ≠ c' := fun heq => h (heq ▸ (List.of_mem_zip hmem).1)
    simpa using hne
  rw [hnone]
  rfl

theorem copyOf_stored (runID : Int) (now : String) (r : RulesRow) :
    copyOf runID now r.stored = (copyRow runID now r).stored := by
  refine congrArg StoredRow.mk (funext fun c => ?_)
  by_cases hrun : c = "run_id"
  · subst hrun
    rfl
  by_cases hnow : c = "created_at"
  · subst hnow
    rfl
  · rw [if_neg hrun, if_neg hnow]
    by_cases hmem : c ∈ ruleColumns
    · rw [if_pos hmem]
      simp only [RulesRow.stored, RulesRow.values, copyRow, ruleColumns, List.zip_cons_cons,
        List.lookup_cons, beq_false_of_ne hrun, beq_false_of_ne hnow]
    · rw [if_neg hmem]
      exact (join_lookup_zip hmem _).symm

theorem set_enabled_stored (r : RulesRow) (enabled : Int) :
    r.stored.set "enabled" (.int enabled) = { r with enabled := enabled }.stored := by
  refine congrArg StoredRow.mk (funext fun c => ?_)
  by_cases henabled : c = "enabled"
  · subst henabled
    rw [Function.update_self]
    rfl
  · rw [Function.update_of_ne henabled]
    simp only [RulesRow.stored, RulesRow.values, ruleColumns, List.zip_cons_cons,
      List.lookup_cons, beq_false_of_ne henabled]

/-! ## Files -/

/-- The table in a file, with the current columns. -/
def storedRules (rows : List RulesRow) : StoredTable :=
  { createdTable .rules ruleColumns with rows := rows.map RulesRow.stored }

/-- The last index of `rulesSchema`. -/
def uniqueIndex : String × List String :=
  ("idx_rules_run_source_raw", ["run_id", "source_file", "raw_text"])

/-- The file holds the rows and has the unique index, or has not, as the second part says; a file
that does not exist holds no table. -/
structure HoldsRules (d : Database) (contents : Option (List RulesRow × Bool)) : Prop where
  table : d.tables .rules = contents.map fun c => storedRules c.1
  index : d.indexes.any (sameName uniqueIndex.1 ·.name) = contents.any Prod.snd

def RulesTable.contents (t : RulesTable) : List RulesRow × Bool := (t.rows, t.indexed)

variable {d : Database} {rows : List RulesRow} {indexed : Bool}

/-- A statement that names some of the columns finds the table. -/
theorem HoldsRules.find (h : HoldsRules d (some (rows, indexed))) {columns : List String}
    (hcolumns : columns ⊆ ruleColumns) : d.find .rules columns = .ok (storedRules rows) := by
  have hall : columns.find? (!(storedRules rows).hasColumn ·) = none := by
    rw [List.find?_eq_none]
    intro c hc
    have hmem : c ∈ (storedRules rows).columns := hcolumns hc
    simp [hasColumn_of_mem hmem]
  have htable : d.tables .rules = some (storedRules rows) := h.table
  rw [Database.find, htable]
  simp only [hall]

theorem HoldsRules.findTable (h : HoldsRules d (some (rows, indexed))) {columns : List String}
    (hcolumns : columns ⊆ ruleColumns) : d.findTable .rules columns = .ok (storedRules rows) := by
  rw [Database.findTable, h.find hcolumns]
  rfl

theorem HoldsRules.set (h : HoldsRules d (some (rows, indexed))) (new : List RulesRow) :
    HoldsRules (d.set .rules (storedRules new)) (some (new, indexed)) :=
  ⟨Database.set_tables_self _ _ _, h.index⟩

/-- A statement that leaves other rows. -/
theorem HoldsRules.changeRows (h : HoldsRules d (some (rows, indexed))) {columns : List String}
    (hcolumns : columns ⊆ ruleColumns) {f : StoredTable → List StoredRow} {new : List RulesRow}
    (hrows : f (storedRules rows) = new.map RulesRow.stored) :
    ∃ d', Succeeds (changeRows .rules columns f) d () d' ∧ HoldsRules d' (some (new, indexed)) := by
  refine ⟨d.set .rules (storedRules new), .change ?_, h.set new⟩
  rw [h.findTable hcolumns]
  show Except.ok (d.set .rules { storedRules rows with rows := f (storedRules rows) }) = _
  rw [hrows]
  rfl

theorem filter_stored (rows : List RulesRow) (runID : Int) (p : Bool → Bool) :
    (storedRules rows).rows.filter (fun r => p ((storedRules rows).holds r "run_id" runID)) =
      (rows.filter fun r => p (decide (r.runID = runID))).map RulesRow.stored := by
  show (rows.map RulesRow.stored).filter _ = _
  rw [List.filter_map]
  rfl

/-- `DELETE FROM rules WHERE run_id = ...`. -/
theorem HoldsRules.deleteRun (h : HoldsRules d (some (rows, indexed))) (runID : Int) :
    ∃ d', Succeeds (deleteRun runID) d () d' ∧
      HoldsRules d' (some (rows.filter fun r => !decide (r.runID = runID), indexed)) :=
  h.changeRows (by decide) (filter_stored rows runID Bool.not)

/-- The rows of a run. -/
theorem HoldsRules.runRows (h : HoldsRules d (some (rows, indexed))) (runID : Int) :
    d.runRows runID = .ok ((rows.filter (·.runID = runID)).map RulesRow.stored) := by
  rw [Database.runRows, h.find (List.Subset.refl _)]
  exact congrArg Except.ok (filter_stored rows runID id)

/-- `INSERT ... SELECT`. -/
theorem HoldsRules.insertCopies (h : HoldsRules d (some (rows, indexed))) (source : List RulesRow)
    (runID : Int) (now : String) :
    ∃ d', d.insertCopies (.ok (source.map RulesRow.stored)) runID now = .ok d' ∧
      HoldsRules d' (some (rows ++ source.map (copyRow runID now), indexed)) := by
  have hrows : (storedRules rows).rows ++ (source.map RulesRow.stored).map (copyOf runID now) =
      (rows ++ source.map (copyRow runID now)).map RulesRow.stored := by
    rw [List.map_append, List.map_map, List.map_map]
    congr 1
    exact List.map_congr_left fun r _ => copyOf_stored runID now r
  refine ⟨d.set .rules (storedRules (rows ++ source.map (copyRow runID now))), ?_, h.set _⟩
  rw [Database.insertCopies, h.findTable (List.Subset.refl _)]
  show Except.ok (d.set .rules { storedRules rows with rows := _ }) = _
  rw [hrows]
  rfl

/-- `UPDATE rules SET enabled = ...`. -/
theorem HoldsRules.updateEnabled (h : HoldsRules d (some (rows, indexed))) (runID gid sid : Int)
    (enabled : Bool) :
    ∃ d', Succeeds (updateEnabled (if enabled then 1 else 0) runID gid sid) d () d' ∧
      HoldsRules d' (some (rows.map (setEnabledRow runID gid sid enabled), indexed)) := by
  apply h.changeRows (by decide)
  show (rows.map RulesRow.stored).map _ = _
  rw [List.map_map, List.map_map]
  refine List.map_congr_left fun r _ => ?_
  show (if (decide (r.runID = runID) && decide (r.gid = gid) && decide (r.sid = sid)) = true then
    r.stored.set "enabled" (.int (if enabled then 1 else 0)) else r.stored) =
    (setEnabledRow runID gid sid enabled r).stored
  unfold setEnabledRow
  simp only [Bool.and_eq_true, decide_eq_true_eq, and_assoc]
  split
  · exact set_enabled_stored r _
  · rfl

/-! ## Results -/

/-- The errors agree, as far as the program has a text of its own for them. -/
def SameError : DbError → String → Prop
  | .fault message, err => message = err
  | .noRules message, err => message = err
  | _, _ => True

def SameResult : Except DbError Unit → Except String Unit → Prop
  | .ok _, .ok _ => True
  | .error e, .error err => SameError e err
  | _, _ => False

/-- The statements can come to the result, and leave the table. -/
def CanEnd (x : Db Unit) (d : Database) (call : Except String Unit × Option RulesTable) : Prop :=
  ∃ os result d', Returns x os d result d' ∧ SameResult result call.1 ∧
    HoldsRules d' (call.2.map RulesTable.contents)

/-- There are outcomes with which a session of its own comes to the result and the table. -/
def Possible (x : Db Unit) (d : Database) (call : Except String Unit × Option RulesTable) : Prop :=
  ∃ outcomes result s, x (.start d outcomes) = resultIn s result ∧ SameResult result call.1 ∧
    HoldsRules s.file (call.2.map RulesTable.contents)

variable {t : RulesTable} {target : Option RulesTable}
  {call : Except String Unit × Option RulesTable}

theorem CanEnd.possible {x : Db Unit} (h : CanEnd x d call) : Possible x d call := by
  obtain ⟨os, result, d', hends, hresult, hd'⟩ := h
  obtain ⟨outcomes, s, hs, hfile⟩ := hends.exists_outcomes
  exact ⟨outcomes, result, s, hs, hresult, hfile ▸ hd'⟩

theorem CanEnd.bind {α : Type} {x : Db α} {f : α → Db Unit} {a : α} {d₁ : Database}
    (hx : Succeeds x d a d₁) (hf : CanEnd (f a) d₁ call) : CanEnd (x >>= f) d call := by
  obtain ⟨os, result, d', hends, hrest⟩ := hf
  obtain ⟨os', hends'⟩ := hx.ends_bind ⟨os, hends⟩
  exact ⟨os', result, d', hends', hrest⟩

/-- A statement that fails for reasons of its own ends the sequence. -/
theorem CanEnd.failed {α : Type} {x : Db α} (hx : IsStatement x) (f : α → Db Unit) (err : String)
    (h : HoldsRules d (target.map RulesTable.contents)) :
    CanEnd (x >>= f) d (.error err, target) :=
  ⟨_, _, _, (Returns.failed hx err d).bind_error, rfl, h⟩

/-! ## Copies between files -/

/-- What stands at the source path. -/
def HoldsSource : Option Database → SourceDB → Prop
  | none, .missing => True
  | some d, .unreadable _ => ∃ e, d.find .rules ruleColumns = .error e
  | some d, .rules t => HoldsRules d (some t.contents)
  | _, _ => False

/-- `CREATE TABLE IF NOT EXISTS`, without the index. -/
theorem HoldsRules.createTable {contents : Option (List RulesRow × Bool)}
    (h : HoldsRules d contents) :
    ∃ d', Succeeds (createTable .rules copyTableColumns) d () d' ∧
      HoldsRules d' (some (contents.getD ([], false))) := by
  refine ⟨d.create .rules copyTableColumns, .change rfl, ?_⟩
  cases contents with
  | none =>
      have htable : d.tables .rules = none := h.table
      rw [Database.create, htable]
      exact ⟨Database.set_tables_self _ _ _, h.index⟩
  | some c =>
      have htable : d.tables .rules = some (storedRules c.1) := h.table
      rw [Database.create, htable]
      exact h

theorem contents_getD (target : Option RulesTable) :
    (target.map RulesTable.contents).getD ([], false) = (target.getD .created).contents := by
  cases target <;> rfl

theorem sameError_of_find {T : TableName} {columns : List String} {e : DbError}
    (h : d.find T columns = .error e) (err : String) : SameError e err := by
  rw [Database.find] at h
  split at h
  · cases h
    trivial
  · split at h
    · cases h
      trivial
    · cases h

theorem runRows_unreadable {source : Database} {e : DbError} (runID : Int)
    (h : source.find .rules ruleColumns = .error e) : source.runRows runID = .error e := by
  rw [Database.runRows, h]
  rfl

/-- The count, and what is made of it. -/
theorem canEnd_count (fault : Option String) (message : String) (runID : Int)
    (h : HoldsRules d (some t.contents)) :
    CanEnd (do
        let copied ← query fun d =>
          (d.find .rules ["run_id"]).map fun t => t.rows.countP (t.holds · "run_id" runID)
        if copied = 0 then throw (.noRules message) else pure ()) d
      (match fault with
      | some e => (.error e, some t)
      | none =>
          if t.rows.countP (·.runID = runID) = 0 then (.error message, some t)
          else (.ok (), some t)) := by
  cases fault with
  | some e => exact .failed (isStatement_query _) _ e h
  | none =>
      have hcount : (storedRules t.rows).rows.countP ((storedRules t.rows).holds · "run_id" runID) =
          t.rows.countP (·.runID = runID) := by
        show (t.rows.map RulesRow.stored).countP _ = _
        rw [List.countP_map]
        rfl
      refine .bind (.query (a := t.rows.countP (·.runID = runID)) ?_) ?_
      · rw [h.find (by decide)]
        exact congrArg Except.ok hcount
      · dsimp only
        split
        · exact ⟨_, _, _, Returns.throw _ _, rfl, h⟩
        · exact ⟨_, _, _, Returns.pure _ _, trivial, h⟩

/-- The `INSERT`, with what follows it. -/
theorem canEnd_insert {faults : CopyFaults} {now : String} {source : SourceDB} {src : Database}
    {sourceRunID targetRunID : Int} {next : Db Unit}
    {result : RulesTable → Except String Unit × Option RulesTable}
    (hsource : HoldsSource (some src) source) (h : HoldsRules d (some t.contents))
    (hnext : ∀ d' u, HoldsRules d' (some u.contents) → CanEnd next d' (result u)) :
    CanEnd (do
        change fun d => d.insertCopies (src.runRows sourceRunID) targetRunID now
        next) d
      (match Server.insertCopies faults source (copies source sourceRunID targetRunID now) t with
      | .error e => (.error e, some t)
      | .ok u => result u) := by
  unfold Server.insertCopies
  cases faults .insert with
  | some e => exact .failed (isStatement_change _) _ e h
  | none =>
      cases source with
      | missing => exact absurd hsource id
      | unreadable err =>
          obtain ⟨e, he⟩ := hsource
          rw [runRows_unreadable sourceRunID he]
          refine ⟨_, _, _, (Returns.change_error (e := e) rfl).bind_error, ?_, h⟩
          exact sameError_of_find he err
      | rules st =>
          obtain ⟨d', hd', h'⟩ := h.insertCopies ((SourceDB.rules st).rowsOf sourceRunID)
            targetRunID now
          rw [HoldsRules.runRows hsource sourceRunID]
          cases hinsert : t.table.insertAll (copies (.rules st) sourceRunID targetRunID now) with
          | none =>
              -- that the rows are in conflict is for the table to say, not for the statement
              exact ⟨_, _, _, (Returns.change_refused hd').bind_error, trivial, h⟩
          | some table =>
              have hrows := Table.insertAll_rows hinsert
              refine .bind (.change hd') (hnext d' { t with table := table } ?_)
              rw [RulesTable.contents, RulesTable.rows, hrows]
              exact h'

/-- **A copy between files, in its statements.** Whatever the faults of a copy on tables, there are
outcomes of the statements with which they end in the same way, on files that hold the tables. -/
theorem copyRulesBetweenDBs_possible (faults : CopyFaults) (now sourceAbs : String)
    {source : SourceDB} {src : Option Database} (sourceRunID targetRunID : Int)
    (hsource : HoldsSource src source) (h : HoldsRules d (target.map RulesTable.contents)) :
    Possible (Sql.copyRulesBetweenDBs src sourceAbs now sourceRunID targetRunID) d
      (Server.copyRulesBetweenDBs faults now sourceAbs source target sourceRunID targetRunID) := by
  apply CanEnd.possible
  unfold Sql.copyRulesBetweenDBs Server.copyRulesBetweenDBs firstError
  simp only [Option.orElse_eq_orElse, Option.orElse_eq_or]
  cases hfile : fileError faults sourceAbs source with
  | some e =>
      rw [Option.some_or]
      exact .failed (isStatement_query _) _ e h
  | none =>
      refine .bind (.attempt d) ?_
      rw [Option.none_or]
      cases src with
      | none =>
          -- a missing source is an error of its own
          cases source with
          | missing => simp [fileError] at hfile
          | unreadable _ | rules _ => exact absurd hsource id
      | some src =>
          cases hattach : faults .attach with
          | some e =>
              rw [Option.some_or]
              exact .failed (isStatement_query _) _ e h
          | none =>
              refine .bind (.attempt d) ?_
              rw [Option.none_or]
              cases hcreate : faults .create with
              | some e => exact .failed (isStatement_change _) _ e h
              | none =>
                  obtain ⟨d₁, hdone, h₁⟩ := h.createTable
                  rw [contents_getD] at h₁
                  refine .bind hdone ?_
                  cases hdelete : faults .delete with
                  | some e => exact .failed (isStatement_changeRows _ _ _) _ e h₁
                  | none =>
                      obtain ⟨d₂, hdone, h₂⟩ := h₁.deleteRun targetRunID
                      refine .bind hdone ?_
                      exact canEnd_insert hsource h₂ fun d' u h' =>
                        canEnd_count (faults .count) _ targetRunID h'

/-! ## The schema check -/

/-- The columns of the table are those the check asks for. -/
theorem HoldsRules.recreate {contents : Option (List RulesRow × Bool)}
    (h : HoldsRules d contents) :
    Succeeds (recreateIncompatibleTable .rules rulesSchema.required rulesSchema.forbidden) d ()
      d := by
  cases contents with
  | none =>
      have htable : d.tables .rules = none := h.table
      refine .bind (a := false) (.query ?_) (.pure () d)
      rw [htable]
      rfl
  | some c =>
      have htable : d.tables .rules = some (storedRules c.1) := h.table
      have hkept : incompatible (storedRules c.1).columnNames rulesSchema.required
          rulesSchema.forbidden = false := by
        show incompatible (ruleColumns.filter (· ≠ "")) _ _ = false
        decide
      refine .bind (a := true) (.query ?_)
        (.bind (a := (storedRules c.1).columnNames) (.query ?_) ?_)
      · rw [htable]
        rfl
      · rw [htable]
        rfl
      · rw [hkept]
        exact .pure () d

/-- An index of the table is there already, or is made. -/
theorem HoldsRules.createIndex (h : HoldsRules d (some (rows, indexed)))
    (index : String × List String) (hcolumns : index.2 ⊆ ruleColumns) :
    ∃ d', d.createIndex .rules index = .ok d' ∧ d'.tables = d.tables ∧
      (d'.indexes = d.indexes ∧ d.indexes.any (sameName index.1 ·.name) = true ∨
        d'.indexes = d.indexes ++ [⟨index.1, some .rules⟩]) := by
  rw [Database.createIndex, h.findTable (List.nil_subset _), h.find hcolumns]
  by_cases hany : d.indexes.any (sameName index.1 ·.name) = true
  · simp only [hany, if_true]
    exact ⟨d, rfl, rfl, .inl ⟨rfl, trivial⟩⟩
  · simp only [hany, Bool.false_eq_true, if_false]
    exact ⟨_, rfl, rfl, .inr rfl⟩

/-- An index other than the unique one. -/
theorem HoldsRules.createOther (h : HoldsRules d (some (rows, indexed)))
    (index : String × List String) (hcolumns : index.2 ⊆ ruleColumns)
    (hname : sameName uniqueIndex.1 index.1 = false) :
    ∃ d', Succeeds (Sql.createIndex .rules index) d () d' ∧
      HoldsRules d' (some (rows, indexed)) := by
  obtain ⟨d', hd', htables, hindexes⟩ := h.createIndex index hcolumns
  refine ⟨d', .change hd', htables ▸ h.table, ?_⟩
  rcases hindexes with ⟨heq, -⟩ | heq
  · rw [heq]
    exact h.index
  · rw [heq, List.any_append, h.index, List.any_cons, hname]
    exact Bool.or_false _

/-- The unique index, if it is not refused. -/
theorem HoldsRules.createUnique (h : HoldsRules d (some (rows, indexed))) :
    ∃ d', Succeeds (Sql.createIndex .rules uniqueIndex) d () d' ∧
      HoldsRules d' (some (rows, true)) := by
  obtain ⟨d', hd', htables, hindexes⟩ := h.createIndex uniqueIndex (by decide)
  refine ⟨d', .change hd', htables ▸ h.table, ?_⟩
  rcases hindexes with ⟨heq, hany⟩ | heq
  · rw [heq]
    exact hany
  · rw [heq, List.any_append]
    simp [sameName]

/-- The check up to its last statement, and what becomes of that one. -/
theorem HoldsRules.checkTable {contents after : Option (List RulesRow × Bool)}
    (h : HoldsRules d contents) (result : Except DbError Unit)
    (hlast : ∀ d', HoldsRules d' (some (contents.getD ([], false))) → ∃ os d'',
      Returns (Sql.createIndex .rules uniqueIndex) os d' result d'' ∧ HoldsRules d'' after) :
    ∃ os d', Returns (Sql.checkTable .rules rulesSchema) os d result d' ∧ HoldsRules d' after := by
  obtain ⟨d₁, hcreate, h₁⟩ := h.createTable
  obtain ⟨d₂, hsid, h₂⟩ := h₁.createOther ("idx_rules_sid", ["sid"]) (by decide) (by decide)
  obtain ⟨d₃, henabled, h₃⟩ := h₂.createOther ("idx_rules_enabled", ["enabled"]) (by decide)
    (by decide)
  obtain ⟨d₄, hrun, h₄⟩ := h₃.createOther ("idx_rules_run_id", ["run_id"]) (by decide) (by decide)
  obtain ⟨os, d₅, hunique, h₅⟩ := hlast d₄ h₄
  have hscript : Succeeds (createScript .rules rulesSchema) d () d₃ :=
    .bind (.attempt d) (.bind (.attempt d) (.bind hcreate (.bind hsid (.bind henabled
      (.pure () d₃)))))
  have hends : ∃ os, Returns (Sql.checkTable .rules rulesSchema) os d result d₅ :=
    h.recreate.ends_bind (hscript.ends_bind ((Succeeds.attempt d₃).ends_bind
      (hrun.ends_bind ⟨os, hunique.forM_singleton⟩)))
  obtain ⟨os', hends⟩ := hends
  exact ⟨os', d₅, hends, h₅⟩

/-- A check that goes through leaves the rows, with the index. -/
theorem HoldsRules.ensureRules {contents : Option (List RulesRow × Bool)}
    (h : HoldsRules d contents) :
    ∃ os d', Returns Sql.ensureRules os d (.ok ()) d' ∧
      HoldsRules d' (some ((contents.getD ([], false)).1, true)) := by
  obtain ⟨os, d', hends, h'⟩ := h.checkTable (.ok ()) fun d' hd' => by
    obtain ⟨d'', ⟨n, hn⟩, hd''⟩ := hd'.createUnique
    exact ⟨_, d'', hn, hd''⟩
  obtain ⟨n, hn⟩ := Succeeds.markEnsured .rules d'
  exact ⟨_, d', hends.bind hn, h'⟩

/-- A check whose last index is refused. -/
theorem HoldsRules.ensureRules_refused {contents : Option (List RulesRow × Bool)}
    (h : HoldsRules d contents) :
    ∃ os d', Returns Sql.ensureRules os d (.error .constraint) d' ∧
      HoldsRules d' (some (contents.getD ([], false))) := by
  obtain ⟨os, d', hends, h'⟩ := h.checkTable (.error .constraint) fun d' hd' => by
    obtain ⟨d'', hd'', -⟩ := hd'.createIndex uniqueIndex (by decide)
    exact ⟨_, d', Returns.change_refused hd'', hd'⟩
  exact ⟨os, d', hends.bind_error, h'⟩

/-- The first statement of the check fails. -/
theorem ensureRules_failed (err : String) (d : Database) :
    Returns Sql.ensureRules [.failed err] d (.error (.fault err)) d := by
  have hfirst : Returns
      (recreateIncompatibleTable .rules rulesSchema.required rulesSchema.forbidden)
      [.failed err] d (.error (.fault err)) d :=
    (Returns.failed (isStatement_query _) err d).bind_error
  have hcheck : Returns (checkTable .rules rulesSchema) [.failed err] d (.error (.fault err)) d :=
    hfirst.bind_error
  exact hcheck.bind_error

theorem index_eq_some {u : RulesTable} (h : t.index = some u) : u.contents = (t.rows, true) := by
  rw [RulesTable.index] at h
  split at h
  · cases h
    rfl
  · cases h

/-- **The schema check, in its statements.** Whatever the fault of a check, there are outcomes of
its statements with which they end in the same way, on a file that holds the table. -/
theorem ensureRules_possible (fault : Option EnsureFault) {file : DBFile}
    (h : HoldsRules d (file.join.map RulesTable.contents)) :
    Possible Sql.ensureRules d
      ((Server.ensureRules fault file).1, (Server.ensureRules fault file).2.join) := by
  apply CanEnd.possible
  unfold Server.ensureRules
  match fault with
  | some (.before e) => exact ⟨_, _, _, ensureRules_failed e d, rfl, h⟩
  | some (.after e) => exact ⟨_, _, _, ensureRules_failed e d, rfl, h⟩
  | none =>
      cases htable : file.join with
      | none =>
          rw [htable] at h
          obtain ⟨os, d', hends, h'⟩ := h.ensureRules
          exact ⟨os, _, d', hends, trivial, h'⟩
      | some t =>
          rw [htable] at h
          cases hindex : t.index with
          | none =>
              obtain ⟨os, d', hends, h'⟩ := h.ensureRules_refused
              simp only [hindex]
              exact ⟨os, _, d', hends, trivial, h'⟩
          | some u =>
              obtain ⟨os, d', hends, h'⟩ := h.ensureRules
              have hcontents : HoldsRules d' (some u.contents) := index_eq_some hindex ▸ h'
              simp only [hindex]
              exact ⟨os, _, d', hends, trivial, hcontents⟩

/-! ## Copies within a file -/

/-- A row of the analyser's table, with the time at which it was made. -/
def datedRow (r : RuleRow × String) : RulesRow := ruleRow r.1.runID r.2 r.1.rule

/-- The file holds the analyser's table, with some times. -/
def HoldsTable (d : Database) (t : RuleTable) : Prop :=
  ∃ dated : List (RuleRow × String), t.rows = dated.map Prod.fst ∧
    HoldsRules d (some (dated.map datedRow, true))

section Clone

variable {table table' : RuleTable}

theorem HoldsTable.deleteRun (h : HoldsTable d table) (runID : Int) :
    ∃ d', Succeeds (deleteRun runID) d () d' ∧
      HoldsTable d' (table.delete (·.runID = runID)) := by
  obtain ⟨dated, hrows, h⟩ := h
  obtain ⟨d', hdone, h'⟩ := h.deleteRun runID
  refine ⟨d', hdone, dated.filter fun r => !decide (r.1.runID = runID), ?_, ?_⟩
  · show table.rows.filter _ = _
    rw [hrows, List.filter_map]
    rfl
  · rw [List.filter_map] at h'
    exact h'

theorem HoldsTable.insertCopies (h : HoldsTable d table) {fromRunID toRunID : Int} (now : String)
    (hinsert : table.insertAll
      ((rowsOf table fromRunID).map fun r => { r with runID := toRunID }) = some table') :
    ∃ d', Succeeds (change fun d => d.insertCopies (d.runRows fromRunID) toRunID now) d () d' ∧
      HoldsTable d' table' := by
  obtain ⟨dated, hrows, h⟩ := h
  obtain ⟨d', hd', h'⟩ :=
    h.insertCopies ((dated.map datedRow).filter (·.runID = fromRunID)) toRunID now
  let copied := (dated.filter (·.1.runID = fromRunID)).map fun r =>
    ({ r.1 with runID := toRunID }, now)
  refine ⟨d', .change ?_, dated ++ copied, ?_, ?_⟩
  · rw [h.runRows]
    exact hd'
  · rw [Table.insertAll_rows hinsert, rowsOf, hrows, List.map_append, List.filter_map,
      List.map_map, List.map_map]
    rfl
  · rw [List.filter_map, List.map_map] at h'
    rw [List.map_append, List.map_map]
    exact h'

theorem datedRow_disableRow (runID : Int) (x : RuleRef) (r : RuleRow × String) :
    datedRow (disableRow runID x.key r.1, r.2) =
      setEnabledRow runID x.gid x.sid false (datedRow r) := by
  have hkey : (r.1.rule.key = x.key) ↔ (datedRow r).gid = x.gid ∧ (datedRow r).sid = x.sid :=
    Prod.mk_inj
  unfold disableRow setEnabledRow
  by_cases hrow : r.1.runID = runID ∧ r.1.rule.key = x.key
  · rw [if_pos hrow, if_pos ⟨hrow.1, hkey.mp hrow.2⟩]
    rfl
  · rw [if_neg hrow, if_neg fun h => hrow ⟨h.1, hkey.mpr h.2⟩]

theorem HoldsTable.disable (h : HoldsTable d table) (runID : Int) (decisions : List RuleRef) :
    ∃ d', Succeeds (decisions.forM fun x => updateEnabled 0 runID x.gid x.sid) d () d' ∧
      HoldsTable d' (decisions.foldl (fun t x => disable t runID x.key) table) := by
  induction decisions generalizing d table with
  | nil => exact ⟨d, .pure () d, h⟩
  | cons x decisions ih =>
      obtain ⟨dated, hrows, h⟩ := h
      obtain ⟨d₁, hdone, h₁⟩ := h.updateEnabled runID x.gid x.sid false
      have hnext : HoldsTable d₁ (Analyser.disable table runID x.key) := by
        refine ⟨dated.map fun r => (disableRow runID x.key r.1, r.2), ?_, ?_⟩
        · show table.rows.map _ = _
          rw [hrows, List.map_map, List.map_map]
          rfl
        · have hmap : (dated.map fun r => (disableRow runID x.key r.1, r.2)).map datedRow =
              (dated.map datedRow).map (setEnabledRow runID x.gid x.sid false) := by
            rw [List.map_map, List.map_map]
            exact List.map_congr_left fun r _ => datedRow_disableRow runID x r
          rw [hmap]
          exact h₁
      obtain ⟨d', hrest, h'⟩ := ih hnext
      exact ⟨d', .bind hdone hrest, h'⟩

/-- **A copy within a file, in its statements.** Where all statements go through they leave what
the analyser computes. -/
theorem cloneRulesInDB_possible (h : HoldsTable d table) (fromRunID toRunID : Int) (now : String)
    (decisions : List RuleRef) :
    ∃ outcomes s table', Analyser.cloneRulesInDB table fromRunID toRunID decisions = .ok table' ∧
      Sql.cloneRulesInDB fromRunID toRunID now decisions (.start d outcomes) = .ok () s ∧
      HoldsTable s.file table' := by
  obtain ⟨dated, hrows, hd⟩ := h
  obtain ⟨os, d₁, hensure, h₁⟩ := hd.ensureRules
  have h₁ : HoldsTable d₁ table := ⟨dated, hrows, h₁⟩
  obtain ⟨d₂, hdelete, h₂⟩ := h₁.deleteRun toRunID
  obtain ⟨copied, hinsert⟩ := insertAll_copies table fromRunID toRunID
  obtain ⟨d₃, hcopy, h₃⟩ := h₂.insertCopies now hinsert
  obtain ⟨d₄, hdisable, h₄⟩ := h₃.disable toRunID decisions
  have hprepare : Succeeds
      (query fun d => (d.findTable .rules enabledColumns).map fun _ => ()) d₃ () d₃ := by
    obtain ⟨dated₃, -, hd₃⟩ := h₃
    apply Succeeds.query
    rw [hd₃.findTable (by decide)]
    rfl
  have hscript : Succeeds (do
      deleteRun toRunID
      change fun d => d.insertCopies (d.runRows fromRunID) toRunID now
      query fun d => (d.findTable .rules enabledColumns).map fun _ => ()
      decisions.forM fun x => updateEnabled 0 toRunID x.gid x.sid) d₁ () d₄ :=
    .bind hdelete (.bind hcopy (.bind hprepare hdisable))
  obtain ⟨n, hn⟩ := hscript.transaction
  have hall : Returns (Sql.cloneRulesInDB fromRunID toRunID now decisions) _ d (.ok ()) d₄ :=
    hensure.bind hn
  obtain ⟨outcomes, s, hs, hfile⟩ := hall.exists_outcomes
  refine ⟨outcomes, s, _, ?_, hs, hfile ▸ h₄⟩
  unfold Analyser.cloneRulesInDB
  dsimp only
  rw [hinsert]

end Clone

/-! ## The store of an instance -/

/-- Parsed rules are inserted alike into both tables. -/
theorem rulesTable_insertRules (now : String) (t : RuleTable) (runID : Int)
    (records : List Rule) :
    (rulesTable now t).insertRules runID now records =
      rulesTable now (Analyser.insertRules t runID records) := by
  have htable : records.foldl (fun t r => t.insertOrIgnore (ruleRow runID now r))
      (rulesTable now t).table = (rulesTable now (Analyser.insertRules t runID records)).table := by
    induction records generalizing t with
    | nil => rfl
    | cons r records ih =>
        have hone : (rulesTable now t).table.insertOrIgnore (ruleRow runID now r) =
            (rulesTable now (t.insertOrIgnore { runID := runID, rule := r })).table :=
          Table.image_insertOrIgnore (fun r s => (ruleRow_conflict_iff now r s).mp)
            (fun r s => (ruleRow_conflict_iff now r s).mpr) t { runID := runID, rule := r }
        rw [List.foldl_cons, hone]
        exact ih (t.insertOrIgnore { runID := runID, rule := r })
  rw [RulesTable.insertRules, htable]
  rfl

/-- A rule is switched on and off alike in both tables. -/
theorem rulesTable_setEnabled (now : String) (t : RuleTable) (runID gid sid : Int)
    (enabled : Bool) :
    (rulesTable now t).setEnabled runID gid sid enabled =
      rulesTable now (Rules.setEnabled t runID gid sid enabled) := by
  have hrow : ∀ r : RuleRow, setEnabledRow runID gid sid enabled (ruleRow r.runID now r.rule) =
      let r := Rules.setEnabledRow runID (gid, sid) enabled r
      ruleRow r.runID now r.rule := by
    intro r
    by_cases h : r.runID = runID ∧ r.rule.gid = gid ∧ r.rule.sid = sid
    · have hkey : r.runID = runID ∧ r.rule.key = (gid, sid) := ⟨h.1, Prod.ext h.2.1 h.2.2⟩
      dsimp only
      rw [Rules.setEnabledRow, if_pos hkey]
      exact if_pos h
    · have hkey : ¬ (r.runID = runID ∧ r.rule.key = (gid, sid)) := by
        rintro ⟨hrun, hkey⟩
        exact h ⟨hrun, (Prod.mk.inj hkey).1, (Prod.mk.inj hkey).2⟩
      dsimp only
      rw [Rules.setEnabledRow, if_neg hkey]
      exact if_neg h
  have htable : ((rulesTable now t).setEnabled runID gid sid enabled).table =
      (rulesTable now (Rules.setEnabled t runID gid sid enabled)).table := by
    apply Table.ext
    show List.map _ (List.map _ _) = List.map _ (List.map _ _)
    rw [List.map_map, List.map_map]
    exact List.map_congr_left fun r _ => hrow r
  exact congrArg (RulesTable.mk true) htable

theorem enabled_rulesTable (now : String) (t : RuleTable) :
    ((rulesTable now t).rows.filter fun r => r.runID = 0 ∧ r.enabled = 1) =
      (((rowsOf t 0).map RuleRow.rule).filter fun r => r.enabled).map (ruleRow 0 now) := by
  have henabled : ∀ r : RuleRow, (ruleRow r.runID now r.rule).enabled = 1 ↔
      r.rule.enabled = true := by
    intro r
    cases h : r.rule.enabled <;> simp [ruleRow, h]
  show (t.rows.map _).filter _ = _
  rw [rowsOf, List.filter_map, List.filter_map, List.filter_filter, List.map_map]
  have hfilter : t.rows.filter ((fun r => decide (r.runID = 0 ∧ r.enabled = 1)) ∘
      fun r => ruleRow r.runID now r.rule) =
      t.rows.filter fun r => r.rule.enabled && decide (r.runID = 0) := by
    refine List.filter_congr fun r _ => ?_
    rw [Bool.eq_iff_iff, Bool.and_eq_true, decide_eq_true_eq, Function.comp_apply,
      decide_eq_true_eq, henabled, and_comm]
    rfl
  rw [hfilter]
  -- what is selected is in run 0
  refine List.map_congr_left fun r hr => ?_
  have hselected := (List.mem_filter.mp hr).2
  rw [Bool.and_eq_true, decide_eq_true_eq] at hselected
  rw [hselected.2]
  rfl

/-- Both tables give Snort the same rules. -/
theorem generateAllRules_rulesTable (now : String) (t : RuleTable) :
    (generateAllRules (some (some (rulesTable now t)))).map String.toList =
      Rules.allRulesLines (Rules.listEnabled t 0 Rules.maxRuleList) := by
  have hsort : ((rulesTable now t).rows.filter fun r => r.runID = 0 ∧ r.enabled = 1).insertionSort
      (fun a b => keyLe (a.gid, a.sid) (b.gid, b.sid)) =
      (listRulesFromDB t 0 true).map (ruleRow 0 now) := by
    rw [enabled_rulesTable, listRulesFromDB]
    exact (List.map_insertionSort (fun a b : Rule => keyLe a.key b.key)
      (fun a b : RulesRow => keyLe (a.gid, a.sid) (b.gid, b.sid)) _ _ fun a _ b _ => Iff.rfl).symm
  have hne : ∀ s : String, s ≠ "" ↔ s.toList ≠ [] := fun s => by
    rw [Ne, Ne, String.toList_eq_nil_iff]
  simp only [generateAllRules, Option.join_some, Option.map_some, Option.getD_some, hsort,
    Rules.allRulesLines, Rules.listEnabled, ← List.map_take, List.map_map, List.filter_map]
  rw [List.filter_congr fun r _ => ?_]
  · rfl
  · exact decide_eq_decide.mpr (hne _)

theorem index_rulesTable (now : String) (t : RuleTable) :
    (rulesTable now t).index = some (rulesTable now t) :=
  dif_pos (rulesTable now t).table.apart

/-- **The store of an instance.** For run 0 and without faults, the analyser and the production
store come to the same result: the same error, or files with the same rules. -/
theorem ensureRuleStore_dbFile (cfg : Analyser.Config) (env : Externals) (inst : Instance)
    (now : String) {db : SnortDB} (hdb : db.created = false → db.rules = .empty) :
    let init := Server.ensureRuleStore
      { faultless with rawRulePath := env.rawRulePath, now := now } (dbFile now db)
    match Analyser.ensureRuleStore cfg env inst 0 db with
    | .ok db' => init.result = .ok () ∧ init.file = dbFile now db'
    | .error e => init.result = .error e := by
  intro init
  unfold Analyser.ensureRuleStore
  rw [if_neg (by decide)]
  cases hcreated : db.created with
  | true =>
      have hinit : init = { result := .ok (), file := dbFile now db, imported := false } := by
        simp only [init, Server.ensureRuleStore, faultless, dbFile, hcreated, if_true,
          Option.isNone_some, Server.ensureRules, Option.join_some, index_rulesTable]
        rfl
      rw [hinit]
      exact ⟨rfl, rfl⟩
  | false =>
      have hfile : dbFile now db = none := by rw [dbFile, hcreated, if_neg Bool.false_ne_true]
      have hindex : RulesTable.fresh.index = some .fresh := index_rulesTable now .empty
      have hinsert := rulesTable_insertRules now .empty 0
      simp only [init, Server.ensureRuleStore, faultless, hfile, Server.ensureRules,
        Option.isNone_none, Option.join_none, if_true, importRules, hdb hcreated]
      cases env.rawRulePath with
      | error e => rfl
      | ok records =>
          by_cases hnil : records = []
          · -- nothing to insert: the table is there, and empty
            subst hnil
            exact ⟨rfl, rfl⟩
          · have hfiles : insertBatch { faultless with rawRulePath := .ok records, now := now }
                records (some (some .fresh)) =
                (.ok (), some (some (rulesTable now (Analyser.insertRules .empty 0 records)))) := by
              rw [insertBatch, if_neg hnil]
              simp only [Server.ensureRules, faultless, Option.join_some, hindex, Option.map_some,
                ← hinsert]
              rfl
            simp only [faultless] at hfiles
            simp only [hfiles]
            exact ⟨trivial, rfl⟩

end SnortOptimizer.Server
