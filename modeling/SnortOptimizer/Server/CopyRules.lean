import SnortOptimizer.Table.Basic
import Mathlib.Data.List.Basic

/-!
# Copying rules between databases (`server/api/queries.go`)

`copyRulesBetweenDBs` replaces the rules of one run in the target database by those of a run in
the source database. It creates the table if need be, deletes, inserts and counts, each in a
statement of its own that is committed at once, and may return an error after any of them.

The two databases are different files. What the operating system and SQLite may report for reasons
of their own (a full disk, a locked database) is a fault at one of the steps; a statement that
fails has no effect.
-/

namespace SnortOptimizer.Server

/-! ## Databases -/

/-- A row of the `rules` table. -/
structure RulesRow where
  runID : Int
  sid : Int
  gid : Int
  rev : Option Int
  action : Option String
  proto : Option String
  srcNet : Option String
  srcPort : Option String
  direction : Option String
  dstNet : Option String
  dstPort : Option String
  msg : Option String
  classtype : Option String
  enabled : Int
  sourceFile : Option String
  rawText : String
  createdAt : String
  deriving DecidableEq, Repr

/-- Equal in the columns of the unique index, where `NULL` is equal to nothing. -/
def RulesRow.SameText (r s : RulesRow) : Prop :=
  r.sourceFile ≠ none ∧ r.sourceFile = s.sourceFile ∧ r.rawText = s.rawText

instance (r s : RulesRow) : Decidable (r.SameText s) := inferInstanceAs (Decidable (_ ∧ _ ∧ _))

/-- The row violates the primary key or, where there is one, the unique index
`idx_rules_run_source_raw`. -/
def RulesRow.Conflict (indexed : Bool) (r s : RulesRow) : Prop :=
  r.runID = s.runID ∧
    ((r.gid = s.gid ∧ r.sid = s.sid) ∨ (indexed = true ∧ r.SameText s))

instance (indexed : Bool) (r s : RulesRow) : Decidable (r.Conflict indexed s) :=
  inferInstanceAs (Decidable (_ ∧ (_ ∨ (_ ∧ _))))

/-- The `rules` table of a database. Only `EnsureRules` makes the unique index. -/
structure RulesTable where
  indexed : Bool
  table : Table RulesRow (RulesRow.Conflict indexed)

def RulesTable.rows (t : RulesTable) : List RulesRow := t.table.rows

/-- The table as `copyRulesBetweenDBs` creates it. -/
def RulesTable.created : RulesTable := { indexed := false, table := .empty }

/-- What stands at the source path. -/
inductive SourceDB where
  | missing
  | unreadable (err : String)      -- without a `rules` table, or one of its columns
  | rules (t : RulesTable)

def SourceDB.rowsOf : SourceDB → Int → List RulesRow
  | .rules t, runID => t.rows.filter (·.runID = runID)
  | _, _ => []

/-! ## The copy -/

inductive CopyStep where
  | sourceAbs | targetAbs | stat | mkdir | openDB | attach | create | delete | insert | count
  deriving DecidableEq, Repr

abbrev CopyFaults := CopyStep → Option String

/-- The row `INSERT INTO rules (...) SELECT ?, ..., datetime('now')` makes of a row. -/
def copyRow (targetRunID : Int) (now : String) (r : RulesRow) : RulesRow :=
  { r with runID := targetRunID, createdAt := now }

def copies (source : SourceDB) (sourceRunID targetRunID : Int) (now : String) : List RulesRow :=
  (source.rowsOf sourceRunID).map (copyRow targetRunID now)

/-- The first error before the target file is opened. -/
def fileError (faults : CopyFaults) (sourceAbs : String) (source : SourceDB) : Option String :=
  let missing := match source with
    | .missing => some ("stat " ++ sourceAbs ++ ": no such file or directory")
    | _ => none
  faults .sourceAbs <|> faults .targetAbs <|> missing <|> faults .stat <|> faults .mkdir <|>
    faults .openDB

/-- The first error before the target's table is touched. -/
def firstError (faults : CopyFaults) (sourceAbs : String) (source : SourceDB) : Option String :=
  fileError faults sourceAbs source <|> faults .attach <|> faults .create

/-- The `INSERT`. -/
def insertCopies (faults : CopyFaults) (source : SourceDB) (rows : List RulesRow)
    (t : RulesTable) : Except String RulesTable :=
  match faults .insert, source with
  | some e, _ => .error e
  | none, .missing => .error "unable to open database"
  | none, .unreadable e => .error e
  | none, .rules _ =>
      match t.table.insertAll rows with
      | none => .error "constraint failed: UNIQUE constraint failed"
      | some table => .ok { t with table := table }

def copyRulesBetweenDBs (faults : CopyFaults) (now sourceAbs : String) (source : SourceDB)
    (target : Option RulesTable) (sourceRunID targetRunID : Int) :
    Except String Unit × Option RulesTable :=
  match firstError faults sourceAbs source with
  | some e => (.error e, target)
  | none =>
      let t := target.getD .created
      match faults .delete with
      | some e => (.error e, some t)
      | none =>
          let t := { t with table := t.table.delete (·.runID = targetRunID) }
          match insertCopies faults source (copies source sourceRunID targetRunID now) t with
          | .error e => (.error e, some t)
          | .ok t =>
              match faults .count with
              | some e => (.error e, some t)
              | none =>
                  if t.rows.countP (·.runID = targetRunID) = 0 then
                    (.error ("source db " ++ sourceAbs ++ " has no rules for run-id "
                      ++ toString sourceRunID), some t)
                  else (.ok (), some t)

/-! ## All or nothing -/

/-- The same table: the same rows, or no table in both cases. -/
def SameTable : Option RulesTable → Option RulesTable → Prop
  | none, none => True
  | some t, some u => ∀ r, r ∈ t.rows ↔ r ∈ u.rows
  | _, _ => False

/-- What a finished copy leaves: under the target run the source's rows, and the other runs as they
were. -/
def Copied (source : SourceDB) (before after : Option RulesTable) (sourceRunID targetRunID : Int)
    (now : String) : Prop :=
  ∃ t, after = some t ∧
    (∀ r, r.runID = targetRunID →
      (r ∈ t.rows ↔ r ∈ copies source sourceRunID targetRunID now)) ∧
    ∀ r, r.runID ≠ targetRunID → (r ∈ t.rows ↔ ∃ u, before = some u ∧ r ∈ u.rows)

/-- Either the call succeeds and has copied the run, or it fails and has changed nothing. -/
def AllOrNothing (source : SourceDB) (before : Option RulesTable) (sourceRunID targetRunID : Int)
    (now : String) (result : Except String Unit × Option RulesTable) : Prop :=
  match result with
  | (.ok _, after) => Copied source before after sourceRunID targetRunID now
  | (.error _, after) => SameTable before after

/-- The `INSERT` can go through: the source can be read, and no two of its rows run into the
target's unique index. -/
def Insertable (faults : CopyFaults) (source : SourceDB) (target : Option RulesTable)
    (sourceRunID : Int) : Prop :=
  faults .insert = none ∧ (∃ t, source = .rules t) ∧
    ∀ t, target = some t → t.indexed = true →
      (source.rowsOf sourceRunID).Pairwise fun r s => ¬ r.SameText s

/-- Nothing can go wrong once the table is touched. -/
structure Copyable (faults : CopyFaults) (source : SourceDB) (target : Option RulesTable)
    (sourceRunID : Int) : Prop where
  delete : faults .delete = none
  insert : Insertable faults source target sourceRunID
  count : faults .count = none
  rules : source.rowsOf sourceRunID ≠ []

/-- Nothing is lost by a call that does not get through: the table is there, and it already has
under the target run what the call would leave, which is nothing when the `INSERT` cannot go
through. -/
def NothingToLose (faults : CopyFaults) (source : SourceDB) (target : Option RulesTable)
    (sourceRunID targetRunID : Int) (now : String) : Prop :=
  ∃ t, target = some t ∧ (faults .delete ≠ none ∨
    ∀ r, r.runID = targetRunID → (r ∈ t.rows ↔
      Insertable faults source target sourceRunID ∧
        r ∈ copies source sourceRunID targetRunID now))

variable {faults : CopyFaults} {now sourceAbs : String} {source : SourceDB}
  {target : Option RulesTable} {sourceRunID targetRunID : Int}

theorem SameTable.refl (t : Option RulesTable) : SameTable t t := by
  cases t with
  | none => trivial
  | some t => exact fun r => Iff.rfl

theorem runID_of_mem_copies {r : RulesRow}
    (h : r ∈ copies source sourceRunID targetRunID now) : r.runID = targetRunID := by
  obtain ⟨s, _, rfl⟩ := List.mem_map.mp h
  rfl

theorem copies_eq_nil (source : SourceDB) (sourceRunID targetRunID : Int) (now : String) :
    copies source sourceRunID targetRunID now = [] ↔ source.rowsOf sourceRunID = [] := by
  rw [copies, List.map_eq_nil_iff]

/-- The target's table once the rows of the target run are deleted. -/
def emptied (target : Option RulesTable) (targetRunID : Int) : RulesTable :=
  let t := target.getD .created
  { t with table := t.table.delete (·.runID = targetRunID) }

theorem mem_emptied {r : RulesRow} :
    r ∈ (emptied target targetRunID).rows ↔
      r.runID ≠ targetRunID ∧ ∃ t, target = some t ∧ r ∈ t.rows := by
  cases target with
  | none => simp [emptied, RulesTable.rows, RulesTable.created, Table.delete, Table.empty]
  | some t => simp [emptied, RulesTable.rows, Table.delete, and_comm]

/-- Two copies are in conflict only through the unique index. -/
theorem copyRow_conflict {indexed : Bool} {r s : RulesRow} (hapart : ¬ r.Conflict false s)
    (hrun : r.runID = s.runID) :
    (copyRow targetRunID now r).Conflict indexed (copyRow targetRunID now s) ↔
      indexed = true ∧ r.SameText s := by
  have hkey : ¬ (r.gid = s.gid ∧ r.sid = s.sid) := fun h => hapart ⟨hrun, .inl h⟩
  have hrow : (copyRow targetRunID now r).Conflict indexed (copyRow targetRunID now s) ↔
      (targetRunID = targetRunID ∧
        ((r.gid = s.gid ∧ r.sid = s.sid) ∨ (indexed = true ∧ r.SameText s))) := Iff.rfl
  rw [hrow]
  simp [hkey]

/-- When the copies of a run have no conflict among them. -/
theorem copies_pairwise (indexed : Bool) (t : RulesTable) (sourceRunID targetRunID : Int)
    (now : String) :
    ((copies (.rules t) sourceRunID targetRunID now).Pairwise fun r s => ¬ r.Conflict indexed s) ↔
      (indexed = true →
        ((SourceDB.rules t).rowsOf sourceRunID).Pairwise fun r s => ¬ r.SameText s) := by
  have hapart : ((SourceDB.rules t).rowsOf sourceRunID).Pairwise
      fun r s => ¬ r.Conflict false s := by
    refine (t.table.apart.filter _).imp ?_
    rintro r s h ⟨hrun, hkey | ⟨hindexed, _⟩⟩
    · exact h ⟨hrun, .inl hkey⟩
    · cases hindexed
  have hrun : ∀ r ∈ (SourceDB.rules t).rowsOf sourceRunID, r.runID = sourceRunID := by
    intro r hr
    simpa using (List.mem_filter.mp hr).2
  rw [copies, List.pairwise_map]
  constructor
  · intro h hindexed
    refine (h.and hapart).imp_of_mem ?_
    rintro r s hr hs ⟨hcopy, hrs⟩ hsame
    have hboth := (hrun r hr).trans (hrun s hs).symm
    exact hcopy ((copyRow_conflict hrs hboth).mpr ⟨hindexed, hsame⟩)
  · intro h
    have himp : ((SourceDB.rules t).rowsOf sourceRunID).Pairwise
        fun r s => indexed = true → ¬ r.SameText s := by
      cases indexed with
      | false => exact hapart.imp fun _ hfalse => by cases hfalse
      | true => exact (h rfl).imp fun hrs _ => hrs
    refine (himp.and hapart).imp_of_mem ?_
    rintro r s hr hs ⟨htext, hrs⟩ hcopy
    have hboth := (hrun r hr).trans (hrun s hs).symm
    obtain ⟨hindexed, hsame⟩ := (copyRow_conflict hrs hboth).mp hcopy
    exact htext hindexed hsame

/-- Where the `INSERT` can go through it does, and adds the copies. -/
theorem insertCopies_of_insertable (h : Insertable faults source target sourceRunID) :
    ∃ u, insertCopies faults source (copies source sourceRunID targetRunID now)
        (emptied target targetRunID) = .ok u ∧
      u.rows = (emptied target targetRunID).rows ++
        copies source sourceRunID targetRunID now := by
  obtain ⟨hfault, ⟨t, rfl⟩, htext⟩ := h
  have hcopies : (copies (.rules t) sourceRunID targetRunID now).Pairwise
      fun r s => ¬ r.Conflict (emptied target targetRunID).indexed s := by
    rw [copies_pairwise]
    intro hindexed
    cases target with
    | none => cases hindexed
    | some u => exact htext u rfl hindexed
  have hothers : ∀ s ∈ (emptied target targetRunID).table.rows,
      ∀ r ∈ copies (.rules t) sourceRunID targetRunID now,
      ¬ s.Conflict (emptied target targetRunID).indexed r := by
    intro s hs r hr hconflict
    have hne := (mem_emptied.mp hs).1
    exact hne (hconflict.1.trans (runID_of_mem_copies hr))
  obtain ⟨table, htable⟩ := Table.insertAll_isSome hcopies hothers
  refine ⟨{ emptied target targetRunID with table := table }, ?_, Table.insertAll_rows htable⟩
  simp only [insertCopies, hfault, htable]

theorem insertCopies_of_not_insertable (h : ¬ Insertable faults source target sourceRunID) :
    ∃ e, insertCopies faults source (copies source sourceRunID targetRunID now)
      (emptied target targetRunID) = .error e := by
  cases hresult : insertCopies faults source (copies source sourceRunID targetRunID now)
      (emptied target targetRunID) with
  | error e => exact ⟨e, rfl⟩
  | ok u =>
      refine absurd ?_ h
      unfold insertCopies at hresult
      cases hfault : faults .insert with
      | some e =>
          rw [hfault] at hresult
          cases hresult
      | none =>
          rw [hfault] at hresult
          cases source with
          | missing => cases hresult
          | unreadable e => cases hresult
          | rules t =>
              refine ⟨hfault, ⟨t, rfl⟩, ?_⟩
              rintro v rfl hindexed
              simp only at hresult
              split at hresult
              · cases hresult
              · next table htable =>
                  -- the copies stand in a table, so they are in no conflict
                  have hapart := table.apart
                  rw [Table.insertAll_rows htable, List.pairwise_append] at hapart
                  exact (copies_pairwise _ _ _ _ _).mp hapart.2.1 hindexed

/-- What an unfinished call leaves is the table as it was exactly if the table was there and the
rows of the target run were the ones that are there now. -/
theorem sameTable_iff {u : RulesTable} {extra : List RulesRow}
    (hu : u.rows = (emptied target targetRunID).rows ++ extra)
    (hextra : ∀ r ∈ extra, r.runID = targetRunID) :
    SameTable target (some u) ↔
      ∃ t, target = some t ∧ ∀ r, r.runID = targetRunID → (r ∈ t.rows ↔ r ∈ extra) := by
  cases target with
  | none => simp [SameTable]
  | some t =>
      have hmem : ∀ r, r ∈ u.rows ↔ (r.runID ≠ targetRunID ∧ r ∈ t.rows) ∨ r ∈ extra := by
        intro r
        rw [hu, List.mem_append, mem_emptied]
        simp
      constructor
      · intro h
        refine ⟨t, rfl, fun r hr => ?_⟩
        rw [h r, hmem r]
        simp [hr]
      · rintro ⟨t', ht', h⟩ r
        cases ht'
        rw [hmem r]
        by_cases hr : r.runID = targetRunID
        · rw [h r hr]
          simp [hr]
        · have hnot : r ∉ extra := fun hmem' => hr (hextra r hmem')
          simp [hr, hnot]

/-- The count is of the copies. -/
theorem countP_eq_zero {u : RulesTable}
    (hu : u.rows = (emptied target targetRunID).rows ++
      copies source sourceRunID targetRunID now) :
    u.rows.countP (·.runID = targetRunID) = 0 ↔ source.rowsOf sourceRunID = [] := by
  rw [← copies_eq_nil source sourceRunID targetRunID now, List.countP_eq_zero, hu]
  constructor
  · intro h
    by_contra hne
    obtain ⟨r, hr⟩ := List.exists_mem_of_ne_nil _ hne
    exact h r (List.mem_append_right _ hr) (by simpa using runID_of_mem_copies hr)
  · intro hnil r hr
    rw [hnil, List.append_nil] at hr
    simpa using (mem_emptied.mp hr).1

/-- **What a call can do**, with what it leaves of the target's table: it fails before the table is
touched, before the rows are deleted or before the copies are inserted, or it inserts them and then
returns `nil` exactly if nothing else goes wrong. -/
theorem copyRulesBetweenDBs_cases (faults : CopyFaults) (now sourceAbs : String)
    (source : SourceDB) (target : Option RulesTable) (sourceRunID targetRunID : Int) :
    let call := copyRulesBetweenDBs faults now sourceAbs source target sourceRunID targetRunID
    (firstError faults sourceAbs source ≠ none ∧ ∃ e, call = (.error e, target)) ∨
    firstError faults sourceAbs source = none ∧
      ((faults .delete ≠ none ∧ ∃ e, call = (.error e, some (target.getD .created))) ∨
      (faults .delete = none ∧ ¬ Insertable faults source target sourceRunID ∧
        ∃ e, call = (.error e, some (emptied target targetRunID))) ∨
      (faults .delete = none ∧ Insertable faults source target sourceRunID ∧
        ∃ u : RulesTable, u.rows = (emptied target targetRunID).rows ++
            copies source sourceRunID targetRunID now ∧
          ((Copyable faults source target sourceRunID ∧ call = (.ok (), some u)) ∨
            (¬ Copyable faults source target sourceRunID ∧
              ∃ e, call = (.error e, some u))))) := by
  intro call
  have hcall : call =
      copyRulesBetweenDBs faults now sourceAbs source target sourceRunID targetRunID := rfl
  unfold copyRulesBetweenDBs at hcall
  cases hfirst : firstError faults sourceAbs source with
  | some e =>
      rw [hfirst] at hcall
      exact .inl ⟨by simp, e, hcall⟩
  | none =>
      refine .inr ⟨rfl, ?_⟩
      simp only [hfirst] at hcall
      cases hdelete : faults .delete with
      | some e =>
          simp only [hdelete] at hcall
          exact .inl ⟨by simp, e, hcall⟩
      | none =>
          simp only [hdelete] at hcall
          right
          by_cases hins : Insertable faults source target sourceRunID
          · right
            obtain ⟨u, hu, hrows⟩ : ∃ u, insertCopies faults source
                (copies source sourceRunID targetRunID now) (emptied target targetRunID) = .ok u ∧
                u.rows = (emptied target targetRunID).rows ++
                  copies source sourceRunID targetRunID now := insertCopies_of_insertable hins
            rw [emptied] at hu
            simp only [hu] at hcall
            refine ⟨rfl, hins, u, hrows, ?_⟩
            cases hcount : faults .count with
            | some e =>
                simp only [hcount] at hcall
                right
                refine ⟨fun h => ?_, e, hcall⟩
                rw [h.count] at hcount
                cases hcount
            | none =>
                simp only [hcount] at hcall
                by_cases hzero : u.rows.countP (·.runID = targetRunID) = 0
                · rw [if_pos hzero] at hcall
                  right
                  exact ⟨fun h => h.rules ((countP_eq_zero hrows).mp hzero), _, hcall⟩
                · rw [if_neg hzero] at hcall
                  left
                  exact ⟨⟨hdelete, hins, hcount, fun h => hzero ((countP_eq_zero hrows).mpr h)⟩,
                    hcall⟩
          · left
            obtain ⟨e, he⟩ : ∃ e, insertCopies faults source
                (copies source sourceRunID targetRunID now) (emptied target targetRunID) =
                  .error e := insertCopies_of_not_insertable hins
            rw [emptied] at he
            simp only [he] at hcall
            exact ⟨rfl, hins, e, hcall⟩

/-- A call returns `nil` exactly when nothing can go wrong. -/
theorem copyRulesBetweenDBs_ok_iff :
    (copyRulesBetweenDBs faults now sourceAbs source target sourceRunID targetRunID).1 = .ok () ↔
      firstError faults sourceAbs source = none ∧ Copyable faults source target sourceRunID := by
  rcases copyRulesBetweenDBs_cases faults now sourceAbs source target sourceRunID targetRunID with
    ⟨hfirst, e, hcall⟩ | ⟨hfirst, ⟨hdelete, e, hcall⟩ | ⟨hdelete, hins, e, hcall⟩ |
      ⟨hdelete, hins, u, hu, ⟨hcopy, hcall⟩ | ⟨hcopy, e, hcall⟩⟩⟩
  · simp [hcall, hfirst]
  · have hnot : ¬ Copyable faults source target sourceRunID := fun h => hdelete h.delete
    simp [hcall, hnot]
  · have hnot : ¬ Copyable faults source target sourceRunID := fun h => hins h.insert
    simp [hcall, hnot]
  · simp [hcall, hfirst, hcopy]
  · simp [hcall, hcopy]

/-- A finished copy: the copies beside the other runs. -/
theorem copied_of_rows {u : RulesTable}
    (hu : u.rows = (emptied target targetRunID).rows ++
      copies source sourceRunID targetRunID now) :
    Copied source target (some u) sourceRunID targetRunID now := by
  refine ⟨u, rfl, fun r hr => ?_, fun r hr => ?_⟩
  · rw [hu, List.mem_append, mem_emptied]
    simp [hr]
  · have hnot : r ∉ copies source sourceRunID targetRunID now :=
      fun hmem => hr (runID_of_mem_copies hmem)
    rw [hu, List.mem_append, mem_emptied]
    simp [hr, hnot]

/-- **When copying rules is all or nothing**: exactly when an error comes before the table is
touched, when nothing can go wrong after that, or when there is nothing to lose. -/
theorem copyRulesBetweenDBs_allOrNothing_iff (faults : CopyFaults) (now sourceAbs : String)
    (source : SourceDB) (target : Option RulesTable) (sourceRunID targetRunID : Int) :
    AllOrNothing source target sourceRunID targetRunID now
        (copyRulesBetweenDBs faults now sourceAbs source target sourceRunID targetRunID) ↔
      firstError faults sourceAbs source ≠ none ∨
      Copyable faults source target sourceRunID ∨
      NothingToLose faults source target sourceRunID targetRunID now := by
  rcases copyRulesBetweenDBs_cases faults now sourceAbs source target sourceRunID targetRunID with
    ⟨hfirst, e, hcall⟩ | ⟨hfirst, ⟨hdelete, e, hcall⟩ | ⟨hdelete, hins, e, hcall⟩ |
      ⟨hdelete, hins, u, hu, ⟨hcopy, hcall⟩ | ⟨hcopy, e, hcall⟩⟩⟩
  · rw [hcall]
    exact ⟨fun _ => .inl hfirst, fun _ => SameTable.refl target⟩
  · -- the rows are not deleted, but the table may be new
    rw [hcall]
    have hnot : ¬ Copyable faults source target sourceRunID := fun h => hdelete h.delete
    cases target with
    | none => simp [AllOrNothing, SameTable, NothingToLose, hfirst, hnot]
    | some t =>
        refine ⟨fun _ => .inr (.inr ⟨t, rfl, .inl hdelete⟩), fun _ => ?_⟩
        exact SameTable.refl (some t)
  · -- the rows are deleted, and nothing comes in their place
    rw [hcall]
    have hnot : ¬ Copyable faults source target sourceRunID := fun h => hins h.insert
    have hsame : SameTable target (some (emptied target targetRunID)) ↔
        ∃ t, target = some t ∧ ∀ r, r.runID = targetRunID → (r ∈ t.rows ↔ r ∈ []) :=
      sameTable_iff (List.append_nil _).symm (by simp)
    show SameTable target (some (emptied target targetRunID)) ↔ _
    rw [hsame]
    simp [NothingToLose, hfirst, hdelete, hnot, hins]
  · rw [hcall]
    exact ⟨fun _ => .inr (.inl hcopy), fun _ => copied_of_rows hu⟩
  · -- an error although the copies are in the table, or there are none
    rw [hcall]
    show SameTable target (some u) ↔ _
    rw [sameTable_iff hu fun r => runID_of_mem_copies]
    simp [NothingToLose, hfirst, hdelete, hcopy, hins]

/-- The rule in production. -/
def productionRule : RulesRow :=
  { runID := 0, sid := 1001, gid := 1, rev := some 1, action := some "alert", proto := some "tcp"
    srcNet := some "any", srcPort := some "any", direction := some "->", dstNet := some "any"
    dstPort := some "any", msg := some "test rule", classtype := some "attempted-admin"
    enabled := 1, sourceFile := some "test.rules"
    rawText := "alert tcp any any -> any any (sid:1001;)", createdAt := "2026-01-01 00:00:00" }

def productionTable : RulesTable :=
  { indexed := true, table := ⟨[productionRule], List.pairwise_singleton _ _⟩ }

/-- A run that has no rules is applied: an error is returned, and the production rules are gone. -/
theorem empty_run_wipes_production :
    ¬ AllOrNothing (.rules .created) (some productionTable) 7 0 "2026-01-02 00:00:00"
      (copyRulesBetweenDBs (fun _ => none) "2026-01-02 00:00:00" "/work/exp/snort.sqlite"
        (.rules .created) (some productionTable) 7 0) := by
  intro h
  have hleft : ∀ r, r ∈ [productionRule] ↔ r ∈ [] := h
  exact List.not_mem_nil ((hleft productionRule).mp List.mem_cons_self)

end SnortOptimizer.Server
