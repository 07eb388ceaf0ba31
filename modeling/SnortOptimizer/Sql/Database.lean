import SnortOptimizer.Machine.Effects
import SnortOptimizer.Sql.Like
import SnortOptimizer.Sql.Script
import Mathlib.Logic.Function.Basic

/-!
# Database files and statements (`sql/db/sqlite.go`)

The file of a run holds tables that this version of the program made, or an earlier one did, or
that something else has put there: any columns, any rows, even a view under the name of a table. A
*session* is the file together with what will happen to the statements: a statement may fail for
reasons of its own (a full disk, a locked file), or because a constraint of the table refuses a row.
Which it will be is not for the program to say, and everything below is about all of them.

A statement that fails leaves the file as it is. A script stops at its first error.
-/

namespace SnortOptimizer.Sql

open Effects

/-! ## Files -/

/-- The tables that the schema checks are about. -/
inductive TableName
  | alerts
  | profilerMetrics
  | ruleProfilerMetrics
  | moduleProfileMetrics
  | systemProfiles
  | rules
  | ruleFP
  deriving DecidableEq, Repr

def TableName.text : TableName → String
  | .alerts => "alerts"
  | .profilerMetrics => "profiler_metrics"
  | .ruleProfilerMetrics => "rule_profiler_metrics"
  | .moduleProfileMetrics => "module_profile_metrics"
  | .systemProfiles => "system_profiles"
  | .rules => "rules"
  | .ruleFP => "rule_FP"

/-- SQLite takes names for the same up to the case of ASCII letters. -/
def sameName (a b : String) : Bool := a.toList.map foldCase = b.toList.map foldCase

/-- A row: the value of each column, under the name as the program spells it; a column without a
value is `NULL`. -/
structure StoredRow where
  value : String → Option Value

/-- What a file holds under the name of a table, spelled in some way. -/
structure StoredTable where
  name : String
  view : Bool
  columns : List String
  compares : String → Value → Int → Bool   -- `column = n`, which goes by the column's affinity
  rows : List StoredRow

def StoredTable.hasColumn (t : StoredTable) (column : String) : Bool :=
  t.columns.any (sameName column)

/-- The row is found by `column = n`. -/
def StoredTable.holds (t : StoredTable) (r : StoredRow) (column : String) (n : Int) : Bool :=
  (r.value column).any (t.compares column · n)

/-- Of an index, it matters what it is called and that it goes with its table. -/
structure StoredIndex where
  name : String
  owner : Option TableName

/-- A file. The program never reads `drops`, which counts how often each table has been dropped. -/
structure Database where
  tables : TableName → Option StoredTable
  indexes : List StoredIndex
  drops : TableName → Nat

inductive DbError
  | fault (message : String)
  | constraint
  | noTable (T : TableName)
  | noColumn (T : TableName) (column : String)
  | isView (T : TableName)
  | noRules (message : String)
  deriving DecidableEq, Repr

namespace Database

def set (d : Database) (T : TableName) (t : StoredTable) : Database :=
  { d with tables := Function.update d.tables T (some t) }

@[simp] theorem set_tables_self (d : Database) (T : TableName) (t : StoredTable) :
    (d.set T t).tables T = some t := by simp [set]

@[simp] theorem set_tables_ne (d : Database) {T U : TableName} (h : U ≠ T) (t : StoredTable) :
    (d.set T t).tables U = d.tables U := by simp [set, h]

/-- The file without a table and its indexes. -/
def drop (d : Database) (T : TableName) : Database where
  tables := Function.update d.tables T none
  indexes := d.indexes.filter (·.owner ≠ some T)
  drops := Function.update d.drops T (d.drops T + 1)

@[simp] theorem drop_tables_self (d : Database) (T : TableName) : (d.drop T).tables T = none := by
  simp [drop]

@[simp] theorem drop_tables_ne (d : Database) {T U : TableName} (h : U ≠ T) :
    (d.drop T).tables U = d.tables U := by simp [drop, h]

@[simp] theorem drop_drops_ne (d : Database) {T U : TableName} (h : U ≠ T) :
    (d.drop T).drops U = d.drops U := by simp [drop, h]

/-- The table for a statement that names some of its columns. -/
def find (d : Database) (T : TableName) (columns : List String) : Except DbError StoredTable :=
  match d.tables T with
  | none => .error (.noTable T)
  | some t =>
      match columns.find? (!t.hasColumn ·) with
      | some column => .error (.noColumn T column)
      | none => .ok t

/-- The table for a statement that writes to it. -/
def findTable (d : Database) (T : TableName) (columns : List String) :
    Except DbError StoredTable :=
  match d.find T columns with
  | .error e => .error e
  | .ok t => if t.view then .error (.isView T) else .ok t

theorem find_ok {d : Database} {T : TableName} {columns : List String} {t : StoredTable}
    (h : d.find T columns = .ok t) : d.tables T = some t := by
  rw [find] at h
  split at h
  · cases h
  · next t' ht' =>
      split at h
      · cases h
      · cases h
        exact ht'

theorem findTable_ok {d : Database} {T : TableName} {columns : List String} {t : StoredTable}
    (h : d.findTable T columns = .ok t) : d.tables T = some t := by
  rw [findTable] at h
  split at h
  · cases h
  · next t' ht' =>
      split at h
      · cases h
      · cases h
        exact find_ok ht'

/-- **A column is missed** only if the table does not have it. -/
theorem find_noColumn {d : Database} {T U : TableName} {columns : List String} {column : String}
    (h : d.find T columns = .error (.noColumn U column)) :
    ∃ t, d.tables T = some t ∧ ∃ c ∈ columns, t.hasColumn c = false := by
  rw [find] at h
  split at h
  · cases h
  · next t ht =>
      split at h
      · next c hc =>
          refine ⟨t, ht, c, List.mem_of_find?_eq_some hc, ?_⟩
          simpa using List.find?_some hc
      · cases h

theorem findTable_noColumn {d : Database} {T U : TableName} {columns : List String}
    {column : String} (h : d.findTable T columns = .error (.noColumn U column)) :
    ∃ t, d.tables T = some t ∧ ∃ c ∈ columns, t.hasColumn c = false := by
  rw [findTable] at h
  split at h
  · next e he =>
      cases h
      exact find_noColumn he
  · split at h
    · cases h
    · cases h

end Database

/-! ## Sessions -/

/-- What happens to a statement that is in order. -/
inductive Outcome
  | done
  | refused
  | failed (message : String)
  deriving DecidableEq, Repr

/-- A file in use. The program never reads `ensured`: it says for which tables a schema check has
returned without an error since the file was made. -/
structure Session where
  file : Database
  outcomes : Nat → Outcome
  clock : Nat
  ensured : TableName → Bool

def Session.start (file : Database) (outcomes : Nat → Outcome) : Session :=
  { file, outcomes, clock := 0, ensured := fun _ => false }

/-- A function of the source that uses the database. -/
abbrev Db := EStateM DbError Session

/-- A statement, given what it does if nothing prevents it. -/
def statement {α : Type} (f : Database → Except DbError (α × Database)) : Db α := fun s =>
  let next := { s with clock := s.clock + 1 }
  match s.outcomes s.clock, f s.file with
  | .failed message, _ => .error (.fault message) next
  | _, .error e => .error e next
  | .refused, .ok _ => .error .constraint next
  | .done, .ok (a, file) => .ok a { next with file }

/-- A statement that reads. -/
def query {α : Type} (f : Database → Except DbError α) : Db α :=
  statement fun d => (f d).map fun a => (a, d)

/-- A statement that writes. -/
def change (f : Database → Except DbError Database) : Db Unit :=
  statement fun d => (f d).map fun file => ((), file)

/-- A step that can only fail: opening the file, a `PRAGMA`, `BEGIN` and `COMMIT`. -/
def attempt : Db Unit := query fun _ => .ok ()

/-- `RunScript`. -/
def runScript (script : List (Db Unit)) : Db Unit := do
  attempt
  script.forM id

/-- `BEGIN` and `COMMIT`. The connection is closed after an error, which takes everything back. -/
def transaction (script : Db Unit) : Db Unit := fun s =>
  match (do attempt; script; attempt : Db Unit) s with
  | .ok _ next => .ok () next
  | .error e next => .error e { s with clock := next.clock }

/-- The file and the checks made of it are as before. -/
def Session.Quiet (s s' : Session) : Prop := s'.file = s.file ∧ s'.ensured = s.ensured

theorem statement_ok {α : Type} {f : Database → Except DbError (α × Database)} {s s' : Session}
    {a : α} (h : statement f s = .ok a s') :
    f s.file = .ok (a, s'.file) ∧ s'.ensured = s.ensured := by
  rw [statement] at h
  split at h
  · cases h
  · cases h
  · cases h
  · next hf =>
      cases h
      exact ⟨hf, rfl⟩

theorem statement_error {α : Type} {f : Database → Except DbError (α × Database)}
    {s s' : Session} {e : DbError} (h : statement f s = .error e s') :
    s.Quiet s' ∧ ((∃ message, e = .fault message) ∨ e = .constraint ∨ f s.file = .error e) := by
  rw [statement] at h
  split at h
  · cases h
    exact ⟨⟨rfl, rfl⟩, .inl ⟨_, rfl⟩⟩
  · next hf _ =>
      cases h
      exact ⟨⟨rfl, rfl⟩, .inr (.inr hf)⟩
  · cases h
    exact ⟨⟨rfl, rfl⟩, .inr (.inl rfl)⟩
  · cases h

theorem map_eq_ok {α β : Type} {x : Except DbError α} {g : α → β} {b : β}
    (h : x.map g = .ok b) : ∃ a, x = .ok a ∧ g a = b := by
  cases x with
  | error e => cases h
  | ok a => exact ⟨a, rfl, Except.ok.inj h⟩

theorem map_eq_error {α β : Type} {x : Except DbError α} {g : α → β} {e : DbError}
    (h : x.map g = .error e) : x = .error e := by
  cases x with
  | error e' => exact congrArg _ (Except.error.inj h)
  | ok a => cases h

theorem query_ok {α : Type} {f : Database → Except DbError α} {s s' : Session} {a : α}
    (h : query f s = .ok a s') : f s.file = .ok a ∧ s.Quiet s' := by
  obtain ⟨hf, hensured⟩ := statement_ok h
  obtain ⟨b, hb, heq⟩ := map_eq_ok hf
  rw [Prod.mk.injEq] at heq
  exact ⟨heq.1 ▸ hb, heq.2.symm, hensured⟩

theorem change_ok {f : Database → Except DbError Database} {s s' : Session} {u : Unit}
    (h : change f s = .ok u s') : f s.file = .ok s'.file ∧ s'.ensured = s.ensured := by
  obtain ⟨hf, hensured⟩ := statement_ok h
  obtain ⟨d, hd, heq⟩ := map_eq_ok hf
  rw [Prod.mk.injEq] at heq
  exact ⟨heq.2 ▸ hd, hensured⟩

theorem query_error {α : Type} {f : Database → Except DbError α} {s s' : Session} {e : DbError}
    (h : query f s = .error e s') : s.Quiet s' := (statement_error h).1

theorem change_error {f : Database → Except DbError Database} {s s' : Session} {e : DbError}
    (h : change f s = .error e s') : s.Quiet s' := (statement_error h).1

/-- The error is about a column. -/
def DbError.IsNoColumn (e : DbError) : Prop := ∃ T column, e = .noColumn T column

/-- A statement misses a column only if what it does misses it. -/
theorem statement_noColumn {α : Type} {f : Database → Except DbError (α × Database)}
    {s s' : Session} {e : DbError} (h : statement f s = .error e s') (he : e.IsNoColumn) :
    f s.file = .error e := by
  obtain ⟨T, column, rfl⟩ := he
  obtain ⟨-, ⟨message, heq⟩ | heq | hf⟩ := statement_error h
  · cases heq
  · cases heq
  · exact hf

theorem query_noColumn {α : Type} {f : Database → Except DbError α} {s s' : Session} {e : DbError}
    (h : query f s = .error e s') (he : e.IsNoColumn) : f s.file = .error e :=
  map_eq_error (statement_noColumn h he)

theorem change_noColumn {f : Database → Except DbError Database} {s s' : Session} {e : DbError}
    (h : change f s = .error e s') (he : e.IsNoColumn) : f s.file = .error e :=
  map_eq_error (statement_noColumn h he)

/-! ## What statements keep -/

section Keeps

variable {R : Session → Session → Prop} (hquiet : ∀ s s' : Session, s.Quiet s' → R s s')

include hquiet

theorem keeps_statement {α : Type} {f : Database → Except DbError (α × Database)}
    (h : ∀ s s' : Session, ∀ a, f s.file = .ok (a, s'.file) → s'.ensured = s.ensured → R s s') :
    Keeps R (statement f) := by
  intro s
  cases hs : statement f s with
  | ok a s' =>
      rw [after_of_ok hs]
      exact h s s' a (statement_ok hs).1 (statement_ok hs).2
  | error e s' =>
      rw [after_of_error hs]
      exact hquiet s s' (statement_error hs).1

theorem keeps_query {α : Type} (f : Database → Except DbError α) : Keeps R (query f) := by
  apply keeps_statement hquiet
  intro s s' a hf hensured
  obtain ⟨b, -, heq⟩ := map_eq_ok hf
  rw [Prod.mk.injEq] at heq
  exact hquiet s s' ⟨heq.2.symm, hensured⟩

theorem keeps_change {f : Database → Except DbError Database}
    (h : ∀ s s' : Session, f s.file = .ok s'.file → s'.ensured = s.ensured → R s s') :
    Keeps R (change f) := by
  apply keeps_statement hquiet
  intro s s' a hf hensured
  obtain ⟨d, hd, heq⟩ := map_eq_ok hf
  rw [Prod.mk.injEq] at heq
  exact h s s' (heq.2 ▸ hd) hensured

variable [IsTrans Session R]

theorem keeps_runScript [Std.Refl R] {script : List (Db Unit)} (h : ∀ x ∈ script, Keeps R x) :
    Keeps R (runScript script) :=
  Keeps.bind (keeps_query hquiet _) fun _ => Keeps.forM h

theorem keeps_transaction {script : Db Unit} (h : Keeps R script) :
    Keeps R (transaction script) := by
  have hall : Keeps R (do attempt; script; attempt : Db Unit) :=
    Keeps.bind (keeps_query hquiet _) fun _ => Keeps.bind h fun _ => keeps_query hquiet _
  intro s
  cases hs : (do attempt; script; attempt : Db Unit) s with
  | ok a s' =>
      have htransaction : transaction script s = .ok () s' := by rw [transaction, hs]
      rw [after_of_ok htransaction]
      exact hall.ok hs
  | error e s' =>
      have htransaction : transaction script s = .error e { s with clock := s'.clock } := by
        rw [transaction, hs]
      -- whatever was done before the error is taken back
      rw [after_of_error htransaction]
      exact hquiet _ _ ⟨rfl, rfl⟩

end Keeps

end SnortOptimizer.Sql
