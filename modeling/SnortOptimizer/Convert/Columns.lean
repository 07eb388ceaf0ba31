import SnortOptimizer.Number.ParseFloat
import SnortOptimizer.Path.Basic
import SnortOptimizer.Sql.Listing
import SnortOptimizer.Sql.Database

/-!
# Tables of text into tables of values (`misc/csv2db`)

`ReadCSV` looks at all cells of a column to find out what it holds, whole numbers, numbers or text
(`inferColumn`), and `WriteDB` converts each cell to a value of the type of its column. The type is
chosen such that no cell fails. The table is created before the transaction that fills it begins:
when that fails, the empty table stays, and a second attempt cannot create it any more.
`writeDB_spec` says what is there after any failure.
-/

namespace SnortOptimizer.Convert

open Text Number Sql

/-! ## Types of columns -/

inductive ColumnType where
  | integer
  | real
  | text
  deriving DecidableEq, Repr

structure ColumnInfo where
  name : String
  type : ColumnType
  deriving DecidableEq, Repr

/-- `strconv.ParseInt` to the base ten, with 64 bits. -/
def parseInt (v : String) : Option Int := atoi v.toList

/-- The loop of `inferColumn` over the cells of a column: `allInt` and `allFloat` after it. The
first cell that is no number ends it. -/
def inferLoop : Bool → List String → Bool × Bool
  | allInt, [] => (allInt, true)
  | allInt, v :: vs =>
      if v = "" then inferLoop allInt vs
      else
        let allInt := allInt && (parseInt v).isSome
        if (parseFloat v).isNone then (allInt, false) else inferLoop allInt vs

def inferColumn (ci : Nat) (rows : List (List String)) : ColumnType :=
  let flags := inferLoop true (rows.map fun row => row.getD ci "")
  if flags.1 then .integer else if flags.2 then .real else .text

def inferTypes (cols : List String) (rows : List (List String)) : List ColumnInfo :=
  cols.zipIdx.map fun col => { name := col.1, type := inferColumn col.2 rows }

/-- All cells that are not empty are whole numbers. -/
def AllInt (cells : List String) : Prop := ∀ v ∈ cells, v ≠ "" → (parseInt v).isSome = true

def AllFloat (cells : List String) : Prop := ∀ v ∈ cells, v ≠ "" → (parseFloat v).isSome = true

/-- **What the loop finds out**, in spite of leaving early: a cell that is no number at all is no
whole number either. -/
theorem inferLoop_spec (allInt : Bool) (cells : List String) :
    ((inferLoop allInt cells).1 = true ↔ allInt = true ∧ AllInt cells) ∧
      ((inferLoop allInt cells).2 = true ↔ AllFloat cells) := by
  induction cells generalizing allInt with
  | nil => simp [inferLoop, AllInt, AllFloat]
  | cons v vs ih =>
      rw [inferLoop, AllInt, AllFloat, List.forall_mem_cons, List.forall_mem_cons]
      split
      · next hempty =>
          obtain ⟨hint, hfloat⟩ := ih allInt
          constructor
          · rw [hint]
            exact and_congr_right fun _ => (and_iff_right fun h => absurd hempty h).symm
          · rw [hfloat]
            exact (and_iff_right fun h => absurd hempty h).symm
      · next hempty =>
          dsimp only
          split
          · next hnone =>
              have hnoInt : (parseInt v).isSome = false := by
                cases hv : parseInt v with
                | none => rfl
                | some n =>
                    rw [parseFloat_of_atoi hv] at hnone
                    cases hnone
              simp [hnoInt, hempty, Option.isNone_iff_eq_none.mp hnone]
          · next hsome =>
              obtain ⟨hint, hfloat⟩ := ih (allInt && (parseInt v).isSome)
              have hv : (parseFloat v).isSome = true := by
                rw [← Option.not_isNone, Bool.not_eq_true']
                exact Bool.not_eq_true _ ▸ hsome
              constructor
              · rw [hint, Bool.and_eq_true, and_assoc]
                simp only [ne_eq, hempty, not_false_eq_true, forall_const]
                rfl
              · rw [hfloat]
                exact (and_iff_right fun _ => hv).symm

def columnCells (ci : Nat) (rows : List (List String)) : List String :=
  rows.map fun row => row.getD ci ""

/-- **The type of a column** is the narrowest that fits all its cells. -/
structure Narrowest (cells : List String) (type : ColumnType) : Prop where
  integer : type = .integer ↔ AllInt cells
  text : type = .text ↔ ¬ AllFloat cells

theorem AllInt.allFloat {cells : List String} (h : AllInt cells) : AllFloat cells := by
  intro v hv hne
  obtain ⟨n, hn⟩ := Option.isSome_iff_exists.mp (h v hv hne)
  rw [parseFloat_of_atoi hn]
  rfl

theorem inferColumn_narrowest (ci : Nat) (rows : List (List String)) :
    Narrowest (columnCells ci rows) (inferColumn ci rows) := by
  obtain ⟨hint, hfloat⟩ := inferLoop_spec true (columnCells ci rows)
  rw [and_iff_right rfl] at hint
  unfold inferColumn
  rw [← columnCells]
  dsimp only
  split
  · next h =>
      refine ⟨⟨fun _ => hint.mp h, fun _ => rfl⟩, ⟨nofun, fun hno => ?_⟩⟩
      exact absurd ((hint.mp h).allFloat) hno
  · next h =>
      have hno : ¬ AllInt (columnCells ci rows) := fun hall => h (hint.mpr hall)
      split
      · next hall =>
          refine ⟨⟨nofun, fun hint => absurd hint hno⟩, ⟨nofun, fun hnone => ?_⟩⟩
          exact absurd (hfloat.mp hall) hnone
      · next hall =>
          refine ⟨⟨nofun, fun hint => absurd hint hno⟩, ⟨fun _ hsome => ?_, fun _ => rfl⟩⟩
          exact hall (hfloat.mpr hsome)

/-! ## Values -/

inductive Value where
  | null
  | int (n : Int)
  | real (f : Binary64)
  | text (s : String)
  deriving DecidableEq, Repr

/-- `math.IsInf(f, 0)`. -/
def isInf : Binary64 → Bool
  | .inf _ => true
  | _ => false

/-- `convertValue`. -/
def convertValue (v : String) :
    ColumnType → Option Value
  | .integer => if v = "" then some .null else (parseInt v).map .int
  | .real =>
      if v = "" then some .null
      else (parseFloat v).map fun f => if isInf f then .null else .real f
  | .text => some (.text v)

/-- What SQLite stores: there is no place for what is not a number, and a number without a fraction
is written as an integer, so that a zero has no sign. -/
def Value.stored : Value → Value
  | .real .nan => .null
  | .real (.finite _ 0 exp) => .real (.finite false 0 exp)
  | v => v

/-- The stored value says what the cell says. A number that is infinite or none is `NULL`, as an
empty cell is. -/
inductive Says : ColumnType → String → Value → Prop
  | int {v : String} {n : Int} : parseInt v = some n → Says .integer v (.int n)
  | noInt : Says .integer "" .null
  | real {v : String} {negative : Bool} {mant : Nat} {exp : Int} :
      parseFloat v = some (.finite negative mant exp) → mant ≠ 0 →
      Says .real v (.real (.finite negative mant exp))
  | zero {v : String} {negative : Bool} {exp : Int} :
      parseFloat v = some (.finite negative 0 exp) → Says .real v (.real (.finite false 0 exp))
  | infinite {v : String} {negative : Bool} :
      parseFloat v = some (.inf negative) → Says .real v .null
  | notNumber {v : String} : parseFloat v = some .nan → Says .real v .null
  | noReal : Says .real "" .null
  | text (v : String) : Says .text v (.text v)

/-- A cell of a column is converted. -/
theorem convertValue_says {cells : List String}
    {type : ColumnType} (h : Narrowest cells type) {v : String} (hv : v ∈ cells) :
    ∃ value, convertValue v type = some value ∧
      Says type v value.stored := by
  cases type with
  | integer =>
      rw [convertValue]
      split
      · next hempty =>
          subst hempty
          exact ⟨.null, rfl, .noInt⟩
      · next hempty =>
          obtain ⟨n, hn⟩ := Option.isSome_iff_exists.mp (h.integer.mp rfl v hv hempty)
          exact ⟨.int n, by rw [hn, Option.map_some], .int hn⟩
  | real =>
      rw [convertValue]
      split
      · next hempty =>
          subst hempty
          exact ⟨.null, rfl, .noReal⟩
      · next hempty =>
          have hall : AllFloat cells := by
            by_contra hno
            cases h.text.mpr hno
          obtain ⟨f, hf⟩ := Option.isSome_iff_exists.mp (hall v hv hempty)
          rw [hf, Option.map_some]
          cases f with
          | finite negative mant exp =>
              cases mant with
              | zero => exact ⟨_, rfl, .zero hf⟩
              | succ mant => exact ⟨_, rfl, .real hf (Nat.succ_ne_zero mant)⟩
          | inf negative => exact ⟨_, rfl, .infinite hf⟩
          | nan => exact ⟨_, rfl, .notNumber hf⟩
  | text => exact ⟨.text v, rfl, .text v⟩

/-! ## Reading the table -/

def replaceChar (c : Char) : Char := if c = ' ' ∨ c = '/' ∨ c = '.' ∨ c = '-' then '_' else c

/-- `sanitizeColumn`. -/
def sanitizeColumn (lower : Char → Char) (s : String) : String :=
  mapUpper lower (trimSpace (String.ofList (s.toList.map replaceChar)))

/-- `tableName`: the name of the file, without `.csv`. -/
def tableName (csvPath : String) : String :=
  let name := Path.base csvPath.toList
  let suffix := ".csv".toList
  String.ofList (if suffix.isSuffixOf name then name.take (name.length - suffix.length) else name)

/-- What `ReadAll` returns: the reader takes no record that is longer or shorter than the first. -/
structure Records where
  all : List (List String)
  uniform : ∀ record ∈ all, ∀ record' ∈ all, record.length = record'.length

structure CSVData where
  tableName : String
  headers : List String
  columns : List ColumnInfo
  rows : List (List String)
  length_columns : columns.length = headers.length
  length_row : ∀ row ∈ rows, row.length = columns.length

theorem length_inferTypes (cols : List String)
    (rows : List (List String)) : (inferTypes cols rows).length = cols.length := by
  rw [inferTypes, List.length_map, List.length_zipIdx]

/-- `ReadCSV`. -/
def readCSV (lower : Char → Char) (csvPath : String)
    (csv : Except String Records) : Except String CSVData :=
  match csv with
  | .error e => .error e
  | .ok records =>
      match h : records.all with
      | [] | [_] => .error "CSV has no data rows"
      | headers :: row :: rows =>
          have hlength := by
            rw [length_inferTypes, List.length_map]
          .ok
            { tableName := tableName csvPath
              headers := headers
              columns := inferTypes (headers.map (sanitizeColumn lower)) (row :: rows)
              rows := row :: rows
              length_columns := hlength
              length_row := fun r hr => by
                rw [hlength]
                refine records.uniform r ?_ headers ?_
                · rw [h]
                  exact List.mem_cons_of_mem _ hr
                · rw [h]
                  exact List.mem_cons_self }

/-! ## Writing the database -/

/-- A table of the database. -/
structure ValueTable where
  columns : List ColumnInfo
  rows : List (List Value)
  deriving DecidableEq, Repr

/-- The tables of a database file, by name. -/
abbrev Tables := List (String × ValueTable)

/-- What `WriteDB` asks of the file system and of SQLite, one after the other. -/
inductive WriteStep where
  | mkdirAll
  | openDB
  | create
  | begin
  | prepare
  | insert (row : Nat)
  | commit
  deriving DecidableEq, Repr

inductive WriteError where
  | reservedName                                -- a name that SQLite keeps to itself
  | tableExists
  | duplicateColumn
  | column (name : String)                      -- a cell of the column was not converted
  | failed (step : WriteStep) (message : String)
  deriving DecidableEq, Repr

/-- What is not in the code: the steps that fail, and what SQLite does for a table whose name has a
quotation mark. The mark is not doubled as those in the names of columns are, so that it ends the
name, and SQLite reads other statements than are meant. -/
structure System where
  fault : WriteStep → Option String
  writeQuoted : Tables → CSVData → Except WriteError Unit × Tables

/-- A step that may fail. -/
def System.step (sys : System) (step : WriteStep) : Except WriteError Unit :=
  match sys.fault step with
  | some message => .error (.failed step message)
  | none => .ok ()

def isReserved (name : String) : Bool :=
  "sqlite_".toList.isPrefixOf (name.toList.map foldCase)

/-- Two columns with the same name for SQLite. -/
def hasDuplicates : List ColumnInfo → Bool
  | [] => false
  | c :: cs => cs.any (fun c' => sameName c.name c'.name) || hasDuplicates cs

/-- `createTable`, for a name without a quotation mark. -/
def createTable (sys : System) (db : Tables) (name : String) (cols : List ColumnInfo) :
    Except WriteError Tables :=
  if isReserved name then .error .reservedName
  else if db.any fun t => sameName t.1 name then .error .tableExists
  else if hasDuplicates cols then .error .duplicateColumn
  else do
    sys.step .create
    return db ++ [(name, { columns := cols, rows := [] })]

/-- The values of a row, up to the first cell that is not converted. -/
def convertRow : List ColumnInfo → List String → Except WriteError (List Value)
  | c :: cols, v :: row =>
      match convertValue v c.type with
      | none => .error (.column c.name)
      | some value => do
          let values ← convertRow cols row
          return value.stored :: values
  | _, _ => .ok []

/-- The loop of `insertRows`, from the row with this index on. -/
def insertFrom (sys : System) (cols : List ColumnInfo) (i : Nat) :
    List (List String) → Except WriteError (List (List Value))
  | [] => .ok []
  | row :: rows => do
      let values ← convertRow cols row
      sys.step (.insert i)
      let table ← insertFrom sys cols (i + 1) rows
      return values :: table

/-- `insertRows`: the rows of the table after its transaction, which is all of them or none. -/
def insertRows (sys : System) (cols : List ColumnInfo) (rows : List (List String)) :
    Except WriteError (List (List Value)) := do
  sys.step .begin
  sys.step .prepare
  let values ← insertFrom sys cols 0 rows
  sys.step .commit
  return values

def hasQuote (name : String) : Bool := name.toList.contains '"'

/-- `WriteDB`, with the database file after it. -/
def writeDB (sys : System) (db : Tables) (data : CSVData) : Except WriteError Unit × Tables :=
  match sys.step .mkdirAll, sys.step .openDB with
  | .error e, _ | .ok (), .error e => (.error e, db)
  | .ok (), .ok () =>
      if hasQuote data.tableName then sys.writeQuoted db data
      else
        match createTable sys db data.tableName data.columns with
        | .error e => (.error e, db)
        | .ok created =>
            -- the table is in the file now, whatever becomes of the rows
            match insertRows sys data.columns data.rows with
            | .error e => (.error e, created)
            | .ok values =>
                (.ok (), db ++ [(data.tableName, { columns := data.columns, rows := values })])

/-! ## What is written -/

section Written

variable {lower : Char → Char} {csvPath : String} {csv : Except String Records} {data : CSVData}

theorem getElem?_inferTypes {cols : List String} {rows : List (List String)} {i : Nat}
    {c : ColumnInfo} (h : (inferTypes cols rows)[i]? = some c) :
    c.type = inferColumn i rows := by
  rw [inferTypes, List.getElem?_map, List.getElem?_zipIdx] at h
  obtain ⟨col, hcol, rfl⟩ := Option.map_eq_some_iff.mp h
  obtain ⟨name, _, rfl⟩ := Option.map_eq_some_iff.mp hcol
  rw [Nat.zero_add]

theorem readCSV_eq_ok (h : readCSV lower csvPath csv = .ok data) :
    data.tableName = tableName csvPath ∧ data.rows ≠ [] ∧
      (∃ records, csv = .ok records ∧ records.all = data.headers :: data.rows) ∧
      data.columns = inferTypes (data.headers.map (sanitizeColumn lower)) data.rows := by
  cases csv with
  | error e => cases h
  | ok records =>
      simp only [readCSV] at h
      split at h
      · cases h
      · cases h
      · next headers row rows hall =>
          cases h
          exact ⟨rfl, List.cons_ne_nil _ _, ⟨records, rfl, hall⟩, rfl⟩

/-- The cells of a row and the values in their place. -/
def RowSays (cols : List ColumnInfo) (row : List String) (values : List Value) : Prop :=
  List.Forall₂ (fun x value => Says x.1.type x.2 value) (cols.zip row) values

theorem convertRow_says {cols : List ColumnInfo} {row : List String}
    (h : ∀ x ∈ cols.zip row, ∃ value, convertValue x.2 x.1.type = some value ∧
      Says x.1.type x.2 value.stored) :
    ∃ values, convertRow cols row = .ok values ∧ RowSays cols row values := by
  induction cols generalizing row with
  | nil => exact ⟨[], rfl, .nil⟩
  | cons c cols ih =>
      cases row with
      | nil => exact ⟨[], rfl, .nil⟩
      | cons v row =>
          rw [List.zip_cons_cons, List.forall_mem_cons] at h
          obtain ⟨⟨value, hvalue, hsays⟩, hrest⟩ := h
          obtain ⟨values, hvalues, hrow⟩ := ih hrest
          refine ⟨value.stored :: values, ?_, .cons hsays hrow⟩
          rw [convertRow, hvalue]
          dsimp only
          rw [hvalues]
          rfl

/-- The steps one after the other, up to the first that fails. -/
def System.steps (sys : System) : List WriteStep → Except WriteError Unit
  | [] => .ok ()
  | step :: steps => do
      sys.step step
      sys.steps steps

theorem System.steps_append (sys : System) (steps steps' : List WriteStep) :
    sys.steps (steps ++ steps') = (sys.steps steps >>= fun _ => sys.steps steps') := by
  induction steps with
  | nil => rfl
  | cons step steps ih =>
      rw [List.cons_append, System.steps, System.steps, ih]
      cases sys.step step with
      | error e => rfl
      | ok => rfl

theorem System.steps_of_sound {sys : System} {steps : List WriteStep}
    (h : ∀ step ∈ steps, sys.fault step = none) : sys.steps steps = .ok () := by
  induction steps with
  | nil => rfl
  | cons step steps ih =>
      rw [List.forall_mem_cons] at h
      rw [System.steps, System.step, h.1]
      exact ih h.2

theorem System.exists_steps_eq_error {sys : System} {steps : List WriteStep}
    (h : ¬ ∀ step ∈ steps, sys.fault step = none) :
    ∃ step message, sys.steps steps = .error (.failed step message) := by
  induction steps with
  | nil => exact absurd (fun _ hstep => nomatch hstep) h
  | cons step steps ih =>
      rw [System.steps, System.step]
      cases hfault : sys.fault step with
      | some message => exact ⟨step, message, rfl⟩
      | none =>
          rw [List.forall_mem_cons, and_iff_right hfault] at h
          exact ih h

/-- All rows are converted, so that only the steps of the loop can fail. -/
theorem insertFrom_says (sys : System) {cols : List ColumnInfo} {rows : List (List String)}
    (h : ∀ row ∈ rows, ∃ values, convertRow cols row = .ok values ∧ RowSays cols row values) :
    ∃ table, List.Forall₂ (RowSays cols) rows table ∧ ∀ i, insertFrom sys cols i rows =
      (sys.steps ((List.range' i rows.length).map .insert)).map fun _ => table := by
  induction rows with
  | nil => exact ⟨[], .nil, fun i => rfl⟩
  | cons row rows ih =>
      rw [List.forall_mem_cons] at h
      obtain ⟨⟨values, hvalues, hrow⟩, hrest⟩ := h
      obtain ⟨table, hsays, htable⟩ := ih hrest
      refine ⟨values :: table, .cons hrow hsays, fun i => ?_⟩
      rw [insertFrom, hvalues, htable, List.length_cons, List.range'_succ, List.map_cons,
        System.steps]
      show (do sys.step (.insert i); _) = _
      cases sys.step (.insert i) with
      | error e => rfl
      | ok =>
          cases sys.steps ((List.range' (i + 1) rows.length).map .insert) with
          | error e => rfl
          | ok => rfl

/-- What `insertRows` asks for. -/
def insertion (n : Nat) : List WriteStep :=
  [.begin, .prepare] ++ (List.range' 0 n).map .insert ++ [.commit]

theorem insertRows_says (sys : System) {cols : List ColumnInfo} {rows : List (List String)}
    (h : ∀ row ∈ rows, ∃ values, convertRow cols row = .ok values ∧ RowSays cols row values) :
    ∃ table, List.Forall₂ (RowSays cols) rows table ∧
      insertRows sys cols rows = (sys.steps (insertion rows.length)).map fun _ => table := by
  obtain ⟨table, hsays, htable⟩ := insertFrom_says sys h
  refine ⟨table, hsays, ?_⟩
  rw [insertRows, htable, insertion, System.steps_append, System.steps_append]
  simp only [System.steps]
  cases sys.step .begin with
  | error e => rfl
  | ok =>
      cases sys.step .prepare with
      | error e => rfl
      | ok =>
          cases sys.steps ((List.range' 0 rows.length).map .insert) with
          | error e => rfl
          | ok =>
              show (do sys.step .commit; _) = (do (do sys.step .commit; _); _)
              cases sys.step .commit with
              | error e => rfl
              | ok => rfl

/-- The cell of a row that stands in a column is one of the cells of the column. -/
theorem mem_columnCells {cols : List ColumnInfo} {rows : List (List String)} {row : List String}
    (hrow : row ∈ rows) {x : ColumnInfo × String} (hx : x ∈ cols.zip row) :
    ∃ i, cols[i]? = some x.1 ∧ x.2 ∈ columnCells i rows := by
  obtain ⟨i, hi⟩ := List.mem_iff_getElem?.mp hx
  rw [List.getElem?_zip_eq_some] at hi
  refine ⟨i, hi.1, List.mem_map.mpr ⟨row, hrow, ?_⟩⟩
  rw [List.getD_eq_getElem?_getD, hi.2]
  rfl

/-- The table can be created: SQLite takes the statement, and nothing fails before it is there. -/
structure Creates (sys : System) (db : Tables) (data : CSVData) : Prop where
  sound : ∀ step ∈ [WriteStep.mkdirAll, .openDB, .create], sys.fault step = none
  notReserved : isReserved data.tableName = false
  fresh : (db.any fun t => sameName t.1 data.tableName) = false
  distinct : hasDuplicates data.columns = false

/-- Nothing fails while the rows are inserted. -/
def Inserts (sys : System) (data : CSVData) : Prop :=
  ∀ step ∈ insertion data.rows.length, sys.fault step = none

theorem createTable_of_creates {sys : System} {db : Tables} (h : Creates sys db data) :
    createTable sys db data.tableName data.columns =
      .ok (db ++ [(data.tableName, { columns := data.columns, rows := [] })]) := by
  rw [createTable, h.notReserved, h.fresh, h.distinct, System.step, h.sound .create (by simp)]
  rfl

theorem writeDB_of_creates {sys : System} {db : Tables} (hname : hasQuote data.tableName = false)
    (h : Creates sys db data) :
    writeDB sys db data =
      match insertRows sys data.columns data.rows with
      | .error e => (.error e, db ++ [(data.tableName, { columns := data.columns, rows := [] })])
      | .ok values =>
          (.ok (), db ++ [(data.tableName, { columns := data.columns, rows := values })]) := by
  rw [writeDB, System.step, System.step, h.sound .mkdirAll (by simp), h.sound .openDB (by simp)]
  dsimp only
  rw [hname, createTable_of_creates h]
  rfl

theorem System.fault_of_step {sys : System} {step : WriteStep} (h : sys.step step = .ok ()) :
    sys.fault step = none := by
  unfold System.step at h
  split at h
  · cases h
  · next hfault => exact hfault

theorem createTable_eq_ok {sys : System} {db created : Tables} {name : String}
    {cols : List ColumnInfo} (h : createTable sys db name cols = .ok created) :
    sys.fault .create = none ∧ isReserved name = false ∧
      (db.any fun t => sameName t.1 name) = false ∧ hasDuplicates cols = false := by
  unfold createTable at h
  split at h
  · cases h
  · next hreserved =>
      split at h
      · cases h
      · next hfresh =>
          split at h
          · cases h
          · next hdistinct =>
              refine ⟨System.fault_of_step ?_, by simpa using hreserved, by simpa using hfresh,
                by simpa using hdistinct⟩
              cases hstep : sys.step .create with
              | error e =>
                  rw [hstep] at h
                  cases h
              | ok => rfl

/-- A failure before the table is there leaves the database as it was. -/
theorem writeDB_of_not_creates {sys : System} {db : Tables}
    (hname : hasQuote data.tableName = false) (h : ¬ Creates sys db data) :
    ∃ e, writeDB sys db data = (.error e, db) := by
  unfold writeDB
  split
  · exact ⟨_, rfl⟩
  · exact ⟨_, rfl⟩
  · next hmkdir hopen =>
      rw [hname, if_neg Bool.false_ne_true]
      cases hcreate : createTable sys db data.tableName data.columns with
      | error e => exact ⟨e, rfl⟩
      | ok created =>
          obtain ⟨hstep, hreserved, hfresh, hdistinct⟩ := createTable_eq_ok hcreate
          refine absurd ⟨?_, hreserved, hfresh, hdistinct⟩ h
          simp [System.fault_of_step hmkdir, System.fault_of_step hopen, hstep]

theorem readCSV_narrowest (hread : readCSV lower csvPath csv = .ok data) {i : Nat} {c : ColumnInfo}
    (hc : data.columns[i]? = some c) : Narrowest (columnCells i data.rows) c.type := by
  obtain ⟨-, -, -, hcolumns⟩ := readCSV_eq_ok hread
  rw [hcolumns] at hc
  rw [getElem?_inferTypes hc]
  exact inferColumn_narrowest i data.rows

/-- The values of all rows, and the steps that are left to fail. -/
theorem insertRows_of_readCSV (hread : readCSV lower csvPath csv = .ok data) (sys : System) :
    ∃ values, List.Forall₂ (RowSays data.columns) data.rows values ∧
      insertRows sys data.columns data.rows =
        (sys.steps (insertion data.rows.length)).map fun _ => values := by
  have hrows : ∀ row ∈ data.rows, ∃ values, convertRow data.columns row = .ok values ∧
      RowSays data.columns row values := by
    intro row hrow
    apply convertRow_says
    intro x hx
    obtain ⟨i, hi, hcell⟩ := mem_columnCells hrow hx
    exact convertValue_says (readCSV_narrowest hread hi) hcell
  exact insertRows_says sys hrows

theorem writeDB_of_inserts {sys : System} {db : Tables} {values : List (List Value)}
    (hinsert : insertRows sys data.columns data.rows =
      (sys.steps (insertion data.rows.length)).map fun _ => values)
    (hname : hasQuote data.tableName = false) (hcreates : Creates sys db data)
    (hinserts : Inserts sys data) :
    writeDB sys db data =
      (.ok (), db ++ [(data.tableName, { columns := data.columns, rows := values })]) := by
  rw [writeDB_of_creates hname hcreates, hinsert, System.steps_of_sound hinserts]
  rfl

/-- **What is written** by `WriteDB`, whatever fails: every column has the narrowest type that fits
its cells, and so no cell fails to be converted. Either the table cannot be created and the database
is as it was; or it is created and SQLite fails later, and it stays there without a row; or all rows
are written, in their order, and each value says what its cell says. -/
theorem writeDB_spec (hread : readCSV lower csvPath csv = .ok data) (sys : System) (db : Tables)
    (hname : hasQuote data.tableName = false) :
    (∀ i c, data.columns[i]? = some c → Narrowest (columnCells i data.rows) c.type) ∧
    ∃ values, List.Forall₂ (RowSays data.columns) data.rows values ∧
      (¬ Creates sys db data → ∃ e, writeDB sys db data = (.error e, db)) ∧
      (Creates sys db data → ¬ Inserts sys data → ∃ step message, writeDB sys db data =
        (.error (.failed step message),
          db ++ [(data.tableName, { columns := data.columns, rows := [] })])) ∧
      (Creates sys db data → Inserts sys data → writeDB sys db data =
        (.ok (), db ++ [(data.tableName, { columns := data.columns, rows := values })])) := by
  obtain ⟨values, hsays, hinsert⟩ := insertRows_of_readCSV hread sys
  refine ⟨fun i c hc => readCSV_narrowest hread hc, values, hsays, writeDB_of_not_creates hname, ?_,
    writeDB_of_inserts hinsert hname⟩
  intro hcreates hnot
  -- no cell fails, so it is a step that does
  obtain ⟨step, message, hsteps⟩ := System.exists_steps_eq_error hnot
  refine ⟨step, message, ?_⟩
  rw [writeDB_of_creates hname hcreates, hinsert, hsteps]
  rfl

end Written

/-- Flows without an end: the rates are infinite, negative zero or no number at all. -/
def fourFlows : Records where
  all := [["id", "Flow Duration", "Flow Bytes/s", "Label"], ["7", "0", "Infinity", "BENIGN"],
    ["8", "250", "0.5", "BENIGN"], ["9", "1e3", "-0", "PortScan"], ["", "12.5", "NaN", "PortScan"]]
  uniform := by decide

/-- A disk that is full when the transaction is committed, or not. -/
def disk (full : Bool) : System where
  fault step := if full ∧ step = .commit then some "database or disk is full" else none
  writeQuoted db _ := (.error (.failed .create "near \"flows\": syntax error"), db)

theorem creates_disk {full : Bool} {data : CSVData} (hreserved : isReserved data.tableName = false)
    (hdistinct : hasDuplicates data.columns = false) : Creates (disk full) [] data :=
  ⟨by simp [disk], hreserved, rfl, hdistinct⟩

theorem inserts_disk_iff {full : Bool} {data : CSVData} :
    Inserts (disk full) data ↔ full = false := by
  constructor
  · intro h
    simpa [disk] using h .commit (by simp [insertion])
  · rintro rfl step -
    simp [disk]

/-- All rows are written where there is room; else an empty table stays behind. -/
theorem fourFlows_written : ∃ data, readCSV Char.toLower "flows.csv" (.ok fourFlows) = .ok data ∧
    hasQuote data.tableName = false ∧
    data.columns.map ColumnInfo.type = [.integer, .real, .real, .text] ∧
    (∃ values, List.Forall₂ (RowSays data.columns) data.rows values ∧
      writeDB (disk false) [] data =
        (.ok (), [("flows", { columns := data.columns, rows := values })])) ∧
    ∃ step message, writeDB (disk true) [] data =
      (.error (.failed step message), [("flows", { columns := data.columns, rows := [] })]) := by
  have hread : ∃ data, readCSV Char.toLower "flows.csv" (.ok fourFlows) = .ok data ∧
      data.tableName = "flows" ∧ hasDuplicates data.columns = false ∧
      data.columns.map ColumnInfo.type = [.integer, .real, .real, .text] :=
    ⟨_, rfl, by decide +kernel, by decide +kernel, by decide +kernel⟩
  obtain ⟨data, hdata, hname, hdistinct, htypes⟩ := hread
  have hquote : hasQuote data.tableName = false := by
    rw [hname]
    decide
  have hreserved : isReserved data.tableName = false := by
    rw [hname]
    decide
  obtain ⟨-, values, hsays, -, -, hwritten⟩ := writeDB_spec hdata (disk false) [] hquote
  obtain ⟨-, -, -, -, hfull, -⟩ := writeDB_spec hdata (disk true) [] hquote
  have hroom := hwritten (creates_disk hreserved hdistinct) (inserts_disk_iff.mpr rfl)
  have hempty := hfull (creates_disk hreserved hdistinct) (by rw [inserts_disk_iff]; decide)
  rw [hname] at hroom hempty
  exact ⟨data, hdata, hquote, htypes, ⟨values, hsays, hroom⟩, hempty⟩

end SnortOptimizer.Convert
