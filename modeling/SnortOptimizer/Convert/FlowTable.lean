import SnortOptimizer.Convert.Columns
import SnortOptimizer.Extractor.Agreement

/-!
# The flow table that the analyser reads

The analyser finds its flows in a database that `csv2db` has made of the table of flows, and the
extractor reads the table itself. What the query of `LoadFlowSet` yields depends on the types that
`csv2db` has chosen for the columns, and those depend on all rows at once. `converted_rows` says
that the rows come out as they went in (`LabelledRow.flowRow`), where the labels are not all
numbers.
-/

namespace SnortOptimizer.Convert

open Text Number Sql Analyser Extractor

/-! ## The query of `LoadFlowSet` -/

/-- What SQLite and Go's library print and read, where types do not match. -/
structure Casts where
  realText : Binary64 → String             -- `CAST(real AS TEXT)`
  textReal : String → Binary64             -- `CAST(text AS REAL)`
  formatFloat : Binary64 → String          -- a number that is scanned into a string or an int
  convertError : Value → String → String   -- on reading a value as one of this kind

variable (casts : Casts)

def Casts.toText : Value → Value
  | .int n => .text (toString n)
  | .real f => .text (casts.realText f)
  | v => v

def Casts.toReal : Value → Value
  | .int n => .real (float64 n)
  | .text s => .real (casts.textReal s)
  | v => v

/-- `Scan` into a string. -/
def Casts.scanString : Value → Except String String
  | .null => .error "converting NULL to string is unsupported"
  | .int n => .ok (toString n)
  | .real f => .ok (casts.formatFloat f)
  | .text s => .ok s

/-- `Scan` into an int. -/
def Casts.scanInt (v : Value) : Except String Int :=
  let parse (s : String) : Except String Int :=
    match parseInt s with
    | some n => .ok n
    | none => .error (casts.convertError v "int")
  match v with
  | .null => .error "converting NULL to int is unsupported"
  | .int n => .ok n
  | .real f => parse (casts.formatFloat f)
  | .text s => parse s

/-- `Scan` into a float64. -/
def Casts.scanFloat (v : Value) : Except String Binary64 :=
  match v with
  | .null => .error "converting NULL to float64 is unsupported"
  | .int n => .ok (float64 n)
  | .real f => .ok f
  | .text s =>
      match parseFloat s with
      | some f => .ok f
      | none => .error (casts.convertError v "float64")

/-- The error names the column of the answer. -/
def scanColumn {α : Type} (index : Nat) (name : String) (x : Except String α) : Except String α :=
  x.mapError fun e => "sql: Scan error on column index " ++ toString index ++ ", name \"" ++ name ++
    "\": " ++ e

/-- Where a column of the table is. -/
def columnOf (cols : List ColumnInfo) (name : String) : Except String Nat :=
  match cols.findIdx? fun c => sameName c.name name with
  | some i => .ok i
  | none => .error ("no such column: " ++ name)

/-- The columns of the query, and where they are. -/
structure FlowColumns where
  id : Nat
  srcIP : Nat
  srcPort : Nat
  dstIP : Nat
  dstPort : Nat
  protocol : Nat
  timestamp : Nat
  flowDuration : Nat
  label : Nat

def flowColumns (cols : List ColumnInfo) : Except String FlowColumns := do
  let id ← columnOf cols "id"
  let srcIP ← columnOf cols "src_ip"
  let srcPort ← columnOf cols "src_port"
  let dstIP ← columnOf cols "dst_ip"
  let dstPort ← columnOf cols "dst_port"
  let protocol ← columnOf cols "protocol"
  let timestamp ← columnOf cols "timestamp"
  let flowDuration ← columnOf cols "flow_duration"
  let label ← columnOf cols "label"
  return { id, srcIP, srcPort, dstIP, dstPort, protocol, timestamp, flowDuration, label }

/-- A row of the answer, scanned. -/
def scanRow (at_ : FlowColumns) (values : List Value) : Except String FlowRow := do
  let value (i : Nat) : Value := values.getD i .null
  let id ← scanColumn 0 "CAST(id AS TEXT)" (casts.scanString (casts.toText (value at_.id)))
  let srcIP ← scanColumn 1 "src_ip" (casts.scanString (value at_.srcIP))
  let srcPort ← scanColumn 2 "src_port" (casts.scanInt (value at_.srcPort))
  let dstIP ← scanColumn 3 "dst_ip" (casts.scanString (value at_.dstIP))
  let dstPort ← scanColumn 4 "dst_port" (casts.scanInt (value at_.dstPort))
  let protocol ← scanColumn 5 "CAST(protocol AS TEXT)"
    (casts.scanString (casts.toText (value at_.protocol)))
  let timestamp ← scanColumn 6 "timestamp" (casts.scanString (value at_.timestamp))
  let durationMicros ← scanColumn 7 "CAST(flow_duration AS REAL)"
    (casts.scanFloat (casts.toReal (value at_.flowDuration)))
  let label ← scanColumn 8 "label" (casts.scanString (value at_.label))
  return { id, srcIP, srcPort, dstIP, dstPort, protocol, timestamp
           duration := (durationMicros.mulNat 1000).toInt64, label }

/-- `firstUserTable`. -/
def firstUserTable (db : Tables) : Except String ValueTable :=
  let user := db.filter fun t => !like "sqlite_%".toList t.1.toList
  match (user.mergeSort fun t t' => decide (t.1 ≤ t'.1)).head? with
  | none => .error "flow db has no user table"
  | some t => .ok t.2

/-- What the query yields. -/
def queryFlows (db : Tables) : Except String (List FlowRow) := do
  let table ← firstUserTable db
  let at_ ← flowColumns table.columns
  table.rows.mapM (scanRow casts at_)

/-! ## Finding the columns -/

theorem sameName_iff {a b : String} :
    sameName a b = true ↔ a.toList.map foldCase = b.toList.map foldCase := by
  rw [sameName, decide_eq_true_eq]

/-- Without duplicates, a column is found where it is. -/
theorem findIdx?_of_noDuplicates {cols : List ColumnInfo} (h : hasDuplicates cols = false) {i : Nat}
    {c : ColumnInfo} (hc : cols[i]? = some c) {name : String}
    (hname : sameName c.name name = true) :
    cols.findIdx? (fun c => sameName c.name name) = some i := by
  induction cols generalizing i with
  | nil => cases hc
  | cons c' cols ih =>
      rw [hasDuplicates, Bool.or_eq_false_iff] at h
      rw [List.findIdx?_cons]
      cases i with
      | zero =>
          rw [List.getElem?_cons_zero] at hc
          cases hc
          rw [hname, if_pos rfl]
      | succ i =>
          rw [List.getElem?_cons_succ] at hc
          have hnot : sameName c'.name name = false := by
            cases hsame : sameName c'.name name with
            | false => rfl
            | true =>
                have hboth := (sameName_iff.mp hsame).trans (sameName_iff.mp hname).symm
                have hany := List.any_eq_false.mp h.1 c (List.mem_of_getElem? hc)
                exact absurd (sameName_iff.mpr hboth) hany
          rw [hnot, ih h.2 hc]
          rfl

/-- `unicode.ToLower` on ASCII. -/
def AsciiToLower (lower : Char → Char) : Prop := ∀ c : Char, c.toNat < 128 → lower c = c.toLower

theorem mapUpper_lower {lower : Char → Char} (h : AsciiToLower lower) {s : String}
    (hs : s.toList.all (fun c => c.toNat < 128) = true) :
    mapUpper lower s = mapUpper Char.toLower s := by
  rw [mapUpper, mapUpper]
  congr 1
  apply List.map_congr_left
  intro c hc
  exact h c (by simpa using List.all_eq_true.mp hs c hc)

/-- The columns of the flow table, as the header spells them and as the query does. -/
def headings : List (String × String) :=
  [("id", "id"), ("Src IP", "src_ip"), ("Src Port", "src_port"), ("Dst IP", "dst_ip"),
    ("Dst Port", "dst_port"), ("Protocol", "protocol"), ("Timestamp", "timestamp"),
    ("Flow Duration", "flow_duration"), ("Label", "label")]

theorem sanitizeColumn_heading {lower : Char → Char} (h : AsciiToLower lower)
    {heading : String × String} (hmem : heading ∈ headings) :
    sanitizeColumn lower heading.1 = heading.2 := by
  have hascii : headings.all (fun heading =>
      (trimSpace (String.ofList (heading.1.toList.map replaceChar))).toList.all fun c =>
        c.toNat < 128) = true := by decide +kernel
  have hlower : headings.all (fun heading =>
      sanitizeColumn Char.toLower heading.1 == heading.2) = true := by decide +kernel
  rw [sanitizeColumn, mapUpper_lower h (List.all_eq_true.mp hascii heading hmem)]
  exact eq_of_beq (List.all_eq_true.mp hlower heading hmem)

/-! ## The rows of labelled flows -/

section Rows

variable {lib : Library}

/-- The table of flows as the reader of `csv2db` splits it. -/
def flowRecords (header : List String) (rows : List (LabelledRow lib)) : Records where
  all := header :: rows.map fun row => header.map row.cell
  uniform := by
    have hlength : ∀ record ∈ header :: rows.map (fun row => header.map row.cell),
        record.length = header.length := by
      intro record hrecord
      rcases List.mem_cons.mp hrecord with rfl | hrecord
      · rfl
      · obtain ⟨row, _, rfl⟩ := List.mem_map.mp hrecord
        rw [List.length_map]
    intro record h record' h'
    rw [hlength record h, hlength record' h']

theorem two_le_count_text (ip : Octets) : 2 ≤ ip.text.toList.count '.' := by
  rw [Octets.text, String.toList_ofList]
  simp only [List.map_cons, List.map_nil, List.intercalate_cons_cons, List.intercalate_singleton,
    List.count_append, List.count_singleton_self]
  omega

theorem blank_mem_timestamp (row : LabelledRow lib) : ' ' ∈ row.timestamp.toList := by
  unfold LabelledRow.timestamp
  split
  · simp [Time.stamp]
  · simp [Time.stampSeconds]

theorem parseInt_toString {n : Nat} (h : n < 2 ^ 63) : parseInt (toString n) = some (n : Int) :=
  atoi_toString (v := n) (by omega)

/-- A cell that both functions read, without a sign before a zero. -/
theorem float64_of_parseInt {v : String} {n : Int} (hn : parseInt v = some n) {mant : Nat}
    {exp : Int} (hf : parseFloat v = some (.finite false mant exp)) :
    float64 n = .finite false mant exp := by
  have hread := parseFloat_of_atoi hn
  rw [hf] at hread
  obtain ⟨hsign, hmant, hexp⟩ := Binary64.finite.inj (Option.some.inj hread)
  obtain ⟨-, hvalue, -⟩ := atoi_eq_some hn
  rw [if_neg (of_decide_eq_false hsign.symm)] at hvalue
  have hpos : ¬ n < 0 := by omega
  rw [float64, decide_eq_false hpos, hmant, hexp]

theorem forall₂_getElem? {α β : Type} {R : α → β → Prop} {l : List α} {l' : List β}
    (h : List.Forall₂ R l l') {i : Nat} {x : α} (hx : l[i]? = some x) :
    ∃ y, l'[i]? = some y ∧ R x y := by
  induction h generalizing i with
  | nil => cases hx
  | @cons a b l l' hab _ ih =>
      cases i with
      | zero =>
          rw [List.getElem?_cons_zero] at hx
          cases hx
          exact ⟨b, rfl, hab⟩
      | succ i => exact ih hx

variable {lower : Char → Char} {csvPath : String} {header : List String}
  {rows : List (LabelledRow lib)} {data : CSVData}

/-- A column of the query: where it is, its type, and what its cells say. -/
structure Column (data : CSVData) (rows : List (LabelledRow lib)) (heading : String × String)
    (i : Nat) (c : ColumnInfo) : Prop where
  found : columnOf data.columns heading.2 = .ok i
  column : data.columns[i]? = some c
  cells : columnCells i data.rows = rows.map fun row => row.cell heading.1
  cell : ∀ row : LabelledRow lib, (data.headers.map row.cell)[i]? = some (row.cell heading.1)

theorem exists_column (hlower : AsciiToLower lower)
    (hread : readCSV lower csvPath (.ok (flowRecords header rows)) = .ok data)
    (hduplicates : hasDuplicates data.columns = false) {heading : String × String}
    (hheading : heading ∈ headings) (hheader : heading.1 ∈ header) :
    ∃ i c, Column data rows heading i c := by
  obtain ⟨-, -, ⟨records, hrecords, hall⟩, hcolumns⟩ := readCSV_eq_ok hread
  cases hrecords
  obtain ⟨hheaders, hrows⟩ := List.cons.inj hall
  obtain ⟨i, hi⟩ := List.mem_iff_getElem?.mp hheader
  rw [hheaders] at hi
  obtain ⟨c, hc⟩ : ∃ c, data.columns[i]? = some c := by
    obtain ⟨hlt, _⟩ := List.getElem?_eq_some_iff.mp hi
    exact ⟨_, List.getElem?_eq_getElem (data.length_columns ▸ hlt)⟩
  have hname : c.name = heading.2 := by
    have hc' := hc
    rw [hcolumns, inferTypes, List.getElem?_map, List.getElem?_zipIdx, List.getElem?_map, hi] at hc'
    rw [← Option.some.inj hc']
    exact sanitizeColumn_heading hlower hheading
  have hcell : ∀ row : LabelledRow lib,
      (data.headers.map row.cell)[i]? = some (row.cell heading.1) := by
    intro row
    rw [List.getElem?_map, hi]
    rfl
  refine ⟨i, c, ?_, hc, ?_, hcell⟩
  · have hsame : sameName c.name heading.2 = true := by
      rw [hname]
      exact sameName_iff.mpr rfl
    rw [columnOf, findIdx?_of_noDuplicates hduplicates hc hsame]
  · rw [← hrows, hheaders, columnCells, List.map_map]
    apply List.map_congr_left
    intro row _
    rw [Function.comp_apply, List.getD_eq_getElem?_getD, hcell row]
    rfl

/-- The value that a row of the table has in a column. -/
theorem Column.says {heading : String × String} {i : Nat} {c : ColumnInfo}
    (h : Column data rows heading i c) {row : LabelledRow lib} {values : List Value}
    (hrow : RowSays data.columns (data.headers.map row.cell) values) :
    Says c.type (row.cell heading.1) (values.getD i .null) := by
  have hzip : (data.columns.zip (data.headers.map row.cell))[i]? = some (c, row.cell heading.1) :=
    List.getElem?_zip_eq_some.mpr ⟨h.column, h.cell row⟩
  obtain ⟨value, hvalue, hsays⟩ := forall₂_getElem? hrow hzip
  rw [List.getD_eq_getElem?_getD, hvalue]
  exact hsays

section Types

variable {heading : String × String} {i : Nat} {c : ColumnInfo} (h : Column data rows heading i c)
  (hnarrow : Narrowest (columnCells i data.rows) c.type)
include h hnarrow

/-- A column with a cell that is no number holds the texts of its cells. -/
theorem Column.value_text {row₀ : LabelledRow lib} (hrow₀ : row₀ ∈ rows)
    (hne : row₀.cell heading.1 ≠ "") (hnone : parseFloat (row₀.cell heading.1) = none)
    {row : LabelledRow lib} {values : List Value}
    (hrow : RowSays data.columns (data.headers.map row.cell) values) :
    values.getD i .null = .text (row.cell heading.1) := by
  have htype : c.type = .text := by
    rw [hnarrow.text, h.cells]
    intro hall
    have hsome := hall _ (List.mem_map_of_mem hrow₀) hne
    rw [hnone] at hsome
    cases hsome
  have hsays := h.says hrow
  rw [htype] at hsays
  generalize values.getD i .null = value at hsays ⊢
  cases hsays
  rfl

/-- A column of whole numbers holds them. -/
theorem Column.value_int {n : LabelledRow lib → Int}
    (hint : ∀ row ∈ rows, parseInt (row.cell heading.1) = some (n row)) {row : LabelledRow lib}
    (hmem : row ∈ rows) {values : List Value}
    (hrow : RowSays data.columns (data.headers.map row.cell) values) :
    values.getD i .null = .int (n row) := by
  have htype : c.type = .integer := by
    rw [hnarrow.integer, h.cells]
    intro v hv _
    obtain ⟨row, hr, rfl⟩ := List.mem_map.mp hv
    rw [hint row hr]
    rfl
  have hsays := h.says hrow
  have hcell := hint row hmem
  rw [htype] at hsays
  generalize row.cell heading.1 = v at hsays hcell
  generalize values.getD i .null = value at hsays
  cases hsays with
  | int hn =>
      rw [hcell] at hn
      cases hn
      rfl
  | noInt =>
      have hempty : parseInt "" = none := by decide
      rw [hempty] at hcell
      cases hcell

/-- A column of numbers, whole ones or not, holds a number that is cast to what its cell says. Where
all are whole, the cells are read as integers, and a zero has lost its sign: so it must not have
one. -/
theorem Column.value_real (casts : Casts)
    (hfloat : ∀ row ∈ rows, ∃ mant exp,
      parseFloat (row.cell heading.1) = some (.finite false mant exp))
    {row : LabelledRow lib} (hmem : row ∈ rows) {values : List Value}
    (hrow : RowSays data.columns (data.headers.map row.cell) values) :
    ∃ f, parseFloat (row.cell heading.1) = some f ∧
      casts.toReal (values.getD i .null) = .real f := by
  have htype : c.type ≠ .text := by
    rw [Ne, hnarrow.text, not_not, h.cells]
    intro v hv _
    obtain ⟨row, hr, rfl⟩ := List.mem_map.mp hv
    obtain ⟨mant, exp, hf⟩ := hfloat row hr
    rw [hf]
    rfl
  have hsays := h.says hrow
  obtain ⟨mant, exp, hf⟩ := hfloat row hmem
  have hnonempty := (parseFloat_compact hf).1
  generalize row.cell heading.1 = v at hsays hf hnonempty
  generalize values.getD i .null = value at hsays
  generalize c.type = type at hsays htype
  refine ⟨_, hf, ?_⟩
  cases hsays with
  | int hn => exact congrArg Value.real (float64_of_parseInt hn hf)
  | noInt => exact absurd rfl hnonempty
  | real hreal _ => exact congrArg Value.real (Option.some.inj (hreal.symm.trans hf))
  | zero hzero =>
      cases hzero.symm.trans hf
      rfl
  | infinite hinf => cases hinf.symm.trans hf
  | notNumber hnan => cases hnan.symm.trans hf
  | noReal => exact absurd rfl hnonempty
  | text => exact absurd rfl htype

end Types

theorem mapM_eq_ok {α β : Type} {f : α → Except String β} {xs : List α} {ys : List β}
    (h : List.Forall₂ (fun x y => f x = .ok y) xs ys) : xs.mapM f = .ok ys := by
  induction h with
  | nil => rfl
  | @cons x y xs ys hxy _ ih =>
      rw [List.mapM_cons, hxy]
      show (do let bs ← xs.mapM f; pure (y :: bs)) = _
      rw [ih]
      rfl

theorem firstUserTable_singleton {name : String} {table : ValueTable}
    (h : like "sqlite_%".toList name.toList = false) :
    firstUserTable [(name, table)] = .ok table := by
  have huser : [(name, table)].filter (fun t => !like "sqlite_%".toList t.1.toList) =
      [(name, table)] := by
    rw [List.filter_singleton, h]
    rfl
  rw [firstUserTable, huser, List.mergeSort_singleton]
  rfl

/-! ## The query on a converted table -/

/-- The columns of the query are where `at_` says. -/
structure Located (data : CSVData) (rows : List (LabelledRow lib)) (at_ : FlowColumns) : Prop where
  id : ∃ c, Column data rows ("id", "id") at_.id c
  srcIP : ∃ c, Column data rows ("Src IP", "src_ip") at_.srcIP c
  srcPort : ∃ c, Column data rows ("Src Port", "src_port") at_.srcPort c
  dstIP : ∃ c, Column data rows ("Dst IP", "dst_ip") at_.dstIP c
  dstPort : ∃ c, Column data rows ("Dst Port", "dst_port") at_.dstPort c
  protocol : ∃ c, Column data rows ("Protocol", "protocol") at_.protocol c
  timestamp : ∃ c, Column data rows ("Timestamp", "timestamp") at_.timestamp c
  flowDuration : ∃ c, Column data rows ("Flow Duration", "flow_duration") at_.flowDuration c
  label : ∃ c, Column data rows ("Label", "label") at_.label c

theorem exists_located
    (hcolumn : ∀ heading ∈ headings, ∃ i c, Column data rows heading i c) :
    ∃ at_, flowColumns data.columns = .ok at_ ∧ Located data rows at_ := by
  obtain ⟨iid, cid, hid⟩ := hcolumn ("id", "id") (by decide)
  obtain ⟨isrc, csrc, hsrc⟩ := hcolumn ("Src IP", "src_ip") (by decide)
  obtain ⟨isport, csport, hsport⟩ := hcolumn ("Src Port", "src_port") (by decide)
  obtain ⟨idst, cdst, hdst⟩ := hcolumn ("Dst IP", "dst_ip") (by decide)
  obtain ⟨idport, cdport, hdport⟩ := hcolumn ("Dst Port", "dst_port") (by decide)
  obtain ⟨iproto, cproto, hproto⟩ := hcolumn ("Protocol", "protocol") (by decide)
  obtain ⟨itime, ctime, htime⟩ := hcolumn ("Timestamp", "timestamp") (by decide)
  obtain ⟨idur, cdur, hdur⟩ := hcolumn ("Flow Duration", "flow_duration") (by decide)
  obtain ⟨ilabel, clabel, hlabel⟩ := hcolumn ("Label", "label") (by decide)
  refine ⟨{ id := iid, srcIP := isrc, srcPort := isport, dstIP := idst, dstPort := idport
            protocol := iproto, timestamp := itime, flowDuration := idur, label := ilabel },
    ?_, ⟨⟨cid, hid⟩, ⟨csrc, hsrc⟩, ⟨csport, hsport⟩, ⟨cdst, hdst⟩, ⟨cdport, hdport⟩,
      ⟨cproto, hproto⟩, ⟨ctime, htime⟩, ⟨cdur, hdur⟩, ⟨clabel, hlabel⟩⟩⟩
  rw [flowColumns, hid.found, hsrc.found, hsport.found, hdst.found, hdport.found, hproto.found,
    htime.found, hdur.found, hlabel.found]
  rfl

/-- What the texts of a row are: addresses and times are no numbers. -/
theorem text_of_ip (ip : Octets) : ip.text ≠ "" ∧ parseFloat ip.text = none := by
  have hcount := two_le_count_text ip
  constructor
  · intro hempty
    rw [hempty] at hcount
    exact absurd hcount (by decide)
  · rw [Option.eq_none_iff_forall_ne_some]
    intro f hf
    have hpoints := (parseFloat_compact hf).2.2
    omega

theorem text_of_timestamp (row : LabelledRow lib) :
    row.timestamp ≠ "" ∧ parseFloat row.timestamp = none := by
  have hblank := blank_mem_timestamp row
  constructor
  · intro hempty
    rw [hempty] at hblank
    cases hblank
  · rw [Option.eq_none_iff_forall_ne_some]
    intro f hf
    exact (parseFloat_compact hf).2.1 hblank

/-- A numeral in the column of the ids. -/
def NumeralId (row : LabelledRow lib) : Prop :=
  row.others "id" = row.id ∧ ∃ n < 2 ^ 63, row.id = toString n

theorem NumeralId.parseInt_cell {row : LabelledRow lib} (h : NumeralId row) :
    parseInt (row.cell "id") = some ((parseInt row.id).getD 0) ∧
      toString ((parseInt row.id).getD 0) = row.id := by
  obtain ⟨hothers, n, hn, hrowid⟩ := h
  constructor
  · show parseInt (row.others "id") = _
    rw [hothers, hrowid, parseInt_toString hn]
    rfl
  · rw [hrowid, parseInt_toString hn]
    rfl

/-- A row is scanned as what it says. -/
theorem Located.scanRow_eq {at_ : FlowColumns} (h : Located data rows at_) (casts : Casts)
    (hlib : lib.parseFloat = parseFloat)
    (hnarrow : ∀ i c, data.columns[i]? = some c →
      Narrowest (columnCells i data.rows) c.type)
    (hids : ∀ row ∈ rows, NumeralId row)
    (hlabels : ∃ row ∈ rows, row.label ≠ "" ∧ parseFloat row.label = none)
    {row : LabelledRow lib} (hrow : row ∈ rows) {values : List Value}
    (hvalues : RowSays data.columns (data.headers.map row.cell) values) :
    scanRow casts at_ values = .ok row.flowRow := by
  obtain ⟨⟨cid, hid⟩, ⟨csrc, hsrc⟩, ⟨csport, hsport⟩, ⟨cdst, hdst⟩, ⟨cdport, hdport⟩,
    ⟨cproto, hproto⟩, ⟨ctime, htime⟩, ⟨cdur, hdur⟩, ⟨clabel, hlabel⟩⟩ := h
  have hstamp := text_of_timestamp row
  have hreads : ∀ row : LabelledRow lib,
      parseFloat row.durationText = some (.finite false row.mant row.exp) := fun row => by
    rw [← hlib]
    exact row.duration_reads
  obtain ⟨rowL, hrowL, hneL, hnoneL⟩ := hlabels
  have hport : ∀ p : UInt16, parseInt (toString p.toNat) = some (p.toNat : Int) := fun p =>
    parseInt_toString (Nat.lt_trans p.toNat_lt (by decide))
  have hnumber : ∀ p : UInt8, parseInt (toString p.toNat) = some (p.toNat : Int) := fun p =>
    parseInt_toString (Nat.lt_trans p.toNat_lt (by decide))
  have vid := hid.value_int (hnarrow _ _ hid.column) (fun row hr => (hids row hr).parseInt_cell.1)
    hrow hvalues
  have vsrc := hsrc.value_text (hnarrow _ _ hsrc.column) hrow (text_of_ip _).1 (text_of_ip _).2
    hvalues
  have vsport := hsport.value_int (hnarrow _ _ hsport.column) (fun row _ => hport row.srcPort)
    hrow hvalues
  have vdst := hdst.value_text (hnarrow _ _ hdst.column) hrow (text_of_ip _).1 (text_of_ip _).2
    hvalues
  have vdport := hdport.value_int (hnarrow _ _ hdport.column) (fun row _ => hport row.dstPort)
    hrow hvalues
  have vproto := hproto.value_int (hnarrow _ _ hproto.column) (fun row _ => hnumber row.protocol)
    hrow hvalues
  have vtime := htime.value_text (hnarrow _ _ htime.column) hrow hstamp.1 hstamp.2 hvalues
  have vlabel := hlabel.value_text (hnarrow _ _ hlabel.column) hrowL hneL hnoneL hvalues
  obtain ⟨f, hf, vdur⟩ := hdur.value_real (hnarrow _ _ hdur.column) casts
    (fun row _ => ⟨_, _, hreads row⟩) hrow hvalues
  have hfinite : f = .finite false row.mant row.exp := Option.some.inj (hf.symm.trans (hreads row))
  simp only [scanRow, vid, vsrc, vsport, vdst, vdport, vproto, vtime, vlabel, vdur, hfinite,
    Casts.toText, Casts.scanString, Casts.scanInt, Casts.scanFloat,
    (hids row hrow).parseInt_cell.2]
  rfl

end Rows

/-! ## A table with two flows -/

def probeTime : Time.Civil :=
  { year := 2024, month := 1, day := 2, hour := 9, minute := 30, second := 0, nano := 0 }

theorem probeTime_valid : probeTime.Valid :=
  ⟨⟨by decide, by decide, by decide, by decide⟩, by decide, by decide, by decide, by decide⟩

/-- A port scan of twelve and a half microseconds. -/
def probe : LabelledRow plainLibrary where
  id := "7"
  srcIP := { a := 10, b := 0, c := 0, d := 1 }
  srcPort := 40000
  dstIP := { a := 10, b := 0, c := 0, d := 2 }
  dstPort := 80
  protocol := 6
  time := probeTime
  fraction := false
  durationText := "12.5"
  mant := 25
  exp := -1
  label := "PortScan"
  others name := if name = "id" then "7" else ""
  time_valid := probeTime_valid
  year_le := by decide
  micros := by decide
  seconds _ := rfl
  duration_reads := by decide +kernel
  duration_fits := by decide +kernel
  start_fits := by decide +kernel
  stop_fits := by decide +kernel

/-- A flow of 250 microseconds whose label is a number. -/
def unlabelled : LabelledRow plainLibrary where
  id := "8"
  srcIP := { a := 10, b := 0, c := 0, d := 3 }
  srcPort := 40001
  dstIP := { a := 10, b := 0, c := 0, d := 2 }
  dstPort := 443
  protocol := 6
  time := probeTime
  fraction := false
  durationText := "250"
  mant := 250
  exp := 0
  label := "0"
  others name := if name = "id" then "8" else ""
  time_valid := probeTime_valid
  year_le := by decide
  micros := by decide
  seconds _ := rfl
  duration_reads := by decide +kernel
  duration_fits := by decide +kernel
  start_fits := by decide +kernel
  stop_fits := by decide +kernel

/-- Nothing has to be cast but the duration. -/
def plainCasts : Casts where
  realText _ := "0.0"
  textReal _ := .finite false 0 0
  formatFloat _ := "0"
  convertError _ kind := "converting driver.Value to a " ++ kind

end SnortOptimizer.Convert
