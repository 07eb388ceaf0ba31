import SnortOptimizer.Analyser.FlowMatch
import SnortOptimizer.Extractor.Index
import Mathlib.Data.Set.Finite.Lemmas
import Mathlib.Data.Set.Finite.List

/-!
# What a malicious flow covers

The extractor and the analyser read the same labelled flows, the one from a table of comma-separated
values and the other from a database, and both go by the span of time a malicious flow covers. They
should mean the same by it.

They do not: the extractor takes a duration for milliseconds that the analyser takes for
microseconds, and it compares labels as they are written. `LabelledRow` is a row in the form both
can read, `extractor_agrees_iff` says for which rows they agree all the same.
-/

namespace SnortOptimizer.Extractor

open Analyser Text Time Number

/-! ## Spans on a grid

The starts of the flows are whole microseconds. Where each of some spans is at most half as long as
the span with the same start that it is compared with, both cover the same instants only if none has
a length at all. -/

section Spans

variable {ι : Type} {rows : List ι} (start long short : ι → Int) {P Q : ι → Prop}

/-- If both cover the same, no span is long. -/
theorem long_eq_zero (hgrid : ∀ r ∈ rows, start r % 1000 = 0)
    (hshort : ∀ r ∈ rows, 0 ≤ short r ∧ 2 * short r ≤ long r) (hsub : ∀ r ∈ rows, Q r → P r)
    (h : ∀ t, (∃ r ∈ rows, P r ∧ start r ≤ t ∧ t ≤ start r + long r) →
      ∃ r ∈ rows, Q r ∧ start r ≤ t ∧ t ≤ start r + short r) {r : ι} (hr : r ∈ rows) (hp : P r) :
    long r = 0 := by
  by_contra hlong
  -- the long span that ends last
  have hfinite : {r | r ∈ rows ∧ P r ∧ long r ≠ 0}.Finite :=
    (List.finite_toSet rows).subset fun r hr => hr.1
  obtain ⟨last, ⟨hlast, hplast, hlonglast⟩, hmax⟩ :=
    Set.exists_max_image _ (fun r => start r + long r) hfinite ⟨r, hr, hp, hlong⟩
  have hpos := hshort last hlast
  -- only a span of length zero can cover its end, so its end is on the grid
  obtain ⟨q, hq, hQ, hqs, hqe⟩ :=
    h (start last + long last) ⟨last, hlast, hplast, by omega, by omega⟩
  have hqshort := hshort q hq
  have hqgrid := hgrid q hq
  have hqzero : long q = 0 := by
    by_contra hne
    have hle := hmax q ⟨hq, hsub q hq hQ, hne⟩
    omega
  -- and then nothing covers the instant before
  obtain ⟨q', hq', hQ', hqs', hqe'⟩ :=
    h (start last + long last - 1) ⟨last, hlast, hplast, by omega, by omega⟩
  have hqshort' := hshort q' hq'
  have hqgrid' := hgrid q' hq'
  by_cases hqzero' : long q' = 0
  · omega
  · have hle := hmax q' ⟨hq', hsub q' hq' hQ', hqzero'⟩
    omega

theorem covers_agree_iff (hgrid : ∀ r ∈ rows, start r % 1000 = 0)
    (hshort : ∀ r ∈ rows, 0 ≤ short r ∧ 2 * short r ≤ long r) (hsub : ∀ r ∈ rows, Q r → P r) :
    (∀ t, (∃ r ∈ rows, P r ∧ start r ≤ t ∧ t ≤ start r + long r) ↔
      ∃ r ∈ rows, Q r ∧ start r ≤ t ∧ t ≤ start r + short r) ↔
      ∀ r ∈ rows, P r → long r = 0 ∧ ∃ q ∈ rows, Q q ∧ start q = start r := by
  constructor
  · intro h r hr hp
    have hzero : ∀ q ∈ rows, P q → long q = 0 := fun q hq hpq =>
      long_eq_zero start long short hgrid hshort hsub (fun t => (h t).mp) hq hpq
    obtain ⟨q, hq, hQ, hqs, hqe⟩ := (h (start r)).mp ⟨r, hr, hp, by omega, by
      have := hshort r hr
      omega⟩
    have hqzero := hzero q hq (hsub q hq hQ)
    have hqshort := hshort q hq
    exact ⟨hzero r hr hp, q, hq, hQ, by omega⟩
  · intro h t
    constructor
    · rintro ⟨r, hr, hp, hrs, hre⟩
      obtain ⟨hzero, q, hq, hQ, hstart⟩ := h r hr hp
      have hqshort := hshort q hq
      exact ⟨q, hq, hQ, by omega, by omega⟩
    · rintro ⟨r, hr, hQ, hrs, hre⟩
      have hrshort := hshort r hr
      exact ⟨r, hr, hsub r hr hQ, hrs, by omega⟩

end Spans

/-! ## Rows that both can read -/

/-- The nanoseconds a UTC clock that shows this time has counted since 1970. -/
def wallNanos (c : Civil) : Int := c.wallSeconds * 1000000000 + c.nano

/-- The duration in nanoseconds, if `unit` is the number of nanoseconds it counts. -/
def nanosOf (mant : Nat) (exp : Int) (unit : Nat) : Nat := wholePart (roundMant (mant * unit)) exp

/-- A labelled flow. Its duration `mant * 2 ^ exp` is not negative, and small enough for the window
to end at a time that 64 bits can tell: what the extractor makes of larger ones is left open by the
language. -/
structure LabelledRow (lib : Library) where
  id : String
  srcIP : Octets
  srcPort : UInt16
  dstIP : Octets
  dstPort : UInt16
  protocol : UInt8
  time : Civil
  fraction : Bool                  -- whether the fraction of the second is written
  durationText : String
  mant : Nat
  exp : Int
  label : String
  others : String → String         -- what the other columns say
  time_valid : time.Valid
  year_le : time.year ≤ 9999
  micros : time.nano % 1000 = 0
  seconds : fraction = false → time.nano = 0
  duration_reads : lib.parseFloat durationText = some (.finite false mant exp)
  duration_fits : nanosOf mant exp millisecond < 2 ^ 63
  start_fits : -2 ^ 63 ≤ wallNanos time
  stop_fits : wallNanos time + nanosOf mant exp millisecond < 2 ^ 63

def FlowKey.reverse (key : FlowKey) : FlowKey :=
  { srcIP := key.dstIP, dstIP := key.srcIP, srcPort := key.dstPort, dstPort := key.srcPort
    protocol := key.protocol }

variable {lib : Library}

namespace LabelledRow

def start (row : LabelledRow lib) : Int := wallNanos row.time

def timestamp (row : LabelledRow lib) : String :=
  String.ofList (if row.fraction then stamp '-' row.time else stampSeconds '-' row.time)

/-- What the row says in a column of the table. -/
def cell (row : LabelledRow lib) (name : String) : String :=
  if name = "Src IP" then row.srcIP.text
  else if name = "Src Port" then toString row.srcPort.toNat
  else if name = "Dst IP" then row.dstIP.text
  else if name = "Dst Port" then toString row.dstPort.toNat
  else if name = "Protocol" then toString row.protocol.toNat
  else if name = "Timestamp" then row.timestamp
  else if name = "Flow Duration" then row.durationText
  else if name = "Label" then row.label
  else row.others name

/-- What the query of the database yields. -/
def flowRow (row : LabelledRow lib) : FlowRow :=
  { id := row.id, srcIP := row.srcIP.text, srcPort := row.srcPort.toNat, dstIP := row.dstIP.text
    dstPort := row.dstPort.toNat, protocol := toString row.protocol.toNat
    timestamp := row.timestamp
    duration := ((Binary64.finite false row.mant row.exp).mulNat 1000).toInt64
    label := row.label }

def key (row : LabelledRow lib) : FlowKey :=
  { srcIP := row.srcIP, dstIP := row.dstIP, srcPort := row.srcPort, dstPort := row.dstPort
    protocol := row.protocol }

/-- A key of the row, in one direction or the other. -/
def HasKey (row : LabelledRow lib) (key : FlowKey) : Prop := key = row.key ∨ key = row.key.reverse

/-- What the analyser calls malicious. -/
def Malicious (rt : Runtime) (row : LabelledRow lib) : Prop :=
  mapUpper rt.upper (trimSpace row.label) ≠ "" ∧ mapUpper rt.upper (trimSpace row.label) ≠ "BENIGN"

end LabelledRow

/-- The table with these rows. -/
def csvTable (header : List String) (rows : List (LabelledRow lib)) :
    List String × List (Option (List String)) :=
  (header, rows.map fun row => some (header.map row.cell))

/-- The flow has the tuple of the key, in either direction. -/
def FlowKey.Of (key : FlowKey) (rt : Runtime) (f : FlowRecord) : Prop :=
  f.Between rt key.srcIP.text key.srcPort.toNat key.dstIP.text key.dstPort.toNat
    (normalizeProtocol rt (toString key.protocol.toNat))

/-- **The extractor and the analyser agree** on these rows: both read them, and a packet with any
key at any instant is taken for malicious by the one exactly if the other has a malicious flow
there. The analyser reads time stamps in a zone that is `zone` seconds ahead of UTC, which is what
the extractor takes them for. -/
def Agree (lib : Library) (rt : Runtime) (zone : Int) (dbPath : String) (header : List String)
    (rows : List (LabelledRow lib)) : Prop :=
  rows ≠ [] → ∃ index stats fs,
    buildMaliciousIndex lib false (.ok (csvTable header rows)) = .ok (index, stats) ∧
    loadFlowSet rt zone dbPath (.ok (rows.map LabelledRow.flowRow)) = .ok fs ∧
    ∀ key t, inAnyWindow (t + zone * 1000000000) (mergeIndexWindows lib index key) = true ↔
      ∃ f ∈ fs.flows, f.isMalicious = true ∧ key.Of rt f ∧ f.Contains t

/-- **When they agree**: no row that is not labelled `BENIGN` lasts any time, and those of them that
the analyser does not call malicious start with one of the same tuple that it does. -/
def Momentary (rt : Runtime) (rows : List (LabelledRow lib)) : Prop :=
  ∀ row ∈ rows, row.label ≠ "BENIGN" → nanosOf row.mant row.exp millisecond = 0 ∧
    ∃ row' ∈ rows, row'.Malicious rt ∧ row.HasKey row'.key ∧ row'.start = row.start

/-! ## The extractor's reading -/

theorem LabelledRow.parse_timestamp (row : LabelledRow lib) :
    parse (stampLayout '-') row.timestamp = some row.time := by
  unfold LabelledRow.timestamp
  cases hfraction : row.fraction with
  | false => exact parse_stampSeconds (by decide) row.time_valid row.year_le (row.seconds hfraction)
  | true => exact parse_stamp (by decide) row.time_valid row.year_le row.micros

def LabelledRow.window (row : LabelledRow lib) : Window Int :=
  { start := row.start, stop := row.start + nanosOf row.mant row.exp millisecond }

theorem LabelledRow.parseWindow_eq (row : LabelledRow lib) :
    parseWindow lib row.timestamp row.durationText = some row.window := by
  have hread : parseFirst [stampLayout '-', secondsLayout] row.timestamp (fun w => w) =
      some row.start := by
    rw [parseFirst, List.findSome?_cons, parseInLocation, row.parse_timestamp]
    rfl
  have hlo : -2 ^ 63 ≤ row.start := row.start_fits
  have hhi : row.start + nanosOf row.mant row.exp millisecond < 2 ^ 63 := row.stop_fits
  have hstart : wrap64 row.start = row.start := wrap64_of_fits hlo (by omega)
  have hstop : wrap64 (row.start + ((Binary64.finite false row.mant row.exp).mulNat
      millisecond).toInt64) = row.start + nanosOf row.mant row.exp millisecond := by
    rw [Binary64.toInt64_mulNat row.duration_fits]
    exact wrap64_of_fits (by omega) hhi
  rw [parseWindow, hread, Option.bind_eq_bind, Option.bind_some, row.duration_reads,
    Option.bind_eq_bind, Option.bind_some, hstart]
  dsimp only
  rw [hstop]
  rfl

/-- The step of the loop at a row. -/
theorem indexRecord_row {header : List String} (hheader : ∀ need ∈ neededColumns, need ∈ header)
    (acc : Index × CSVStats) (row : LabelledRow lib) (key : FlowKey) (w : Window Int) :
    w ∈ (indexRecord lib false header acc (some (header.map row.cell))).1 key ↔
      w ∈ acc.1 key ∨ (row.label ≠ "BENIGN" ∧ w = row.window ∧ row.HasKey key) := by
  have hfield : ∀ name ∈ neededColumns,
      field header (header.map row.cell) name = row.cell name := fun name hname =>
    field_map (hheader name hname) row.cell
  have hlabel : field header (header.map row.cell) "Label" = row.label := hfield _ (by decide)
  have hwindow : parseWindow lib (field header (header.map row.cell) "Timestamp")
      (field header (header.map row.cell) "Flow Duration") = some row.window := by
    rw [hfield _ (by decide), hfield _ (by decide)]
    exact row.parseWindow_eq
  have hproto : parseUint 8 (field header (header.map row.cell) "Protocol") =
      some row.protocol.toNat := by
    rw [hfield _ (by decide)]
    exact parseUint_toString row.protocol.toNat_lt
  have hports : parsePorts (field header (header.map row.cell) "Src Port")
      (field header (header.map row.cell) "Dst Port") row.protocol.toNat =
      some (row.srcPort.toNat, row.dstPort.toNat) := by
    rw [hfield _ (by decide), hfield _ (by decide)]
    exact parsePorts_toString row.srcPort row.dstPort _
  have hsrc : field header (header.map row.cell) "Src IP" = row.srcIP.text := hfield _ (by decide)
  have hdst : field header (header.map row.cell) "Dst IP" = row.dstIP.text := hfield _ (by decide)
  unfold indexRecord
  dsimp only
  rw [hlabel]
  split
  · next hbenign => simp [hbenign]
  · next hbenign =>
      simp only [Bool.false_and, Bool.false_eq_true, if_false, hwindow, hproto, hports, hsrc, hdst,
        mem_addFlowWindow, makeKey, ip4_text, UInt16.ofNat_toNat, UInt8.ofNat_toNat]
      simp [hbenign, LabelledRow.HasKey, LabelledRow.key, FlowKey.reverse]

/-- **The windows of a key**: those of the rows that have it, in either direction, and are not
labelled `BENIGN`. -/
theorem mem_foldl_indexRecord {header : List String}
    (hheader : ∀ need ∈ neededColumns, need ∈ header) (rows : List (LabelledRow lib))
    (acc : Index × CSVStats) (key : FlowKey) (w : Window Int) :
    w ∈ ((rows.map fun row => some (header.map row.cell)).foldl (indexRecord lib false header)
      acc).1 key ↔
      w ∈ acc.1 key ∨ ∃ row ∈ rows, (row.label ≠ "BENIGN" ∧ row.HasKey key) ∧
        w = row.window := by
  induction rows generalizing acc with
  | nil => simp
  | cons row rows ih =>
      rw [List.map_cons, List.foldl_cons, ih, indexRecord_row hheader]
      simp only [List.mem_cons, exists_eq_or_imp]
      grind

theorem buildMaliciousIndex_rows {header : List String}
    (hheader : ∀ need ∈ neededColumns, need ∈ header) (rows : List (LabelledRow lib)) :
    ∃ index stats, buildMaliciousIndex lib false (.ok (csvTable header rows)) = .ok (index, stats) ∧
      ∀ key t, inAnyWindow t (mergeIndexWindows lib index key) = true ↔
        ∃ row ∈ rows, (row.label ≠ "BENIGN" ∧ row.HasKey key) ∧ row.window.Contains t := by
  have hcolumns : neededColumns.find? (fun need => (columnIndex header need).isNone) = none := by
    rw [List.find?_eq_none]
    intro need hneed
    obtain ⟨i, hi, _⟩ := columnIndex_eq_some (hheader need hneed)
    simp [hi]
  let built := (rows.map fun row => some (header.map row.cell)).foldl
    (indexRecord lib false header) (fun _ => [], {})
  refine ⟨built.1, built.2, ?_, ?_⟩
  · simp only [buildMaliciousIndex, csvTable, hcolumns]
    rfl
  · intro key t
    have hmem : ∀ w, w ∈ built.1 key ↔
        ∃ row ∈ rows, (row.label ≠ "BENIGN" ∧ row.HasKey key) ∧ w = row.window := by
      intro w
      rw [mem_foldl_indexRecord hheader]
      simp
    rw [inAnyWindow_mergeIndexWindows]
    · simp only [hmem]
      constructor
      · rintro ⟨w, ⟨row, hrow, hkey, rfl⟩, hin⟩
        exact ⟨row, hrow, hkey, hin⟩
      · rintro ⟨row, hrow, hkey, hin⟩
        exact ⟨row.window, ⟨row, hrow, hkey, rfl⟩, hin⟩
    · intro w hw
      obtain ⟨row, _, _, rfl⟩ := (hmem w).mp hw
      exact Int.le_add_of_nonneg_right (Int.natCast_nonneg _)

/-! ## The analyser's reading -/

theorem LabelledRow.micros_le (row : LabelledRow lib) :
    2 * nanosOf row.mant row.exp 1000 ≤ nanosOf row.mant row.exp millisecond :=
  two_mul_wholePart_mul_le (by decide) row.mant row.exp

theorem LabelledRow.flowRow_duration (row : LabelledRow lib) :
    row.flowRow.duration = nanosOf row.mant row.exp 1000 := by
  have hhalf := row.micros_le
  have hfits := row.duration_fits
  have hlt : wholePart (roundMant (row.mant * 1000)) row.exp < 2 ^ 63 := by
    unfold nanosOf at hfits hhalf
    omega
  rw [LabelledRow.flowRow, Binary64.toInt64_mulNat hlt, nanosOf]

/-- What is known of `unicode.ToUpper` on ASCII: it changes small letters only. -/
def UppersAscii (upper : Char → Char) : Prop :=
  ∀ c, c.toNat < 128 → ¬ ('a' ≤ c ∧ c ≤ 'z') → upper c = c

section Analyser

variable {rt : Runtime} (hupper : UppersAscii rt.upper)
include hupper

theorem mapUpper_of_keeps {s : String}
    (h : ∀ c ∈ s.toList, c.toNat < 128 ∧ ¬ ('a' ≤ c ∧ c ≤ 'z')) : mapUpper rt.upper s = s := by
  have hmap : s.toList.map rt.upper = s.toList.map id := by
    apply List.map_congr_left
    intro c hc
    exact hupper c (h c hc).1 (h c hc).2
  rw [mapUpper, hmap, List.map_id, String.ofList_toList]

theorem mapUpper_toString (n : Nat) : mapUpper rt.upper (toString n) = toString n := by
  apply mapUpper_of_keeps hupper
  intro c hc
  have hdigit := Char.isDigit_iff_toNat.mp (isDigit_of_mem_toString hc)
  have hnine : '9'.toNat = 57 := rfl
  have ha : 'a'.toNat = 97 := rfl
  refine ⟨by omega, ?_⟩
  rintro ⟨hle, _⟩
  have hle : 'a'.toNat ≤ c.toNat := UInt32.le_iff_toNat_le.mp hle
  omega

/-- The protocol of a flow as the analyser names it. -/
theorem normalizeProtocol_toString (n : Nat) : normalizeProtocol rt (toString n) =
    if n = 6 then "TCP" else if n = 17 then "UDP" else if n = 1 then "ICMP" else toString n := by
  have htrim : trimSpace (toString n) = toString n := trimSpace_of_forall fun c hc =>
    isSpace_of_isDigit (isDigit_of_mem_toString hc)
  have hnumeral : ∀ m : Nat, toString n = toString m ↔ n = m := fun m =>
    ⟨fun h => toString_nat_inj (congrArg String.toList h), fun h => h ▸ rfl⟩
  have hsix := hnumeral 6
  have hseventeen := hnumeral 17
  have hone := hnumeral 1
  rw [normalizeProtocol, htrim, mapUpper_toString hupper]
  show (if toString n = toString 6 then "TCP" else if toString n = toString 17 then "UDP"
    else if toString n = toString 1 then "ICMP" else toString n) = _
  simp only [hsix, hseventeen, hone]

/-- A word in capital letters is kept, and is not a numeral. -/
theorem capitals_ne_toString (name : String) (hne : name.toList ≠ [])
    (h : name.toList.all (fun c => 65 ≤ c.toNat && c.toNat ≤ 90) = true) :
    mapUpper rt.upper name = name ∧ ∀ k : Nat, toString k ≠ name := by
  have hrange : ∀ c ∈ name.toList, 65 ≤ c.toNat ∧ c.toNat ≤ 90 := by
    simpa using h
  constructor
  · apply mapUpper_of_keeps hupper
    intro c hc
    have ha : 'a'.toNat = 97 := rfl
    refine ⟨by grind, ?_⟩
    rintro ⟨hle, _⟩
    have hle : 'a'.toNat ≤ c.toNat := UInt32.le_iff_toNat_le.mp hle
    grind
  · rintro k rfl
    obtain ⟨c, hc⟩ := List.exists_mem_of_ne_nil _ hne
    have hdigit := Char.isDigit_iff_toNat.mp (isDigit_of_mem_toString hc)
    have hnine : '9'.toNat = 57 := rfl
    have hcapital := hrange c hc
    omega

/-- The names of different protocols differ. -/
theorem normalizeProtocol_inj {m n : Nat}
    (h : mapUpper rt.upper (normalizeProtocol rt (toString m)) =
      mapUpper rt.upper (normalizeProtocol rt (toString n))) : m = n := by
  have htcp := capitals_ne_toString hupper "TCP" (by decide) (by decide)
  have hudp := capitals_ne_toString hupper "UDP" (by decide) (by decide)
  have hicmp := capitals_ne_toString hupper "ICMP" (by decide) (by decide)
  have hnumerals := toString_nat_inj (m := m) (n := n)
  rw [normalizeProtocol_toString hupper, normalizeProtocol_toString hupper] at h
  have hupperm := mapUpper_toString hupper m
  have huppern := mapUpper_toString hupper n
  split at h <;> split at h <;> grind

/-- A label that the analyser calls malicious is not `BENIGN`. -/
theorem LabelledRow.Malicious.label_ne {row : LabelledRow lib} (h : row.Malicious rt) :
    row.label ≠ "BENIGN" := by
  intro hlabel
  have htrim : trimSpace "BENIGN" = "BENIGN" := by decide
  have hkeeps := (capitals_ne_toString hupper "BENIGN" (by decide) (by decide)).1
  rw [LabelledRow.Malicious, hlabel, htrim, hkeeps] at h
  exact h.2 rfl

/-- A flow with the tuple of a row has its key, in one direction or the other. -/
theorem FlowKey.of_iff {row : LabelledRow lib} {f : FlowRecord} (hsrcIP : f.srcIP = row.srcIP.text)
    (hsrcPort : f.srcPort = row.srcPort.toNat) (hdstIP : f.dstIP = row.dstIP.text)
    (hdstPort : f.dstPort = row.dstPort.toNat)
    (hproto : f.protocol = normalizeProtocol rt (toString row.protocol.toNat)) (key : FlowKey) :
    key.Of rt f ↔ row.HasKey key := by
  have hprotocol : mapUpper rt.upper (normalizeProtocol rt (toString row.protocol.toNat)) =
      mapUpper rt.upper (normalizeProtocol rt (toString key.protocol.toNat)) ↔
      key.protocol = row.protocol := by
    constructor
    · intro h
      exact UInt8.toNat_inj.mp (normalizeProtocol_inj hupper h).symm
    · rintro h
      rw [h]
  have hip : ∀ ip ip' : Octets, ip.text = ip'.text ↔ ip' = ip := fun ip ip' =>
    ⟨fun h => (Octets.text_inj h).symm, fun h => h ▸ rfl⟩
  have hport : ∀ p q : UInt16, (p.toNat : Int) = q.toNat ↔ q = p := fun p q =>
    ⟨fun h => (UInt16.toNat_inj.mp (Int.ofNat.inj h)).symm, fun h => h ▸ rfl⟩
  rw [FlowKey.Of, FlowRecord.Between, hsrcIP, hsrcPort, hdstIP, hdstPort, hproto, hprotocol]
  simp only [hip, hport]
  obtain ⟨srcIP, dstIP, srcPort, dstPort, protocol⟩ := key
  simp only [LabelledRow.HasKey, LabelledRow.key, FlowKey.reverse, FlowKey.mk.injEq]
  grind

/-- What the analyser makes of a row. -/
structure IsRecordOf (rt : Runtime) (zone : Int) (row : LabelledRow lib) (f : FlowRecord) :
    Prop where
  malicious : f.isMalicious = true ↔ row.Malicious rt
  tuple : ∀ key : FlowKey, key.Of rt f ↔ row.HasKey key
  start : f.start + zone * 1000000000 = row.start
  duration : f.duration = nanosOf row.mant row.exp 1000

theorem record_flowRow {zone : Int} (hlocal : ∀ w, rt.local_ w = w - zone)
    (row : LabelledRow lib) : ∃ f, row.flowRow.record rt = some f ∧ IsRecordOf rt zone row f := by
  have htrim : ∀ ip : Octets, trimSpace ip.text = ip.text := by
    intro ip
    apply trimSpace_of_forall
    intro c hc
    rcases ip.mem_text hc with hdigit | rfl
    · exact isSpace_of_isDigit hdigit
    · decide
  have hstamp : trimSpace row.timestamp = row.timestamp := by
    unfold LabelledRow.timestamp
    split
    · exact trimSpace_stamp row.year_le row.time_valid.nano_lt
    · exact trimSpace_stampSeconds row.year_le row.time_valid.second_le
  have hstart : parseFlowTime rt row.flowRow.timestamp =
      some (rt.local_ row.time.wallSeconds * 1000000000 + row.time.nano) :=
    parseFlowTime_of_parse hstamp row.parse_timestamp
  obtain ⟨f, hf, hrec⟩ := row.flowRow.exists_record rt hstart
  refine ⟨f, hf, ?_, ?_, ?_, ?_⟩
  · have hlabel : row.flowRow.label = row.label := rfl
    rw [FlowRow.record_isMalicious hf, hlabel, LabelledRow.Malicious]
  · intro key
    apply key.of_iff hupper
    · exact hrec.srcIP.trans (htrim row.srcIP)
    · exact hrec.srcPort
    · exact hrec.dstIP.trans (htrim row.dstIP)
    · exact hrec.dstPort
    · exact hrec.protocol
  · rw [hrec.start_eq, hlocal, LabelledRow.start, wallNanos]
    omega
  · exact hrec.duration.trans row.flowRow_duration

theorem loadFlowSet_rows {zone : Int} (hlocal : ∀ w, rt.local_ w = w - zone) (dbPath : String)
    {rows : List (LabelledRow lib)} (hrows : rows ≠ []) :
    ∃ fs, loadFlowSet rt zone dbPath (.ok (rows.map LabelledRow.flowRow)) = .ok fs ∧
      ∀ (key : FlowKey) t, (∃ f ∈ fs.flows, f.isMalicious = true ∧ key.Of rt f ∧ f.Contains t) ↔
        ∃ row ∈ rows, (row.Malicious rt ∧ row.HasKey key) ∧
          row.start ≤ t + zone * 1000000000 ∧
            t + zone * 1000000000 ≤ row.start + nanosOf row.mant row.exp 1000 := by
  have hrecord := fun row : LabelledRow lib => record_flowRow hupper hlocal row
  have hflows : ∀ f, f ∈ (rows.map LabelledRow.flowRow).filterMap (FlowRow.record rt) ↔
      ∃ row ∈ rows, row.flowRow.record rt = some f := by
    simp
  cases hload : loadFlowSet rt zone dbPath (.ok (rows.map LabelledRow.flowRow)) with
  | error e =>
      -- there is a first row, and it is usable
      obtain ⟨row, hrow⟩ := List.exists_mem_of_ne_nil rows hrows
      obtain ⟨f, hf, _⟩ := hrecord row
      have hmem := (hflows f).mpr ⟨row, hrow, hf⟩
      rw [loadFlowSet] at hload
      split at hload
      · next hnone =>
          rw [List.head?_eq_none_iff.mp hnone] at hmem
          cases hmem
      · cases hload
  | ok fs =>
      refine ⟨fs, rfl, ?_⟩
      intro key t
      obtain ⟨table, htable, hloaded⟩ := loadFlowSet_eq_ok hload
      cases htable
      simp only [hloaded.flows, hflows]
      constructor
      · rintro ⟨f, ⟨row, hrow, hf⟩, hmal, hkey, hin⟩
        obtain ⟨g, hg, hrec⟩ := hrecord row
        rw [hf] at hg
        cases hg
        refine ⟨row, hrow, ⟨hrec.malicious.mp hmal, (hrec.tuple key).mp hkey⟩, ?_⟩
        have hstart := hrec.start
        have hduration := hrec.duration
        unfold FlowRecord.Contains at hin
        omega
      · rintro ⟨row, hrow, ⟨hmal, hkey⟩, hin⟩
        obtain ⟨f, hf, hrec⟩ := hrecord row
        refine ⟨f, ⟨row, hrow, hf⟩, hrec.malicious.mpr hmal, (hrec.tuple key).mpr hkey, ?_⟩
        have hstart := hrec.start
        have hduration := hrec.duration
        unfold FlowRecord.Contains
        omega

end Analyser

/-! ## Agreement -/

theorem LabelledRow.start_mod (row : LabelledRow lib) : row.start % 1000 = 0 := by
  have hmicros := row.micros
  unfold LabelledRow.start wallNanos
  omega

theorem FlowKey.reverse_reverse (key : FlowKey) : key.reverse.reverse = key := rfl

/-- Rows with a common key have the same keys. -/
theorem LabelledRow.HasKey.congr {row row' : LabelledRow lib} (h : row.HasKey row'.key)
    (key : FlowKey) : row'.HasKey key ↔ row.HasKey key := by
  unfold LabelledRow.HasKey at *
  rcases h with h | h
  · rw [h]
  · rw [h, FlowKey.reverse_reverse, or_comm]

section Agreement

variable {rt : Runtime} (hupper : UppersAscii rt.upper) {zone : Int}
  (hlocal : ∀ w, rt.local_ w = w - zone) (dbPath : String) {header : List String}
  (hheader : ∀ need ∈ neededColumns, need ∈ header)
include hupper hlocal hheader

/-- To agree is to cover the same instants, key by key. -/
theorem agree_iff_covers {rows : List (LabelledRow lib)} (hrows : rows ≠ []) :
    Agree lib rt zone dbPath header rows ↔ ∀ key t,
      (∃ row ∈ rows, (row.label ≠ "BENIGN" ∧ row.HasKey key) ∧
        row.start ≤ t ∧ t ≤ row.start + nanosOf row.mant row.exp millisecond) ↔
      ∃ row ∈ rows, (row.Malicious rt ∧ row.HasKey key) ∧
        row.start ≤ t ∧ t ≤ row.start + nanosOf row.mant row.exp 1000 := by
  obtain ⟨index, stats, hbuild, hextract⟩ := buildMaliciousIndex_rows hheader rows
  obtain ⟨fs, hload, hanalyse⟩ := loadFlowSet_rows hupper hlocal dbPath hrows
  constructor
  · intro h key t
    obtain ⟨index', stats', fs', hbuild', hload', h⟩ := h hrows
    rw [hbuild] at hbuild'
    rw [hload] at hload'
    cases hbuild'
    cases hload'
    have ht := h key (t - zone * 1000000000)
    rwa [hextract, hanalyse, Int.sub_add_cancel] at ht
  · intro h _
    refine ⟨index, stats, fs, hbuild, hload, ?_⟩
    intro key t
    rw [hextract, hanalyse]
    exact h key _

/-- **The extractor and the analyser agree** exactly on rows that last no time, unless they are
labelled `BENIGN`, and that the analyser calls malicious or does not need to. -/
theorem extractor_agrees_iff (rows : List (LabelledRow lib)) :
    Agree lib rt zone dbPath header rows ↔ Momentary rt rows := by
  by_cases hrows : rows = []
  · subst hrows
    exact iff_of_true (fun h => absurd rfl h) fun row hrow => absurd hrow List.not_mem_nil
  have hkey := fun key : FlowKey => covers_agree_iff LabelledRow.start
    (fun row : LabelledRow lib => (nanosOf row.mant row.exp millisecond : Int))
    (fun row => (nanosOf row.mant row.exp 1000 : Int))
    (P := fun row => row.label ≠ "BENIGN" ∧ row.HasKey key)
    (Q := fun row => row.Malicious rt ∧ row.HasKey key)
    (fun row (_ : row ∈ rows) => row.start_mod)
    (fun row _ => ⟨Int.natCast_nonneg _, by exact_mod_cast row.micros_le⟩)
    fun row _ h => ⟨h.1.label_ne hupper, h.2⟩
  rw [agree_iff_covers hupper hlocal dbPath hheader hrows]
  simp only [hkey]
  constructor
  · intro h row hrow hlabel
    obtain ⟨hzero, row', hrow', ⟨hmal, hsame⟩, hstart⟩ := h row.key row hrow ⟨hlabel, .inl rfl⟩
    refine ⟨by exact_mod_cast hzero, row', hrow', hmal, ?_, hstart⟩
    exact (LabelledRow.HasKey.congr hsame row'.key).mpr (.inl rfl)
  · rintro h key row hrow ⟨hlabel, hmatch⟩
    obtain ⟨hzero, row', hrow', hmal, hsame, hstart⟩ := h row hrow hlabel
    refine ⟨by exact_mod_cast hzero, row', hrow', ⟨hmal, ?_⟩, hstart⟩
    exact (hsame.congr key).mpr hmatch

end Agreement

/-! ## A flow of one microsecond -/

def newYear : Civil :=
  { year := 2024, month := 1, day := 1, hour := 0, minute := 0, second := 0, nano := 0 }

/-- A port scan on new year's day. -/
def scan (micros : Nat) (h : micros < 1000) : LabelledRow plainLibrary where
  id := "1"
  srcIP := { a := 10, b := 0, c := 0, d := 1 }
  srcPort := 40000
  dstIP := { a := 10, b := 0, c := 0, d := 2 }
  dstPort := 80
  protocol := 6
  time := newYear
  fraction := false
  durationText := toString micros
  mant := micros
  exp := 0
  label := "PortScan"
  others _ := ""
  time_valid := ⟨⟨by decide, by decide, by decide, by decide⟩, by decide, by decide, by decide,
    by decide⟩
  year_le := by decide
  micros := by decide
  seconds _ := rfl
  duration_reads := parseFloat_toString (by omega)
  duration_fits := by
    have hbound := (roundMant_bounds (micros * millisecond)).2
    rw [millisecond] at *
    show roundMant (micros * 1000000) * 1 < 2 ^ 63
    omega
  start_fits := by decide +kernel
  stop_fits := by
    have hbound := (roundMant_bounds (micros * millisecond)).2
    have hstart : wallNanos newYear = 1704067200000000000 := by decide +kernel
    rw [hstart]
    rw [millisecond] at *
    show (1704067200000000000 : Int) + (roundMant (micros * 1000000) * 1 : Nat) < 2 ^ 63
    omega

theorem uppersAscii_toUpper : UppersAscii Char.toUpper := by
  intro c _ hsmall
  exact dif_neg fun h => hsmall ⟨h.1, h.2⟩

def utc : Runtime := { upper := Char.toUpper, local_ := fun w => w - 0 }

/-- Where a scan lasts no time, both see it. -/
theorem instant_scan_agrees :
    UppersAscii utc.upper ∧ (∀ w, utc.local_ w = w - 0) ∧
      Agree plainLibrary utc 0 "flows.db" neededColumns [scan 0 (by decide)] := by
  have hmalicious : (scan 0 (by decide)).Malicious utc := by
    unfold LabelledRow.Malicious
    decide +kernel
  have hmomentary : Momentary utc [scan 0 (by decide)] := by
    intro row hrow _
    rw [List.mem_singleton.mp hrow]
    exact ⟨by decide, _, List.mem_cons_self, hmalicious, .inl rfl, rfl⟩
  refine ⟨uppersAscii_toUpper, fun w => rfl, ?_⟩
  rw [extractor_agrees_iff uppersAscii_toUpper (fun w => rfl) "flows.db" (fun need h => h)]
  exact hmomentary

/-- **A scan of one microsecond** covers a millisecond for the extractor. -/
theorem scan_outlasts_flow :
    ¬ Agree plainLibrary utc 0 "flows.db" neededColumns [scan 1 (by decide)] := by
  have hlong : nanosOf 1 0 millisecond = 1000000 := by decide
  have hshort : nanosOf 1 0 1000 = 1000 := by decide
  have hupper : UppersAscii utc.upper := uppersAscii_toUpper
  have hlocal : ∀ w, utc.local_ w = w - 0 := fun w => rfl
  rw [agree_iff_covers hupper hlocal "flows.db" (fun need h => h) (List.cons_ne_nil _ _)]
  intro hcovers
  have hkey := hcovers (scan 1 (by decide)).key ((scan 1 (by decide)).start + 1000000)
  obtain ⟨row, hrow, _, _, hle⟩ := hkey.mp ⟨scan 1 (by decide), List.mem_cons_self,
    ⟨by decide, .inl rfl⟩, by omega, by
      show (scan 1 _).start + 1000000 ≤ (scan 1 _).start + nanosOf 1 0 millisecond
      omega⟩
  rw [List.mem_singleton.mp hrow] at hle
  have hle : (scan 1 (by decide)).start + 1000000 ≤
      (scan 1 (by decide)).start + nanosOf 1 0 1000 := hle
  omega

end SnortOptimizer.Extractor
