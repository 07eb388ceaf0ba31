import SnortOptimizer.Number.ParseFloat
import SnortOptimizer.Time.Stamp
import SnortOptimizer.Time.Windows
import Mathlib.Data.List.Sort

/-!
# The extractor's index of malicious flows (`misc/malicious_extractor`)

The extractor takes the packets of the malicious flows out of a capture. It reads the flows from a
table of comma-separated values and files the time window of each malicious one under its addresses,
ports and protocol, once in either direction (`buildMaliciousIndex`). The windows of a key are then
sorted and merged (`mergeIndexWindows`), so that one bisection tells whether a packet belongs to
a malicious flow (`inAnyWindow`).

The table is given as the reader of the library splits it: a header, and for each further record
its fields or an error. The reader lets no record through that is longer or shorter than the header.
-/

namespace SnortOptimizer.Extractor

open Text Time Number

structure Octets where
  a : UInt8
  b : UInt8
  c : UInt8
  d : UInt8
  deriving DecidableEq, Repr

structure FlowKey where
  srcIP : Octets
  dstIP : Octets
  srcPort : UInt16
  dstPort : UInt16
  protocol : UInt8
  deriving DecidableEq, Repr

/-- What the extractor takes from Go's library. `sort.Slice` puts windows with equal starts in an
order of its own. -/
structure Library where
  parseFloat : String → Option Binary64              -- `strconv.ParseFloat`
  parseIPv6 : String → Option Octets                 -- `net.ParseIP(s).To4()` of a text with colons
  sort : List (Window Int) → List (Window Int)       -- by the starts
  sort_perm : ∀ wins, (sort wins).Perm wins
  sort_sorted : ∀ wins, (sort wins).Pairwise fun v w => v.start ≤ w.start

/-- The library where no address has a colon and windows with equal starts keep their order. -/
def plainLibrary : Library where
  parseFloat := parseFloat
  parseIPv6 _ := none
  sort wins := wins.insertionSort fun v w => v.start ≤ w.start
  sort_perm := List.perm_insertionSort _
  sort_sorted := List.pairwise_insertionSort _

/-! ## Addresses and numbers -/

/-- A byte in decimal digits, without leading zeros. -/
def octet (cs : List Char) : Option UInt8 :=
  ((List.range 256).find? fun n => (toString n).toList = cs).map UInt8.ofNat

def parseIPv4 (s : String) : Option Octets :=
  match (s.toList.splitOn '.').map octet with
  | [some a, some b, some c, some d] => some { a, b, c, d }
  | _ => none

/-- `ip4`. The first character of the kind decides what sort of address the text is. -/
def ip4 (lib : Library) (s : String) : Octets :=
  let ip :=
    match s.toList.find? (['.', ':', '%'].contains ·) with
    | some '.' => parseIPv4 s
    | some ':' => lib.parseIPv6 s
    | _ => none
  ip.getD { a := 0, b := 0, c := 0, d := 0 }

def makeKey (lib : Library) (srcIP dstIP : String) (srcPort dstPort : UInt16) (protocol : UInt8) :
    FlowKey :=
  { srcIP := ip4 lib srcIP, dstIP := ip4 lib dstIP, srcPort, dstPort, protocol }

/-- `strconv.ParseUint` to the base ten. -/
def parseUint (bits : Nat) (s : String) : Option Nat :=
  let cs := s.toList
  if cs = [] ∨ cs.any (!·.isDigit) then none
  else if number cs < 2 ^ bits then some (number cs) else none

def ipProtocolTCP : Nat := 6
def ipProtocolUDP : Nat := 17

/-- The ports, unless they are bad. Only TCP and UDP need them. -/
def parsePorts (src dst : String) (proto : Nat) : Option (Nat × Nat) :=
  let srcPort := parseUint 16 src
  let dstPort := parseUint 16 dst
  if proto = ipProtocolTCP ∨ proto = ipProtocolUDP then
    srcPort.bind fun s => dstPort.map fun d => (s, d)
  else some (srcPort.getD 0, dstPort.getD 0)

/-! ## Windows -/

/-- `2006-01-02 15:04:05`. -/
def secondsLayout : List Chunk := dateChunks '-' true ++ .literal ' ' :: clockChunks []

def millisecond : Nat := 1000000

/-- The window in nanoseconds of a clock that shows UTC. -/
def parseWindow (lib : Library) (timestamp duration : String) : Option (Window Int) := do
  let ts ← parseFirst [stampLayout '-', secondsLayout] timestamp fun w => w
  let flowDurationMs ← lib.parseFloat duration
  let start := wrap64 ts
  return { start, stop := wrap64 (start + (flowDurationMs.mulNat millisecond).toInt64) }

abbrev Index := FlowKey → List (Window Int)

def addFlowWindow (lib : Library) (index : Index) (srcIP dstIP : String)
    (srcPort dstPort : UInt16) (proto : UInt8) (win : Window Int) : Index :=
  let k := makeKey lib srcIP dstIP srcPort dstPort proto
  let index := Function.update index k (index k ++ [win])
  let rk := makeKey lib dstIP srcIP dstPort srcPort proto
  Function.update index rk (index rk ++ [win])

def mergeIndexWindows (lib : Library) (index : Index) : Index :=
  fun k => mergeWindows (lib.sort (index k))

/-! ## The table -/

structure CSVStats where
  rows : Nat := 0
  malicious : Nat := 0
  attemptedIgnored : Nat := 0
  badProtocol : Nat := 0
  badTCPUDPPorts : Nat := 0
  deriving DecidableEq, Repr

def neededColumns : List String :=
  ["Src IP", "Src Port", "Dst IP", "Dst Port", "Protocol", "Timestamp", "Flow Duration", "Label"]

def addColumn (col : String → Option Nat) (x : String × Nat) : String → Option Nat :=
  Function.update col x.1 (some x.2)

/-- Where a column is; the last one of several with the same name. -/
def columnIndex (header : List String) : String → Option Nat :=
  header.zipIdx.foldl addColumn fun _ => none

/-- `rec[col[name]]`. -/
def field (header record : List String) (name : String) : String :=
  ((columnIndex header name).bind fun i => record[i]?).getD ""

/-- The body of the loop over the records. -/
def indexRecord (lib : Library) (ignoreAttempt : Bool) (header : List String)
    (acc : Index × CSVStats) (record : Option (List String)) : Index × CSVStats :=
  match record with
  | none => acc
  | some record =>
      let (index, stats) := acc
      let stats := { stats with rows := stats.rows + 1 }
      let label := field header record "Label"
      if label = "BENIGN" then (index, stats)
      else if ignoreAttempt && containsText "Attempted".toList label.toList then
        (index, { stats with attemptedIgnored := stats.attemptedIgnored + 1 })
      else
        match parseWindow lib (field header record "Timestamp")
          (field header record "Flow Duration") with
        | none => (index, stats)
        | some win =>
            match parseUint 8 (field header record "Protocol") with
            | none => (index, { stats with badProtocol := stats.badProtocol + 1 })
            | some proto =>
                match parsePorts (field header record "Src Port") (field header record "Dst Port")
                  proto with
                | none => (index, { stats with badTCPUDPPorts := stats.badTCPUDPPorts + 1 })
                | some (srcPort, dstPort) =>
                    (addFlowWindow lib index (field header record "Src IP")
                      (field header record "Dst IP") (UInt16.ofNat srcPort) (UInt16.ofNat dstPort)
                      (UInt8.ofNat proto) win,
                      { stats with malicious := stats.malicious + 1 })

/-- `buildMaliciousIndex`. `csv` is the table, or an error on opening it or reading its header. -/
def buildMaliciousIndex (lib : Library) (ignoreAttempt : Bool)
    (csv : Except String (List String × List (Option (List String)))) :
    Except String (Index × CSVStats) :=
  match csv with
  | .error e => .error e
  | .ok (header, records) =>
      match neededColumns.find? fun need => (columnIndex header need).isNone with
      | some need => .error ("column \"" ++ need ++ "\" not found")
      | none => .ok (records.foldl (indexRecord lib ignoreAttempt header) (fun _ => [], {}))

/-! ## Reading what is written -/

variable {lib : Library}

def Octets.text (ip : Octets) : String :=
  String.ofList
    (['.'].intercalate ([ip.a, ip.b, ip.c, ip.d].map fun u => (toString u.toNat).toList))

theorem octet_toString (u : UInt8) : octet (toString u.toNat).toList = some u := by
  have hfind : (List.range 256).find? (fun n => (toString n).toList = (toString u.toNat).toList) =
      some u.toNat := by
    rw [List.find?_range_eq_some]
    refine ⟨by simp, List.mem_range.mpr u.toNat_lt, ?_⟩
    intro n hn
    have hne : (toString n).toList ≠ (toString u.toNat).toList := by
      intro heq
      exact absurd (toString_nat_inj heq) (by omega)
    simpa using hne
  rw [octet, hfind, Option.map_some, UInt8.ofNat_toNat]

/-- The characters of an address. -/
theorem Octets.mem_text {ip : Octets} {c : Char} (h : c ∈ ip.text.toList) :
    c.isDigit = true ∨ c = '.' := by
  rw [Octets.text, String.toList_ofList] at h
  simp only [List.map_cons, List.map_nil, List.intercalate_cons_cons, List.intercalate_singleton,
    List.mem_append, List.mem_singleton] at h
  grind [isDigit_of_mem_toString]

theorem Octets.parseIPv4_text (ip : Octets) : parseIPv4 ip.text = some ip := by
  have hsplit : ip.text.toList.splitOn '.' =
      [ip.a, ip.b, ip.c, ip.d].map fun u => (toString u.toNat).toList := by
    rw [Octets.text, String.toList_ofList]
    apply List.splitOn_intercalate
    · intro part hpart hdot
      obtain ⟨u, _, rfl⟩ := List.mem_map.mp hpart
      exact absurd (isDigit_of_mem_toString hdot) (by decide)
    · simp
  have hoctets : (ip.text.toList.splitOn '.').map octet =
      [some ip.a, some ip.b, some ip.c, some ip.d] := by
    rw [hsplit]
    simp only [List.map_cons, List.map_nil, octet_toString]
  rw [parseIPv4, hoctets]

/-- An address is read back. -/
theorem ip4_text (ip : Octets) : ip4 lib ip.text = ip := by
  have htext : ∃ rest, ip.text.toList = (toString ip.a.toNat).toList ++ '.' :: rest := by
    refine ⟨['.'].intercalate ([ip.b, ip.c, ip.d].map fun u => (toString u.toNat).toList), ?_⟩
    rw [Octets.text, String.toList_ofList, List.map_cons, List.map_cons,
      List.intercalate_cons_cons, List.append_assoc]
    rfl
  have hfirst : ip.text.toList.find? (['.', ':', '%'].contains ·) = some '.' := by
    obtain ⟨rest, hrest⟩ := htext
    have hdigits : (toString ip.a.toNat).toList.find? (['.', ':', '%'].contains ·) = none := by
      rw [List.find?_eq_none]
      intro c hc hsep
      have hdigit := isDigit_of_mem_toString hc
      rw [List.contains_iff_mem] at hsep
      rcases List.mem_cons.mp hsep with rfl | hsep
      · cases hdigit
      · rcases List.mem_cons.mp hsep with rfl | hsep
        · cases hdigit
        · rw [List.mem_singleton.mp hsep] at hdigit
          cases hdigit
    rw [hrest, List.find?_append, hdigits]
    rfl
  rw [ip4, hfirst]
  simp [Octets.parseIPv4_text]

theorem Octets.text_inj {ip ip' : Octets} (h : ip.text = ip'.text) : ip = ip' := by
  have hparse := congrArg parseIPv4 h
  rw [Octets.parseIPv4_text, Octets.parseIPv4_text] at hparse
  exact Option.some.inj hparse

theorem parseUint_toString {bits n : Nat} (h : n < 2 ^ bits) :
    parseUint bits (toString n) = some n := by
  rw [parseUint]
  simp only [if_neg (toString_digits n), number_toString, if_pos h]

theorem parsePorts_toString (src dst : UInt16) (proto : Nat) :
    parsePorts (toString src.toNat) (toString dst.toNat) proto = some (src.toNat, dst.toNat) := by
  have hsrc : parseUint 16 (toString src.toNat) = some src.toNat := parseUint_toString src.toNat_lt
  have hdst : parseUint 16 (toString dst.toNat) = some dst.toNat := parseUint_toString dst.toNat_lt
  rw [parsePorts, hsrc, hdst]
  simp

/-- A named column is found, at a place of that name. -/
theorem columnIndex_eq_some {header : List String} {name : String} (h : name ∈ header) :
    ∃ i, columnIndex header name = some i ∧ header[i]? = some name := by
  have hfold : ∀ (entries : List (String × Nat)) (col : String → Option Nat),
      (∃ i, (name, i) ∈ entries ∧ entries.foldl addColumn col name = some i) ∨
        (name ∉ entries.map Prod.fst ∧ entries.foldl addColumn col name = col name) := by
    intro entries
    induction entries with
    | nil => exact fun col => .inr ⟨List.not_mem_nil, rfl⟩
    | cons entry entries ih =>
        intro col
        rw [List.foldl_cons]
        rcases ih (addColumn col entry) with ⟨i, hmem, hi⟩ | ⟨hnot, heq⟩
        · exact .inl ⟨i, List.mem_cons_of_mem _ hmem, hi⟩
        · rw [heq, addColumn]
          by_cases hname : name = entry.1
          · subst hname
            exact .inl ⟨entry.2, List.mem_cons_self, Function.update_self ..⟩
          · rw [Function.update_of_ne hname]
            exact .inr ⟨by simpa [hname] using hnot, rfl⟩
  rcases hfold header.zipIdx fun _ => none with ⟨i, hmem, hi⟩ | ⟨hnot, _⟩
  · exact ⟨i, hi, List.mem_zipIdx_iff_getElem?.mp hmem⟩
  · rw [List.zipIdx_map_fst] at hnot
    exact absurd h hnot

theorem field_map {header : List String} {name : String} (h : name ∈ header)
    (cell : String → String) : field header (header.map cell) name = cell name := by
  obtain ⟨i, hi, hname⟩ := columnIndex_eq_some h
  rw [field, hi, Option.bind_some, List.getElem?_map, hname]
  rfl

/-- A window is filed under its key and under the reverse. -/
theorem mem_addFlowWindow {index : Index} {srcIP dstIP : String} {srcPort dstPort : UInt16}
    {proto : UInt8} {win w : Window Int} {key : FlowKey} :
    w ∈ addFlowWindow lib index srcIP dstIP srcPort dstPort proto win key ↔
      w ∈ index key ∨ (w = win ∧ (key = makeKey lib srcIP dstIP srcPort dstPort proto ∨
        key = makeKey lib dstIP srcIP dstPort srcPort proto)) := by
  unfold addFlowWindow
  generalize makeKey lib srcIP dstIP srcPort dstPort proto = k
  generalize makeKey lib dstIP srcIP dstPort srcPort proto = rk
  simp only [Function.update_apply]
  split <;> split <;> grind

/-- **The lookup in the merged index** finds out whether one of the windows contains the instant. -/
theorem inAnyWindow_mergeIndexWindows {index : Index} {key : FlowKey}
    (hproper : ∀ w ∈ index key, w.start ≤ w.stop) (t : Int) :
    inAnyWindow t (mergeIndexWindows lib index key) = true ↔ ∃ w ∈ index key, w.Contains t := by
  have hmem : ∀ w, w ∈ lib.sort (index key) ↔ w ∈ index key := fun w =>
    (lib.sort_perm (index key)).mem_iff
  rw [mergeIndexWindows, inAnyWindow_merge _ (lib.sort_sorted _)]
  · simp only [hmem]
  · exact fun w hw => hproper w ((hmem w).mp hw)

end SnortOptimizer.Extractor
