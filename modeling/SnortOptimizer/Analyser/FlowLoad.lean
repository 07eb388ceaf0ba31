import SnortOptimizer.Analyser.Flow
import SnortOptimizer.Time.Stamp

/-!
# Loading flows (`analyser/sql/flow_load.go`)

The flows come from a table of a database. A row whose time stamp cannot be read is skipped; the
others become flow records, in the order of the rows, and are indexed by their tuples in both
directions. The year of the first of them is kept for the alerts, whose time stamps have none.

The local time zone has a fixed offset here, given in seconds.
-/

namespace SnortOptimizer.Analyser

open Text Time

/-- A row of the flow table. The duration is `time.Duration(durationMicros * 1000)`. -/
structure FlowRow where
  id : String
  srcIP : String
  srcPort : Int
  dstIP : String
  dstPort : Int
  protocol : String
  timestamp : String
  duration : Int
  label : String

/-- The six layouts of `parseFlowTime`. -/
def flowLayouts : List (List Chunk) :=
  let dashes : List Chunk := [.longYear, .literal '-', .zeroMonth, .literal '-', .zeroDay]
  let slashes : List Chunk := [.numMonth, .literal '/', .day, .literal '/', .longYear]
  [ dashes ++ clock ++ [Chunk.fracSecond9],
    dashes ++ clock,
    slashes ++ clock,
    slashes ++ [Chunk.literal ' ', .hour, .literal ':', .zeroMinute],
    slashes ++ [Chunk.literal ' ', .hour12, .literal ':', .zeroMinute, .literal ':', .zeroSecond,
      .literal ' ', .pm],
    slashes ++ [Chunk.literal ' ', .hour12, .literal ':', .zeroMinute, .literal ' ', .pm] ]

def parseFlowTime (rt : Runtime) (raw : String) : Option Int :=
  parseFirst flowLayouts (trimSpace raw) rt.local_

/-- The first of the layouts is enough for a stamp with dashes. -/
theorem parseFlowTime_of_parse {rt : Runtime} {raw : String} {c : Civil}
    (htrim : trimSpace raw = raw) (hparse : parse (stampLayout '-') raw = some c) :
    parseFlowTime rt raw = some (rt.local_ c.wallSeconds * 1000000000 + c.nano) := by
  have hlayouts : flowLayouts = stampLayout '-' :: flowLayouts.tail := rfl
  rw [parseFlowTime, htrim, parseFirst, hlayouts, List.findSome?_cons, parseInLocation, hparse]
  rfl

/-- `Time.Year` of an instant in nanoseconds, where clocks are `zone` seconds ahead of UTC. -/
def yearAt (zone instant : Int) : Nat := yearOfDay ((instant / 1000000000 + zone) / 86400)

/-- The record of a row, if its time stamp can be read. -/
def FlowRow.record (rt : Runtime) (row : FlowRow) : Option FlowRecord :=
  (parseFlowTime rt row.timestamp).map fun start =>
    let label := mapUpper rt.upper (trimSpace row.label)
    { id := row.id, srcIP := trimSpace row.srcIP, srcPort := row.srcPort
      dstIP := trimSpace row.dstIP, dstPort := row.dstPort
      protocol := normalizeProtocol rt row.protocol, start := start, duration := row.duration
      label := label, isBenign := label = "BENIGN"
      isMalicious := label ≠ "" ∧ label ≠ "BENIGN" }

/-- What becomes of a row. -/
structure FlowRow.IsRecord (rt : Runtime) (row : FlowRow) (start : Int) (f : FlowRecord) :
    Prop where
  srcIP : f.srcIP = trimSpace row.srcIP
  srcPort : f.srcPort = row.srcPort
  dstIP : f.dstIP = trimSpace row.dstIP
  dstPort : f.dstPort = row.dstPort
  protocol : f.protocol = normalizeProtocol rt row.protocol
  start_eq : f.start = start
  duration : f.duration = row.duration

theorem FlowRow.exists_record (rt : Runtime) (row : FlowRow) {start : Int}
    (h : parseFlowTime rt row.timestamp = some start) :
    ∃ f, row.record rt = some f ∧ row.IsRecord rt start f := by
  rw [FlowRow.record, h, Option.map_some]
  refine ⟨_, rfl, ?_⟩
  constructor <;> dsimp only

theorem FlowRow.record_isMalicious {rt : Runtime} {row : FlowRow} {f : FlowRecord}
    (h : row.record rt = some f) : f.isMalicious = true ↔
      mapUpper rt.upper (trimSpace row.label) ≠ "" ∧
        mapUpper rt.upper (trimSpace row.label) ≠ "BENIGN" := by
  obtain ⟨start, _, rfl⟩ := Option.map_eq_some_iff.mp h
  simp

def FlowRecord.forward (rt : Runtime) (f : FlowRecord) : String :=
  tupleKey rt f.srcIP f.srcPort f.dstIP f.dstPort f.protocol

def FlowRecord.reverse (rt : Runtime) (f : FlowRecord) : String :=
  tupleKey rt f.dstIP f.dstPort f.srcIP f.srcPort f.protocol

/-- The body of the loop that builds the index. -/
def addFlow (rt : Runtime) (index : String → List Nat) (entry : FlowRecord × Nat) :
    String → List Nat :=
  let forward := entry.1.forward rt
  let reverse := entry.1.reverse rt
  let index := Function.update index forward (index forward ++ [entry.2])
  if reverse ≠ forward then Function.update index reverse (index reverse ++ [entry.2]) else index

def flowIndex (rt : Runtime) (flows : List FlowRecord) : String → List Nat :=
  flows.zipIdx.foldl (addFlow rt) fun _ => []

/-! ## The index -/

variable {rt : Runtime}

/-- A flow is appended to the list of its tuple and to that of the reverse, once to each. -/
theorem addFlow_apply (index : String → List Nat) (f : FlowRecord) (n : Nat) (key : String) :
    addFlow rt index (f, n) key =
      index key ++ if key = f.forward rt ∨ key = f.reverse rt then [n] else [] := by
  unfold addFlow
  dsimp only
  split
  · next hne =>
      by_cases hr : key = f.reverse rt
      · subst hr
        simp [Function.update_of_ne hne]
      · by_cases hf : key = f.forward rt
        · subst hf
          simp [Function.update_of_ne (Ne.symm hne)]
        · simp [hr, hf]
  · next heq =>
      rw [not_not] at heq
      by_cases hf : key = f.forward rt
      · subst hf
        simp
      · have hr : key ≠ f.reverse rt := by rwa [heq]
        simp [hf, hr]

/-- The index lists the flows with a key in the order of the table. -/
theorem flowIndex_apply (flows : List FlowRecord) (key : String) :
    flowIndex rt flows key = (flows.zipIdx.filter fun x =>
      decide (key = x.1.forward rt ∨ key = x.1.reverse rt)).map Prod.snd := by
  have hfold : ∀ (entries : List (FlowRecord × Nat)) (index : String → List Nat),
      entries.foldl (addFlow rt) index key = index key ++ (entries.filter fun x =>
        decide (key = x.1.forward rt ∨ key = x.1.reverse rt)).map Prod.snd := by
    intro entries
    induction entries with
    | nil => simp
    | cons entry entries ih =>
        intro index
        obtain ⟨f, n⟩ := entry
        rw [List.foldl_cons, ih, addFlow_apply, List.append_assoc]
        congr 1
        by_cases h : key = f.forward rt ∨ key = f.reverse rt
        · simp [h]
        · simp [h]
  rw [flowIndex, hfold]
  rfl

/-- The index lists a flow under its tuple and under the reverse of it. -/
theorem mem_flowIndex {flows : List FlowRecord} {i : Nat} {key : String} :
    i ∈ flowIndex rt flows key ↔
      ∃ f, flows[i]? = some f ∧ (key = f.forward rt ∨ key = f.reverse rt) := by
  rw [flowIndex_apply, List.mem_map]
  constructor
  · rintro ⟨⟨f, n⟩, hmem, rfl⟩
    obtain ⟨hmem, hkey⟩ := List.mem_filter.mp hmem
    exact ⟨f, List.mem_zipIdx_iff_getElem?.mp hmem, of_decide_eq_true hkey⟩
  · rintro ⟨f, hf, hkey⟩
    exact ⟨(f, i), List.mem_filter.mpr ⟨List.mem_zipIdx_iff_getElem?.mpr hf,
      decide_eq_true hkey⟩, rfl⟩

/-- The lists of the index are increasing. -/
theorem flowIndex_increasing (flows : List FlowRecord) (key : String) :
    (flowIndex rt flows key).Pairwise (· < ·) := by
  have hall : (flows.zipIdx.map Prod.snd).Pairwise (· < ·) := by
    rw [List.zipIdx_map_snd]
    exact List.pairwise_lt_range'
  rw [flowIndex_apply]
  exact hall.sublist (List.filter_sublist.map Prod.snd)

/-! ## The whole table -/

/-- `LoadFlowSet`. `rows` is what the query of the first user table yields, or an error on the
way there. -/
def loadFlowSet (rt : Runtime) (zone : Int) (dbPath : String)
    (rows : Except String (List FlowRow)) : Except String FlowSet :=
  match rows with
  | .error e => .error e
  | .ok rows =>
      let flows := rows.filterMap (FlowRow.record rt)
      match flows.head? with
      | none => .error ("flow db " ++ dbPath ++ " contains no usable flows")
      | some first =>
          .ok
            { flows := flows
              index := flowIndex rt flows
              year := yearAt zone first.start
              index_lt := by
                intro key i hi
                obtain ⟨f, hf, _⟩ := mem_flowIndex.mp hi
                exact (List.getElem?_eq_some_iff.mp hf).1 }

/-- What a loaded set of flows is. -/
structure Loaded (rt : Runtime) (zone : Int) (rows : List FlowRow) (fs : FlowSet) : Prop where
  flows : fs.flows = rows.filterMap (FlowRow.record rt)
  index : fs.index = flowIndex rt fs.flows
  year : ∃ first ∈ fs.flows, fs.year = yearAt zone first.start

theorem loadFlowSet_eq_ok {zone : Int} {dbPath : String} {rows : Except String (List FlowRow)}
    {fs : FlowSet} (h : loadFlowSet rt zone dbPath rows = .ok fs) :
    ∃ table, rows = .ok table ∧ Loaded rt zone table fs := by
  unfold loadFlowSet at h
  cases rows with
  | error e => cases h
  | ok table =>
      dsimp only at h
      split at h
      · cases h
      · next first hfirst =>
          cases h
          exact ⟨table, rfl, rfl, rfl, first, List.mem_of_head? hfirst, rfl⟩

end SnortOptimizer.Analyser
