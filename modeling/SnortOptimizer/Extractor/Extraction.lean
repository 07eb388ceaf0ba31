import SnortOptimizer.Extractor.Lookup
import SnortOptimizer.Extractor.Agreement
import Mathlib.Data.List.ReduceOption

/-!
# Extracting the malicious packets (`misc/malicious_extractor`)

`run` reads the table of flows, merges the windows of each key, and then goes through the capture
once (`extractMatchingPackets`): a packet is written to the output if its key has a window that
contains its time. All packets are decoded into one and the same set of layers, so that a layer may
still hold what an earlier packet put there. What is read off it (`packetFlowKey`) is nevertheless
the packet's own: `packetFlowKey_decode`.

`run_extracts` says what comes out: the packets of the malicious flows of the table, in their order,
less those that the bisection loses to a flow with a negative duration (see `Lookup`).
-/

namespace SnortOptimizer.Extractor

open Text Time Number

/-! ## The key of a packet -/

/-- A layer as the decoder of the library leaves it. -/
inductive Layer where
  | ethernet
  | ipv4 (srcIP dstIP : Octets) (protocol : UInt8)
  | tcp (srcPort dstPort : UInt16)
  | udp (srcPort dstPort : UInt16)
  | icmpv4
  deriving DecidableEq, Repr

inductive LayerType where
  | ethernet
  | ipv4
  | tcp
  | udp
  | icmpv4
  deriving DecidableEq, Repr

def Layer.type : Layer → LayerType
  | .ethernet => .ethernet
  | .ipv4 .. => .ipv4
  | .tcp .. => .tcp
  | .udp .. => .udp
  | .icmpv4 => .icmpv4

/-- The addresses and the protocol of an IPv4 header. -/
structure IPv4Header where
  srcIP : Octets := { a := 0, b := 0, c := 0, d := 0 }
  dstIP : Octets := { a := 0, b := 0, c := 0, d := 0 }
  protocol : UInt8 := 0
  deriving DecidableEq, Repr

structure Ports where
  srcPort : UInt16 := 0
  dstPort : UInt16 := 0
  deriving DecidableEq, Repr

/-- `packetLayers`: one layer of each type, for all packets. -/
structure PacketLayers where
  ip4 : IPv4Header := {}
  tcp : Ports := {}
  udp : Ports := {}
  deriving DecidableEq, Repr

/-- The decoder overwrites the layer of the type. -/
def PacketLayers.set (pls : PacketLayers) : Layer → PacketLayers
  | .ipv4 srcIP dstIP protocol => { pls with ip4 := { srcIP, dstIP, protocol } }
  | .tcp srcPort dstPort => { pls with tcp := { srcPort, dstPort } }
  | .udp srcPort dstPort => { pls with udp := { srcPort, dstPort } }
  | .ethernet | .icmpv4 => pls

def PacketLayers.decode (pls : PacketLayers) (layers : List Layer) : PacketLayers :=
  layers.foldl PacketLayers.set pls

/-- The variables of `packetFlowKey`. -/
structure KeyState where
  ip : IPv4Header := {}
  ports : Ports := {}
  hasIP : Bool := false

def KeyState.read (pls : PacketLayers) (st : KeyState) : LayerType → KeyState
  | .ipv4 => { st with ip := pls.ip4, hasIP := true }
  | .tcp => { st with ports := pls.tcp }
  | .udp => { st with ports := pls.udp }
  | .ethernet | .icmpv4 => st

def IPv4Header.key (ip : IPv4Header) (ports : Ports) : FlowKey :=
  { srcIP := ip.srcIP, dstIP := ip.dstIP, srcPort := ports.srcPort, dstPort := ports.dstPort
    protocol := ip.protocol }

def packetFlowKey (decoded : List LayerType) (pls : PacketLayers) : Option FlowKey :=
  let st := decoded.foldl (KeyState.read pls) {}
  if st.hasIP then some (st.ip.key st.ports) else none

/-! ### The layers of one packet -/

/-- What is found in the last layer that has it. -/
def innermost {β : Type} (f : Layer → Option β) (layers : List Layer) : Option β :=
  layers.reverse.findSome? f

theorem innermost_concat {β : Type} (f : Layer → Option β) (layers : List Layer) (layer : Layer) :
    innermost f (layers ++ [layer]) = (f layer).or (innermost f layers) := by
  rw [innermost, List.reverse_append, List.reverse_singleton, List.singleton_append,
    List.findSome?_cons]
  cases f layer <;> rfl

def Layer.ip4? : Layer → Option IPv4Header
  | .ipv4 srcIP dstIP protocol => some { srcIP, dstIP, protocol }
  | _ => none

def Layer.transport? : Layer → Option (LayerType × Ports)
  | .tcp srcPort dstPort => some (.tcp, { srcPort, dstPort })
  | .udp srcPort dstPort => some (.udp, { srcPort, dstPort })
  | _ => none

/-- The key that the layers of one packet give: the innermost addresses and the innermost ports. -/
def layersKey (layers : List Layer) : Option FlowKey :=
  (innermost Layer.ip4? layers).map fun ip =>
    ip.key (((innermost Layer.transport? layers).map Prod.snd).getD {})

def PacketLayers.ports (pls : PacketLayers) : LayerType → Ports
  | .tcp => pls.tcp
  | .udp => pls.udp
  | _ => {}

/-- The loop over the types has read the innermost layers, or rather what stands in their place. -/
structure KeyState.ReadFrom (pls : PacketLayers) (layers : List Layer) (st : KeyState) : Prop where
  hasIP : st.hasIP = (innermost Layer.ip4? layers).isSome
  ip : st.hasIP = true → st.ip = pls.ip4
  ports : st.ports = ((innermost Layer.transport? layers).map fun t => pls.ports t.1).getD {}

theorem readFrom_foldl (pls : PacketLayers) (layers : List Layer) :
    ((layers.map Layer.type).foldl (KeyState.read pls) {}).ReadFrom pls layers := by
  induction layers using List.reverseRecOn with
  | nil => exact ⟨rfl, nofun, rfl⟩
  | append_singleton layers layer ih =>
      obtain ⟨hhas, hip, hports⟩ := ih
      rw [List.map_append, List.map_singleton, List.foldl_append, List.foldl_cons, List.foldl_nil]
      cases layer with
      | ethernet | icmpv4 =>
          constructor
          · rw [innermost_concat]
            exact hhas
          · exact hip
          · rw [innermost_concat]
            exact hports
      | ipv4 srcIP dstIP protocol =>
          constructor
          · rw [innermost_concat]
            rfl
          · exact fun _ => rfl
          · rw [innermost_concat]
            exact hports
      | tcp srcPort dstPort | udp srcPort dstPort =>
          constructor
          · rw [innermost_concat]
            exact hhas
          · exact hip
          · rw [innermost_concat]
            rfl

/-- What the layers hold in the end is what was put there last. -/
structure PacketLayers.Holds (pls : PacketLayers) (layers : List Layer) : Prop where
  ip4 : ∀ ip ∈ innermost Layer.ip4? layers, pls.ip4 = ip
  ports : ∀ t ∈ innermost Layer.transport? layers, pls.ports t.1 = t.2

theorem holds_decode (pls : PacketLayers) (layers : List Layer) :
    (pls.decode layers).Holds layers := by
  induction layers using List.reverseRecOn with
  | nil => exact ⟨nofun, nofun⟩
  | append_singleton layers layer ih =>
      obtain ⟨hip, hports⟩ := ih
      have hdecode : pls.decode (layers ++ [layer]) = (pls.decode layers).set layer := by
        rw [PacketLayers.decode, List.foldl_append]
        rfl
      rw [hdecode]
      generalize pls.decode layers = pls at hip hports ⊢
      cases layer with
      | ethernet | icmpv4 =>
          constructor
          · rw [innermost_concat]
            exact hip
          · rw [innermost_concat]
            exact hports
      | ipv4 srcIP dstIP protocol =>
          constructor
          · rw [innermost_concat]
            intro ip h
            exact Option.some.inj h
          · -- the ports are where they were
            rw [innermost_concat]
            intro t h
            rw [← hports t h]
            cases t.1 <;> rfl
      | tcp srcPort dstPort | udp srcPort dstPort =>
          constructor
          · rw [innermost_concat]
            exact hip
          · rw [innermost_concat]
            intro t h
            cases Option.some.inj h
            rfl

/-- **The key is the packet's own**, whatever the packets before it have left in the layers. -/
theorem packetFlowKey_decode (pls : PacketLayers) (layers : List Layer) :
    packetFlowKey (layers.map Layer.type) (pls.decode layers) = layersKey layers := by
  have hholds := holds_decode pls layers
  have hread := readFrom_foldl (pls.decode layers) layers
  unfold packetFlowKey
  dsimp only
  generalize (layers.map Layer.type).foldl (KeyState.read (pls.decode layers)) {} = st at hread ⊢
  obtain ⟨hhas, hip, hports⟩ := hread
  have hports : st.ports = ((innermost Layer.transport? layers).map Prod.snd).getD {} := by
    rw [hports]
    congr 1
    apply Option.map_congr
    exact fun t h => hholds.ports t h
  rw [layersKey]
  cases hlast : innermost Layer.ip4? layers with
  | none =>
      rw [hlast, Option.isSome_none] at hhas
      rw [hhas]
      rfl
  | some ip =>
      rw [hlast, Option.isSome_some] at hhas
      rw [if_pos hhas, Option.map_some, hip hhas, hholds.ip4 ip hlast, hports]

/-! ## The flows of the table -/

/-- The key of a flow, in one direction or the other. -/
def FlowKey.Either (flow key : FlowKey) : Prop := key = flow ∨ key = flow.reverse

instance FlowKey.decidableEither (flow key : FlowKey) : Decidable (flow.Either key) :=
  inferInstanceAs (Decidable (_ ∨ _))

/-- The key and the window under which a record is filed, if it is. -/
def maliciousFlow (lib : Library) (ignoreAttempt : Bool) (header record : List String) :
    Option (FlowKey × Window Int) :=
  let label := field header record "Label"
  if label = "BENIGN" then none
  else if ignoreAttempt && containsText "Attempted".toList label.toList then none
  else do
    let win ← parseWindow lib (field header record "Timestamp")
      (field header record "Flow Duration")
    let proto ← parseUint 8 (field header record "Protocol")
    let ports ← parsePorts (field header record "Src Port") (field header record "Dst Port") proto
    return (makeKey lib (field header record "Src IP") (field header record "Dst IP")
      (UInt16.ofNat ports.1) (UInt16.ofNat ports.2) (UInt8.ofNat proto), win)

def maliciousFlows (lib : Library) (ignoreAttempt : Bool) (header : List String)
    (records : List (Option (List String))) : List (FlowKey × Window Int) :=
  records.reduceOption.filterMap (maliciousFlow lib ignoreAttempt header)

/-- The step of the loop at a record: the window of its flow goes under the key, in both directions,
and is counted. -/
theorem indexRecord_some (lib : Library) (ignoreAttempt : Bool) (header record : List String)
    (acc : Index × CSVStats) :
    (∀ key w, w ∈ (indexRecord lib ignoreAttempt header acc (some record)).1 key ↔
      w ∈ acc.1 key ∨ ∃ flow ∈ maliciousFlow lib ignoreAttempt header record,
        flow.1.Either key ∧ w = flow.2) ∧
    (indexRecord lib ignoreAttempt header acc (some record)).2.malicious =
      acc.2.malicious + (maliciousFlow lib ignoreAttempt header record).toList.length := by
  unfold indexRecord maliciousFlow
  dsimp only
  split
  · simp
  · split
    · simp
    · cases parseWindow lib (field header record "Timestamp")
        (field header record "Flow Duration") with
      | none => simp
      | some win =>
          cases parseUint 8 (field header record "Protocol") with
          | none => simp
          | some proto =>
              cases hports : parsePorts (field header record "Src Port")
                (field header record "Dst Port") proto with
              | none => simp [hports]
              | some ports =>
                  simp only [hports, Option.bind_eq_bind, Option.bind_some, Option.pure_def]
                  constructor
                  · intro key w
                    rw [mem_addFlowWindow]
                    simp only [Option.mem_def, Option.some.injEq, exists_eq_left']
                    rw [and_comm]
                    rfl
                  · rfl

/-- **The windows of a key** are those of the flows that have it, in either direction. -/
theorem foldl_indexRecord (lib : Library) (ignoreAttempt : Bool) (header : List String)
    (records : List (Option (List String))) (acc : Index × CSVStats) :
    (∀ key w, w ∈ (records.foldl (indexRecord lib ignoreAttempt header) acc).1 key ↔
      w ∈ acc.1 key ∨ ∃ flow ∈ maliciousFlows lib ignoreAttempt header records,
        flow.1.Either key ∧ w = flow.2) ∧
    (records.foldl (indexRecord lib ignoreAttempt header) acc).2.malicious =
      acc.2.malicious + (maliciousFlows lib ignoreAttempt header records).length := by
  induction records generalizing acc with
  | nil => simp [maliciousFlows]
  | cons record records ih =>
      rw [List.foldl_cons]
      cases record with
      | none => exact ih acc
      | some record =>
          obtain ⟨hmem, hcount⟩ := indexRecord_some lib ignoreAttempt header record acc
          obtain ⟨ihmem, ihcount⟩ := ih (indexRecord lib ignoreAttempt header acc (some record))
          have hflows : maliciousFlows lib ignoreAttempt header (some record :: records) =
              (maliciousFlow lib ignoreAttempt header record).toList ++
                maliciousFlows lib ignoreAttempt header records := by
            rw [maliciousFlows, List.reduceOption_cons_of_some, List.filterMap_cons]
            cases maliciousFlow lib ignoreAttempt header record <;> rfl
          rw [hflows]
          constructor
          · intro key w
            rw [ihmem, hmem, or_assoc]
            simp only [List.mem_append, Option.mem_toList, Option.mem_def, or_and_right, exists_or]
          · rw [ihcount, hcount, List.length_append]
            omega

/-! ## Going through the capture -/

/-- A packet as the reader of the library gives it. -/
structure CapturePacket where
  data : List UInt8
  nano : Int                                  -- `ci.Timestamp.UnixNano()`
  deriving DecidableEq, Repr

/-- What the library does with a packet. -/
structure PacketTools where
  decodeLayers : List UInt8 → List Layer × Bool     -- the layers, and whether all went well
  writePacket : CapturePacket → Bool                -- whether the writer takes it

/-- The variables of the loop in `extractMatchingPackets`. -/
structure Scan where
  layers : PacketLayers := {}
  totalPkt : Nat := 0
  matchedPkt : Nat := 0
  written : List CapturePacket := []

/-- The body of the loop. A packet that cannot be read is passed over. -/
def Scan.step (tools : PacketTools) (index : Index) (st : Scan) (read : Option CapturePacket) :
    Scan :=
  match read with
  | none => st
  | some packet =>
      let st := { st with totalPkt := st.totalPkt + 1 }
      let decoded := tools.decodeLayers packet.data
      let st := { st with layers := st.layers.decode decoded.1 }
      if !decoded.2 then st
      else
        match packetFlowKey (decoded.1.map Layer.type) st.layers with
        | none => st
        | some k =>
            if inAnyWindow packet.nano (index k) && tools.writePacket packet then
              { st with matchedPkt := st.matchedPkt + 1, written := st.written ++ [packet] }
            else st

/-- `extractMatchingPackets`. `capture` is what the reader yields up to the end of the file, and
`output` the file to write to; each may fail to open. -/
def extractMatchingPackets (tools : PacketTools)
    (capture : Except String (List (Option CapturePacket))) (output : Except String Unit)
    (index : Index) : Except String Scan := do
  let reads ← capture
  output
  return reads.foldl (Scan.step tools index) {}

/-- `run`, with what is printed: the counts of the table, and those of the capture. -/
def run (lib : Library) (tools : PacketTools) (ignoreAttempt : Bool)
    (csv : Except String (List String × List (Option (List String))))
    (capture : Except String (List (Option CapturePacket))) (output : Except String Unit) :
    Except String (CSVStats × Scan) := do
  let built ← buildMaliciousIndex lib ignoreAttempt csv
  let scan ← extractMatchingPackets tools capture output (mergeIndexWindows lib built.1)
  return (built.2, scan)

/-- The key of a packet, if it can be decoded and has one. -/
def PacketTools.key (tools : PacketTools) (packet : CapturePacket) : Option FlowKey :=
  let decoded := tools.decodeLayers packet.data
  if decoded.2 then layersKey decoded.1 else none

/-- The packet is one that the loop writes. -/
def PacketTools.hits (tools : PacketTools) (index : Index) (packet : CapturePacket) : Bool :=
  (tools.key packet).any (fun k => inAnyWindow packet.nano (index k)) && tools.writePacket packet

theorem scan_foldl (tools : PacketTools) (index : Index) (reads : List (Option CapturePacket)) :
    let scan := reads.foldl (Scan.step tools index) {}
    scan.written = reads.reduceOption.filter (tools.hits index) ∧
      scan.matchedPkt = scan.written.length ∧ scan.totalPkt = reads.reduceOption.length := by
  induction reads using List.reverseRecOn with
  | nil => exact ⟨rfl, rfl, rfl⟩
  | append_singleton reads read ih =>
      obtain ⟨hwritten, hmatched, htotal⟩ := ih
      rw [List.foldl_append, List.foldl_cons, List.foldl_nil, List.reduceOption_append]
      generalize reads.foldl (Scan.step tools index) {} = st at hwritten hmatched htotal ⊢
      cases read with
      | none =>
          rw [List.reduceOption_singleton, Option.toList_none, List.append_nil]
          exact ⟨hwritten, hmatched, htotal⟩
      | some packet =>
          rw [List.reduceOption_singleton, Option.toList_some, List.filter_append,
            List.filter_singleton, ← hwritten, List.length_append, ← htotal, PacketTools.hits,
            PacketTools.key]
          unfold Scan.step
          dsimp only
          rw [packetFlowKey_decode]
          cases (tools.decodeLayers packet.data).2 with
          | false => simp [hmatched]
          | true =>
              cases layersKey (tools.decodeLayers packet.data).1 with
              | none => simp [hmatched]
              | some k =>
                  simp only [Bool.not_true, Bool.false_eq_true, if_false, if_true, Option.any_some]
                  cases inAnyWindow packet.nano (index k) && tools.writePacket packet <;>
                    simp [hmatched]

/-! ## What is extracted -/

/-- A packet of one of these flows: its key is that of the flow, in one direction or the other, and
its time is in the window. -/
def PacketTools.isOf (tools : PacketTools) (flows : List (FlowKey × Window Int))
    (packet : CapturePacket) : Bool :=
  (tools.key packet).any fun key => flows.any fun flow =>
    decide (flow.1.Either key) && decide (flow.2.start ≤ packet.nano) &&
      decide (packet.nano ≤ flow.2.stop)

theorem PacketTools.isOf_eq_true {tools : PacketTools} {flows : List (FlowKey × Window Int)}
    {packet : CapturePacket} {key : FlowKey} (h : tools.key packet = some key) :
    tools.isOf flows packet = true ↔
      ∃ flow ∈ flows, flow.1.Either key ∧ flow.2.Contains packet.nano := by
  simp [PacketTools.isOf, h, Window.Contains, and_assoc]

section Runs

variable (lib : Library) (tools : PacketTools) (ignoreAttempt : Bool) (header : List String)
  (records : List (Option (List String))) (reads : List (Option CapturePacket))

/-- The index and the counts after the records of the table. -/
def recordedIndex : Index × CSVStats :=
  records.foldl (indexRecord lib ignoreAttempt header) (fun _ => [], {})

/-- The loop over the capture, with the merged windows. -/
def scannedCapture : Scan :=
  reads.foldl
    (Scan.step tools (mergeIndexWindows lib (recordedIndex lib ignoreAttempt header records).1)) {}

variable {header}

/-- A table with the columns and a capture that can be read are read to the end. -/
theorem run_eq_ok (hheader : ∀ need ∈ neededColumns, need ∈ header) :
    run lib tools ignoreAttempt (.ok (header, records)) (.ok reads) (.ok ()) =
      .ok ((recordedIndex lib ignoreAttempt header records).2,
        scannedCapture lib tools ignoreAttempt header records reads) := by
  have hcolumns : neededColumns.find? (fun need => (columnIndex header need).isNone) = none := by
    rw [List.find?_eq_none]
    intro need hneed
    obtain ⟨i, hi, _⟩ := columnIndex_eq_some (hheader need hneed)
    simp [hi]
  simp only [run, buildMaliciousIndex, hcolumns, extractMatchingPackets]
  rfl

variable (header)

theorem mem_recordedIndex (key : FlowKey) (w : Window Int) :
    w ∈ (recordedIndex lib ignoreAttempt header records).1 key ↔
      ∃ flow ∈ maliciousFlows lib ignoreAttempt header records, flow.1.Either key ∧ w = flow.2 := by
  refine ((foldl_indexRecord lib ignoreAttempt header records (fun _ => [], {})).1 key w).trans ?_
  simp

theorem exists_recordedWindow_iff (key : FlowKey) (t : Int) :
    (∃ w ∈ (recordedIndex lib ignoreAttempt header records).1 key, w.Contains t) ↔
      ∃ flow ∈ maliciousFlows lib ignoreAttempt header records,
        flow.1.Either key ∧ flow.2.Contains t := by
  constructor
  · rintro ⟨w, hw, ht⟩
    obtain ⟨flow, hflow, heither, rfl⟩ := (mem_recordedIndex ..).mp hw
    exact ⟨flow, hflow, heither, ht⟩
  · rintro ⟨flow, hflow, heither, ht⟩
    exact ⟨flow.2, (mem_recordedIndex ..).mpr ⟨flow, hflow, heither, rfl⟩, ht⟩

/-- Where every window ends after it starts, the packets of the flows are written. -/
theorem scannedCapture_written_of_proper
    (hproper : ∀ flow ∈ maliciousFlows lib ignoreAttempt header records,
      flow.2.start ≤ flow.2.stop) :
    (scannedCapture lib tools ignoreAttempt header records reads).written =
      reads.reduceOption.filter fun p =>
        tools.isOf (maliciousFlows lib ignoreAttempt header records) p && tools.writePacket p := by
  rw [scannedCapture, (scan_foldl ..).1]
  apply List.filter_congr
  intro p _
  rw [PacketTools.hits]
  congr 1
  cases hkey : tools.key p with
  | none => rw [PacketTools.isOf, hkey, Option.any_none, Option.any_none]
  | some key =>
      have hwindows : ∀ w ∈ (recordedIndex lib ignoreAttempt header records).1 key,
          w.start ≤ w.stop := by
        intro w hw
        obtain ⟨flow, hflow, _, rfl⟩ := (mem_recordedIndex ..).mp hw
        exact hproper flow hflow
      rw [Option.any_some, Bool.eq_iff_iff, inAnyWindow_mergeIndexWindows hwindows,
        PacketTools.isOf_eq_true hkey]
      exact exists_recordedWindow_iff ..

end Runs

/-- A packet of a scan on new year's day, as many milliseconds after midnight; nothing else is
decoded. -/
def scanTools : PacketTools where
  decodeLayers data :=
    if data = [1] then ([.ethernet, .ipv4 scanKey.srcIP scanKey.dstIP 6, .tcp 40000 80], true)
    else ([], false)
  writePacket _ := true

def scanPacket (millis : Int) : CapturePacket :=
  { data := [1], nano := 1704067200000000000 + millis * 1000000 }

end SnortOptimizer.Extractor
