import SnortOptimizer.Extractor.Extraction
import SnortOptimizer.FlowMeter.Timeline

/-!
# From a capture to its malicious packets

The programs under `misc` are meant to be run one after another. The flow meter turns a capture into
a table of flows, someone writes labels into the table, and the extractor takes the packets of the
flows that are not benign out of the same capture.

`capture_extracted` follows the packets through. In a zone other than UTC the flow meter prints
local times, which the extractor takes for UTC; with UTC no packet of a malicious flow is lost,
other than perhaps within a microsecond that is all of the flow. What the flow meter files under
protocol 0, because it is neither TCP nor UDP, never comes out, since no packet says so of itself.
-/

namespace SnortOptimizer.FlowMeter

open Extractor Text Time Number

/-! ## Reading the capture (`PacketReader.nextPacket`) -/

structure TCPHeader where
  source : UInt16
  destination : UInt16
  window : Int
  flags : Flag → Bool
  payloadLength : Int
  headerLength : Int

structure UDPHeader where
  source : UInt16
  destination : UInt16
  payloadLength : Int
  headerLength : Int

/-- The headers that the library finds in a packet. -/
structure PcapHeaders where
  ipv4 : Option (Octets × Octets) := none       -- source and destination
  tcp : Option TCPHeader := none
  udp : Option UDPHeader := none

/-- What the flow meter takes from the library for captures. -/
structure PcapLibrary where
  scan : List UInt8 → PcapHeaders                -- from the Ethernet header on
  scanL2TP : List UInt8 → Option PcapHeaders     -- from the IPv4 header in a tunnel on

/-- `getIpv4Info`. Only TCP and UDP set a protocol. -/
def getIpv4Info (headers : PcapHeaders) (timeStamp : Int) : Option BasicPacketInfo :=
  headers.ipv4.map fun ip =>
    match headers.tcp, headers.udp with
    | some tcp, _ =>
        { src := ip.1, dst := ip.2, srcPort := tcp.source, dstPort := tcp.destination
          protocol := 6, timeStamp, payloadBytes := tcp.payloadLength
          headerBytes := tcp.headerLength, tcpWindow := tcp.window
          flagFIN := tcp.flags .fin, flagSYN := tcp.flags .syn, flagRST := tcp.flags .rst
          flagPSH := tcp.flags .psh, flagACK := tcp.flags .ack, flagURG := tcp.flags .urg
          flagCWR := tcp.flags .cwr, flagECE := tcp.flags .ece }
    | none, some udp =>
        { src := ip.1, dst := ip.2, srcPort := udp.source, dstPort := udp.destination
          protocol := 17, timeStamp, payloadBytes := udp.payloadLength
          headerBytes := udp.headerLength, tcpWindow := 0 }
    | none, none =>
        { src := ip.1, dst := ip.2, srcPort := 0, dstPort := 0, protocol := 0, timeStamp
          payloadBytes := 0, headerBytes := 0, tcpWindow := 0 }

/-- `nextPacket`, with IPv4 only. Time stamps are whole microseconds. -/
def PcapLibrary.nextPacket (pcap : PcapLibrary) (packet : CapturePacket) : Option BasicPacketInfo :=
  let timeStamp := packet.nano / 1000
  (getIpv4Info (pcap.scan packet.data) timeStamp).or
    ((pcap.scanL2TP packet.data).bind fun headers => getIpv4Info headers timeStamp)

theorem getIpv4Info_eq_some {headers : PcapHeaders} {timeStamp : Int} {b : BasicPacketInfo}
    (h : getIpv4Info headers timeStamp = some b) :
    b.timeStamp = timeStamp ∧ (b.protocol = 6 ∨ b.protocol = 17 ∨ b.protocol = 0) := by
  obtain ⟨ip, _, rfl⟩ := Option.map_eq_some_iff.mp h
  split
  · exact ⟨rfl, .inl rfl⟩
  · exact ⟨rfl, .inr (.inl rfl)⟩
  · exact ⟨rfl, .inr (.inr rfl)⟩

theorem PcapLibrary.nextPacket_eq_some {pcap : PcapLibrary} {packet : CapturePacket}
    {b : BasicPacketInfo} (h : pcap.nextPacket packet = some b) :
    b.timeStamp = packet.nano / 1000 ∧ (b.protocol = 6 ∨ b.protocol = 17 ∨ b.protocol = 0) := by
  rcases Option.or_eq_some_iff.mp h with h | ⟨_, h⟩
  · exact getIpv4Info_eq_some h
  · obtain ⟨headers, _, h⟩ := Option.bind_eq_some_iff.mp h
    exact getIpv4Info_eq_some h

/-! ## The table (`dumpFlowBasedFeaturesEx`) -/

/-- `FlowFeature`: the names of the columns. -/
def featureNames : List String :=
  ["Flow ID", "Src IP", "Src Port", "Dst IP", "Dst Port", "Protocol", "Timestamp",
    "Flow Duration", "Total Fwd Packet", "Total Bwd packets", "Total Length of Fwd Packet",
    "Total Length of Bwd Packet", "Fwd Packet Length Max", "Fwd Packet Length Min",
    "Fwd Packet Length Mean", "Fwd Packet Length Std", "Bwd Packet Length Max",
    "Bwd Packet Length Min", "Bwd Packet Length Mean", "Bwd Packet Length Std", "Flow Bytes/s",
    "Flow Packets/s", "Flow IAT Mean", "Flow IAT Std", "Flow IAT Max", "Flow IAT Min",
    "Fwd IAT Total", "Fwd IAT Mean", "Fwd IAT Std", "Fwd IAT Max", "Fwd IAT Min",
    "Bwd IAT Total", "Bwd IAT Mean", "Bwd IAT Std", "Bwd IAT Max", "Bwd IAT Min",
    "Fwd PSH Flags", "Bwd PSH Flags", "Fwd URG Flags", "Bwd URG Flags", "Fwd Header Length",
    "Bwd Header Length", "Fwd Packets/s", "Bwd Packets/s", "Packet Length Min",
    "Packet Length Max", "Packet Length Mean", "Packet Length Std", "Packet Length Variance",
    "FIN Flag Count", "SYN Flag Count", "RST Flag Count", "PSH Flag Count", "ACK Flag Count",
    "URG Flag Count", "CWR Flag Count", "ECE Flag Count", "Down/Up Ratio", "Average Packet Size",
    "Fwd Segment Size Avg", "Bwd Segment Size Avg", "Fwd Bytes/Bulk Avg", "Fwd Packet/Bulk Avg",
    "Fwd Bulk Rate Avg", "Bwd Bytes/Bulk Avg", "Bwd Packet/Bulk Avg", "Bwd Bulk Rate Avg",
    "Subflow Fwd Packets", "Subflow Fwd Bytes", "Subflow Bwd Packets", "Subflow Bwd Bytes",
    "FWD Init Win Bytes", "Bwd Init Win Bytes", "Fwd Act Data Pkts", "Fwd Seg Size Min",
    "Active Mean", "Active Std", "Active Max", "Active Min", "Idle Mean", "Idle Std", "Idle Max",
    "Idle Min", "Label"]

/-- The statistics of a flow as they are printed, in the columns after the duration. No program that
reads the table looks at them. -/
structure Statistics where
  cells : BasicFlow → List String
  length_cells : ∀ flow, (cells flow).length = 75

/-- What a clock in a zone that is `zone` seconds ahead of UTC shows at a time in microseconds. -/
def civilOfMicros (zone time : Int) : Civil :=
  civilOfSeconds (time / 1000000 + zone) ((time % 1000000).toNat * 1000)

/-- `convertMicroseconds2String` with `yyyy-MM-dd HH:mm:ss.SSSSSS`. -/
def convertMicroseconds2String (zone time : Int) : String :=
  String.ofList (stamp '-' (civilOfMicros zone time))

def dumpFlowBasedFeaturesEx (stats : Statistics) (zone : Int) (flow : BasicFlow) : List String :=
  [flow.flowId, flow.src.text, toString flow.srcPort.toNat, flow.dst.text,
    toString flow.dstPort.toNat, toString flow.protocol.toNat,
    convertMicroseconds2String zone flow.flowStartTime,
    toString (flow.flowLastSeen - flow.flowStartTime)] ++ stats.cells flow ++ ["NeedManualLabel"]

/-- The row after someone has written a label into it. -/
def labelledRecord (stats : Statistics) (zone : Int) (label : BasicFlow → String)
    (flow : BasicFlow) : List String :=
  (dumpFlowBasedFeaturesEx stats zone flow).dropLast ++ [label flow]

/-! ## What the extractor reads in it -/

/-- Whole numbers that need no rounding are read as they are. -/
def ReadsNumerals (lib : Library) : Prop :=
  ∀ n < 2 ^ 53, lib.parseFloat (toString n) = some (.finite false n 0)

/-- A flow as the settings of `Cmd` and a capture of our times make it. -/
structure Ordinary (flow : BasicFlow) : Prop where
  start_nonneg : 0 ≤ flow.flowStartTime
  start_le : flow.flowStartTime ≤ 2 ^ 62 / 1000
  duration_nonneg : flow.flowStartTime ≤ flow.flowLastSeen
  duration_le : flow.flowLastSeen - flow.flowStartTime ≤ 120000000

/-- The window of a flow, in nanoseconds of the clock it is printed by. The microseconds of the
duration are taken for milliseconds. -/
def printedWindow (zone : Int) (flow : BasicFlow) : Window Int :=
  let start := flow.flowStartTime * 1000 + zone * 1000000000
  { start, stop := start + (flow.flowLastSeen - flow.flowStartTime) * 1000000 }

/-- The clock shows a date of the calendar. -/
theorem civilOfMicros_valid {zone time : Int} (hzone : -86400 ≤ zone ∧ zone ≤ 86400)
    (hlo : 0 ≤ time) (hhi : time ≤ 2 ^ 62 / 1000) :
    (civilOfMicros zone time).Valid ∧ (civilOfMicros zone time).year ≤ 9999 ∧
      wallNanos (civilOfMicros zone time) = time * 1000 + zone * 1000000000 := by
  have hday : -719528 ≤ (time / 1000000 + zone) / 86400 := by omega
  have hnano : (time % 1000000).toNat * 1000 < 1000000000 := by omega
  obtain ⟨hvalid, hwall⟩ := civilOfSeconds_valid hday hnano
  refine ⟨hvalid, ?_, ?_⟩
  · by_contra hyear
    have hmono : daysBeforeYear 10000 ≤ daysBeforeYear (civilOfMicros zone time).year :=
      daysBeforeYear_mono (by omega)
    have hlate : daysBeforeYear 10000 = 2932897 := by decide
    have hbegun : daysBeforeYear (civilOfMicros zone time).year ≤
        (civilOfMicros zone time).date.days := hvalid.date.days_range.1
    have hdays : (time / 1000000 + zone) / 86400 = (civilOfMicros zone time).date.days := by
      rw [← hwall]
      exact hvalid.days_eq
    omega
  · show (civilOfSeconds _ _).wallSeconds * 1000000000 + ((time % 1000000).toNat * 1000 : Nat) = _
    rw [hwall]
    omega

/-- A product with few enough digits is not rounded. -/
theorem nanosOf_small {n unit : Nat} (h : n * unit < 2 ^ 53) : nanosOf n 0 unit = n * unit := by
  have hshort : Short (n * unit) := ⟨n * unit, 0, h, by rw [Nat.pow_zero, Nat.mul_one]⟩
  rw [nanosOf, (roundMant_eq_self_iff _).mpr hshort]
  exact Nat.mul_one _

/-- The extractor's reading of the duration. -/
theorem Ordinary.nanosOf_duration {flow : BasicFlow} (h : Ordinary flow) :
    (nanosOf (flow.flowLastSeen - flow.flowStartTime).toNat 0 millisecond : Int) =
      (flow.flowLastSeen - flow.flowStartTime) * 1000000 := by
  have hle := h.duration_le
  have hnonneg := h.duration_nonneg
  rw [nanosOf_small (by rw [millisecond]; omega), millisecond]
  omega

section Reading

variable {lib : Library} (stats : Statistics) (zone : Int) (label : BasicFlow → String)
  (flow : BasicFlow)

theorem field_labelledRecord :
    let record := labelledRecord stats zone label flow
    field featureNames record "Src IP" = flow.src.text ∧
    field featureNames record "Src Port" = toString flow.srcPort.toNat ∧
    field featureNames record "Dst IP" = flow.dst.text ∧
    field featureNames record "Dst Port" = toString flow.dstPort.toNat ∧
    field featureNames record "Protocol" = toString flow.protocol.toNat ∧
    field featureNames record "Timestamp" = convertMicroseconds2String zone flow.flowStartTime ∧
    field featureNames record "Flow Duration" =
      toString (flow.flowLastSeen - flow.flowStartTime) ∧
    field featureNames record "Label" = label flow := by
  intro record
  have hindex : (["Src IP", "Src Port", "Dst IP", "Dst Port", "Protocol", "Timestamp",
      "Flow Duration", "Label"].map (columnIndex featureNames)) =
      [some 1, some 2, some 3, some 4, some 5, some 6, some 7, some 83] := by
    decide +kernel
  simp only [List.map_cons, List.map_nil, List.cons.injEq, and_true] at hindex
  obtain ⟨hsrc, hsport, hdst, hdport, hproto, htime, hdur, hlabel⟩ := hindex
  have hrecord : record = [flow.flowId, flow.src.text, toString flow.srcPort.toNat, flow.dst.text,
      toString flow.dstPort.toNat, toString flow.protocol.toNat,
      convertMicroseconds2String zone flow.flowStartTime,
      toString (flow.flowLastSeen - flow.flowStartTime)] ++ (stats.cells flow ++ [label flow]) := by
    simp only [record, labelledRecord, dumpFlowBasedFeaturesEx]
    rw [List.dropLast_concat, List.append_assoc]
  have hlength := stats.length_cells flow
  have hlast : (stats.cells flow ++ [label flow])[75]? = some (label flow) := by
    rw [← hlength, List.getElem?_concat_length]
  rw [hrecord]
  simp only [field, hsrc, hsport, hdst, hdport, hproto, htime, hdur, hlabel, Option.bind_some]
  refine ⟨rfl, rfl, rfl, rfl, rfl, rfl, rfl, ?_⟩
  rw [List.getElem?_append_right (by simp)]
  simp [hlast]

/-- The row as the extractor and the analyser describe rows. -/
def Ordinary.labelled (hlib : ReadsNumerals lib) (hzone : -86400 ≤ zone ∧ zone ≤ 86400)
    {flow : BasicFlow} (h : Ordinary flow) : LabelledRow lib :=
  have hcivil := civilOfMicros_valid hzone h.start_nonneg h.start_le
  have hnanos := h.nanosOf_duration
  have hdur := h.duration_le
  { id := flow.flowId, srcIP := flow.src, srcPort := flow.srcPort, dstIP := flow.dst
    dstPort := flow.dstPort, protocol := flow.protocol
    time := civilOfMicros zone flow.flowStartTime, fraction := true
    durationText := toString (flow.flowLastSeen - flow.flowStartTime).toNat
    mant := (flow.flowLastSeen - flow.flowStartTime).toNat, exp := 0, label := label flow
    others := fun _ => ""
    time_valid := hcivil.1
    year_le := hcivil.2.1
    micros := by
      show (flow.flowStartTime % 1000000).toNat * 1000 % 1000 = 0
      omega
    seconds := nofun
    duration_reads := hlib _ (by omega)
    duration_fits := by omega
    start_fits := by
      have hstart := h.start_nonneg
      rw [hcivil.2.2]
      omega
    stop_fits := by
      have hstart := h.start_le
      rw [hcivil.2.2, hnanos]
      omega }

/-- The labels that make a flow malicious. -/
def selected (ignoreAttempt : Bool) (label : String) : Bool :=
  label ≠ "BENIGN" && !(ignoreAttempt && containsText "Attempted".toList label.toList)

/-- **A row is read** as the flow it was printed from, with a window a thousand times as long. -/
theorem maliciousFlow_labelledRecord (hlib : ReadsNumerals lib)
    (hzone : -86400 ≤ zone ∧ zone ≤ 86400) (ignoreAttempt : Bool) {flow : BasicFlow}
    (h : Ordinary flow) :
    maliciousFlow lib ignoreAttempt featureNames (labelledRecord stats zone label flow) =
      if selected ignoreAttempt (label flow) then some (flow.key, printedWindow zone flow)
      else none := by
  obtain ⟨hsrc, hsport, hdst, hdport, hproto, htime, hdur, hlabel⟩ :=
    field_labelledRecord stats zone label flow
  have hduration : toString (flow.flowLastSeen - flow.flowStartTime) =
      toString (flow.flowLastSeen - flow.flowStartTime).toNat := by
    have hnonneg := h.duration_nonneg
    obtain ⟨n, hn⟩ := Int.eq_ofNat_of_zero_le (a := flow.flowLastSeen - flow.flowStartTime)
      (by omega)
    rw [hn, Int.toNat_natCast]
    rfl
  have hwindow : parseWindow lib (convertMicroseconds2String zone flow.flowStartTime)
      (toString (flow.flowLastSeen - flow.flowStartTime)) = some (printedWindow zone flow) := by
    rw [hduration]
    refine (h.labelled zone label hlib hzone).parseWindow_eq.trans ?_
    have hstart : (h.labelled zone label hlib hzone).start =
        flow.flowStartTime * 1000 + zone * 1000000000 :=
      (civilOfMicros_valid hzone h.start_nonneg h.start_le).2.2
    have hstop : (nanosOf (h.labelled zone label hlib hzone).mant
        (h.labelled zone label hlib hzone).exp millisecond : Int) =
        (flow.flowLastSeen - flow.flowStartTime) * 1000000 := h.nanosOf_duration
    rw [LabelledRow.window, hstart, hstop]
    rfl
  have hprotocol : parseUint 8 (toString flow.protocol.toNat) = some flow.protocol.toNat :=
    parseUint_toString flow.protocol.toNat_lt
  have hports := parsePorts_toString flow.srcPort flow.dstPort flow.protocol.toNat
  unfold maliciousFlow
  simp only [hsrc, hsport, hdst, hdport, hproto, htime, hdur, hlabel, hwindow, hprotocol, hports,
    Option.bind_eq_bind, Option.bind_some, Option.pure_def, makeKey, ip4_text,
    UInt16.ofNat_toNat, UInt8.ofNat_toNat]
  unfold selected
  by_cases hbenign : label flow = "BENIGN"
  · simp [hbenign]
  · rw [if_neg hbenign]
    cases hattempt : ignoreAttempt && containsText "Attempted".toList (label flow).toList with
    | false => simp [hbenign, BasicFlow.key]
    | true => simp

end Reading

/-! ## The packets on their way -/

section Pipeline

open FlowGenerator

variable (pcap : PcapLibrary) {packets : List CapturePacket}

/-- The rows that the flow meter makes of a capture. -/
def meteredRows (order : ValueOrder) (packets : List CapturePacket) : List BasicFlow :=
  ((init cmdSettings).addPackets (packets.filterMap pcap.nextPacket)).rows order

theorem chronological_nextPackets (h : packets.Pairwise fun p q => p.nano ≤ q.nano) :
    Chronological (packets.filterMap pcap.nextPacket) := by
  apply List.Pairwise.filterMap _ _ h
  intro p q hle b hb b' hb'
  rw [(PcapLibrary.nextPacket_eq_some hb).1, (PcapLibrary.nextPacket_eq_some hb').1]
  exact Int.ediv_le_ediv (by decide) hle

/-- What is known of a row: it is ordinary, it contains its packets, and its protocol is one of
three. -/
theorem metered_row {order : ValueOrder} (horder : packets.Pairwise fun p q => p.nano ≤ q.nano)
    (htime : ∀ p ∈ packets, 0 ≤ p.nano ∧ p.nano < 2 ^ 62) {row : BasicFlow}
    (hrow : row ∈ meteredRows pcap order packets) :
    Ordinary row ∧
      (∀ b ∈ row.packets, b.Of row.key ∧ row.flowStartTime ≤ b.timeStamp ∧
        b.timeStamp ≤ row.flowLastSeen) ∧
      (row.protocol = 6 ∨ row.protocol = 17 ∨ row.protocol = 0) := by
  obtain ⟨hcount, given, hsub, hspans⟩ := (tracked_addPackets cmdSettings _).row_spans hrow
  have hcontains := hspans.contains ((chronological_nextPackets pcap horder).sublist hsub)
  obtain ⟨first, hfirst, hstart⟩ := Option.map_eq_some_iff.mp hspans.start
  have hmem := List.mem_of_head? hfirst
  obtain ⟨p, hp, hread⟩ := List.mem_filterMap.mp (hsub.subset hmem)
  obtain ⟨htimeStamp, hprotocol⟩ := PcapLibrary.nextPacket_eq_some hread
  refine ⟨⟨?_, ?_, ?_, hspans.duration_le hcount⟩, ?_, ?_⟩
  · have hrange := htime p hp
    omega
  · have hrange := htime p hp
    omega
  · have hbetween := hcontains first hmem
    omega
  · intro b hb
    have hb := hspans.perm.mem_iff.mp hb
    exact ⟨hspans.of_key b hb, hcontains b hb⟩
  · have hsame : row.protocol = first.protocol := by
      rcases hspans.of_key first hmem with hkey | hkey
      · exact (congrArg FlowKey.protocol hkey).symm
      · exact (congrArg FlowKey.protocol hkey).symm
    rw [hsame]
    exact hprotocol

/-- The flows that the extractor finds in the table. -/
theorem mem_maliciousFlows {lib : Library} (hlib : ReadsNumerals lib) (stats : Statistics)
    {zone : Int} (hzone : -86400 ≤ zone ∧ zone ≤ 86400) (label : BasicFlow → String)
    (ignoreAttempt : Bool) {rows : List BasicFlow} (hrows : ∀ row ∈ rows, Ordinary row)
    (flow : FlowKey × Window Int) :
    flow ∈ maliciousFlows lib ignoreAttempt featureNames
        (rows.map fun row => some (labelledRecord stats zone label row)) ↔
      ∃ row ∈ rows, selected ignoreAttempt (label row) = true ∧
        flow = (row.key, printedWindow zone row) := by
  have hreduce : (rows.map fun row => some (labelledRecord stats zone label row)).reduceOption =
      rows.map (labelledRecord stats zone label) := by
    rw [List.reduceOption, List.filterMap_map, ← List.filterMap_eq_map]
    rfl
  rw [maliciousFlows, hreduce, List.mem_filterMap]
  constructor
  · rintro ⟨record, hrecord, hflow⟩
    obtain ⟨row, hrow, rfl⟩ := List.mem_map.mp hrecord
    rw [maliciousFlow_labelledRecord stats zone label hlib hzone ignoreAttempt (hrows row hrow)]
      at hflow
    split at hflow
    · next hselected => exact ⟨row, hrow, hselected, (Option.some.inj hflow).symm⟩
    · cases hflow
  · rintro ⟨row, hrow, hselected, rfl⟩
    refine ⟨labelledRecord stats zone label row, List.mem_map_of_mem hrow, ?_⟩
    rw [maliciousFlow_labelledRecord stats zone label hlib hzone ignoreAttempt (hrows row hrow),
      if_pos hselected]

/-- **From a capture to its malicious packets**: the flow meter reads the capture, its rows are
labelled, and the extractor reads the table and the capture. The packets that come out are those in
the printed windows. In UTC, each packet of a malicious flow is among them, if the extractor finds
the key in it that the flow meter found; only of a flow that lasts no microsecond may packets be
missing. All of them are taken for TCP, for UDP or for protocol 0. -/
theorem capture_extracted (lib : Library) (hlib : ReadsNumerals lib) (tools : PacketTools)
    (stats : Statistics) (order : ValueOrder) (label : BasicFlow → String) (ignoreAttempt : Bool)
    (zone : Int) (hzone : -86400 ≤ zone ∧ zone ≤ 86400)
    (horder : packets.Pairwise fun p q => p.nano ≤ q.nano)
    (htime : ∀ p ∈ packets, 0 ≤ p.nano ∧ p.nano < 2 ^ 62) :
    let rows := meteredRows pcap order packets
    let table := rows.map fun row => some (labelledRecord stats zone label row)
    ∃ counts scan, run lib tools ignoreAttempt (.ok (featureNames, table))
        (.ok (packets.map some)) (.ok ()) = .ok (counts, scan) ∧
      scan.written.Sublist packets ∧
      (∀ p, p ∈ scan.written ↔ p ∈ packets ∧ tools.writePacket p = true ∧
        ∃ key ∈ tools.key p, ∃ row ∈ rows, selected ignoreAttempt (label row) = true ∧
          row.key.Either key ∧ (printedWindow zone row).Contains p.nano) ∧
      (zone = 0 → ∀ row ∈ rows, selected ignoreAttempt (label row) = true →
        ∀ p ∈ packets, ∀ b ∈ row.packets, pcap.nextPacket p = some b →
          tools.key p = some b.key → tools.writePacket p = true →
          p.nano % 1000 = 0 ∨ row.flowStartTime < row.flowLastSeen → p ∈ scan.written) ∧
      ∀ p ∈ scan.written, ∀ key ∈ tools.key p,
        key.protocol = 6 ∨ key.protocol = 17 ∨ key.protocol = 0 := by
  intro rows table
  have hrow := fun row (h : row ∈ rows) => metered_row pcap horder htime h
  have hflows : ∀ flow, flow ∈ maliciousFlows lib ignoreAttempt featureNames table ↔
      ∃ row ∈ rows, selected ignoreAttempt (label row) = true ∧
        flow = (row.key, printedWindow zone row) :=
    mem_maliciousFlows hlib stats hzone label ignoreAttempt fun row h => (hrow row h).1
  have hheader : ∀ need ∈ neededColumns, need ∈ featureNames := by decide +kernel
  have hrun := run_eq_ok lib tools ignoreAttempt table (packets.map some) hheader
  have hreads : (packets.map some).reduceOption = packets := by
    rw [List.reduceOption, List.filterMap_map]
    exact List.filterMap_some
  -- the rows have no negative durations, so that the bisection finds every packet
  have hproper : ∀ flow ∈ maliciousFlows lib ignoreAttempt featureNames table,
      flow.2.start ≤ flow.2.stop := by
    intro flow hflow
    obtain ⟨row, hmem, -, rfl⟩ := (hflows flow).mp hflow
    have hduration := (hrow row hmem).1.duration_nonneg
    show row.flowStartTime * 1000 + zone * 1000000000 ≤ row.flowStartTime * 1000 +
      zone * 1000000000 + (row.flowLastSeen - row.flowStartTime) * 1000000
    omega
  have hwritten := scannedCapture_written_of_proper lib tools ignoreAttempt featureNames table
    (packets.map some) hproper
  rw [hreads] at hwritten
  generalize scannedCapture lib tools ignoreAttempt featureNames table (packets.map some) = scan
    at hrun hwritten
  have hmem : ∀ p, p ∈ scan.written ↔ p ∈ packets ∧ tools.writePacket p = true ∧
      ∃ key ∈ tools.key p, ∃ row ∈ rows, selected ignoreAttempt (label row) = true ∧
        row.key.Either key ∧ (printedWindow zone row).Contains p.nano := by
    intro p
    rw [hwritten, List.mem_filter, Bool.and_eq_true, and_comm (a := tools.isOf _ p = true)]
    refine and_congr_right fun _ => and_congr_right fun _ => ?_
    cases hkey : tools.key p with
    | none => simp [PacketTools.isOf, hkey]
    | some key =>
        rw [PacketTools.isOf_eq_true hkey]
        simp only [hflows, Option.mem_def, Option.some.injEq, exists_eq_left']
        constructor
        · rintro ⟨flow, ⟨row, hr, hsel, rfl⟩, heither, hin⟩
          exact ⟨row, hr, hsel, heither, hin⟩
        · rintro ⟨row, hr, hsel, heither, hin⟩
          exact ⟨_, ⟨row, hr, hsel, rfl⟩, heither, hin⟩
  refine ⟨_, scan, hrun, ?_, hmem, ?_, ?_⟩
  · rw [hwritten]
    exact List.filter_sublist
  · rintro rfl row hr hsel p hp b hb hread hkey hwrite hwhole
    obtain ⟨hordinary, hin, -⟩ := hrow row hr
    obtain ⟨hof, hfrom, hto⟩ := hin b hb
    rw [(PcapLibrary.nextPacket_eq_some hread).1] at hfrom hto
    have hnonneg := hordinary.duration_nonneg
    refine (hmem p).mpr ⟨hp, hwrite, b.key, hkey, row, hr, hsel, hof, ?_, ?_⟩
    · show row.flowStartTime * 1000 + 0 * 1000000000 ≤ p.nano
      omega
    · show p.nano ≤ row.flowStartTime * 1000 + 0 * 1000000000 +
        (row.flowLastSeen - row.flowStartTime) * 1000000
      omega
  · intro p hp key hkey
    obtain ⟨-, -, key', hkey', row, hr, -, heither, -⟩ := (hmem p).mp hp
    cases hkey.symm.trans hkey'
    have hprotocol := (hrow row hr).2.2
    rcases heither with rfl | rfl
    · exact hprotocol
    · exact hprotocol

/-! ### A packet and its answer -/

def chatKey : FlowKey :=
  { srcIP := { a := 10, b := 0, c := 0, d := 1 }, dstIP := { a := 10, b := 0, c := 0, d := 2 }
    srcPort := 4000, dstPort := 80, protocol := 6 }

/-- The packet of one byte is from the client if the byte is 0, and from the server otherwise. -/
def byteKey (data : List UInt8) : FlowKey := if data = [0] then chatKey else chatKey.reverse

def chatTools : PacketTools where
  decodeLayers data :=
    let key := byteKey data
    ([.ethernet, .ipv4 key.srcIP key.dstIP key.protocol, .tcp key.srcPort key.dstPort], true)
  writePacket _ := true

def chatPcap : PcapLibrary where
  scan data :=
    let key := byteKey data
    { ipv4 := some (key.srcIP, key.dstIP)
      tcp := some { source := key.srcPort, destination := key.dstPort, window := 512
                    flags := fun _ => false, payloadLength := 100, headerLength := 20 } }
  scanL2TP _ := none

def noStatistics : Statistics := ⟨fun _ => List.replicate 75 "0", fun _ => List.length_replicate⟩

def exchange : List CapturePacket := [⟨[0], 1000000000⟩, ⟨[1], 2000000000⟩]

theorem exchange_extracted :
    ReadsNumerals plainLibrary ∧ (exchange.Pairwise fun p q => p.nano ≤ q.nano) ∧
    (∀ p ∈ exchange, 0 ≤ p.nano ∧ p.nano < 2 ^ 62) ∧
    ∃ counts scan, run plainLibrary chatTools false
      (.ok (featureNames, (meteredRows chatPcap entryOrder exchange).map fun row =>
        some (labelledRecord noStatistics 0 (fun _ => "PortScan") row)))
      (.ok (exchange.map some)) (.ok ()) = .ok (counts, scan) ∧
      ∀ p ∈ exchange, p ∈ scan.written := by
  have hlib : ReadsNumerals plainLibrary := fun n hn => parseFloat_toString hn
  have horder : exchange.Pairwise fun p q => p.nano ≤ q.nano := by decide
  have htime : ∀ p ∈ exchange, 0 ≤ p.nano ∧ p.nano < 2 ^ 62 := by decide
  obtain ⟨counts, scan, hrun, -, hmem, -, -⟩ := capture_extracted chatPcap plainLibrary hlib
    chatTools noStatistics entryOrder (fun _ => "PortScan") false 0 (by decide) horder htime
  refine ⟨hlib, horder, htime, counts, scan, hrun, ?_⟩
  have hrows : (meteredRows chatPcap entryOrder exchange).map
      (fun row => (row.key, row.flowStartTime, row.flowLastSeen)) =
      [(chatKey, 1000000, 2000000)] := by
    decide +kernel
  have hone : (chatKey, (1000000 : Int), (2000000 : Int)) ∈
      (meteredRows chatPcap entryOrder exchange).map
        (fun row => (row.key, row.flowStartTime, row.flowLastSeen)) := by
    rw [hrows]
    exact List.mem_cons_self
  obtain ⟨row, hrow, hfields⟩ := List.mem_map.mp hone
  obtain ⟨hkey, hstart, hlast⟩ : row.key = chatKey ∧ row.flowStartTime = 1000000 ∧
      row.flowLastSeen = 2000000 := by simpa using hfields
  have hwindow : printedWindow 0 row = ⟨1000000000, 1001000000000⟩ := by
    rw [printedWindow, hstart, hlast]
    rfl
  intro p hp
  refine (hmem p).mpr ⟨hp, rfl, byteKey p.data, ?_, row, hrow, by decide +kernel, ?_, ?_⟩
  · exact Option.mem_def.mpr rfl
  · rw [hkey, byteKey]
    split
    · exact .inl rfl
    · exact .inr rfl
  · rw [hwindow]
    have hin : ∀ p ∈ exchange, 1000000000 ≤ p.nano ∧ p.nano ≤ 1001000000000 := by decide
    exact hin p hp

end Pipeline

end SnortOptimizer.FlowMeter
