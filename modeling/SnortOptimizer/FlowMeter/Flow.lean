import SnortOptimizer.FlowMeter.Packet
import Mathlib.Algebra.BigOperators.Group.List.Basic

/-!
# A flow and its measurements (`BasicFlow`)

A flow keeps the packets it was given, forward and backward ones apart, and measures them as they
come: lengths, times between arrivals, flags, periods of activity, bulk transfers. Nothing is
computed from the packets afterwards; the flow meter prints what has been summed up.

Two things here are not what they look like. `updateFlowBulk` compares arrays with `==`, and
`getSrc` hands out a copy, so no packet is ever taken for a forward one there. And a flow that
follows another one after a timeout is built around its packet before it is told the ends of the
other, so that packet is a forward one whichever way it went.
-/

namespace SnortOptimizer.FlowMeter

open Extractor

/-- `SummaryStatistics`: what is asked of it later is a function of the values it was given. -/
structure SummaryStatistics where
  values : List Int := []
  deriving DecidableEq, Repr

namespace SummaryStatistics

def addValue (s : SummaryStatistics) (v : Int) : SummaryStatistics := ⟨s.values ++ [v]⟩

def getN (s : SummaryStatistics) : Nat := s.values.length

def getSum (s : SummaryStatistics) : Int := s.values.sum

@[simp]
theorem values_addValue (s : SummaryStatistics) (v : Int) :
    (s.addValue v).values = s.values ++ [v] := rfl

@[simp]
theorem getN_addValue (s : SummaryStatistics) (v : Int) : (s.addValue v).getN = s.getN + 1 := by
  simp [getN]

@[simp]
theorem getSum_addValue (s : SummaryStatistics) (v : Int) :
    (s.addValue v).getSum = s.getSum + v := by
  simp [getSum]

end SummaryStatistics

/-! ## Bulk transfers -/

/-- The counters of bulk transfers in one direction. -/
structure Bulk where
  duration : Int := 0
  packetCount : Int := 0
  sizeTotal : Int := 0
  stateCount : Int := 0
  packetCountHelper : Int := 0
  startHelper : Int := 0
  sizeHelper : Int := 0
  lastBulkTS : Int := 0
  deriving DecidableEq, Repr

/-- More than this between two packets, in microseconds, ends a bulk transfer or a subflow. -/
def second : Int := 1000000

/-- A packet that may be the first of a bulk transfer. -/
def Bulk.begin (b : Bulk) (packet : BasicPacketInfo) : Bulk :=
  { b with
    startHelper := packet.timeStamp
    packetCountHelper := 1
    sizeHelper := packet.payloadBytes
    lastBulkTS := packet.timeStamp }

/-- A packet that comes soon enough after the last one. The fourth makes the run a bulk transfer. -/
def Bulk.add (b : Bulk) (packet : BasicPacketInfo) : Bulk :=
  let b := { b with
    packetCountHelper := b.packetCountHelper + 1
    sizeHelper := b.sizeHelper + packet.payloadBytes }
  let b :=
    if b.packetCountHelper = 4 then
      { b with
        stateCount := b.stateCount + 1
        packetCount := b.packetCount + b.packetCountHelper
        sizeTotal := b.sizeTotal + b.sizeHelper
        duration := b.duration + (packet.timeStamp - b.startHelper) }
    else if 4 < b.packetCountHelper then
      { b with
        packetCount := b.packetCount + 1
        sizeTotal := b.sizeTotal + packet.payloadBytes
        duration := b.duration + (packet.timeStamp - b.lastBulkTS) }
    else b
  { b with lastBulkTS := packet.timeStamp }

/-- `updateForwardBulk` and `updateBackwardBulk`, each on its own counters. -/
def Bulk.update (b : Bulk) (packet : BasicPacketInfo) (tsOflastBulkInOther : Int) : Bulk :=
  let b := if b.startHelper < tsOflastBulkInOther then { b with startHelper := 0 } else b
  if packet.payloadBytes ≤ 0 then b
  else if b.startHelper = 0 then b.begin packet
  else if second < packet.timeStamp - b.lastBulkTS then b.begin packet
  else b.add packet

/-! ## Activity and subflows -/

/-- The current period of activity, and the lengths of those before it and of the gaps between. -/
structure Activity where
  startActiveTime : Int := 0
  endActiveTime : Int := 0
  flowActive : SummaryStatistics := {}
  flowIdle : SummaryStatistics := {}
  deriving DecidableEq, Repr

def Activity.updateActiveIdleTime (a : Activity) (currentTime threshold : Int) : Activity :=
  if threshold < currentTime - a.endActiveTime then
    { flowActive :=
        if 0 < a.endActiveTime - a.startActiveTime then
          a.flowActive.addValue (a.endActiveTime - a.startActiveTime)
        else a.flowActive
      flowIdle := a.flowIdle.addValue (currentTime - a.endActiveTime)
      startActiveTime := currentTime
      endActiveTime := currentTime }
  else { a with endActiveTime := currentTime }

structure Subflows where
  sfLastPacketTS : Int := -1
  sfCount : Nat := 0
  sfAcHelper : Int := -1
  deriving DecidableEq, Repr

/-- The first packet of all starts the first subflow. -/
def Subflows.start (s : Subflows) (packet : BasicPacketInfo) : Subflows :=
  if s.sfLastPacketTS = -1 then
    { s with sfLastPacketTS := packet.timeStamp, sfAcHelper := packet.timeStamp }
  else s

/-- Another subflow starts with this packet. -/
def Subflows.Split (s : Subflows) (packet : BasicPacketInfo) : Prop :=
  second < packet.timeStamp - (s.start packet).sfLastPacketTS

instance decidableSplit (s : Subflows) (packet : BasicPacketInfo) : Decidable (s.Split packet) :=
  inferInstanceAs (Decidable (_ < _))

def Subflows.detect (s : Subflows) (packet : BasicPacketInfo) : Subflows :=
  let t := s.start packet
  { sfLastPacketTS := packet.timeStamp
    sfCount := if s.Split packet then t.sfCount + 1 else t.sfCount
    sfAcHelper := if s.Split packet then packet.timeStamp else t.sfAcHelper }

/-! ## One direction -/

/-- What a flow keeps of its packets in one direction. -/
structure Direction where
  packets : List BasicPacketInfo := []
  pktStats : SummaryStatistics := {}
  iat : SummaryStatistics := {}
  bytes : Int := 0
  headerBytes : Int := 0
  psh_cnt : Nat := 0
  urg_cnt : Nat := 0
  init_Win_bytes : Int := 0
  lastSeen : Int := 0
  deriving DecidableEq, Repr

/-- In `firstPacket`. -/
def Direction.first (d : Direction) (packet : BasicPacketInfo) : Direction :=
  { d with
    init_Win_bytes := packet.tcpWindow
    pktStats := d.pktStats.addValue packet.payloadBytes
    headerBytes := packet.headerBytes
    lastSeen := packet.timeStamp
    bytes := d.bytes + packet.payloadBytes
    packets := d.packets ++ [packet]
    psh_cnt := if packet.flagPSH then d.psh_cnt + 1 else d.psh_cnt
    urg_cnt := if packet.flagURG then d.urg_cnt + 1 else d.urg_cnt }

/-- In `addPacket`. Here `PSH` and `URG` are not counted. -/
def Direction.add (d : Direction) (packet : BasicPacketInfo) : Direction :=
  let packets := d.packets ++ [packet]
  { d with
    packets
    pktStats := d.pktStats.addValue packet.payloadBytes
    headerBytes := d.headerBytes + packet.headerBytes
    bytes := d.bytes + packet.payloadBytes
    iat :=
      if 1 < packets.length then d.iat.addValue (packet.timeStamp - d.lastSeen) else d.iat
    lastSeen := packet.timeStamp }

/-- In `addPacket` of a flow that does not tell the directions apart. -/
def Direction.addOneWay (d : Direction) (packet : BasicPacketInfo) : Direction :=
  { d with
    packets := d.packets ++ [packet]
    pktStats := d.pktStats.addValue packet.payloadBytes
    headerBytes := d.headerBytes + packet.headerBytes
    bytes := d.bytes + packet.payloadBytes
    iat := d.iat.addValue (packet.timeStamp - d.lastSeen)
    lastSeen := packet.timeStamp }

/-! ## Flows -/

structure BasicFlow where
  isBidirectional : Bool
  activityTimeout : Int
  src : Octets := { a := 0, b := 0, c := 0, d := 0 }
  dst : Octets := { a := 0, b := 0, c := 0, d := 0 }
  srcPort : UInt16 := 0
  dstPort : UInt16 := 0
  protocol : UInt8 := 0
  flowId : String := ""
  forward : Direction := {}
  backward : Direction := {}
  flowLengthStats : SummaryStatistics := {}
  flowIAT : SummaryStatistics := {}
  flagCounts : Flag → Nat := fun _ => 0
  fFIN_cnt : Nat := 0
  bFIN_cnt : Nat := 0
  act_data_pkt_forward : Nat := 0
  min_seg_size_forward : Int := 0
  flowStartTime : Int := 0
  flowLastSeen : Int := 0
  activity : Activity := {}
  subflows : Subflows := {}
  fbulk : Bulk := {}
  bbulk : Bulk := {}

namespace BasicFlow

variable (flow : BasicFlow) (packet : BasicPacketInfo)

def packetCount : Nat :=
  if flow.isBidirectional then flow.forward.packets.length + flow.backward.packets.length
  else flow.forward.packets.length

/-- `this.src == packet.getSrc()`: the identity of two arrays, one of them just made by `copyOf`. -/
def sameArray (_ _ : Octets) : Bool := false

def updateFlowBulk : BasicFlow :=
  { flow with
    fbulk :=
      if sameArray flow.src packet.src then flow.fbulk.update packet flow.bbulk.lastBulkTS
      else flow.fbulk
    bbulk :=
      if sameArray flow.src packet.src then flow.bbulk
      else flow.bbulk.update packet flow.fbulk.lastBulkTS }

def updateActiveIdleTime (currentTime threshold : Int) : BasicFlow :=
  { flow with activity := flow.activity.updateActiveIdleTime currentTime threshold }

def detectUpdateSubflows : BasicFlow :=
  { flow with
    subflows := flow.subflows.detect packet
    activity :=
      if flow.subflows.Split packet then
        flow.activity.updateActiveIdleTime packet.timeStamp flow.activityTimeout
      else flow.activity }

def checkFlags : BasicFlow :=
  { flow with
    flagCounts := fun f =>
      if packet.hasFlag f then flow.flagCounts f + 1 else flow.flagCounts f }

/-- What comes first for every packet. -/
def update : BasicFlow :=
  ((flow.updateFlowBulk packet).detectUpdateSubflows packet).checkFlags packet

/-- The first packet by its direction. -/
def directFirst : BasicFlow :=
  if flow.src = packet.src then
    { flow with
      min_seg_size_forward := packet.headerBytes
      flowLengthStats := flow.flowLengthStats.addValue packet.payloadBytes
      forward := flow.forward.first packet }
  else
    { flow with
      flowLengthStats := flow.flowLengthStats.addValue packet.payloadBytes
      backward := flow.backward.first packet }

/-- `initParameters` has left `src` and `dst` null, so they are the packet's before it is asked
which way it went. `id` is the one the packet was last looked up with. -/
def firstPacket (id : String) : BasicFlow :=
  let flow := flow.update packet
  let flow := { flow with
    flowStartTime := packet.timeStamp
    flowLastSeen := packet.timeStamp
    activity := { flow.activity with
      startActiveTime := packet.timeStamp, endActiveTime := packet.timeStamp }
    flowLengthStats := flow.flowLengthStats.addValue packet.payloadBytes
    src := packet.src
    srcPort := packet.srcPort
    dst := packet.dst
    dstPort := packet.dstPort }
  { flow.directFirst packet with protocol := packet.protocol, flowId := id }

/-- `new BasicFlow(isBidirectional, packet, activityTimeout)`. -/
def opened (isBidirectional : Bool) (activityTimeout : Int) (id : String) : BasicFlow :=
  firstPacket { isBidirectional, activityTimeout } packet id

/-- `new BasicFlow(isBidirectional, packet, flowSrc, flowDst, flowSrcPort, flowDstPort, …)`, with
the ends of `flow`. -/
def reopened (isBidirectional : Bool) (activityTimeout : Int) (id : String) : BasicFlow :=
  { opened packet isBidirectional activityTimeout id with
    src := flow.src, dst := flow.dst, srcPort := flow.srcPort, dstPort := flow.dstPort }

def countPayload : Nat :=
  if 1 ≤ packet.payloadBytes then flow.act_data_pkt_forward + 1 else flow.act_data_pkt_forward

def addForward : BasicFlow :=
  { flow with
    act_data_pkt_forward := flow.countPayload packet
    forward := flow.forward.add packet
    min_seg_size_forward := min packet.headerBytes flow.min_seg_size_forward }

/-- The window of a backward packet replaces that of the one before. -/
def addBackward : BasicFlow :=
  { flow with
    backward := { flow.backward.add packet with init_Win_bytes := packet.tcpWindow } }

def addOneWay : BasicFlow :=
  { flow with
    act_data_pkt_forward := flow.countPayload packet
    forward := flow.forward.addOneWay packet
    min_seg_size_forward := min packet.headerBytes flow.min_seg_size_forward }

/-- By the direction of the packet. -/
def direct : BasicFlow :=
  if flow.isBidirectional then
    if flow.src = packet.src then flow.addForward packet else flow.addBackward packet
  else flow.addOneWay packet

def measureLength : BasicFlow :=
  { flow with flowLengthStats := flow.flowLengthStats.addValue packet.payloadBytes }

def see : BasicFlow :=
  { flow with
    flowIAT := flow.flowIAT.addValue (packet.timeStamp - flow.flowLastSeen)
    flowLastSeen := packet.timeStamp }

def addPacket : BasicFlow :=
  (((flow.update packet).measureLength packet).direct packet).see packet

def setFwdFINFlags : BasicFlow := { flow with fFIN_cnt := flow.fFIN_cnt + 1 }

def setBwdFINFlags : BasicFlow := { flow with bFIN_cnt := flow.bFIN_cnt + 1 }

end BasicFlow

/-! ## What a packet leaves as it is -/

namespace BasicFlow

variable (flow : BasicFlow) (packet : BasicPacketInfo)

/-- The ends of the flow, from the side that opened it. -/
def key : FlowKey :=
  { srcIP := flow.src, dstIP := flow.dst, srcPort := flow.srcPort, dstPort := flow.dstPort
    protocol := flow.protocol }

/-- All that the generator goes by. -/
structure Same (f f' : BasicFlow) : Prop where
  isBidirectional : f'.isBidirectional = f.isBidirectional
  activityTimeout : f'.activityTimeout = f.activityTimeout
  key : f'.key = f.key
  flowId : f'.flowId = f.flowId
  flowStartTime : f'.flowStartTime = f.flowStartTime
  fFIN_cnt : f'.fFIN_cnt = f.fFIN_cnt
  bFIN_cnt : f'.bFIN_cnt = f.bFIN_cnt

theorem Same.trans {f f' f'' : BasicFlow} (h : Same f f') (h' : Same f' f'') : Same f f'' :=
  ⟨h'.1.trans h.1, h'.2.trans h.2, h'.3.trans h.3, h'.4.trans h.4, h'.5.trans h.5, h'.6.trans h.6,
    h'.7.trans h.7⟩

theorem Same.src {f f' : BasicFlow} (h : Same f f') : f'.src = f.src :=
  congrArg FlowKey.srcIP h.key

theorem update_same : Same flow (flow.update packet) := by
  constructor <;> simp only [update, checkFlags, detectUpdateSubflows, updateFlowBulk, key]

theorem measureLength_same : Same flow (flow.measureLength packet) := by
  constructor <;> simp only [measureLength, key]

theorem direct_same : Same flow (flow.direct packet) := by
  unfold direct
  split
  · split <;> constructor <;> simp only [addForward, addBackward, key]
  · constructor <;> simp only [addOneWay, key]

theorem see_same : Same flow (flow.see packet) := by
  constructor <;> simp only [see, key]

theorem addPacket_same : Same flow (flow.addPacket packet) :=
  (((update_same flow packet).trans (measureLength_same _ packet)).trans
    (direct_same _ packet)).trans (see_same _ packet)

theorem updateActiveIdleTime_same (t threshold : Int) :
    Same flow (flow.updateActiveIdleTime t threshold) := by
  constructor <;> simp only [updateActiveIdleTime, key]

theorem opened_key (b : Bool) (t : Int) (id : String) :
    (opened packet b t id).key = packet.key := by
  simp only [opened, firstPacket, directFirst, if_true, key, BasicPacketInfo.key]

/-- The protocol of a flow is its first packet's, its ends are those of the flow before it. -/
theorem reopened_key {b : Bool} {t : Int} {id : String} (h : packet.protocol = flow.protocol) :
    (flow.reopened packet b t id).key = flow.key := by
  simp only [reopened, opened, firstPacket, directFirst, if_true, key, h]

end BasicFlow

/-! ## The packets of a flow -/

namespace BasicFlow

variable (flow : BasicFlow) (packet : BasicPacketInfo)

def packets : List BasicPacketInfo := flow.forward.packets ++ flow.backward.packets

theorem direct_forward : (flow.direct packet).forward =
    if flow.isBidirectional then
      if flow.src = packet.src then flow.forward.add packet else flow.forward
    else flow.forward.addOneWay packet := by
  unfold direct
  by_cases hbi : flow.isBidirectional = true
  · by_cases hsrc : flow.src = packet.src
    · rw [if_pos hbi, if_pos hbi, if_pos hsrc, if_pos hsrc, addForward]
    · rw [if_pos hbi, if_pos hbi, if_neg hsrc, if_neg hsrc, addBackward]
  · rw [if_neg hbi, if_neg hbi, addOneWay]

theorem direct_backward : (flow.direct packet).backward =
    if flow.isBidirectional = true ∧ flow.src ≠ packet.src then
      { flow.backward.add packet with init_Win_bytes := packet.tcpWindow }
    else flow.backward := by
  unfold direct
  by_cases hbi : flow.isBidirectional = true
  · by_cases hsrc : flow.src = packet.src
    · rw [if_pos hbi, if_pos hsrc, if_neg fun h => h.2 hsrc, addForward]
    · rw [if_pos hbi, if_neg hsrc, if_pos ⟨hbi, hsrc⟩, addBackward]
  · rw [if_neg hbi, if_neg fun h => hbi h.1, addOneWay]

theorem addPacket_forward : (flow.addPacket packet).forward =
    if flow.isBidirectional then
      if flow.src = packet.src then flow.forward.add packet else flow.forward
    else flow.forward.addOneWay packet := by
  simp only [addPacket, see, direct_forward, measureLength, update, checkFlags,
    detectUpdateSubflows, updateFlowBulk]

theorem addPacket_backward : (flow.addPacket packet).backward =
    if flow.isBidirectional = true ∧ flow.src ≠ packet.src then
      { flow.backward.add packet with init_Win_bytes := packet.tcpWindow }
    else flow.backward := by
  simp only [addPacket, see, direct_backward, measureLength, update, checkFlags,
    detectUpdateSubflows, updateFlowBulk]

theorem addPacket_flowLastSeen : (flow.addPacket packet).flowLastSeen = packet.timeStamp := by
  simp only [addPacket, see]

theorem opened_flowStartTime (b : Bool) (t : Int) (id : String) :
    (opened packet b t id).flowStartTime = packet.timeStamp := by
  simp only [opened, firstPacket, directFirst, if_true]

theorem opened_flowLastSeen (b : Bool) (t : Int) (id : String) :
    (opened packet b t id).flowLastSeen = packet.timeStamp := by
  simp only [opened, firstPacket, directFirst, if_true]

theorem opened_isBidirectional (b : Bool) (t : Int) (id : String) :
    (opened packet b t id).isBidirectional = b := by
  simp only [opened, firstPacket, directFirst, if_true, update, checkFlags, detectUpdateSubflows,
    updateFlowBulk]

theorem opened_forward (b : Bool) (t : Int) (id : String) :
    (opened packet b t id).forward = Direction.first {} packet := by
  simp only [opened, firstPacket, directFirst, if_true, update, checkFlags, detectUpdateSubflows,
    updateFlowBulk]

theorem opened_backward (b : Bool) (t : Int) (id : String) :
    (opened packet b t id).backward = {} := by
  simp only [opened, firstPacket, directFirst, if_true, update, checkFlags, detectUpdateSubflows,
    updateFlowBulk]

theorem addPacket_packets : (flow.addPacket packet).packets.Perm (flow.packets ++ [packet]) := by
  rw [packets, addPacket_forward, addPacket_backward, packets]
  by_cases hbi : flow.isBidirectional = true
  · by_cases hsrc : flow.src = packet.src
    · rw [if_pos hbi, if_pos hsrc, if_neg fun h => h.2 hsrc]
      simp only [Direction.add, List.append_assoc]
      exact List.perm_append_comm.append_left _
    · rw [if_pos hbi, if_neg hsrc, if_pos ⟨hbi, hsrc⟩]
      simp only [Direction.add, List.append_assoc]
      exact .refl _
  · rw [if_neg hbi, if_neg fun h => hbi h.1]
    simp only [Direction.addOneWay, List.append_assoc]
    exact List.perm_append_comm.append_left _

theorem opened_packets (b : Bool) (t : Int) (id : String) :
    (opened packet b t id).packets = [packet] := by
  rw [packets, opened_forward, opened_backward]
  rfl

theorem reopened_packets (b : Bool) (t : Int) (id : String) :
    (flow.reopened packet b t id).packets = [packet] := opened_packets packet b t id

end BasicFlow

/-! ## Measurements that do not depend on the direction -/

namespace BasicFlow

variable (flow : BasicFlow) (packet : BasicPacketInfo)

/-- What `direct` leaves alone. -/
theorem direct_rest : (flow.direct packet).flowIAT = flow.flowIAT ∧
    (flow.direct packet).flowLastSeen = flow.flowLastSeen ∧
    (flow.direct packet).flowLengthStats = flow.flowLengthStats ∧
    (flow.direct packet).flagCounts = flow.flagCounts ∧
    (flow.direct packet).activity = flow.activity ∧
    (flow.direct packet).subflows = flow.subflows ∧
    (flow.direct packet).fbulk = flow.fbulk ∧ (flow.direct packet).bbulk = flow.bbulk := by
  unfold direct
  split
  · split
    · simp only [addForward, and_self]
    · simp only [addBackward, and_self]
  · simp only [addOneWay, and_self]

theorem addPacket_flowIAT : (flow.addPacket packet).flowIAT =
    flow.flowIAT.addValue (packet.timeStamp - flow.flowLastSeen) := by
  have hiat (f : BasicFlow) := (f.direct_rest packet).1
  have hseen (f : BasicFlow) := (f.direct_rest packet).2.1
  simp only [addPacket, see, hiat, hseen, measureLength, update, checkFlags, detectUpdateSubflows,
    updateFlowBulk]

theorem addPacket_flowLengthStats : (flow.addPacket packet).flowLengthStats =
    flow.flowLengthStats.addValue packet.payloadBytes := by
  have hlength (f : BasicFlow) := (f.direct_rest packet).2.2.1
  simp only [addPacket, see, hlength, measureLength, update, checkFlags, detectUpdateSubflows,
    updateFlowBulk]

theorem addPacket_flagCounts (f : Flag) : (flow.addPacket packet).flagCounts f =
    if packet.hasFlag f then flow.flagCounts f + 1 else flow.flagCounts f := by
  have hflags (f : BasicFlow) := (f.direct_rest packet).2.2.2.1
  simp only [addPacket, see, hflags, measureLength, update, checkFlags, detectUpdateSubflows,
    updateFlowBulk]

theorem addPacket_activity : (flow.addPacket packet).activity =
    if flow.subflows.Split packet then
      flow.activity.updateActiveIdleTime packet.timeStamp flow.activityTimeout
    else flow.activity := by
  have h (f : BasicFlow) := (f.direct_rest packet).2.2.2.2.1
  simp only [addPacket, see, h, measureLength, update, checkFlags, detectUpdateSubflows,
    updateFlowBulk]
  congr

theorem addPacket_subflows : (flow.addPacket packet).subflows = flow.subflows.detect packet := by
  have h (f : BasicFlow) := (f.direct_rest packet).2.2.2.2.2.1
  simp only [addPacket, see, h, measureLength, update, checkFlags, detectUpdateSubflows,
    updateFlowBulk]

/-- No packet is taken for a forward one by `updateFlowBulk`. -/
theorem addPacket_bulk : (flow.addPacket packet).fbulk = flow.fbulk ∧
    (flow.addPacket packet).bbulk = flow.bbulk.update packet flow.fbulk.lastBulkTS := by
  have hf (f : BasicFlow) := (f.direct_rest packet).2.2.2.2.2.2.1
  have hb (f : BasicFlow) := (f.direct_rest packet).2.2.2.2.2.2.2
  simp only [addPacket, see, hf, hb, measureLength, update, checkFlags, detectUpdateSubflows,
    updateFlowBulk, sameArray, Bool.false_eq_true, if_false, and_self]

theorem addPacket_act_data : (flow.addPacket packet).act_data_pkt_forward =
    if flow.isBidirectional = false ∨ flow.src = packet.src then flow.countPayload packet
    else flow.act_data_pkt_forward := by
  have h (f : BasicFlow) : (f.direct packet).act_data_pkt_forward =
      if f.isBidirectional = false ∨ f.src = packet.src then f.countPayload packet
      else f.act_data_pkt_forward := by
    unfold direct
    split
    · next hbi =>
        split
        · next hsrc => rw [if_pos (.inr hsrc), addForward]
        · next hsrc => rw [if_neg (by simp [hbi, hsrc]), addBackward]
    · next hbi => rw [if_pos (.inl (by simpa using hbi)), addOneWay]
  simp only [addPacket, see, h, measureLength, update, checkFlags, detectUpdateSubflows,
    updateFlowBulk, countPayload]

theorem addPacket_min_seg : (flow.addPacket packet).min_seg_size_forward =
    if flow.isBidirectional = false ∨ flow.src = packet.src then
      min packet.headerBytes flow.min_seg_size_forward
    else flow.min_seg_size_forward := by
  have h (f : BasicFlow) : (f.direct packet).min_seg_size_forward =
      if f.isBidirectional = false ∨ f.src = packet.src then
        min packet.headerBytes f.min_seg_size_forward
      else f.min_seg_size_forward := by
    unfold direct
    split
    · next hbi =>
        split
        · next hsrc => rw [if_pos (.inr hsrc), addForward]
        · next hsrc => rw [if_neg (by simp [hbi, hsrc]), addBackward]
    · next hbi => rw [if_pos (.inl (by simpa using hbi)), addOneWay]
  simp only [addPacket, see, h, measureLength, update, checkFlags, detectUpdateSubflows,
    updateFlowBulk]

end BasicFlow

end SnortOptimizer.FlowMeter
