import SnortOptimizer.Extractor.Agreement

/-!
# Packets as the flow meter sees them (`misc/CICFlowMeter`)

The flows that the analyser and the extractor go by come out of a flow meter. It reads the packets
of a capture one after another and files each under a text, the id of its flow: addresses, ports and
protocol, from the sender's side (`fwdFlowId`) or from the receiver's (`bwdFlowId`).

An id tells its tuple (`flowId_inj`), so two packets have the same ids exactly if they belong to one
conversation.
-/

namespace SnortOptimizer.FlowMeter

open Extractor Text

inductive Flag where
  | fin | syn | rst | psh | ack | urg | cwr | ece
  deriving DecidableEq, Repr

structure BasicPacketInfo where
  src : Octets
  dst : Octets
  srcPort : UInt16
  dstPort : UInt16
  protocol : UInt8                 -- 6, 17, or 0 for what is neither TCP nor UDP
  timeStamp : Int                  -- microseconds since 1970
  payloadBytes : Int
  headerBytes : Int
  tcpWindow : Int
  flagFIN : Bool := false
  flagSYN : Bool := false
  flagRST : Bool := false
  flagPSH : Bool := false
  flagACK : Bool := false
  flagURG : Bool := false
  flagCWR : Bool := false
  flagECE : Bool := false
  deriving DecidableEq, Repr

namespace BasicPacketInfo

def hasFlag (packet : BasicPacketInfo) : Flag → Bool
  | .fin => packet.flagFIN
  | .syn => packet.flagSYN
  | .rst => packet.flagRST
  | .psh => packet.flagPSH
  | .ack => packet.flagACK
  | .urg => packet.flagURG
  | .cwr => packet.flagCWR
  | .ece => packet.flagECE

def key (packet : BasicPacketInfo) : FlowKey :=
  { srcIP := packet.src, dstIP := packet.dst, srcPort := packet.srcPort, dstPort := packet.dstPort
    protocol := packet.protocol }

end BasicPacketInfo

/-! ## Ids -/

/-- The text under which a tuple is filed. -/
def flowId (key : FlowKey) : String :=
  key.srcIP.text ++ "-" ++ key.dstIP.text ++ "-" ++ toString key.srcPort.toNat ++ "-"
    ++ toString key.dstPort.toNat ++ "-" ++ toString key.protocol.toNat

def BasicPacketInfo.fwdFlowId (packet : BasicPacketInfo) : String := flowId packet.key

def BasicPacketInfo.bwdFlowId (packet : BasicPacketInfo) : String := flowId packet.key.reverse

theorem toList_flowId (key : FlowKey) :
    (flowId key).toList = key.srcIP.text.toList ++ '-' :: (key.dstIP.text.toList ++ '-' ::
      ((toString key.srcPort.toNat).toList ++ '-' :: ((toString key.dstPort.toNat).toList ++ '-' ::
        (toString key.protocol.toNat).toList))) := by
  simp [flowId]

theorem minus_notMem_text (ip : Octets) : '-' ∉ ip.text.toList := by
  intro h
  rcases Octets.mem_text h with hdigit | hdot
  · cases hdigit
  · cases hdot

theorem minus_notMem_toString (n : Nat) : '-' ∉ (toString n).toList := by
  intro h
  cases isDigit_of_mem_toString h

theorem toNat_inj_uint16 {m n : UInt16}
    (h : (toString m.toNat).toList = (toString n.toNat).toList) :
    m = n :=
  UInt16.toNat_inj.mp (toString_nat_inj h)

theorem flowId_inj {key key' : FlowKey} (h : flowId key = flowId key') : key = key' := by
  have hlist := congrArg String.toList h
  rw [toList_flowId, toList_flowId] at hlist
  obtain ⟨hsrc, hlist⟩ := append_sep_inj (minus_notMem_text _) (minus_notMem_text _) hlist
  obtain ⟨hdst, hlist⟩ := append_sep_inj (minus_notMem_text _) (minus_notMem_text _) hlist
  obtain ⟨hsport, hlist⟩ :=
    append_sep_inj (minus_notMem_toString _) (minus_notMem_toString _) hlist
  obtain ⟨hdport, hproto⟩ :=
    append_sep_inj (minus_notMem_toString _) (minus_notMem_toString _) hlist
  cases key
  cases key'
  rw [FlowKey.mk.injEq]
  exact ⟨Octets.text_inj (String.toList_inj.mp hsrc), Octets.text_inj (String.toList_inj.mp hdst),
    toNat_inj_uint16 hsport, toNat_inj_uint16 hdport,
    UInt8.toNat_inj.mp (toString_nat_inj hproto)⟩

theorem reverse_inj {key key' : FlowKey} (h : key.reverse = key'.reverse) : key = key' := by
  rw [← FlowKey.reverse_reverse key, h, FlowKey.reverse_reverse]

theorem reverse_eq_comm {key key' : FlowKey} : key.reverse = key' ↔ key = key'.reverse := by
  constructor
  · intro h
    rw [← h, FlowKey.reverse_reverse]
  · intro h
    rw [h, FlowKey.reverse_reverse]

/-! ## Conversations -/

/-- The packet goes between the two ends of the tuple, in one direction or the other. -/
def BasicPacketInfo.Of (packet : BasicPacketInfo) (key : FlowKey) : Prop :=
  packet.key = key ∨ packet.key = key.reverse

instance decidableOf (packet : BasicPacketInfo) (key : FlowKey) : Decidable (packet.Of key) :=
  inferInstanceAs (Decidable (_ ∨ _))

theorem BasicPacketInfo.of_key (packet : BasicPacketInfo) : packet.Of packet.key := .inl rfl

end SnortOptimizer.FlowMeter
