import SnortOptimizer.FlowMeter.Runs

/-!
# Conversations do not meet

The flows between two ends are made from the packets between these ends, and from nothing else:
whatever else is in a capture, and however it is interleaved with them, the listener is given the
same flows in the same order, and the same flow goes on (`conversation_flows`).
-/

namespace SnortOptimizer.FlowMeter

open Extractor

/-- The flow is between the ends of the key. -/
def BasicFlow.Of (flow : BasicFlow) (key : FlowKey) : Prop :=
  flow.key = key ∨ flow.key = key.reverse

instance decidableFlowOf (flow : BasicFlow) (key : FlowKey) : Decidable (flow.Of key) :=
  inferInstanceAs (Decidable (_ ∨ _))

section Ends

variable {packet : BasicPacketInfo} {flow : BasicFlow} {key : FlowKey}

/-- The ids of a packet are those of the conversation it belongs to. -/
theorem ids_iff (id : String) (h : packet.Of key) :
    id = packet.fwdFlowId ∨ id = packet.bwdFlowId ↔ id = flowId key ∨ id = flowId key.reverse := by
  rcases h with h | h
  · rw [BasicPacketInfo.fwdFlowId, BasicPacketInfo.bwdFlowId, h]
  · rw [BasicPacketInfo.fwdFlowId, BasicPacketInfo.bwdFlowId, h, FlowKey.reverse_reverse, or_comm]

/-- The ids of a packet of another conversation are others. -/
theorem ids_ne {id : String} (h : ¬ packet.Of key)
    (hid : id = flowId key ∨ id = flowId key.reverse) :
    id ≠ packet.fwdFlowId ∧ id ≠ packet.bwdFlowId := by
  rw [BasicPacketInfo.Of, not_or] at h
  rcases hid with rfl | rfl
  · refine ⟨fun heq => h.1 (flowId_inj heq).symm, fun heq => h.2 ?_⟩
    exact reverse_eq_comm.mp (flowId_inj heq).symm
  · refine ⟨fun heq => h.2 (flowId_inj heq).symm, fun heq => h.1 ?_⟩
    exact (reverse_inj (flowId_inj heq)).symm

/-- A packet and a flow it belongs to are between the same ends. -/
theorem BasicPacketInfo.Of.iff (h : packet.Of flow.key) : flow.Of key ↔ packet.Of key := by
  rw [BasicFlow.Of, BasicPacketInfo.Of]
  rcases h with h | h
  · rw [h]
  · rw [h, reverse_eq_comm, reverse_eq_comm, FlowKey.reverse_reverse, or_comm]

end Ends

namespace FlowGenerator

variable {s : Settings} {capture capture' : List BasicPacketInfo} {g g' : FlowGenerator}
  {packet : BasicPacketInfo} {key : FlowKey}

/-- Two generators agree about a conversation. -/
structure AgreeOn (key : FlowKey) (g g' : FlowGenerator) : Prop where
  generated : g.generated.filter (fun flow => flow.Of key) = g'.generated
  current : ∀ id, id = flowId key ∨ id = flowId key.reverse →
    g.currentFlows.lookup id = g'.currentFlows.lookup id

theorem lookupId_cases (g : FlowGenerator) (packet : BasicPacketInfo) :
    g.lookupId packet = packet.fwdFlowId ∨ g.lookupId packet = packet.bwdFlowId := by
  unfold lookupId
  split
  · exact .inl rfl
  · exact .inr rfl

theorem filedId_cases (g : FlowGenerator) (packet : BasicPacketInfo) :
    g.filedId packet = packet.fwdFlowId ∨ g.filedId packet = packet.bwdFlowId := by
  unfold filedId
  split
  · exact g.lookupId_cases packet
  · exact .inl rfl

/-- What the listener is given is between the ends of the flow that was found. -/
theorem key_of_mem_output {flow f : BasicFlow} (h : f ∈ flow.output s packet) :
    f.key = flow.key := by
  unfold BasicFlow.output at h
  split at h
  · split at h
    · rw [List.mem_singleton.mp h]
    · cases h
  · rw [List.mem_singleton.mp h, BasicFlow.finished_key]
  · cases h

/-- What a packet does outside its own conversation: nothing. -/
theorem Tracked.addPacket_frame (h : Tracked s capture g) (hof : ¬ packet.Of key) :
    (g.addPacket packet).generated.filter (fun flow => flow.Of key) =
        g.generated.filter (fun flow => flow.Of key) ∧
      ∀ id, id = flowId key ∨ id = flowId key.reverse →
        (g.addPacket packet).currentFlows.lookup id = g.currentFlows.lookup id := by
  obtain ⟨hgenerated, hcurrent⟩ := h.step packet
  constructor
  · rw [hgenerated, List.filter_append]
    refine (congrArg _ (List.filter_eq_nil_iff.mpr fun f hf => ?_)).trans (List.append_nil _)
    cases hfound : g.found packet with
    | none =>
        rw [hfound] at hf
        cases hf
    | some flow =>
        rw [hfound] at hf
        have hflow := h.of_key hfound (g.lookupId_cases packet)
        have hf' : packet.Of f.key := (key_of_mem_output hf).symm ▸ hflow
        simpa using mt hf'.iff.mp hof
  · intro id hid
    obtain ⟨hfwd, hbwd⟩ := ids_ne hof hid
    have hne : id ≠ g.filedId packet := by
      rcases g.filedId_cases packet with hfiled | hfiled
      · rw [hfiled]
        exact hfwd
      · rw [hfiled]
        exact hbwd
    rw [hcurrent, if_neg hne]

/-- What a packet does in its own conversation follows from the flow it finds there. -/
theorem Tracked.addPacket_agree (h : Tracked s capture g) (h' : Tracked s capture' g')
    (hof : packet.Of key) (hagree : AgreeOn key g g') :
    AgreeOn key (g.addPacket packet) (g'.addPacket packet) := by
  have hids := fun id => (ids_iff id hof).mp
  have hlookupId : g.lookupId packet = g'.lookupId packet := by
    have hmem : packet.fwdFlowId ∈ g.currentFlows ↔ packet.fwdFlowId ∈ g'.currentFlows := by
      rw [← AList.lookup_isSome, ← AList.lookup_isSome, hagree.current _ (hids _ (.inl rfl))]
    simp only [lookupId, hmem]
  have hfound : g.found packet = g'.found packet := by
    rw [found, found, ← hlookupId, hagree.current _ (hids _ (g.lookupId_cases packet))]
  obtain ⟨hgenerated, hcurrent⟩ := h.step packet
  obtain ⟨hgenerated', hcurrent'⟩ := h'.step packet
  constructor
  · rw [hgenerated, hgenerated', List.filter_append, hagree.generated, ← hfound]
    refine congrArg _ (List.filter_eq_self.mpr fun f hf => ?_)
    cases hflow : g.found packet with
    | none =>
        rw [hflow] at hf
        cases hf
    | some flow =>
        rw [hflow] at hf
        have hf' : packet.Of f.key :=
          (key_of_mem_output hf).symm ▸ h.of_key hflow (g.lookupId_cases packet)
        simpa using hf'.iff.mpr hof
  · intro id hid
    have hfiledId : g.filedId packet = g'.filedId packet := by
      rw [filedId, filedId, hfound, hlookupId]
    have hfiled : g.filed packet = g'.filed packet := by
      rw [filed, filed, hfound, h.settings, h'.settings]
    rw [hcurrent, hcurrent', hfiledId, hfiled, hagree.current id hid]

/-- **A conversation has its own flows**: those the generator makes of a capture, whatever else is
in it, are those it makes of the packets of the conversation alone. -/
theorem conversation_flows (s : Settings) (key : FlowKey) (capture : List BasicPacketInfo) :
    let g := (init s).addPackets capture
    let alone := (init s).addPackets (capture.filter fun packet => packet.Of key)
    g.generated.filter (fun flow => flow.Of key) = alone.generated ∧
      ∀ id, id = flowId key ∨ id = flowId key.reverse →
        g.currentFlows.lookup id = alone.currentFlows.lookup id := by
  suffices hagree : AgreeOn key ((init s).addPackets capture)
      ((init s).addPackets (capture.filter fun packet => packet.Of key)) from
    ⟨hagree.generated, hagree.current⟩
  induction capture using List.reverseRecOn with
  | nil => exact ⟨rfl, fun _ _ => rfl⟩
  | append_singleton capture packet ih =>
      have htracked := tracked_addPackets s capture
      rw [addPackets_concat, List.filter_append]
      by_cases hof : packet.Of key
      · rw [List.filter_singleton, decide_eq_true hof, cond_true, addPackets_concat]
        exact htracked.addPacket_agree (tracked_addPackets s _) hof ih
      · rw [List.filter_singleton, decide_eq_false hof, cond_false, List.append_nil]
        obtain ⟨hgenerated, hcurrent⟩ := htracked.addPacket_frame hof
        exact ⟨hgenerated.trans ih.generated, fun id hid =>
          (hcurrent id hid).trans (ih.current id hid)⟩

end FlowGenerator

end SnortOptimizer.FlowMeter
