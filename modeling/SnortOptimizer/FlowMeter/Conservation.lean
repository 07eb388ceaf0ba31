import SnortOptimizer.FlowMeter.Runs

/-!
# Where the packets of a capture go

A packet is in one flow or in none. It is in none if it is the repeated `FIN` of the side that
opened its flow (`dropped`), and if its flow has no other packet: such a flow is left out when it
expires (`expiredAlone`) and when the capture ends (`loneAtEnd`). All other packets are in exactly
one row of the table (`capture_perm`).
-/

namespace SnortOptimizer.FlowMeter

open List

/-! ## A map and one of its entries -/

section Entries

variable {α β : Type} [DecidableEq α] {m : AList fun _ : α => β} {a : α} {b : β}

theorem entries_perm_of_lookup (h : m.lookup a = some b) :
    m.entries ~ ⟨a, b⟩ :: (m.erase a).entries := by
  obtain ⟨b', front, back, hfront, hentries, herase⟩ :=
    List.exists_of_kerase (AList.lookup_isSome.mp (by rw [h]; rfl) : a ∈ m.keys)
  have hmem : (⟨a, b'⟩ : Sigma fun _ : α => β) ∈ m.entries := by
    rw [hentries]
    exact List.mem_append_right _ List.mem_cons_self
  have hb : b' = b := by
    have hb' : m.lookup a = some b' := AList.mem_lookup_iff.mpr hmem
    exact Option.some.inj (hb'.symm.trans h)
  subst hb
  have herase : (m.erase a).entries = front ++ back := herase
  rw [hentries, herase]
  exact List.perm_middle

theorem entries_insert_eq (m : AList fun _ : α => β) (a : α) (b : β) :
    (m.insert a b).entries = ⟨a, b⟩ :: (m.erase a).entries := AList.entries_insert

theorem erase_of_notMem (h : a ∉ m) : m.erase a = m := by
  apply AList.ext
  exact List.kerase_of_notMem_keys h

end Entries

namespace FlowGenerator

variable (g : FlowGenerator) (packet : BasicPacketInfo)

/-- All flows, those that are over and those that go on. -/
def flows : List BasicFlow := g.generated ++ g.currentFlows.entries.map Sigma.snd

/-- The packet of a flow that has expired without another one. -/
def expiredAlone : List BasicPacketInfo :=
  match g.currentFlows.lookup (g.lookupId packet) with
  | some flow =>
      if flow.effect g.settings packet = .expire ∧ flow.packetCount ≤ 1 then flow.packets else []
  | none => []

/-- The packet itself, if it is thrown away. -/
def dropped : List BasicPacketInfo :=
  match g.currentFlows.lookup (g.lookupId packet) with
  | some flow => if flow.effect g.settings packet = .drop then [packet] else []
  | none => []

/-- What goes missing along a capture. -/
def along (loss : FlowGenerator → BasicPacketInfo → List BasicPacketInfo) :
    FlowGenerator → List BasicPacketInfo → List BasicPacketInfo
  | _, [] => []
  | g, packet :: packets => loss g packet ++ along loss (g.addPacket packet) packets

/-- The packets of flows that go on when the capture ends and have no other packet. -/
def loneAtEnd (order : ValueOrder) : List BasicPacketInfo :=
  ((order.values g.currentFlows).filter fun flow => flow.packetCount ≤ 1).flatMap BasicFlow.packets

theorem along_concat (loss : FlowGenerator → BasicPacketInfo → List BasicPacketInfo)
    (packets : List BasicPacketInfo) :
    along loss g (packets ++ [packet]) =
      along loss g packets ++ loss (g.addPackets packets) packet := by
  induction packets generalizing g with
  | nil => simp [along, addPackets]
  | cons p packets ih =>
      rw [List.cons_append, along, ih, along, List.append_assoc]
      rfl

/-! ## One step -/

variable {g packet} {s : Settings} {capture : List BasicPacketInfo}

/-- What a packet does to the flow it finds: counted over all flows and what goes missing, it is one
packet more. -/
theorem settle_packets {flow : BasicFlow}
    (h : g.currentFlows.lookup (flowId flow.key) = some flow) :
    (g.settle (flowId flow.key) flow packet).flows.flatMap BasicFlow.packets ++
      ((if flow.effect g.settings packet = .expire ∧ flow.packetCount ≤ 1 then flow.packets else []) ++
        if flow.effect g.settings packet = .drop then [packet] else []) ~
      g.flows.flatMap BasicFlow.packets ++ [packet] := by
  rw [List.perm_iff_count]
  intro p
  -- the packets of the other flows stay where they are
  let rest := ((g.currentFlows.erase (flowId flow.key)).entries.map Sigma.snd).flatMap
    BasicFlow.packets
  have hbefore : (g.flows.flatMap BasicFlow.packets).count p =
      (g.generated.flatMap BasicFlow.packets).count p + (flow.packets.count p + rest.count p) := by
    have hperm := ((entries_perm_of_lookup h).map Sigma.snd).flatMap_right BasicFlow.packets
    rw [flows, List.flatMap_append, List.count_append, hperm.count_eq, List.map_cons,
      List.flatMap_cons, List.count_append]
  have hput (g' : FlowGenerator) (hg' : g'.currentFlows = g.currentFlows) (f : BasicFlow) :
      ((g'.put (flowId flow.key) f).flows.flatMap BasicFlow.packets).count p =
        (g'.generated.flatMap BasicFlow.packets).count p + (f.packets.count p + rest.count p) := by
    rw [flows, List.flatMap_append, List.count_append, put, entries_insert_eq, hg', List.map_cons,
      List.flatMap_cons, List.count_append]
  have hgenerated (f : BasicFlow) :
      ((g.onFlowGenerated f).generated.flatMap BasicFlow.packets).count p =
        (g.generated.flatMap BasicFlow.packets).count p + f.packets.count p := by
    rw [onFlowGenerated, List.flatMap_append, List.count_append, List.flatMap_singleton]
  rw [settle, List.count_append, List.count_append, List.count_append, hbefore]
  cases heffect : flow.effect g.settings packet with
  | expire =>
      by_cases hcount : 1 < flow.packetCount
      · simp only [if_pos hcount]
        rw [hput (g.onFlowGenerated flow) rfl, hgenerated, BasicFlow.reopened_packets,
          if_neg fun h => by omega, if_neg (by simp)]
        simp only [List.count_nil]
        omega
      · simp only [if_neg hcount]
        rw [hput g rfl, BasicFlow.reopened_packets, if_pos ⟨trivial, by omega⟩,
          if_neg (by simp)]
        simp only [List.count_nil]
        omega
  | join =>
      have hjoined := (BasicFlow.joined_packets g.settings flow packet).count_eq p
      rw [List.count_append] at hjoined
      simp only [hput g rfl, hjoined, reduceCtorEq, false_and, if_false, List.count_nil]
      omega
  | finish =>
      have hfinished := (BasicFlow.finished_packets flow packet).count_eq p
      rw [List.count_append] at hfinished
      have hremove : (((g.onFlowGenerated (flow.finished packet)).remove
          (flowId flow.key)).flows.flatMap BasicFlow.packets).count p =
          ((g.onFlowGenerated (flow.finished packet)).generated.flatMap BasicFlow.packets).count p +
            rest.count p := by
        rw [flows, List.flatMap_append, List.count_append]
        rfl
      simp only [hremove, hgenerated, hfinished, reduceCtorEq, false_and, if_false, List.count_nil]
      omega
  | drop =>
      simp only [hput g rfl, BasicFlow.countFIN_packets, reduceCtorEq, false_and, if_false, if_true,
        List.count_nil]
      omega

/-- One step: a packet more among the flows and what goes missing. -/
theorem Tracked.addPacket_packets (h : Tracked s capture g) (packet : BasicPacketInfo) :
    (g.addPacket packet).flows.flatMap BasicFlow.packets ++
        (g.expiredAlone packet ++ g.dropped packet) ~
      g.flows.flatMap BasicFlow.packets ++ [packet] := by
  rcases h.addPacket_cases packet with ⟨hnone, hfwd, -, hopen⟩ |
    ⟨packets, flow, -, -, -, hid, hflow, hsettle⟩
  · have hmissing : g.expiredAlone packet ++ g.dropped packet = [] := by
      simp only [expiredAlone, dropped, hnone, List.append_nil]
    have hnew : flowId packet.key ∉ g.currentFlows := hfwd
    rw [hmissing, List.append_nil, hopen, flows, FlowGenerator.put, entries_insert_eq,
      erase_of_notMem hnew, List.map_cons, List.flatMap_append, List.flatMap_cons,
      BasicFlow.opened_packets, flows, List.flatMap_append, List.append_assoc]
    exact List.perm_append_comm.append_left _
  · have hfound : g.currentFlows.lookup (g.lookupId packet) = some flow := by rw [hid, hflow]
    have hmissing : g.expiredAlone packet ++ g.dropped packet =
        (if flow.effect g.settings packet = .expire ∧ flow.packetCount ≤ 1 then flow.packets
          else []) ++ if flow.effect g.settings packet = .drop then [packet] else [] := by
      simp only [expiredAlone, dropped, hfound]
    rw [hmissing, hsettle]
    exact settle_packets hflow

/-! ## Whole captures -/

/-- The flows after a capture and what has gone missing along it are the packets of the capture. -/
theorem flows_perm (s : Settings) (capture : List BasicPacketInfo) :
    capture ~ ((init s).addPackets capture).flows.flatMap BasicFlow.packets ++
      (along expiredAlone (init s) capture ++ along dropped (init s) capture) := by
  induction capture using List.reverseRecOn with
  | nil => exact .refl _
  | append_singleton capture packet ih =>
      have hstep := (tracked_addPackets s capture).addPacket_packets packet
      rw [List.perm_iff_count] at ih hstep ⊢
      intro p
      have hcount := ih p
      have hcountStep := hstep p
      simp only [addPackets_concat, along_concat, List.count_append] at hcount hcountStep ⊢
      omega

/-- What is thrown away is a `FIN`. -/
theorem flagFIN_of_mem_dropped {p : BasicPacketInfo} (h : p ∈ g.dropped packet) :
    p = packet ∧ packet.flagFIN = true := by
  unfold dropped at h
  split at h
  · split at h
    · next hdrop =>
        exact ⟨List.mem_singleton.mp h, (BasicFlow.effect_eq_drop.mp hdrop).2.1⟩
    · cases h
  · cases h

theorem flagFIN_of_mem_along {p : BasicPacketInfo} (h : p ∈ along dropped g capture) :
    p.flagFIN = true := by
  induction capture generalizing g with
  | nil => cases h
  | cons packet capture ih =>
      rcases List.mem_append.mp h with h | h
      · obtain ⟨rfl, hfin⟩ := flagFIN_of_mem_dropped h
        exact hfin
      · exact ih h

/-- **Every packet is accounted for**: it is in one row of the table, or it is alone in a flow that
has expired or that the capture ends with, or it is a `FIN` said twice. No row has fewer than two
packets. -/
theorem capture_perm (s : Settings) (order : ValueOrder) (capture : List BasicPacketInfo) :
    let g := (init s).addPackets capture
    capture ~ (g.rows order).flatMap BasicFlow.packets ++ (g.loneAtEnd order ++
        along expiredAlone (init s) capture ++ along dropped (init s) capture) ∧
      (∀ row ∈ g.rows order, 1 < row.packetCount) ∧
      ∀ p ∈ along dropped (init s) capture, p.flagFIN = true := by
  intro g
  refine ⟨?_, ?_, fun p => flagFIN_of_mem_along⟩
  · refine (flows_perm s capture).trans ?_
    -- those that go on are printed or not, as they have more packets than one or not
    have hsplit : g.flows.flatMap BasicFlow.packets ~
        (g.rows order).flatMap BasicFlow.packets ++ g.loneAtEnd order := by
      have hvalues := (order.perm g.currentFlows).flatMap_right BasicFlow.packets
      have hparts := (List.filter_append_perm (fun flow => decide (1 < flow.packetCount))
        (order.values g.currentFlows)).flatMap_right BasicFlow.packets
      have hlone : (fun flow : BasicFlow => !decide (1 < flow.packetCount)) =
          fun flow => decide (flow.packetCount ≤ 1) := by
        funext flow
        by_cases hcount : 1 < flow.packetCount
        · simp [hcount]
        · simp [hcount, Nat.not_lt.mp hcount]
      rw [hlone, List.flatMap_append] at hparts
      rw [flows, rows, loneAtEnd, List.flatMap_append, List.flatMap_append, List.append_assoc]
      exact (hvalues.symm.trans hparts.symm).append_left _
    have hall := hsplit.append_right
      (along expiredAlone (init s) capture ++ along dropped (init s) capture)
    simpa only [List.append_assoc] using hall
  · intro row hrow
    rcases List.mem_append.mp hrow with hrow | hrow
    · obtain ⟨packets, hover⟩ := (tracked_addPackets s capture).generated row hrow
      rw [hover.packetCount.1]
      exact hover.packetCount.2
    · simpa using (List.mem_filter.mp hrow).2

end FlowGenerator

end SnortOptimizer.FlowMeter
