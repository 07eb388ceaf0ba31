import SnortOptimizer.Analyser.FlowMatch
import SnortOptimizer.Text.Columns

/-!
# Alerts inside flows (`wrap/snort/src/utils/util.cc`, `wrap/snort/src/loggers/alert_json.cc`)

What Snort prints of a packet that raises an alert: its addresses with their ports, the name of its
protocol, and a time stamp without a year. An alert is looked up by these texts, so whether it finds
the flow its packet belongs to depends on how much of the flow can be read back from them.

The local time zone has the same fixed offset for Snort and for the analyser.
-/

namespace SnortOptimizer.Analyser

open Text Time

/-! ## Packets and what is printed of them -/

/-- The characters `inet_ntop` writes. -/
def isAddressChar (c : Char) : Bool := c.isDigit || c ∈ ['a', 'b', 'c', 'd', 'e', 'f', '.', ':']

/-- An address as `inet_ntop` writes it. -/
structure Address where
  text : String
  ne_empty : text ≠ ""
  chars : ∀ c ∈ text.toList, isAddressChar c = true

/-- `protocol` is the IP protocol number, `sec` and `usec` the time stamp. -/
structure Packet where
  src : Address
  dst : Address
  protocol : UInt8
  sp : UInt16
  dp : UInt16
  sec : Int
  usec : Nat
  usec_lt : usec < 1000000

def Packet.hasPorts (p : Packet) : Bool := p.protocol = 6 ∨ p.protocol = 17

/-- `Packet::get_type`. -/
def Packet.type (p : Packet) : String :=
  if p.protocol = 6 then "TCP"
  else if p.protocol = 17 then "UDP"
  else if p.protocol = 1 ∨ p.protocol = 58 then "ICMP"
  else "IP"

/-- The ports as they are printed. -/
def Packet.srcPort (p : Packet) : Int := if p.hasPorts then p.sp.toNat else 0
def Packet.dstPort (p : Packet) : Int := if p.hasPorts then p.dp.toNat else 0

/-- The time stamp in nanoseconds. -/
def Packet.instant (p : Packet) : Int := p.sec * 1000000000 + p.usec * 1000

/-- `"%s:%u"`. -/
def addrPort (a : Address) (port : Int) : String := a.text ++ ":" ++ toString port

/-- `ts_print`, without a year; `%` and `/` of C round towards zero. -/
def tsPrint (zone sec : Int) (usec : Nat) : String :=
  let s := (sec + zone).tmod 86400
  let date := dateOfDay ((sec + zone - s) / 86400)
  String.ofList (dateText '/' date.month date.day ++ '-' ::
    clockText (s.tdiv 3600) ((s.tmod 3600).tdiv 60) (s.tmod 60) usec)

/-- What an alert has beside the packet. -/
structure Event where
  id : Int
  gid : Int
  sid : Int
  rev : Int

def Packet.alert (p : Packet) (zone : Int) (e : Event) : AlertForEval :=
  { id := e.id, timestamp := tsPrint zone p.sec p.usec, proto := p.type
    srcAP := addrPort p.src p.srcPort, dstAP := addrPort p.dst p.dstPort
    gid := e.gid, sid := e.sid, rev := e.rev }

/-! ## Packets of a flow -/

/-- The packet belongs to the flow, in either direction: it has the flow's addresses and, if it has
any, its ports, and the flow's protocol is its number or the name Snort has for it. -/
def Packet.OfFlow (rt : Runtime) (p : Packet) (f : FlowRecord) : Prop :=
  (f.protocol = normalizeProtocol rt (toString p.protocol.toNat) ∨
    f.protocol = normalizeProtocol rt p.type) ∧
  ((p.src.text = f.srcIP ∧ p.dst.text = f.dstIP ∧
      (p.hasPorts = true → p.srcPort = f.srcPort ∧ p.dstPort = f.dstPort)) ∨
    (p.src.text = f.dstIP ∧ p.dst.text = f.srcIP ∧
      (p.hasPorts = true → p.srcPort = f.dstPort ∧ p.dstPort = f.srcPort)))

/-- The alert is matched to a flow with the same tuple that contains the instant. -/
def Finds (rt : Runtime) (fs : FlowSet) (f : FlowRecord) (t : Int) (alert : AlertForEval) : Prop :=
  ∃ j g, matchAlertToFlow rt fs alert = some j ∧ fs.flows[j]? = some g ∧ g.SameTuple rt f ∧
    g.Contains t

/-- The protocol and the ports of the flow are those that Snort prints: it calls everything but TCP,
UDP and ICMP by the name of IP, and prints no ports but those of the first two. -/
def Packet.ShowsTuple (rt : Runtime) (p : Packet) (f : FlowRecord) : Prop :=
  mapUpper rt.upper f.protocol = mapUpper rt.upper (normalizeProtocol rt p.type) ∧
    (p.hasPorts = true ∨ (f.srcPort = 0 ∧ f.dstPort = 0))

/-- The time can be read back: its year is that of the first flow and has four digits, and the
clock shows no negative numbers. -/
structure Packet.ShowsTime (p : Packet) (zone year : Int) : Prop where
  year_eq : (yearAt zone p.instant : Int) = year
  year_ge : 1000 ≤ year
  clock : 0 ≤ p.sec + zone ∨ (86400 : Int) ∣ p.sec + zone

variable {rt : Runtime} {fs : FlowSet} {zone : Int}

/-! ## Addresses -/

theorem Address.not_mem (a : Address) {c : Char} (hc : isAddressChar c = false) :
    c ∉ a.text.toList := by
  intro hmem
  rw [a.chars c hmem] at hc
  cases hc

theorem isSpace_of_isAddressChar {c : Char} (h : isAddressChar c = true) : isSpace c = false := by
  unfold isAddressChar at h
  rw [Bool.or_eq_true, decide_eq_true_eq] at h
  rcases h with h | h
  · exact isSpace_of_isDigit h
  · simp only [List.mem_cons, List.not_mem_nil, or_false] at h
    rcases h with rfl | rfl | rfl | rfl | rfl | rfl | rfl | rfl <;> decide

/-- An address with its port is taken apart again. -/
theorem parseAddrPort_addrPort (a : Address) {n : Int} (hn : 0 ≤ n) (hlt : n < 65536) :
    parseAddrPort (addrPort a n) = some (a.text, n) := by
  obtain ⟨n, rfl⟩ := Int.eq_ofNat_of_zero_le hn
  have hport : (toString (n : Int)).toList = (toString n).toList := rfl
  have htext : (addrPort a n).toList = a.text.toList ++ ':' :: (toString n).toList := by
    rw [addrPort, String.toList_append, String.toList_append, List.append_assoc]
    rfl
  have hspace : ∀ c ∈ (addrPort a n).toList, isSpace c = false := by
    intro c hc
    rw [htext, List.mem_append, List.mem_cons] at hc
    rcases hc with hc | rfl | hc
    · exact isSpace_of_isAddressChar (a.chars c hc)
    · decide
    · exact isSpace_of_isDigit (isDigit_of_mem_toString hc)
  have hcolon : ':' ∉ (toString n).toList := fun hmem =>
    absurd (isDigit_of_mem_toString hmem) (by decide)
  have hhost : ¬ (a.text.toList = [] ∨ (toString n).toList = []) := by
    rintro (h | h)
    · exact a.ne_empty (String.toList_eq_nil_iff.mp h)
    · exact toString_nat_ne_nil n h
  have hbrackets : ∀ c ∈ a.text.toList, c ∉ ['[', ']'] := by
    intro c hc hmem
    simp only [List.mem_cons, List.not_mem_nil, or_false] at hmem
    rcases hmem with rfl | rfl
    · exact a.not_mem (by decide) hc
    · exact a.not_mem (by decide) hc
  have hatoi : atoi (toString n).toList = some (n : Int) := by
    rw [← hport]
    exact atoi_toString (by omega)
  rw [parseAddrPort, trimSpace_of_forall hspace, htext, splitLast_append hcolon]
  simp only [if_neg hhost, hatoi, Option.map_some, trim_of_forall hbrackets, String.ofList_toList]

theorem Packet.srcPort_range (p : Packet) : 0 ≤ p.srcPort ∧ p.srcPort < 65536 := by
  have hlt := p.sp.toNat_lt
  unfold Packet.srcPort
  split <;> omega

theorem Packet.dstPort_range (p : Packet) : 0 ≤ p.dstPort ∧ p.dstPort < 65536 := by
  have hlt := p.dp.toNat_lt
  unfold Packet.dstPort
  split <;> omega

/-! ## Alerts whose time is read -/

/-- The key under which the alert of a packet is looked up. -/
def Packet.key (rt : Runtime) (p : Packet) : String :=
  tupleKey rt p.src.text p.srcPort p.dst.text p.dstPort (normalizeProtocol rt p.type)

theorem matchAlertToFlow_alert (p : Packet) (e : Event) :
    matchAlertToFlow rt fs (p.alert zone e) =
      (parseAlertTime rt (tsPrint zone p.sec p.usec) fs.year).bind fun ts =>
        ((fs.index (p.key rt)).foldl (nearer fs ts) none).map Prod.fst := by
  have hsrc := parseAddrPort_addrPort p.src p.srcPort_range.1 p.srcPort_range.2
  have hdst := parseAddrPort_addrPort p.dst p.dstPort_range.1 p.dstPort_range.2
  simp only [matchAlertToFlow, Packet.alert, hsrc, hdst, Option.bind_eq_bind, Option.bind_some]
  rw [Packet.key]
  generalize parseAlertTime rt (tsPrint zone p.sec p.usec) fs.year = read
  cases read with
  | none => rfl
  | some ts =>
      simp only [Option.bind_some]
      generalize List.foldl (nearer fs ts) none _ = best
      cases best <;> rfl

/-- The flow is between the endpoints that are printed of the packet. -/
def Packet.Shows (rt : Runtime) (p : Packet) (f : FlowRecord) : Prop :=
  f.Between rt p.src.text p.srcPort p.dst.text p.dstPort (normalizeProtocol rt p.type)

theorem Packet.srcPort_of_not_hasPorts {p : Packet} (h : p.hasPorts ≠ true) : p.srcPort = 0 :=
  if_neg h

theorem Packet.dstPort_of_not_hasPorts {p : Packet} (h : p.hasPorts ≠ true) : p.dstPort = 0 :=
  if_neg h

theorem Packet.OfFlow.shows {p : Packet} {f : FlowRecord} (hp : p.OfFlow rt f)
    (hshows : p.ShowsTuple rt f) : p.Shows rt f := by
  obtain ⟨hproto, hports⟩ := hshows
  have hzero : p.hasPorts ≠ true → p.srcPort = f.srcPort ∧ p.dstPort = f.dstPort ∧
      p.srcPort = f.dstPort ∧ p.dstPort = f.srcPort := by
    intro hnone
    rw [p.srcPort_of_not_hasPorts hnone, p.dstPort_of_not_hasPorts hnone]
    obtain ⟨hsrc, hdst⟩ := hports.resolve_left hnone
    exact ⟨hsrc.symm, hdst.symm, hdst.symm, hsrc.symm⟩
  refine ⟨hproto, ?_⟩
  rcases hp.2 with ⟨hsrc, hdst, hsame⟩ | ⟨hsrc, hdst, hsame⟩
  · left
    by_cases hhas : p.hasPorts = true
    · exact ⟨hsrc.symm, (hsame hhas).1.symm, hdst.symm, (hsame hhas).2.symm⟩
    · exact ⟨hsrc.symm, (hzero hhas).1.symm, hdst.symm, (hzero hhas).2.1.symm⟩
  · right
    by_cases hhas : p.hasPorts = true
    · exact ⟨hdst.symm, (hsame hhas).2.symm, hsrc.symm, (hsame hhas).1.symm⟩
    · exact ⟨hdst.symm, (hzero hhas).2.2.2.symm, hsrc.symm, (hzero hhas).2.2.1.symm⟩

/-- A flow with the tuple of one that is shown is shown as well. -/
theorem Packet.Shows.showsTuple {p : Packet} {f g : FlowRecord} (hg : p.Shows rt g)
    (hsame : g.SameTuple rt f) : p.ShowsTuple rt f := by
  obtain ⟨hgp, hg⟩ := hg
  obtain ⟨hfp, hf⟩ := hsame
  refine ⟨hfp.symm.trans hgp, ?_⟩
  by_cases hhas : p.hasPorts = true
  · exact .inl hhas
  · right
    rw [p.srcPort_of_not_hasPorts hhas, p.dstPort_of_not_hasPorts hhas] at hg
    have hzero : g.srcPort = 0 ∧ g.dstPort = 0 := by
      rcases hg with ⟨_, h1, _, h2⟩ | ⟨_, h1, _, h2⟩
      · exact ⟨h1, h2⟩
      · exact ⟨h1, h2⟩
    rcases hf with ⟨_, h1, _, h2⟩ | ⟨_, h1, _, h2⟩
    · exact ⟨h1 ▸ hzero.1, h2 ▸ hzero.2⟩
    · exact ⟨h2 ▸ hzero.2, h1 ▸ hzero.1⟩

/-- The alert of a packet, once its time is read. -/
theorem Packet.reads (p : Packet) (e : Event) {year ts : Int}
    (h : parseAlertTime rt (tsPrint zone p.sec p.usec) year = some ts) :
    Reads rt year (p.alert zone e) p.src.text p.srcPort p.dst.text p.dstPort ts :=
  ⟨parseAddrPort_addrPort p.src p.srcPort_range.1 p.srcPort_range.2,
    parseAddrPort_addrPort p.dst p.dstPort_range.1 p.dstPort_range.2, h⟩

/-- The candidates are the flows that are shown. -/
theorem Loaded.matchAlertToFlow_alert_spec {rows : List FlowRow} (hfs : Loaded rt zone rows fs)
    (hbar : ∀ f ∈ fs.flows, f.NoBar) (p : Packet) (e : Event) {ts : Int}
    (hts : parseAlertTime rt (tsPrint zone p.sec p.usec) fs.year = some ts) :
    (matchAlertToFlow rt fs (p.alert zone e) = none ∧
      ∀ (j : Nat) g, ¬ (fs.flows[j]? = some g ∧ p.Shows rt g ∧ g.Contains ts)) ∨
    ∃ i f, matchAlertToFlow rt fs (p.alert zone e) = some i ∧
      fs.flows[i]? = some f ∧ p.Shows rt f ∧ f.Contains ts := by
  have hsrc : '|' ∉ p.src.text.toList := p.src.not_mem (by decide)
  have hdst : '|' ∉ p.dst.text.toList := p.dst.not_mem (by decide)
  rcases hfs.matchAlertToFlow_spec hbar (p.reads e hts) hsrc hdst with hnone | ⟨i, f, hi, hf, _⟩
  · exact .inl hnone
  · exact .inr ⟨i, f, hi, hf⟩

/-- **What a match says**: the flow is shown, and contains the instant that was read. -/
theorem Loaded.matchAlertToFlow_eq_some {rows : List FlowRow} (hfs : Loaded rt zone rows fs)
    (hbar : ∀ f ∈ fs.flows, f.NoBar) {p : Packet} {e : Event} {j : Nat}
    (h : matchAlertToFlow rt fs (p.alert zone e) = some j) :
    ∃ ts g, parseAlertTime rt (tsPrint zone p.sec p.usec) fs.year = some ts ∧
      fs.flows[j]? = some g ∧ p.Shows rt g ∧ g.Contains ts := by
  obtain ⟨_, _, _, _, ts, hreads⟩ := reads_of_matchAlertToFlow h
  have hts : parseAlertTime rt (tsPrint zone p.sec p.usec) fs.year = some ts := hreads.time
  rcases hfs.matchAlertToFlow_alert_spec hbar p e hts with ⟨hnone, _⟩ | ⟨i, g, hi, hg⟩
  · rw [hnone] at h
    cases h
  · rw [hi] at h
    cases h
    exact ⟨ts, g, hts, hg⟩

/-- Where the time is read and a flow that is shown contains it, there is a match. -/
theorem Loaded.matchAlertToFlow_isSome {rows : List FlowRow} (hfs : Loaded rt zone rows fs)
    (hbar : ∀ f ∈ fs.flows, f.NoBar) {p : Packet} (e : Event) {ts : Int} {i : Nat} {f : FlowRecord}
    (hts : parseAlertTime rt (tsPrint zone p.sec p.usec) fs.year = some ts)
    (hf : fs.flows[i]? = some f) (hshows : p.Shows rt f) (hin : f.Contains ts) :
    ∃ j, matchAlertToFlow rt fs (p.alert zone e) = some j := by
  rcases hfs.matchAlertToFlow_alert_spec hbar p e hts with ⟨_, hnone⟩ | ⟨j, _, hj, _⟩
  · exact absurd ⟨hf, hshows, hin⟩ (hnone i f)
  · exact ⟨j, hj⟩

end SnortOptimizer.Analyser
