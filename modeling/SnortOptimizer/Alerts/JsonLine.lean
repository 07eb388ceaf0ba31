import SnortOptimizer.Alerts.Import
import SnortOptimizer.Analyser.Packet
import SnortOptimizer.Profiler.RuleProfile
import SnortOptimizer.Sql.Script
import SnortOptimizer.Text.Json

/-!
# Alert lines (`wrap/snort/src/loggers/alert_json.cc`, `sql/alerts/parser.go`)

Snort writes an alert as an object of JSON on a line of its own, field by field; `ParseLine` reads
such a line. The two were written apart and share nothing but the names of the fields, so that an
alert is read back is a fact about both: `parseLine_alertLine` says that every line is, unless the
number of the packet does not fit into an `int64`.

The fields are those that are written unless others are asked for; the runner never does.
-/

namespace SnortOptimizer.Alerts

open Analyser Json Text Time

/-! ## What Snort knows of a packet -/

inductive PktType
  | none
  | ip
  | tcp
  | udp
  | icmp
  | user
  | file
  | pdu
  deriving DecidableEq

inductive PseudoPacketType
  | ip
  | tcp
  | udpQuic
  | user
  | dceSeg
  | dceFrag
  | smbSeg
  | smbTrans
  | max

inductive ActiveActionType
  | trust
  | allow
  | hold
  | retry
  | rewrite
  | drop
  | block
  | reset

inductive ActiveStatus
  | allow
  | cant
  | would
  | force

/-- The room for the text of an address. -/
def inet6AddrStrLen : Nat := 46

/-- A packet that raises an alert. `layer` is the name of its innermost layer if it has any,
`pseudo` is there for packets that Snort has made itself. The names of the layers are plain. -/
structure LoggedPacket where
  type : PktType
  tcp : Bool
  udp : Bool
  arp : Bool
  hasIp : Bool
  layer : Option String
  src : Address
  dst : Address
  sp : UInt16
  dp : UInt16
  sec : Nat
  usec : Nat
  packetNumber : UInt64
  dgramLen : UInt16
  dsize : UInt16
  pseudo : Option PseudoPacketType
  fromClient : Bool
  fromServer : Bool
  swapped : Bool
  action : ActiveActionType
  status : ActiveStatus
  usec_lt : usec < 1000000
  src_fits : src.text.length < inet6AddrStrLen
  dst_fits : dst.text.length < inet6AddrStrLen
  layer_plain : ∀ name ∈ layer, name.length < 64 ∧ ∀ c ∈ name.toList, c.isAlphanum = true ∨ c = '_'

/-- The ids of the rule that raised the alert. -/
structure SigIds where
  gid : UInt32
  sid : UInt32
  rev : UInt32

namespace LoggedPacket

variable (p : LoggedPacket)

def isData : Bool := p.type = .pdu ∨ p.type = .file ∨ p.type = .user

/-- `Packet::get_type`. -/
def getType : String :=
  match p.type with
  | .ip => "IP"
  | .icmp => "ICMP"
  | .tcp => "TCP"
  | .udp => "UDP"
  | .pdu | .user | .file => if p.tcp then "TCP" else if p.udp then "UDP" else "Error"
  | .none => if p.arp then "ARP" else p.layer.getD "None"

/-- `Packet::get_pseudo_type`. -/
def getPseudoType : String :=
  match p.pseudo with
  | none => "raw"
  | some .ip => "stream_ip"
  | some .tcp => "stream_tcp"
  | some .user => "stream_user"
  | some .dceSeg => "dce2_rpc_deseg"
  | some .dceFrag => "dce2_rpc_defrag"
  | some .smbSeg => "dce2_smb_deseg"
  | some .smbTrans => "dce2_smb_transact"
  | some .udpQuic | some .max => "other"

/-- The sides are those of the application, which may be the other way round. -/
def isFromApplicationClient : Bool := if p.swapped then p.fromServer else p.fromClient
def isFromApplicationServer : Bool := if p.swapped then p.fromClient else p.fromServer

/-- `act_str`. -/
def getActionString : String :=
  match p.action, p.status with
  | .trust, .allow => "trust"
  | .allow, .allow => "allow"
  | .hold, .allow => "hold"
  | .retry, .allow => "retry"
  | .trust, _ | .allow, _ | .hold, _ | .retry, _ => "error"
  | .rewrite, .allow => "rewrite"
  | .rewrite, .cant => "cant_rewrite"
  | .rewrite, .would => "would_rewrite"
  | .rewrite, .force => "force_rewrite"
  | .drop, .allow => "drop"
  | .drop, .cant => "cant_drop"
  | .drop, .would => "would_drop"
  | .drop, .force => "force_drop"
  | .block, .allow => "block"
  | .block, .cant => "cant_block"
  | .block, .would => "would_block"
  | .block, .force => "force_block"
  | .reset, .allow => "reset"
  | .reset, .cant => "cant_reset"
  | .reset, .would => "would_reset"
  | .reset, .force => "force_reset"

/-- The texts of the fields. -/
def dir : String :=
  if p.isFromApplicationClient then "C2S" else if p.isFromApplicationServer then "S2C" else "UNK"

def pktLen : Nat := if p.hasIp then p.dgramLen.toNat else p.dsize.toNat

/-- An address is there for packets that have one, a port only for TCP and UDP. -/
def addrPort (addr : Address) (port : UInt16) : String :=
  (if p.hasIp || p.isData then addr.text else "") ++ ":" ++
    toString (if p.tcp || p.udp then port.toNat else 0)

end LoggedPacket

def SigIds.rule (e : SigIds) : String :=
  toString e.gid.toNat ++ ":" ++ toString e.sid.toNat ++ ":" ++ toString e.rev.toNat

/-! ## Writing a line -/

/-- `Args`, with the offset of the local time. -/
structure Args where
  pkt : LoggedPacket
  event : SigIds
  zone : Int
  comma : Bool

def printLabel (a : Args) (label : String) : List Char :=
  (if a.comma then [','] else []) ++ " \"".toList ++ label.toList ++ "\" : ".toList

/-- `TextLog_Quote`. -/
def textLogQuote (s : String) : List Char := quoted s.toList

/-- A text that is put between quotes as it is. -/
def between (s : String) : List Char := '"' :: (s.toList ++ ['"'])

def ffTimestamp (a : Args) : List Char :=
  printLabel a "timestamp" ++ between (tsPrint a.zone a.pkt.sec a.pkt.usec)

def ffPktNum (a : Args) : List Char :=
  printLabel a "pkt_num" ++ (toString a.pkt.packetNumber.toNat).toList

def ffProto (a : Args) : List Char := printLabel a "proto" ++ textLogQuote a.pkt.getType

def ffPktGen (a : Args) : List Char := printLabel a "pkt_gen" ++ textLogQuote a.pkt.getPseudoType

def ffPktLen (a : Args) : List Char := printLabel a "pkt_len" ++ (toString a.pkt.pktLen).toList

def ffDir (a : Args) : List Char := printLabel a "dir" ++ textLogQuote a.pkt.dir

def ffSrcAp (a : Args) : List Char :=
  printLabel a "src_ap" ++ between (a.pkt.addrPort a.pkt.src a.pkt.sp)

def ffDstAp (a : Args) : List Char :=
  printLabel a "dst_ap" ++ between (a.pkt.addrPort a.pkt.dst a.pkt.dp)

def ffRule (a : Args) : List Char := printLabel a "rule" ++ between a.event.rule

def ffAction (a : Args) : List Char := printLabel a "action" ++ textLogQuote a.pkt.getActionString

/-- `json_deflt`. -/
def jsonDeflt : List (Args → List Char) :=
  [ffTimestamp, ffPktNum, ffProto, ffPktGen, ffPktLen, ffDir, ffSrcAp, ffDstAp, ffRule, ffAction]

/-- The loop of `JsonLogger::alert`: there is a comma before every field but the first. -/
def writeFields (a : Args) : List (Args → List Char) → List Char
  | [] => []
  | f :: fs => f a ++ writeFields { a with comma := true } fs

/-- `JsonLogger::alert`, without the newline at the end. -/
def alertLine (fields : List (Args → List Char)) (zone : Int) (pkt : LoggedPacket)
    (event : SigIds) : List Char :=
  '\x7b' :: writeFields { pkt := pkt, event := event, zone := zone, comma := false } fields ++
    " \x7d".toList

/-! ## Reading a line -/

structure RawAlert where
  timestamp : String
  pktNum : Int
  proto : String
  pktGen : String
  pktLen : Int
  dir : String
  srcAP : String
  dstAP : String
  rule : String
  action : String

def RawAlert.zero : RawAlert :=
  { timestamp := "", pktNum := 0, proto := "", pktGen := "", pktLen := 0, dir := "", srcAP := ""
    dstAP := "", rule := "", action := "" }

/-- The fields with the names in their tags. -/
def rawAlertFields : List (String × Target RawAlert) :=
  [("timestamp", .string fun r s => { r with timestamp := s }),
    ("pkt_num", .int64 fun r n => { r with pktNum := n }),
    ("proto", .string fun r s => { r with proto := s }),
    ("pkt_gen", .string fun r s => { r with pktGen := s }),
    ("pkt_len", .int64 fun r n => { r with pktLen := n }),
    ("dir", .string fun r s => { r with dir := s }),
    ("src_ap", .string fun r s => { r with srcAP := s }),
    ("dst_ap", .string fun r s => { r with dstAP := s }),
    ("rule", .string fun r s => { r with rule := s }),
    ("action", .string fun r s => { r with action := s })]

def parseRuleID (rule : String) : Int × Int × Int :=
  match rule.toList.splitOn ':' with
  | [gid, sid, rev] => (Profiler.mustInt gid, Profiler.mustInt sid, Profiler.mustInt rev)
  | _ => (0, 0, 0)

/-- The bytes of a text, each as a character. -/
def byteText (s : Bytes) : String := String.ofList (s.map fun b => Char.ofNat b.toNat)

def parseLine (line : Bytes) : Option Sql.Alert := do
  let rawJSON := trimSpaceBytes line
  let raw ← unmarshal rawAlertFields .zero (decodeText rawJSON)
  let (gid, sid, rev) := parseRuleID raw.rule
  return { timestamp := raw.timestamp, pktNum := raw.pktNum, proto := raw.proto
           pktGen := raw.pktGen, pktLen := raw.pktLen, dir := raw.dir, srcAP := raw.srcAP
           dstAP := raw.dstAP, gid := gid, sid := sid, rev := rev, rule := raw.rule
           action := raw.action, rawJSON := byteText rawJSON, createdAt := "" }

/-! ## The texts of the fields -/

/-- A text of visible characters that needs no backslashes. -/
structure Plain (s : String) : Prop where
  visible : ∀ c ∈ s.toList, isVisible c = true
  label : isLabel s.toList = true

def isPlain (c : Char) : Bool := isVisible c && c ≠ '"' && c ≠ '\\'

theorem plain_of_all {s : String} (h : s.toList.all isPlain = true) : Plain s := by
  simp only [List.all_eq_true, isPlain, Bool.and_eq_true, decide_eq_true_eq] at h
  refine ⟨fun c hc => (h c hc).1.1, ?_⟩
  rw [isLabel, List.all_eq_true]
  intro c hc
  obtain ⟨⟨hvisible, hquote⟩, hslash⟩ := h c hc
  simp only [Bool.and_eq_true, decide_eq_true_eq]
  exact ⟨⟨hquote, hslash⟩, (of_decide_eq_true hvisible).1⟩

theorem isPlain_of_isDigit {c : Char} (hc : c.isDigit = true) : isPlain c = true := by
  have hne : ∀ d : Char, d.isDigit = false → c ≠ d := by
    rintro d hd rfl
    rw [hc] at hd
    cases hd
  rw [isPlain, isVisible_of_isDigit hc]
  simp [hne '"' (by decide), hne '\\' (by decide)]

theorem isPlain_of_isAddressChar {c : Char} (hc : isAddressChar c = true) : isPlain c = true := by
  unfold isAddressChar at hc
  rw [Bool.or_eq_true, decide_eq_true_eq] at hc
  rcases hc with hc | hc
  · exact isPlain_of_isDigit hc
  · simp only [List.mem_cons, List.not_mem_nil, or_false] at hc
    rcases hc with rfl | rfl | rfl | rfl | rfl | rfl | rfl | rfl <;> decide

theorem all_plain_toString (n : Nat) : (toString n).toList.all isPlain = true :=
  List.all_eq_true.mpr fun _ hc => isPlain_of_isDigit (isDigit_of_mem_toString hc)

theorem all_plain_zeroPad (width : Nat) (n : Int) : (zeroPad width n).all isPlain = true := by
  rw [List.all_eq_true]
  intro c hc
  rcases mem_zeroPad hc with hdigit | ⟨rfl, -⟩
  · exact isPlain_of_isDigit hdigit
  · decide

theorem plain_tsPrint (zone sec : Int) (usec : Nat) : Plain (tsPrint zone sec usec) := by
  apply plain_of_all
  have hslash : isPlain '/' = true := by decide
  have hdash : isPlain '-' = true := by decide
  have hcolon : isPlain ':' = true := by decide
  have hpoint : isPlain '.' = true := by decide
  simp only [tsPrint, dateText, clockText, String.toList_ofList, List.all_append, List.all_cons,
    all_plain_zeroPad, hslash, hdash, hcolon, hpoint, Bool.and_self]

theorem plain_addrPort (p : LoggedPacket) (addr : Address) (port : UInt16) :
    Plain (p.addrPort addr port) := by
  apply plain_of_all
  have hcolon : ":".toList.all isPlain = true := by decide
  have haddr : (if p.hasIp || p.isData then addr.text else "").toList.all isPlain = true := by
    split
    · rw [List.all_eq_true]
      exact fun c hc => isPlain_of_isAddressChar (addr.chars c hc)
    · rfl
  simp only [LoggedPacket.addrPort, String.toList_append, List.all_append, haddr, hcolon,
    all_plain_toString, Bool.and_self]

theorem plain_rule (e : SigIds) : Plain e.rule := by
  apply plain_of_all
  have hcolon : ":".toList.all isPlain = true := by decide
  simp only [SigIds.rule, String.toList_append, List.all_append, all_plain_toString, hcolon,
    Bool.and_self]

theorem isPlain_of_layerChar {c : Char} (hc : c.isAlphanum = true ∨ c = '_') :
    isPlain c = true := by
  rcases hc with hc | rfl
  · have hrange : (48 ≤ c.toNat ∧ c.toNat ≤ 57) ∨ (65 ≤ c.toNat ∧ c.toNat ≤ 90) ∨
        (97 ≤ c.toNat ∧ c.toNat ≤ 122) := by
      have hcases : (decide (c.val ≥ 'A'.val ∧ c.val ≤ 'Z'.val) ||
          (c.val ≥ 'a'.val && c.val ≤ 'z'.val) || (c.val ≥ '0'.val && c.val ≤ '9'.val)) = true := hc
      simp only [Bool.or_eq_true, Bool.and_eq_true, decide_eq_true_eq, UInt32.le_iff_toNat_le,
        ge_iff_le] at hcases
      exact hcases.symm
    have hne : ∀ d : Char, d.toNat = 34 ∨ d.toNat = 92 → c ≠ d := by
      rintro d hd rfl
      omega
    have hvisible : isVisible c = true := by
      rw [isVisible, decide_eq_true_eq]
      omega
    rw [isPlain, hvisible]
    simp [hne '"' (.inl rfl), hne '\\' (.inr rfl)]
  · decide

theorem plain_getType (p : LoggedPacket) : Plain p.getType := by
  apply plain_of_all
  have hlayer : (p.layer.getD "None").toList.all isPlain = true := by
    cases hlayer : p.layer with
    | none => decide
    | some name =>
        rw [Option.getD_some, List.all_eq_true]
        exact fun c hc => isPlain_of_layerChar ((p.layer_plain name hlayer).2 c hc)
  have hdata : (if p.tcp then "TCP" else if p.udp then "UDP" else "Error").toList.all isPlain =
      true := by
    cases p.tcp <;> cases p.udp <;> decide
  unfold LoggedPacket.getType
  cases p.type with
  | ip | icmp | tcp | udp =>
      dsimp only
      decide
  | pdu | user | file => exact hdata
  | none =>
      dsimp only
      split
      · decide
      · exact hlayer

theorem plain_getPseudoType (p : LoggedPacket) : Plain p.getPseudoType := by
  apply plain_of_all
  unfold LoggedPacket.getPseudoType
  split <;> decide

theorem plain_dir (p : LoggedPacket) : Plain p.dir := by
  apply plain_of_all
  unfold LoggedPacket.dir
  split
  · decide
  · split <;> decide

theorem plain_getActionString (p : LoggedPacket) : Plain p.getActionString := by
  apply plain_of_all
  unfold LoggedPacket.getActionString
  cases p.action <;> cases p.status <;> decide

/-! ## A line is an object -/

/-- The first field of a line, and the others. -/
def firstMember (zone : Int) (p : LoggedPacket) : String × Scalar :=
  ("timestamp", .string (tsPrint zone p.sec p.usec).toList)

def otherMembers (p : LoggedPacket) (e : SigIds) : List (String × Scalar) :=
  [("pkt_num", .nat p.packetNumber.toNat), ("proto", .string p.getType.toList),
    ("pkt_gen", .string p.getPseudoType.toList), ("pkt_len", .nat p.pktLen),
    ("dir", .string p.dir.toList), ("src_ap", .string (p.addrPort p.src p.sp).toList),
    ("dst_ap", .string (p.addrPort p.dst p.dp).toList), ("rule", .string e.rule.toList),
    ("action", .string p.getActionString.toList)]

theorem Plain.between {s : String} (h : Plain s) : between s = quoted s.toList :=
  (quoted_of_isLabel h.label).symm

theorem printLabel_append (a : Args) (label : String) (text : List Char) :
    printLabel a label ++ text =
      (if a.comma then [','] else []) ++ memberText label.toList text := by
  have hopen : " \"".toList = [' ', '"'] := by decide
  have hclose : "\" : ".toList = ['"', ' ', ':', ' '] := by decide
  simp only [printLabel, memberText, hopen, hclose, List.append_assoc, List.cons_append,
    List.nil_append]

theorem alertLine_eq (zone : Int) (p : LoggedPacket) (e : SigIds) :
    alertLine jsonDeflt zone p e = objectText (firstMember zone p) (otherMembers p e) := by
  have hend : " \x7d".toList = [' ', '\x7d'] := by decide
  simp only [alertLine, jsonDeflt, writeFields, ffTimestamp, ffPktNum, ffProto, ffPktGen, ffPktLen,
    ffDir, ffSrcAp, ffDstAp, ffRule, ffAction, printLabel_append, textLogQuote,
    (plain_tsPrint zone p.sec p.usec).between, (plain_addrPort p p.src p.sp).between,
    (plain_addrPort p p.dst p.dp).between, (plain_rule e).between, Bool.false_eq_true, if_false,
    if_true, hend]
  simp only [objectText, firstMember, otherMembers, Scalar.text, List.flatMap_cons,
    List.flatMap_nil, List.append_assoc, List.cons_append, List.nil_append, List.append_nil]

theorem members_plain (zone : Int) (p : LoggedPacket) (e : SigIds) :
    ∀ x ∈ firstMember zone p :: otherMembers p e, Plain x.1 ∧ x.2.Visible := by
  have hlabels : ((firstMember zone p :: otherMembers p e).map Prod.fst).all
      (fun label => label.toList.all isPlain) = true := by
    show ["timestamp", "pkt_num", "proto", "pkt_gen", "pkt_len", "dir", "src_ap", "dst_ap", "rule",
      "action"].all (fun label => label.toList.all isPlain) = true
    decide
  intro x hx
  refine ⟨plain_of_all (List.all_eq_true.mp hlabels x.1 (List.mem_map_of_mem hx)), ?_⟩
  revert x
  rw [List.forall_mem_cons, otherMembers]
  simp only [List.forall_mem_cons, List.not_mem_nil, false_implies, implies_true, and_true]
  exact ⟨(plain_tsPrint zone p.sec p.usec).visible, trivial, (plain_getType p).visible,
    (plain_getPseudoType p).visible, trivial, (plain_dir p).visible,
    (plain_addrPort p p.src p.sp).visible, (plain_addrPort p p.dst p.dp).visible,
    (plain_rule e).visible, (plain_getActionString p).visible⟩

theorem visible_alertLine (zone : Int) (p : LoggedPacket) (e : SigIds) :
    ∀ c ∈ alertLine jsonDeflt zone p e, isVisible c = true := by
  rw [alertLine_eq]
  apply visible_objectText
  intro x hx
  obtain ⟨hlabel, hvisible⟩ := members_plain zone p e x hx
  exact ⟨hlabel.visible, hvisible⟩

theorem decode_alertLine (zone : Int) (p : LoggedPacket) (e : SigIds) :
    decode (alertLine jsonDeflt zone p e) =
      some (.object ((firstMember zone p :: otherMembers p e).map
        fun x => (x.1.toList, x.2.value))) := by
  rw [alertLine_eq]
  apply decode_object
  · exact fun x hx => (members_plain zone p e x hx).1.label
  · exact fun x hx => (members_plain zone p e x hx).2.printable

/-! ## Reading it back -/

/-- What is in the structure after a line. -/
def rawAlert (zone : Int) (p : LoggedPacket) (e : SigIds) : RawAlert where
  timestamp := tsPrint zone p.sec p.usec
  pktNum := p.packetNumber.toNat
  proto := p.getType
  pktGen := p.getPseudoType
  pktLen := p.pktLen
  dir := p.dir
  srcAP := p.addrPort p.src p.sp
  dstAP := p.addrPort p.dst p.dp
  rule := e.rule
  action := p.getActionString

theorem pktLen_lt (p : LoggedPacket) : p.pktLen < 2 ^ 16 := by
  have hdgram := p.dgramLen.toNat_lt
  have hdsize := p.dsize.toNat_lt
  unfold LoggedPacket.pktLen
  split <;> assumption

def storeScalar (raw : RawAlert) (m : String × Scalar) : Option RawAlert :=
  storeMember rawAlertFields raw (m.1.toList, m.2.value)

theorem storeScalar_nat {label : String} {f : RawAlert → Int → RawAlert}
    (h : findField rawAlertFields label.toList = some (.int64 f)) (raw : RawAlert) (n : Nat) :
    storeScalar raw (label, .nat n) = (atoi (toString n).toList).map (f raw) := by
  rw [storeScalar, storeMember, h]
  rfl

theorem storeScalar_string {label : String} {f : RawAlert → String → RawAlert}
    (h : findField rawAlertFields label.toList = some (.string f)) (raw : RawAlert)
    (text : List Char) :
    storeScalar raw (label, .string text) = some (f raw (String.ofList text)) := by
  rw [storeScalar, storeMember, h]
  rfl

/-- Each member is stored in the field that has its name. -/
structure StoresByName (raw : RawAlert) (text : List Char) (n : Nat) : Prop where
  timestamp : storeScalar raw ("timestamp", .string text) =
    some { raw with timestamp := String.ofList text }
  proto : storeScalar raw ("proto", .string text) =
    some { raw with proto := String.ofList text }
  pktGen : storeScalar raw ("pkt_gen", .string text) =
    some { raw with pktGen := String.ofList text }
  dir : storeScalar raw ("dir", .string text) =
    some { raw with dir := String.ofList text }
  srcAP : storeScalar raw ("src_ap", .string text) =
    some { raw with srcAP := String.ofList text }
  dstAP : storeScalar raw ("dst_ap", .string text) =
    some { raw with dstAP := String.ofList text }
  rule : storeScalar raw ("rule", .string text) =
    some { raw with rule := String.ofList text }
  action : storeScalar raw ("action", .string text) =
    some { raw with action := String.ofList text }
  pktNum : storeScalar raw ("pkt_num", .nat n) =
    (atoi (toString n).toList).map fun v => { raw with pktNum := v }
  pktLen : storeScalar raw ("pkt_len", .nat n) =
    (atoi (toString n).toList).map fun v => { raw with pktLen := v }

theorem storesByName (raw : RawAlert) (text : List Char) (n : Nat) : StoresByName raw text n where
  timestamp := storeScalar_string (f := fun raw s => { raw with timestamp := s }) rfl raw text
  proto := storeScalar_string (f := fun raw s => { raw with proto := s }) rfl raw text
  pktGen := storeScalar_string (f := fun raw s => { raw with pktGen := s }) rfl raw text
  dir := storeScalar_string (f := fun raw s => { raw with dir := s }) rfl raw text
  srcAP := storeScalar_string (f := fun raw s => { raw with srcAP := s }) rfl raw text
  dstAP := storeScalar_string (f := fun raw s => { raw with dstAP := s }) rfl raw text
  rule := storeScalar_string (f := fun raw s => { raw with rule := s }) rfl raw text
  action := storeScalar_string (f := fun raw s => { raw with action := s }) rfl raw text
  pktNum := storeScalar_nat (f := fun raw v => { raw with pktNum := v }) rfl raw n
  pktLen := storeScalar_nat (f := fun raw v => { raw with pktLen := v }) rfl raw n

theorem unmarshal_alertLine (zone : Int) (p : LoggedPacket) (e : SigIds) :
    unmarshal rawAlertFields .zero (alertLine jsonDeflt zone p e) =
      if p.packetNumber.toNat < 2 ^ 63 then some (rawAlert zone p e) else none := by
  have hlen : atoi (toString p.pktLen).toList = some (p.pktLen : Int) :=
    atoi_toString_nat ((pktLen_lt p).trans (by decide))
  have hfold : unmarshal rawAlertFields .zero (alertLine jsonDeflt zone p e) =
      (firstMember zone p :: otherMembers p e).foldlM storeScalar .zero := by
    rw [unmarshal, decode_alertLine]
    exact List.foldlM_map
  have hstores := fun raw (text : String) n => storesByName raw text.toList n
  rw [hfold, firstMember, otherMembers]
  simp only [List.foldlM_cons, List.foldlM_nil, (hstores _ _ 0).timestamp, (hstores _ "" _).pktNum,
    (hstores _ _ 0).proto, (hstores _ _ 0).pktGen, (hstores _ "" _).pktLen, (hstores _ _ 0).dir,
    (hstores _ _ 0).srcAP, (hstores _ _ 0).dstAP, (hstores _ _ 0).rule, (hstores _ _ 0).action,
    hlen, Option.map_some, Option.bind_eq_bind, Option.bind_some, String.ofList_toList]
  split
  · next hnum =>
      rw [atoi_toString_nat hnum]
      rfl
  · next hnum =>
      rw [atoi_toString_eq_none (Nat.not_lt.mp hnum)]
      rfl

theorem parseRuleID_rule (e : SigIds) :
    parseRuleID e.rule = (↑e.gid.toNat, ↑e.sid.toNat, ↑e.rev.toNat) := by
  have hmust : ∀ n : UInt32, Profiler.mustInt (toString n.toNat).toList = n.toNat := by
    intro n
    rw [Profiler.mustInt, atoi_toString_nat (n.toNat_lt.trans (by decide))]
  have hcolon : ∀ n : Nat, ':' ∉ (toString n).toList := fun n hmem =>
    absurd (isDigit_of_mem_toString hmem) (by decide)
  have hsplit : e.rule.toList.splitOn ':' =
      [(toString e.gid.toNat).toList, (toString e.sid.toNat).toList,
        (toString e.rev.toNat).toList] := by
    have hjoin : e.rule.toList = [':'].intercalate
        [(toString e.gid.toNat).toList, (toString e.sid.toNat).toList,
          (toString e.rev.toNat).toList] := by
      simp [SigIds.rule, List.intercalate_cons_cons]
    rw [hjoin]
    apply List.splitOn_intercalate
    · simp only [List.forall_mem_cons, List.not_mem_nil, false_implies, implies_true, and_true]
      exact ⟨hcolon _, hcolon _, hcolon _⟩
    · exact List.cons_ne_nil _ _
  rw [parseRuleID, hsplit]
  simp only [hmust]

/-- Nothing is taken off a text whose first byte begins no encoding. -/
theorem trimLeftBytes_of_head {encodings : List Bytes} {b : UInt8}
    (h : encodings.all (fun e => !e.isEmpty && decide (e.head? ≠ some b)) = true) (fuel : Nat)
    (rest : Bytes) : trimLeftBytes encodings fuel (b :: rest) = b :: rest := by
  have hnone : encodings.find? (·.isPrefixOf (b :: rest)) = none := by
    rw [List.find?_eq_none]
    intro e he hfront
    have hhead := List.all_eq_true.mp h e he
    cases e with
    | nil => cases hhead
    | cons x xs =>
        rw [Bool.and_eq_true] at hhead
        rw [List.isPrefixOf_cons_cons, Bool.and_eq_true, beq_iff_eq] at hfront
        exact of_decide_eq_true hhead.2 (congrArg some hfront.1)
  cases fuel with
  | zero => rfl
  | succ fuel => rw [trimLeftBytes, hnone]

/-- A text that begins and ends with a brace. -/
theorem trimSpaceBytes_braces (text : Bytes) :
    trimSpaceBytes (0x7b :: (text ++ [0x7d])) = 0x7b :: (text ++ [0x7d]) := by
  have hrev : (0x7b :: (text ++ [0x7d]) : Bytes).reverse = 0x7d :: (text.reverse ++ [0x7b]) := by
    simp
  rw [trimSpaceBytes, trimLeftBytes_of_head (by decide), hrev,
    trimLeftBytes_of_head (by decide), ← hrev, List.reverse_reverse]

theorem asciiBytes_alertLine (zone : Int) (p : LoggedPacket) (e : SigIds) :
    ∃ text : Bytes, asciiBytes (alertLine jsonDeflt zone p e) = 0x7b :: (text ++ [0x7d]) := by
  refine ⟨asciiBytes (writeFields { pkt := p, event := e, zone := zone, comma := false } jsonDeflt ++
    [' ']), ?_⟩
  have hend : " \x7d".toList = [' '] ++ ['\x7d'] := by decide
  rw [alertLine, hend, List.cons_append, ← List.append_assoc, asciiBytes, List.map_cons,
    List.map_append]
  rfl

theorem byteText_asciiBytes {text : List Char} (h : ∀ c ∈ text, c.toNat < 128) :
    byteText (asciiBytes text) = String.ofList text := by
  have hmap : (asciiBytes text).map (fun b => Char.ofNat b.toNat) = text := by
    rw [asciiBytes, List.map_map]
    conv_rhs => rw [← List.map_id text]
    apply List.map_congr_left
    intro c hc
    have hbyte : (UInt8.ofNat c.toNat).toNat = c.toNat := by
      rw [UInt8.toNat_ofNat']
      exact Nat.mod_eq_of_lt (by have := h c hc; omega)
    show Char.ofNat (UInt8.ofNat c.toNat).toNat = c
    rw [hbyte, Char.ofNat_toNat]
  rw [byteText, hmap]

/-- The alert that a line stands for. -/
def loggedAlert (zone : Int) (p : LoggedPacket) (e : SigIds) : Sql.Alert where
  timestamp := tsPrint zone p.sec p.usec
  pktNum := p.packetNumber.toNat
  proto := p.getType
  pktGen := p.getPseudoType
  pktLen := p.pktLen
  dir := p.dir
  srcAP := p.addrPort p.src p.sp
  dstAP := p.addrPort p.dst p.dp
  gid := e.gid.toNat
  sid := e.sid.toNat
  rev := e.rev.toNat
  rule := e.rule
  action := p.getActionString
  rawJSON := String.ofList (alertLine jsonDeflt zone p e)
  createdAt := ""

/-- **A line is read back**, unless the number of the packet does not fit. -/
theorem parseLine_alertLine (zone : Int) (p : LoggedPacket) (e : SigIds) :
    parseLine (asciiBytes (alertLine jsonDeflt zone p e)) =
      if p.packetNumber.toNat < 2 ^ 63 then some (loggedAlert zone p e) else none := by
  have hascii : ∀ c ∈ alertLine jsonDeflt zone p e, c.toNat < 128 := by
    intro c hc
    have := of_decide_eq_true (visible_alertLine zone p e c hc)
    omega
  have htrim : trimSpaceBytes (asciiBytes (alertLine jsonDeflt zone p e)) =
      asciiBytes (alertLine jsonDeflt zone p e) := by
    obtain ⟨text, htext⟩ := asciiBytes_alertLine zone p e
    rw [htext, trimSpaceBytes_braces]
  simp only [parseLine, htrim, decodeText_asciiBytes hascii, unmarshal_alertLine,
    byteText_asciiBytes hascii]
  split
  · show some _ = _
    simp only [rawAlert, parseRuleID_rule]
    rfl
  · rfl

/-! ## The length of a line -/

theorem length_toString_le {n k : Nat} (hk : 0 < k) (h : n < 10 ^ k) :
    (toString n).toList.length ≤ k := by
  rw [Nat.toString_eq_ofList_toDigits, String.toList_ofList]
  exact (Nat.length_toDigits_le_iff (by decide) hk).mpr h

theorem length_zeroPad_le {n : Int} {k : Nat} (width : Nat) (hk : 0 < k) (h : n.natAbs < 10 ^ k) :
    (zeroPad width n).length ≤ width + k + 1 := by
  have hdigits := length_toString_le hk h
  unfold zeroPad
  split <;> simp only [List.length_cons, List.length_append, List.length_replicate] <;> omega

theorem length_tsPrint_le {zone sec : Int} {usec : Nat} (hzone : -86400 < zone) (hsec : 0 ≤ sec)
    (husec : usec < 1000000) : (tsPrint zone sec usec).toList.length ≤ 60 := by
  have hmod : ∀ a : Int, ∀ b : Nat, 0 < b → (a.tmod b).natAbs < b := by
    intro a b hb
    rw [Int.natAbs_tmod, Int.natAbs_natCast]
    exact Nat.mod_lt _ hb
  have hs := hmod (sec + zone) 86400 (by decide)
  rw [tsPrint, String.toList_ofList]
  change ((sec + zone).tmod 86400).natAbs < 86400 at hs
  generalize (sec + zone).tmod 86400 = s at hs ⊢
  have hday : -719528 ≤ (sec + zone - s) / 86400 := by omega
  have hdate := (dateOfDay_valid hday).1
  have hmonth := hdate.month_le
  have hdom := hdate.day_le.trans (daysIn_le _ _)
  have hhour : (s.tdiv 3600).natAbs < 10 ^ 5 :=
    (Int.natAbs_tdiv_le_natAbs s 3600).trans_lt (by omega)
  have hminute : ((s.tmod 3600).tdiv 60).natAbs < 10 ^ 5 :=
    (Int.natAbs_tdiv_le_natAbs _ 60).trans_lt ((hmod s 3600 (by decide)).trans (by decide))
  have hsecond : (s.tmod 60).natAbs < 10 ^ 5 := (hmod s 60 (by decide)).trans (by decide)
  have hmonthText := length_zeroPad_le (n := (dateOfDay ((sec + zone - s) / 86400)).month) (k := 2)
    2 (by decide) (by omega)
  have hdayText := length_zeroPad_le (n := (dateOfDay ((sec + zone - s) / 86400)).day) (k := 2)
    2 (by decide) (by omega)
  have hhourText := length_zeroPad_le 2 (by decide) hhour
  have hminuteText := length_zeroPad_le 2 (by decide) hminute
  have hsecondText := length_zeroPad_le 2 (by decide) hsecond
  have husecText := length_zeroPad_le (n := usec) (k := 6) 6 (by decide) (by omega)
  simp only [dateText, clockText, List.length_append, List.length_cons]
  omega

theorem length_addrPort_le (p : LoggedPacket) {addr : Address} (port : UInt16)
    (h : addr.text.length < inet6AddrStrLen) : (p.addrPort addr port).toList.length ≤ 60 := by
  have haddr : (if p.hasIp || p.isData then addr.text else "").toList.length < inet6AddrStrLen := by
    split
    · rw [String.length_toList]
      exact h
    · decide
  have hport : (if p.tcp || p.udp then port.toNat else 0) < 10 ^ 5 := by
    have := port.toNat_lt
    split <;> omega
  have hportText := length_toString_le (k := 5) (by decide) hport
  have hcolon : ":".toList.length = 1 := rfl
  unfold inet6AddrStrLen at haddr
  rw [LoggedPacket.addrPort, String.toList_append, String.toList_append, List.length_append,
    List.length_append, hcolon]
  omega

theorem length_rule_le (e : SigIds) : e.rule.toList.length ≤ 60 := by
  have hid : ∀ n : UInt32, (toString n.toNat).toList.length ≤ 10 := fun n =>
    length_toString_le (by decide) (n.toNat_lt.trans (by decide))
  have hgid := hid e.gid
  have hsid := hid e.sid
  have hrev := hid e.rev
  have hcolon : ":".toList.length = 1 := rfl
  simp only [SigIds.rule, String.toList_append, List.length_append, hcolon]
  omega

theorem length_getType_le (p : LoggedPacket) : p.getType.toList.length ≤ 64 := by
  have hlayer : (p.layer.getD "None").toList.length ≤ 64 := by
    cases hlayer : p.layer with
    | none => decide
    | some name =>
        rw [Option.getD_some, String.length_toList]
        exact (p.layer_plain name hlayer).1.le
  have hdata : (if p.tcp then "TCP" else if p.udp then "UDP" else "Error").toList.length ≤ 64 := by
    cases p.tcp <;> cases p.udp <;> decide
  unfold LoggedPacket.getType
  cases p.type with
  | ip | icmp | tcp | udp =>
      dsimp only
      decide
  | pdu | user | file => exact hdata
  | none =>
      dsimp only
      split
      · decide
      · exact hlayer

/-- A line is never as long as the buffer of the scanner. -/
theorem length_alertLine_lt {zone : Int} (hzone : -86400 < zone) (p : LoggedPacket) (e : SigIds) :
    (alertLine jsonDeflt zone p e).length < maxTokenSize := by
  have hstring : ∀ (label : String) (s : String), label.toList.length ≤ 9 → s.toList.length ≤ 64 →
      label.toList.length + (Scalar.string s.toList).text.length ≤ 139 := by
    intro label s hlabel hs
    have := length_quoted_le s.toList
    rw [Scalar.text]
    omega
  have hnat : ∀ (label : String) (n : Nat), label.toList.length ≤ 9 → n < 10 ^ 20 →
      label.toList.length + (Scalar.nat n).text.length ≤ 139 := by
    intro label n hlabel hn
    have := length_toString_le (k := 20) (by decide) hn
    rw [Scalar.text]
    omega
  have hpseudo : p.getPseudoType.toList.length ≤ 64 := by
    unfold LoggedPacket.getPseudoType
    split <;> decide
  have hdir : p.dir.toList.length ≤ 64 := by
    unfold LoggedPacket.dir
    cases p.isFromApplicationClient <;> cases p.isFromApplicationServer <;> decide
  have haction : p.getActionString.toList.length ≤ 64 := by
    unfold LoggedPacket.getActionString
    cases p.action <;> cases p.status <;> decide
  have hmembers : ∀ x ∈ firstMember zone p :: otherMembers p e,
      x.1.toList.length + x.2.text.length ≤ 139 := by
    rw [List.forall_mem_cons, otherMembers]
    simp only [List.forall_mem_cons, List.not_mem_nil, false_implies, implies_true, and_true]
    refine ⟨hstring "timestamp" _ (by decide) ?_, hnat "pkt_num" _ (by decide) ?_,
      hstring "proto" _ (by decide) (length_getType_le p), hstring "pkt_gen" _ (by decide) hpseudo,
      hnat "pkt_len" _ (by decide) ?_, hstring "dir" _ (by decide) hdir,
      hstring "src_ap" _ (by decide) ?_, hstring "dst_ap" _ (by decide) ?_,
      hstring "rule" _ (by decide) ?_, hstring "action" _ (by decide) haction⟩
    · exact (length_tsPrint_le hzone (Int.natCast_nonneg _) p.usec_lt).trans (by decide)
    · exact p.packetNumber.toNat_lt.trans (by decide)
    · exact (pktLen_lt p).trans (by decide)
    · exact (length_addrPort_le p p.sp p.src_fits).trans (by decide)
    · exact (length_addrPort_le p p.dp p.dst_fits).trans (by decide)
    · exact (length_rule_le e).trans (by decide)
  have hline := length_objectText_le hmembers
  have hcount : (otherMembers p e).length = 9 := rfl
  rw [hcount] at hline
  rw [alertLine_eq]
  exact hline.trans_lt (by decide)

end SnortOptimizer.Alerts
