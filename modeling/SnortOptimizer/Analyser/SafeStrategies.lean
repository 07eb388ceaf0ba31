import SnortOptimizer.Analyser.Adversary
import SnortOptimizer.Path.Basic
import SnortOptimizer.Text.Columns

/-!
# The SAFE strategies (`analyser/safe/*.go`)

Four strategies come with the analyser. Each looks at the enabled rules of the accepted run: at
their source files, at the services they name, or at the flowbits they test and set. All are asked
about the same run, and what any of them picks goes at once: `safeStage_acceptedRules`.
-/

namespace SnortOptimizer.Analyser

open Text

/-! ## Options of a rule -/

/-- What stands behind the first occurrence of a pattern. -/
def afterFirst (pattern : List Char) : List Char → Option (List Char)
  | [] => if pattern = [] then some [] else none
  | c :: cs =>
      if pattern.isPrefixOf (c :: cs) then some ((c :: cs).drop pattern.length)
      else afterFirst pattern cs

/-- The texts between each `name` and the next semicolon. The length of the text is enough fuel. -/
def optionValues (name : List Char) : Nat → List Char → List (List Char)
  | 0, _ => []
  | fuel + 1, s =>
      match afterFirst name s with
      | none => []
      | some rest =>
          if ';' ∈ rest then
            rest.takeWhile (· ≠ ';') :: optionValues name fuel (rest.dropWhile (· ≠ ';')).tail
          else []

theorem length_afterFirst {pattern s rest : List Char} (h : afterFirst pattern s = some rest) :
    rest.length ≤ s.length := by
  induction s with
  | nil =>
      rw [afterFirst] at h
      split at h
      · cases h
        exact le_refl _
      · cases h
  | cons c cs ih =>
      rw [afterFirst] at h
      split at h
      · cases h
        rw [List.length_drop]
        omega
      · rw [List.length_cons]
        have := ih h
        omega

/-- Fuel beyond the length of the text changes nothing: every option takes up a semicolon. -/
theorem optionValues_of_le (name : List Char) {n m : Nat} {s : List Char} (hn : s.length ≤ n)
    (hm : s.length ≤ m) (hname : name ≠ []) : optionValues name n s = optionValues name m s := by
  have hnil : ∀ k, optionValues name k [] = [] := by
    intro k
    cases k with
    | zero => rfl
    | succ k => rw [optionValues, afterFirst, if_neg hname]
  induction n generalizing m s with
  | zero =>
      rw [List.length_eq_zero_iff.mp (Nat.le_zero.mp hn), hnil, hnil]
  | succ n ih =>
      cases m with
      | zero => rw [List.length_eq_zero_iff.mp (Nat.le_zero.mp hm), hnil, hnil]
      | succ m =>
          rw [optionValues, optionValues]
          cases hrest : afterFirst name s with
          | none => rfl
          | some rest =>
              by_cases hsemi : ';' ∈ rest
              · have hlength := length_afterFirst hrest
                have hdrop : (rest.dropWhile (· ≠ ';')).tail.length < rest.length := by
                  have hpos := List.length_pos_of_mem hsemi
                  have hle : (rest.dropWhile (· ≠ ';')).length ≤ rest.length :=
                    (List.dropWhile_sublist _).length_le
                  rw [List.length_tail]
                  omega
                have htail : optionValues name n (rest.dropWhile (· ≠ ';')).tail =
                    optionValues name m (rest.dropWhile (· ≠ ';')).tail :=
                  ih (by omega) (by omega)
                simp only [if_pos hsemi, htail]
              · simp only [if_neg hsemi]

/-- `strings.FieldsFunc`, the names trimmed and the empty ones dropped. -/
def namesBetween (separators : List Char) (value : List Char) : List String :=
  (((value.splitOnP (· ∈ separators)).filter (· ≠ [])).map fun name =>
    trimSpace (String.ofList name)).filter (· ≠ "")

def flowbitNames (value : List Char) : List String :=
  namesBetween [',', '&', '|', '!', '(', ')', ' ', '\t', '\n', '\r'] value

def appendUniqueString (values : List String) (value : String) : List String :=
  if value ∈ values then values else values ++ [value]

/-- The flowbits a rule provides and those it requires, given what `unicode.ToLower` does. -/
def parseFlowbits (lower : Char → Char) (raw : String) : List String × List String :=
  let text := raw.toList.map lower
  (optionValues "flowbits:".toList text.length text).foldl
    (fun bits value =>
      let op := trimSpace (String.ofList (value.takeWhile (· ≠ ',')))
      let args := (value.dropWhile (· ≠ ',')).tail
      if op = "set" ∨ op = "toggle" then
        ((flowbitNames args).foldl appendUniqueString bits.1, bits.2)
      else if op = "isset" then (bits.1, (flowbitNames args).foldl appendUniqueString bits.2)
      else bits)
    ([], [])

def ruleServices (lower : Char → Char) (raw : String) : List String :=
  let text := raw.toList.map lower
  (optionValues "service:".toList text.length text).flatMap
    (namesBetween [',', ' ', '\t', '\n', '\r'])

/-! ## Source files -/

def sourceFileBase (lower : Char → Char) (value : String) : String :=
  let slashed := String.ofList (value.toList.map fun c => if c = '\\' then '/' else c)
  String.ofList (Path.base ((trimSpace slashed).toList.map lower))

/-- `lower(source_file) LIKE ...`; SQLite's `lower` knows ASCII letters only. -/
def fileOrBrowser (sourceFile : String) : Bool :=
  let file := sourceFile.toList.map Char.toLower
  (afterFirst "browser".toList file).isSome || "snort3-file-".toList.isPrefixOf file
    || (afterFirst "/snort3-file-".toList file).isSome
    || (afterFirst "\\snort3-file-".toList file).isSome

def uncommonProtocolSourceFiles : List (String × String) :=
  [ ("snort3-netbios.rules",
      "netbios is normally a LAN/gateway exposure, not a generic server workload"),
    ("snort3-protocol-finger.rules",
      "finger is a legacy protocol that is usually disabled on servers"),
    ("snort3-protocol-nntp.rules", "nntp is uncommon for generic server workloads"),
    ("snort3-protocol-rpc.rules", "rpc rules are gateway-oriented unless the host exposes RPC/NFS"),
    ("snort3-protocol-scada.rules",
      "scada/industrial protocols are not expected on generic servers"),
    ("snort3-protocol-snmp.rules", "snmp is usually infrastructure/gateway traffic"),
    ("snort3-protocol-telnet.rules",
      "telnet is a legacy protocol that is usually disabled on servers"),
    ("snort3-protocol-tftp.rules", "tftp is uncommon for generic server workloads"),
    ("snort3-protocol-voip.rules", "voip signaling is uncommon for generic server workloads"),
    ("snort3-x11.rules", "x11 is not expected on exposed server workloads") ]

/-! ## Services -/

structure SystemdServiceRuleGroup where
  name : String
  units : List String
  sourceFiles : List String
  services : List String

def commonSystemdServiceRuleGroups : List SystemdServiceRuleGroup :=
  [ { name := "http"
      units := ["nginx.service", "apache2.service", "httpd.service", "caddy.service",
        "lighttpd.service"]
      sourceFiles := ["snort3-server-apache.rules", "snort3-server-iis.rules",
        "snort3-server-webapp.rules"]
      services := ["http", "http2"] },
    { name := "ssh", units := ["ssh.service", "sshd.service"], sourceFiles := []
      services := ["ssh"] },
    { name := "ftp"
      units := ["vsftpd.service", "proftpd.service", "pure-ftpd.service", "ftp.service"]
      sourceFiles := ["snort3-protocol-ftp.rules"], services := ["ftp", "ftp-data"] },
    { name := "mail"
      units := ["postfix.service", "exim.service", "exim4.service", "sendmail.service",
        "dovecot.service"]
      sourceFiles := ["snort3-server-mail.rules", "snort3-protocol-imap.rules",
        "snort3-protocol-pop.rules"]
      services := ["smtp", "imap", "pop3"] },
    { name := "dns"
      units := ["named.service", "bind9.service", "dnsmasq.service", "unbound.service",
        "pdns.service"]
      sourceFiles := ["snort3-protocol-dns.rules"], services := ["dns"] },
    { name := "mysql", units := ["mysql.service", "mysqld.service", "mariadb.service"]
      sourceFiles := ["snort3-server-mysql.rules"], services := ["mysql"] },
    { name := "mssql", units := ["mssql-server.service"]
      sourceFiles := ["snort3-server-mssql.rules"], services := ["mssql"] },
    { name := "oracle", units := ["oracle.service", "oracle-xe.service"]
      sourceFiles := ["snort3-server-oracle.rules"], services := ["oracle"] },
    { name := "samba"
      units := ["smb.service", "smbd.service", "nmb.service", "nmbd.service", "samba.service",
        "winbind.service"]
      sourceFiles := ["snort3-server-samba.rules", "snort3-netbios.rules"]
      services := ["netbios-ssn", "smb"] },
    { name := "snmp", units := ["snmpd.service"], sourceFiles := ["snort3-protocol-snmp.rules"]
      services := ["snmp"] },
    { name := "telnet", units := ["telnet.service", "telnet.socket", "telnetd.service"]
      sourceFiles := ["snort3-protocol-telnet.rules"], services := ["telnet"] },
    { name := "rpc", units := ["rpcbind.service", "nfs-server.service"]
      sourceFiles := ["snort3-protocol-rpc.rules"], services := ["rpc", "sunrpc"] } ]

/-- What becomes of the call of `systemctl`. -/
inductive SystemctlOutcome where
  | notFound
  | cancelled (e : String)         -- the context ended before the command
  | failed
  | output (text : String)

/-- What the strategies read beside the rules: the machine, and two functions of the Go runtime. -/
structure Host where
  lower : Char → Char              -- `unicode.ToLower`
  quote : String → String          -- `strconv.Quote`
  systemctl : SystemctlOutcome

/-- The active units, if they can be found out. -/
def activeSystemdUnits (host : Host) : Except String (Option (List String)) :=
  match host.systemctl with
  | .notFound => return none
  | .cancelled e => throw e
  | .failed => return none
  | .output text =>
      let active := (text.toList.splitOn '\n').filterMap fun line =>
        (fields line).head?.map fun unit => String.ofList (unit.map host.lower)
      return if active = [] then none else some active

def groupHasActiveUnit (host : Host) (group : SystemdServiceRuleGroup) (active : List String) :
    Bool :=
  group.units.any fun unit => String.ofList (unit.toList.map host.lower) ∈ active

/-- A lookup in a map that was filled in this order: the last entry counts. -/
def lookupLast (entries : List (String × String)) (key : String) : Option String :=
  (entries.reverse.find? (·.1 = key)).map Prod.snd

/-! ## The strategies -/

def decisionOn (rule : Rule) (reason : String) : TrimDecision :=
  { gid := rule.gid, sid := rule.sid, rev := rule.rev, sourceFile := rule.sourceFile
    msg := rule.msg, reason := reason, function := "", type := .SAFE, metrics := [] }

/-- `SourceFileBrowserFunc`. -/
def sourceFileBrowserFunc (host : Host) (rules : List Rule) : List TrimDecision :=
  (rules.filter fun r => fileOrBrowser r.sourceFile).map fun r =>
    decisionOn r ("source_file " ++ host.quote r.sourceFile ++ " is in file/browser rule category")

def uncommonProtocol (host : Host) (rule : Rule) : Option String :=
  (uncommonProtocolSourceFiles.find? (·.1 = sourceFileBase host.lower rule.sourceFile)).map
    Prod.snd

/-- `SourceFileProtocolsFunc`. -/
def sourceFileProtocolsFunc (host : Host) (rules : List Rule) : List TrimDecision :=
  rules.filterMap fun r => (uncommonProtocol host r).map fun reason =>
    decisionOn r ("source_file " ++ host.quote r.sourceFile ++ " is disabled by server profile: "
      ++ reason)

/-- The inactive group a rule belongs to, by its source file or else by a service it names. -/
def inactiveGroup (host : Host) (active : List String) (rule : Rule) : Option (String × String) :=
  let inactive := commonSystemdServiceRuleGroups.filter fun g => !groupHasActiveUnit host g active
  let disabledSources := inactive.flatMap fun g => g.sourceFiles.map fun f => (f, g.name)
  let disabledServices := inactive.flatMap fun g => g.services.map fun s => (s, g.name)
  match lookupLast disabledSources (sourceFileBase host.lower rule.sourceFile) with
  | some group => some ("source_file", group)
  | none =>
      (ruleServices host.lower rule.rawText).findSome? fun service =>
        (lookupLast disabledServices service).map fun group => ("service", group)

/-- One rule in the loop of `InactiveSystemdServicesFunc`, with the keys seen so far. -/
def addInactive (host : Host) (active : List String)
    (acc : List TrimDecision × List String) (rule : Rule) : List TrimDecision × List String :=
  match inactiveGroup host active rule with
  | none => acc
  | some (matchedBy, group) =>
      let key := ruleKey rule.gid rule.sid
      if key ∈ acc.2 then acc
      else
        (acc.1 ++ [decisionOn rule (matchedBy ++ " rule belongs to inactive systemd service group "
          ++ host.quote group)], acc.2 ++ [key])

/-- `InactiveSystemdServicesFunc`. -/
def inactiveSystemdServicesFunc (host : Host) (rules : List Rule) :
    Except String (List TrimDecision) := do
  match ← activeSystemdUnits host with
  | none => return []
  | some active => return (rules.foldl (addInactive host active) ([], [])).1

/-- The flowbits that some of the rules set or toggle. -/
def providedBits (host : Host) (rules : List Rule) : List String :=
  rules.flatMap fun r => (parseFlowbits host.lower r.rawText).1

/-- The flowbits a rule tests and none of the rules provides. -/
def missingBits (host : Host) (rules : List Rule) (rule : Rule) : List String :=
  (parseFlowbits host.lower rule.rawText).2.filter (· ∉ providedBits host rules)

/-- `OrphanFlowbitsFunc`. -/
def orphanFlowbitsFunc (host : Host) (rules : List Rule) : List TrimDecision :=
  (rules.filter fun r => missingBits host rules r ≠ []).map fun r =>
    decisionOn r ("flowbits dependency has no enabled provider: "
      ++ ",".intercalate (missingBits host rules r))

inductive SafeStrategy where
  | sourceFileBrowser
  | sourceFileProtocols
  | inactiveSystemdServices
  | orphanFlowbits
  deriving DecidableEq, Repr

def SafeStrategy.name : SafeStrategy → String
  | .sourceFileBrowser => "safe_source_file_browser"
  | .sourceFileProtocols => "safe_source_file_protocols"
  | .inactiveSystemdServices => "safe_inactive_systemd_services"
  | .orphanFlowbits => "safe_orphan_flowbits"

/-- What a strategy decides about the enabled rules, in the order of their keys. -/
def SafeStrategy.decisions (host : Host) (rules : List Rule) :
    SafeStrategy → Except String (List TrimDecision)
  | .sourceFileBrowser => return sourceFileBrowserFunc host rules
  | .sourceFileProtocols => return sourceFileProtocolsFunc host rules
  | .inactiveSystemdServices => inactiveSystemdServicesFunc host rules
  | .orphanFlowbits => return orphanFlowbitsFunc host rules

def SafeStrategy.registered (host : Host) (strategy : SafeStrategy) : RegisteredFunction :=
  { name := strategy.name
    type := .SAFE
    fn := fun _ input => strategy.decisions host
      (listRulesFromDB input.dbs.exp.rules input.sourceRunID true) }

/-! ## What the strategies pick -/

/-- The rules a strategy is after. -/
def SafeStrategy.Picks (host : Host) (rules : List Rule) (rule : Rule) : SafeStrategy → Prop
  | .sourceFileBrowser => fileOrBrowser rule.sourceFile = true
  | .sourceFileProtocols => (uncommonProtocol host rule).isSome = true
  | .inactiveSystemdServices =>
      ∃ active, activeSystemdUnits host = .ok (some active) ∧
        (inactiveGroup host active rule).isSome = true
  | .orphanFlowbits => missingBits host rules rule ≠ []

theorem mem_addInactive (host : Host) (active : List String) (rules : List Rule)
    (acc : List TrimDecision × List String)
    (hacc : acc.2 = acc.1.map fun d => ruleKey d.gid d.sid) (key : Int × Int) :
    key ∈ (rules.foldl (addInactive host active) acc).1.map (fun d => d.key) ↔
      key ∈ acc.1.map (fun d => d.key) ∨
        ∃ r ∈ rules, (inactiveGroup host active r).isSome = true ∧ r.key = key := by
  induction rules generalizing acc with
  | nil => simp
  | cons rule rules ih =>
      rw [List.foldl_cons]
      cases hgroup : inactiveGroup host active rule with
      | none =>
          have hsame : addInactive host active acc rule = acc := by rw [addInactive, hgroup]
          rw [hsame, ih acc hacc]
          simp [hgroup]
      | some group =>
          by_cases hseen : ruleKey rule.gid rule.sid ∈ acc.2
          · -- a rule with this key has been picked before
            have hsame : addInactive host active acc rule = acc := by
              rw [addInactive, hgroup]
              exact if_pos hseen
            have hmem : rule.key ∈ acc.1.map (fun d => d.key) := by
              rw [hacc] at hseen
              obtain ⟨d, hd, hkey⟩ := List.mem_map.mp hseen
              obtain ⟨hgid, hsid⟩ := ruleKey_inj hkey
              refine List.mem_map.mpr ⟨d, hd, ?_⟩
              show (d.gid, d.sid) = (rule.gid, rule.sid)
              rw [hgid, hsid]
            rw [hsame, ih acc hacc]
            constructor
            · rintro (h | ⟨r, hr, hpick⟩)
              · exact .inl h
              · exact .inr ⟨r, List.mem_cons_of_mem _ hr, hpick⟩
            · rintro (h | ⟨r, hr, hpick⟩)
              · exact .inl h
              · rcases List.mem_cons.mp hr with rfl | hr
                · exact .inl (hpick.2 ▸ hmem)
                · exact .inr ⟨r, hr, hpick⟩
          · have hnew : addInactive host active acc rule =
                (acc.1 ++ [decisionOn rule (group.1
                  ++ " rule belongs to inactive systemd service group "
                  ++ host.quote group.2)], acc.2 ++ [ruleKey rule.gid rule.sid]) := by
              rw [addInactive, hgroup]
              exact if_neg hseen
            rw [hnew, ih _ (by simp [hacc, decisionOn]), List.map_append, List.mem_append, or_assoc,
              List.map_singleton, List.mem_singleton]
            apply or_congr_right
            constructor
            · rintro (h | ⟨r, hr, hpick⟩)
              · exact ⟨rule, List.mem_cons_self, by rw [hgroup]; rfl, h.symm⟩
              · exact ⟨r, List.mem_cons_of_mem _ hr, hpick⟩
            · rintro ⟨r, hr, hpick⟩
              rcases List.mem_cons.mp hr with rfl | hr
              · exact .inl hpick.2.symm
              · exact .inr ⟨r, hr, hpick⟩

/-- A strategy decides about the rules it is after. -/
theorem SafeStrategy.mem_decisions {host : Host} {rules : List Rule} {strategy : SafeStrategy}
    {decisions : List TrimDecision} (h : strategy.decisions host rules = .ok decisions)
    (key : Int × Int) :
    key ∈ decisions.map (fun d => d.key) ↔
      ∃ r ∈ rules, strategy.Picks host rules r ∧ r.key = key := by
  cases strategy with
  | sourceFileBrowser =>
      cases h
      simp only [sourceFileBrowserFunc, List.map_map, List.mem_map, List.mem_filter, and_assoc]
      rfl
  | sourceFileProtocols =>
      cases h
      simp only [sourceFileProtocolsFunc, List.mem_map, List.mem_filterMap, Option.map_eq_some_iff]
      constructor
      · rintro ⟨d, ⟨r, hr, reason, hreason, rfl⟩, rfl⟩
        exact ⟨r, hr, Option.isSome_of_eq_some hreason, rfl⟩
      · rintro ⟨r, hr, hpick, rfl⟩
        obtain ⟨reason, hreason⟩ := Option.isSome_iff_exists.mp hpick
        exact ⟨_, ⟨r, hr, reason, hreason, rfl⟩, rfl⟩
  | inactiveSystemdServices =>
      have h : inactiveSystemdServicesFunc host rules = .ok decisions := h
      unfold inactiveSystemdServicesFunc at h
      obtain ⟨units, hunits, h⟩ := bind_eq_ok.mp h
      cases units with
      | none =>
          cases h
          simp [SafeStrategy.Picks, hunits]
      | some active =>
          cases h
          rw [mem_addInactive host active rules ([], []) rfl]
          simp [SafeStrategy.Picks, hunits]
  | orphanFlowbits =>
      cases h
      simp only [orphanFlowbitsFunc, List.map_map, List.mem_map, List.mem_filter, and_assoc,
        decide_eq_true_eq]
      rfl

/-- Some of the chosen strategies is after the rule. -/
def Picked (host : Host) (strategies : List SafeStrategy) (rules : List Rule) (rule : Rule) :
    Prop :=
  ∃ strategy ∈ strategies, strategy.Picks host rules rule

theorem mem_execute {host : Host} {strategies : List SafeStrategy} {input : FunctionInput}
    {clock : Nat} {decisions : List TrimDecision}
    (h : execute input (strategies.map (SafeStrategy.registered host)) clock = .ok decisions)
    (key : Int × Int) :
    key ∈ decisions.map (fun d => d.key) ↔
      ∃ r ∈ listRulesFromDB input.dbs.exp.rules input.sourceRunID true,
        Picked host strategies (listRulesFromDB input.dbs.exp.rules input.sourceRunID true) r ∧
          r.key = key := by
  induction strategies generalizing clock decisions with
  | nil =>
      cases h
      simp [Picked]
  | cons strategy strategies ih =>
      rw [List.map_cons, execute] at h
      obtain ⟨first, hfirst, h⟩ := bind_eq_ok.mp h
      obtain ⟨rest, hrest, h⟩ := bind_eq_ok.mp h
      cases h
      unfold executeFunction at hfirst
      obtain ⟨own, hown, hfirst⟩ := bind_eq_ok.mp hfirst
      cases hfirst
      have hmem := SafeStrategy.mem_decisions (wrapError_eq_ok hown) key
      rw [List.map_append, List.mem_append, ih hrest, List.map_map]
      show key ∈ own.map (fun d => d.key) ∨ _ ↔ _
      rw [hmem]
      constructor
      · rintro (⟨r, hr, hpick, hkey⟩ | ⟨r, hr, ⟨other, hother, hpick⟩, hkey⟩)
        · exact ⟨r, hr, ⟨strategy, List.mem_cons_self, hpick⟩, hkey⟩
        · exact ⟨r, hr, ⟨other, List.mem_cons_of_mem _ hother, hpick⟩, hkey⟩
      · rintro ⟨r, hr, ⟨other, hother, hpick⟩, hkey⟩
        rcases List.mem_cons.mp hother with rfl | hother
        · exact .inl ⟨r, hr, hpick, hkey⟩
        · exact .inr ⟨r, hr, ⟨other, hother, hpick⟩, hkey⟩

/-! ## The SAFE stage -/

/-- The enabled rules of the accepted run. -/
def SearchState.acceptedRules (s : SearchState) : List Rule :=
  listRulesFromDB s.dbs.exp.rules s.acceptedRunID true

variable {host : Host} {strategies : List SafeStrategy} {sch : Scheduler} {env : Externals}
  {flows : FlowSet} {s s' : SearchState}

/-- The keys that go are those of the picked rules. -/
theorem mem_safeTrimmed {clock : Nat} {decisions : List TrimDecision}
    (h : execute { dbs := s.dbs, round := 0, sourceRunID := s.acceptedRunID, factor := 1 }
      (strategies.map (SafeStrategy.registered host)) clock = .ok decisions)
    {r : Rule} (hr : r ∈ s.acceptedRules) :
    r.key ∈ (aggregateAndEnrich s.dbs.exp.rules s.acceptedRunID .SAFE decisions).map
        (fun r => r.key) ↔ Picked host strategies s.acceptedRules r := by
  rw [mem_aggregateAndEnrich, mem_execute h]
  constructor
  · rintro ⟨⟨r', hr', hpick, hkey⟩, _⟩
    rw [← rule_eq_of_key hr' hr hkey]
    exact hpick
  · intro hpick
    exact ⟨⟨r, hr, hpick, rfl⟩, mem_enabledSet.mpr ⟨r, hr, rfl⟩⟩

/-- **What the SAFE stage leaves**: the rules that no strategy picks. -/
theorem safeStage_acceptedRules
    (hsafe : sch.functionsByType .SAFE = strategies.map (SafeStrategy.registered host))
    (hne : s.acceptedRunID ≠ s.nextRunID) (h : safeStage sch env flows s = .ok s') (r : Rule) :
    r ∈ s'.acceptedRules ↔ r ∈ s.acceptedRules ∧ ¬ Picked host strategies s.acceptedRules r := by
  unfold safeStage at h
  rw [hsafe] at h
  obtain ⟨decisions, hdecisions, h⟩ := bind_eq_ok.mp h
  have hpicked : ∀ r ∈ s.acceptedRules, r.key ∈
      (aggregateAndEnrich s.dbs.exp.rules s.acceptedRunID .SAFE decisions).map (fun r => r.key) ↔
        Picked host strategies s.acceptedRules r := fun r hr => mem_safeTrimmed hdecisions hr
  dsimp only at h
  split at h
  · next hnil =>
      -- nothing is picked, and run 0 stays the accepted one
      cases h
      rw [hnil] at hpicked
      constructor
      · exact fun hr => ⟨hr, fun hpick => by simpa using (hpicked r hr).mpr hpick⟩
      · exact fun hr => hr.1
  · next hsome =>
      obtain ⟨⟨u, eval⟩, hu, h⟩ := bind_eq_ok.mp h
      obtain ⟨dbs, rfl, htried⟩ := tryCandidate_tried
        (s := { s with clock := s.clock + (strategies.map (SafeStrategy.registered host)).length })
        hsome hu
      cases h
      obtain ⟨t, ht, _, hrows⟩ := cloneRulesInDB_eq hne s.dbs.exp.rules
        ((setTrimRunID (aggregateAndEnrich s.dbs.exp.rules s.acceptedRunID .SAFE decisions)
          s.nextRunID).map TrimmedRule.toRuleRef)
      have hsame : t = dbs.exp.rules := by
        have hcloned := htried.cloned .exp
        rw [show (s.dbs.get .exp) = s.dbs.exp from rfl, ht] at hcloned
        exact Except.ok.inj hcloned
      subst hsame
      show r ∈ listRulesFromDB dbs.exp.rules s.nextRunID true ↔ _
      rw [mem_listRulesFromDB_clone hrows, List.map_map]
      apply and_congr_right
      intro hr
      rw [← hpicked r hr, ← setTrimRunID_keys _ s.nextRunID]
      rfl

/-- A machine without systemd. -/
def plainHost : Host :=
  { lower := Char.toLower, quote := fun s => "\"" ++ s ++ "\"", systemctl := .notFound }

end SnortOptimizer.Analyser
