import SnortOptimizer.Analyser.OrphanFlowbits

/-!
# Flowbits after the SAFE stage

A rule that tests a flowbit needs another that sets it. `safe_orphan_flowbits` picks the rules that
lack one among the enabled rules, but it does not see what the other strategies pick at the same
time. `safeStage_keeps_flowbits_iff` says when the rules that stay keep what they need. What a rule
needs is what Snort makes of its `isset` options: all bits of `a&b`, but any of `a|b`.
-/

namespace SnortOptimizer.Analyser

open Rules

/-! ## Conditions that can be met -/

/-- How Snort reads the rules. A text that is no rule in its syntax is not loaded. -/
structure Reading (rules : List Rule) where
  line : Rule → Option FlowbitsLine
  written : ∀ r ∈ rules, ∀ l, line r = some l → r.rawText = String.ofList l.raw
  complete : ∀ r ∈ rules, line r = none → ∀ l : FlowbitsLine, r.rawText ≠ String.ofList l.raw

namespace Reading

variable {rules : List Rule} (reading : Reading rules)

/-- What the rule does to the bits of a flow. -/
def changes (r : Rule) : List (Flags.Change (List Char)) :=
  ((reading.line r).map FlowbitsLine.changes).getD []

def conditions (r : Rule) : List (Flags.Condition (List Char)) :=
  ((reading.line r).map FlowbitsLine.conditions).getD []

/-- The rules can leave a flow with bits for which all conditions of the rule hold. -/
def Satisfiable (among : List Rule) (r : Rule) : Prop :=
  ∃ s, (Flags.machine (among.flatMap reading.changes)).Reachable s ∧
    ∀ c ∈ reading.conditions r, c.Holds s

/-- The rule sets or toggles the bit. -/
def Provides (provider : Rule) (bit : List Char) : Prop :=
  ∃ change ∈ reading.changes provider, change.effect ≠ .clear ∧ bit ∈ change.flags

theorem mem_settable {among : List Rule} {bit : List Char} :
    bit ∈ Flags.settable (among.flatMap reading.changes) ↔
      ∃ provider ∈ among, reading.Provides provider bit := by
  show (∃ change ∈ among.flatMap reading.changes, change.effect ≠ .clear ∧ bit ∈ change.flags) ↔ _
  simp only [List.mem_flatMap]
  constructor
  · rintro ⟨change, ⟨provider, hprovider, hchange⟩, hprovides⟩
    exact ⟨provider, hprovider, change, hchange, hprovides⟩
  · rintro ⟨provider, hprovider, change, hchange, hprovides⟩
    exact ⟨change, ⟨provider, hprovider, hchange⟩, hprovides⟩

/-- **What can be met**: every condition has the providers it needs. -/
theorem satisfiable_iff {among : List Rule} {r : Rule} :
    reading.Satisfiable among r ↔ ∀ c ∈ reading.conditions r,
      c.Holds {bit | ∃ provider ∈ among, reading.Provides provider bit} := by
  have hsettable : Flags.settable (among.flatMap reading.changes) =
      {bit | ∃ provider ∈ among, reading.Provides provider bit} :=
    Set.ext fun bit => reading.mem_settable
  rw [Satisfiable, Flags.exists_reachable_forall_holds_iff, hsettable]

end Reading

/-! ## Flowbits that are still set -/

variable {host : Host} {strategies : List SafeStrategy} {sch : Scheduler} {env : Externals}
  {flows : FlowSet} {s s' : SearchState}

/-- Every rule that stays and could fire can still fire. -/
def KeepsFlowbits {rules : List Rule} (reading : Reading rules) (after : List Rule) : Prop :=
  ∀ r ∈ after, reading.Satisfiable rules r → reading.Satisfiable after r

/-- No strategy is after the providers that a rule needs which no strategy is after: of each of its
conditions all bits, or one if any will do, have an enabled provider that stays. -/
def ProvidersStay (host : Host) (strategies : List SafeStrategy) {rules : List Rule}
    (reading : Reading rules) : Prop :=
  ∀ r ∈ rules, ¬ Picked host strategies rules r →
    (∀ c ∈ reading.conditions r,
      c.Holds {bit | ∃ provider ∈ rules, reading.Provides provider bit}) →
    ∀ c ∈ reading.conditions r,
      c.Holds {bit | ∃ provider ∈ rules, ¬ Picked host strategies rules provider ∧
        reading.Provides provider bit}

theorem keepsFlowbits_iff {rules after : List Rule} (reading : Reading rules)
    (h : ∀ r, r ∈ after ↔ r ∈ rules ∧ ¬ Picked host strategies rules r) :
    KeepsFlowbits reading after ↔ ProvidersStay host strategies reading := by
  unfold KeepsFlowbits ProvidersStay
  simp only [reading.satisfiable_iff, h, and_imp, and_assoc]

/-- **When the SAFE stage kills no rule that stays.** For every rule database and every choice of
the strategies: each surviving rule whose `isset` conditions could be met before can still have them
met if and only if no strategy is after the providers such a rule needs. -/
theorem safeStage_keeps_flowbits_iff {dbs : Databases} {store : AnalyserStore}
    (hsafe : sch.functionsByType .SAFE = strategies.map (SafeStrategy.registered host))
    (hbase : baseline sch env flows dbs store = .ok s)
    (h : safeStage sch env flows s = .ok s') (reading : Reading s.acceptedRules) :
    KeepsFlowbits reading s'.acceptedRules ↔ ProvidersStay host strategies reading := by
  obtain ⟨_, _, _, _, _, _, _, haccepted, _, hnext, _⟩ := baseline_eq_ok hbase
  have hne : s.acceptedRunID ≠ s.nextRunID := by
    rw [haccepted, hnext]
    decide
  exact keepsFlowbits_iff reading (safeStage_acceptedRules hsafe hne h)

/-! ## A rule that is killed -/

/-- `isset,a` -/
def issetA : FlowbitsCheck :=
  { setA with
    op := .isset
    bits_nil_iff := by simp [setA]
    orBits_test := by simp }

def markingLine : FlowbitsLine := flowbitsLine setA setA_text sidTwo sidTwo_name

def needingLine : FlowbitsLine :=
  flowbitsLine issetA (by decide)
    (sidOption ['3'] ⟨by decide, List.all_eq_true.mp (by decide)⟩ (by decide)) rfl

/-- A rule that marks flows in which a program is sent. -/
def markingRule : Rule :=
  { loneRule with
    sid := 2, sourceFile := "snort3-file-executable.rules"
    rawText := "alert tcp any any -> any any (flowbits:set,a; sid:2;)" }

/-- A rule that looks for malware in such flows. -/
def malwareRule : Rule :=
  { loneRule with
    sid := 3, sourceFile := "snort3-malware-other.rules"
    rawText := "alert tcp any any -> any any (flowbits:isset,a; sid:3;)" }

/-- How the two rules are written, and one more that sets the bit. -/
def exampleLine (r : Rule) : FlowbitsLine :=
  if r.sid = 1 then settingLine else if r.sid = 2 then markingLine else needingLine

/-- The texts of the rules are these lines. -/
def WrittenAsExample (rules : List Rule) : Prop :=
  rules.all (fun r => r.rawText = String.ofList (exampleLine r).raw) = true

instance (rules : List Rule) : Decidable (WrittenAsExample rules) :=
  inferInstanceAs (Decidable (_ = _))

def exampleReading {rules : List Rule} (h : WrittenAsExample rules) : Reading rules where
  line r := some (exampleLine r)
  written := by
    intro r hr l hl
    cases hl
    simpa using List.all_eq_true.mp h r hr
  complete := by
    intro r hr hnone
    cases hnone

theorem exampleReading_provides {rules : List Rule} (h : WrittenAsExample rules) {r : Rule}
    (hr : r.sid = 1 ∨ r.sid = 2) : (exampleReading h).Provides r ['a'] := by
  have hchange : (⟨.set, [['a']]⟩ : Flags.Change (List Char)) ∈ (exampleLine r).changes := by
    unfold exampleLine
    split
    · decide +kernel
    · split
      · decide +kernel
      · next h1 h2 =>
          rcases hr with hr | hr
          · exact absurd hr h1
          · exact absurd hr h2
  exact ⟨_, hchange, by decide, by decide⟩

theorem exampleReading_conditions {rules : List Rule} (h : WrittenAsExample rules) :
    (exampleReading h).conditions malwareRule = [⟨[['a']], false⟩] := by
  show needingLine.conditions = _
  decide +kernel

/-- The rules ask for nothing but the bit. -/
theorem eq_of_mem_exampleConditions {rules : List Rule} (h : WrittenAsExample rules) {r : Rule}
    {c : Flags.Condition (List Char)} (hc : c ∈ (exampleReading h).conditions r) :
    c = ⟨[['a']], false⟩ := by
  have hline : (exampleLine r).conditions ⊆ [⟨[['a']], false⟩] := by
    unfold exampleLine
    split
    · decide +kernel
    · split <;> decide +kernel
  exact List.mem_singleton.mp (hline hc)

theorem exampleReading_malwareRule {rules : List Rule} (h : WrittenAsExample rules)
    (bit : List Char) : ¬ (exampleReading h).Provides malwareRule bit := by
  rintro ⟨change, hchange, -⟩
  have hnone : needingLine.changes = [] := by decide +kernel
  change change ∈ needingLine.changes at hchange
  rw [hnone] at hchange
  cases hchange

theorem exampleReading_satisfiable_iff {rules : List Rule} (h : WrittenAsExample rules)
    {among : List Rule} :
    (exampleReading h).Satisfiable among malwareRule ↔
      ∃ provider ∈ among, (exampleReading h).Provides provider ['a'] := by
  rw [Reading.satisfiable_iff, exampleReading_conditions]
  simp [Flags.Condition.Holds]

/-- One flow, and the rules in the given list. -/
def withRules (rules : List Rule) : Externals := { lone true with rawRulePath := .ok rules }

/-- All four strategies, and no others. -/
def safeOnly : Scheduler :=
  { cfg := defaultConfig
    functions := [SafeStrategy.sourceFileBrowser, .sourceFileProtocols, .inactiveSystemdServices,
      .orphanFlowbits].map (SafeStrategy.registered plainHost) }

/-- The states before and after the SAFE stage on the given rules. -/
def safeStates (rules : List Rule) : Option (SearchState × SearchState) := do
  let (dbs, store) ← (prepareRuleDatabases defaultConfig (withRules rules) .empty
    { runs := [], trimDecisions := [] }).toOption
  let s ← (baseline safeOnly (withRules rules) (loneFlows true) dbs store).toOption
  let s' ← (safeStage safeOnly (withRules rules) (loneFlows true) s).toOption
  return (s, s')

/-- A rule of another file, without a service and without a condition. -/
theorem not_picked_settingRule :
    ¬ Picked plainHost [.sourceFileBrowser, .sourceFileProtocols, .inactiveSystemdServices,
      .orphanFlowbits] [settingRule, markingRule, malwareRule] settingRule := by
  rintro ⟨strategy, -, hpicks⟩
  cases strategy with
  | sourceFileBrowser => exact absurd hpicks (by show ¬ fileOrBrowser _ = true; decide +kernel)
  | sourceFileProtocols =>
      exact absurd hpicks (by show ¬ (uncommonProtocol _ _).isSome = true; decide +kernel)
  | inactiveSystemdServices =>
      obtain ⟨active, hactive, -⟩ := hpicks
      cases hactive
  | orphanFlowbits => exact absurd (by decide +kernel) hpicks

/-- The first two rules set the bit that the third needs. The second goes with its source file, and
the first stays. -/
theorem safeStage_keeps_one_provider :
    ∃ s s', safeStates [settingRule, markingRule, malwareRule] = some (s, s') ∧
      s.acceptedRules = [settingRule, markingRule, malwareRule] ∧
      s'.acceptedRules = [settingRule, malwareRule] ∧
      ∃ reading : Reading s.acceptedRules,
        reading.conditions malwareRule = [⟨[['a']], false⟩] ∧
        reading.Satisfiable s.acceptedRules malwareRule ∧
        KeepsFlowbits reading s'.acceptedRules := by
  have hcheck : (safeStates [settingRule, markingRule, malwareRule]).any (fun x =>
      decide (x.1.acceptedRules = [settingRule, markingRule, malwareRule] ∧
        x.2.acceptedRules = [settingRule, malwareRule] ∧
        WrittenAsExample x.1.acceptedRules)) = true := by
    decide +kernel
  obtain ⟨⟨s, s'⟩, hstates, hcheck⟩ := (Option.any_eq_true _ _).mp hcheck
  obtain ⟨hbefore, hafter, hwritten⟩ := of_decide_eq_true hcheck
  have hsatisfiable : (exampleReading hwritten).Satisfiable s.acceptedRules malwareRule :=
    (exampleReading_satisfiable_iff hwritten).mpr
      ⟨settingRule, by simp [hbefore], exampleReading_provides hwritten (.inl rfl)⟩
  refine ⟨s, s', hstates, hbefore, hafter, exampleReading hwritten,
    exampleReading_conditions hwritten, hsatisfiable, ?_⟩
  simp only [safeStates, Option.bind_eq_bind, Option.bind_eq_some_iff, Option.pure_def,
    Option.some.injEq, Prod.mk.injEq, Prod.exists] at hstates
  obtain ⟨dbs, store, _, _, hbase, _, hsafe, rfl, rfl⟩ := hstates
  have hfunctions : safeOnly.functionsByType .SAFE = [SafeStrategy.sourceFileBrowser,
      .sourceFileProtocols, .inactiveSystemdServices, .orphanFlowbits].map
        (SafeStrategy.registered plainHost) := rfl
  apply (safeStage_keeps_flowbits_iff hfunctions (eq_ok_of_toOption hbase)
    (eq_ok_of_toOption hsafe) (exampleReading hwritten)).mpr
  intro r hr _ _ c hc
  rw [eq_of_mem_exampleConditions hwritten hc]
  intro bit hbit
  rw [List.mem_singleton.mp hbit]
  refine ⟨settingRule, ?_, ?_, exampleReading_provides hwritten (.inl rfl)⟩
  · rw [hbefore]
    exact List.mem_cons_self
  · rw [hbefore]
    exact not_picked_settingRule

/-- The first rule goes with its source file, and the second stays without ever being able to
fire. -/
theorem malware_rule_killed :
    ∃ s s', safeStates [markingRule, malwareRule] = some (s, s') ∧
      s'.acceptedRules = [malwareRule] ∧
      ∃ reading : Reading s.acceptedRules, ¬ KeepsFlowbits reading s'.acceptedRules := by
  have hcheck : (safeStates [markingRule, malwareRule]).any (fun x =>
      decide (markingRule ∈ x.1.acceptedRules ∧ x.2.acceptedRules = [malwareRule] ∧
        WrittenAsExample x.1.acceptedRules)) = true := by
    decide +kernel
  obtain ⟨⟨s, s'⟩, hstates, hcheck⟩ := (Option.any_eq_true _ _).mp hcheck
  obtain ⟨hbefore, hafter, hwritten⟩ := of_decide_eq_true hcheck
  refine ⟨s, s', hstates, hafter, exampleReading hwritten, fun hkeeps => ?_⟩
  have hsatisfiable : (exampleReading hwritten).Satisfiable s.acceptedRules malwareRule :=
    (exampleReading_satisfiable_iff hwritten).mpr
      ⟨markingRule, hbefore, exampleReading_provides hwritten (.inr rfl)⟩
  have hkept := hkeeps malwareRule (by rw [hafter]; exact List.mem_cons_self) hsatisfiable
  rw [hafter, exampleReading_satisfiable_iff] at hkept
  obtain ⟨provider, hprovider, hprovides⟩ := hkept
  rw [List.mem_singleton.mp hprovider] at hprovides
  exact exampleReading_malwareRule hwritten _ hprovides

end SnortOptimizer.Analyser
