import SnortOptimizer.Analyser.SafeStrategies

/-!
# Rules of several services (`analyser/safe/inactive_systemd_services.go`)

A rule may name more than one service. `InactiveSystemdServicesFunc` goes through them in their
order and takes the rule as soon as one of them belongs to a group without an active unit; whether
another one belongs to a group that has one is not looked at. `inactiveServices_spare_iff` says
which rule sets this does no harm to.
-/

namespace SnortOptimizer.Analyser

open Text

/-! ## What the strategy returns -/

def inactiveReason (host : Host) (matched : String × String) : String :=
  matched.1 ++ " rule belongs to inactive systemd service group " ++ host.quote matched.2

/-- Where no two rules have the same key, the keys seen do not matter. -/
theorem foldl_addInactive (host : Host) (active : List String) {rules : List Rule}
    (hrules : rules.Pairwise fun r s => r.key ≠ s.key) (acc : List TrimDecision × List String)
    (hacc : ∀ r ∈ rules, ruleKey r.gid r.sid ∉ acc.2) :
    (rules.foldl (addInactive host active) acc).1 = acc.1 ++ rules.filterMap fun r =>
      (inactiveGroup host active r).map fun matched =>
        decisionOn r (inactiveReason host matched) := by
  induction rules generalizing acc with
  | nil => simp
  | cons rule rules ih =>
      rw [List.pairwise_cons] at hrules
      have hrest : ∀ r ∈ rules, ruleKey r.gid r.sid ∉ acc.2 := fun r hr =>
        hacc r (List.mem_cons_of_mem _ hr)
      rw [List.foldl_cons]
      cases hgroup : inactiveGroup host active rule with
      | none =>
          have hsame : addInactive host active acc rule = acc := by rw [addInactive, hgroup]
          rw [hsame, ih hrules.2 acc hrest, List.filterMap_cons_none (by rw [hgroup]; rfl)]
      | some matched =>
          have hnew : addInactive host active acc rule =
              (acc.1 ++ [decisionOn rule (inactiveReason host matched)],
                acc.2 ++ [ruleKey rule.gid rule.sid]) := by
            rw [addInactive, hgroup]
            exact if_neg (hacc rule List.mem_cons_self)
          rw [hnew, ih hrules.2, List.filterMap_cons_some (by rw [hgroup]; rfl), List.append_assoc]
          · rfl
          · intro r hr
            rw [List.mem_append, not_or, List.mem_singleton]
            refine ⟨hrest r hr, fun hkey => hrules.1 r hr ?_⟩
            obtain ⟨hgid, hsid⟩ := ruleKey_inj hkey
            exact Prod.ext hgid.symm hsid.symm

theorem lookupLast_isSome_iff {entries : List (String × String)} {key : String} :
    (lookupLast entries key).isSome = true ↔ ∃ e ∈ entries, e.1 = key := by
  rw [lookupLast, Option.isSome_map, List.find?_isSome]
  simp only [List.mem_reverse, decide_eq_true_eq]

/-- The service belongs to a group with an active unit, or to one without. -/
def InGroup (host : Host) (active : List String) (running : Bool) (service : String) : Prop :=
  ∃ g ∈ commonSystemdServiceRuleGroups, service ∈ g.services ∧
    groupHasActiveUnit host g active = running

instance (host : Host) (active : List String) (running : Bool) (service : String) :
    Decidable (InGroup host active running service) :=
  inferInstanceAs (Decidable (∃ g ∈ commonSystemdServiceRuleGroups, _ ∧ _))

/-- The source file is that of a group without an active unit. -/
def DisabledSource (host : Host) (active : List String) (rule : Rule) : Prop :=
  ∃ g ∈ commonSystemdServiceRuleGroups, sourceFileBase host.lower rule.sourceFile ∈ g.sourceFiles ∧
    groupHasActiveUnit host g active = false

/-- The maps that are built from the groups without an active unit. -/
theorem lookupLast_inactive (host : Host) (active : List String)
    (entriesOf : SystemdServiceRuleGroup → List String) (key : String) :
    (lookupLast ((commonSystemdServiceRuleGroups.filter fun g =>
        !groupHasActiveUnit host g active).flatMap fun g => (entriesOf g).map fun e => (e, g.name))
      key).isSome = true ↔
      ∃ g ∈ commonSystemdServiceRuleGroups, key ∈ entriesOf g ∧
        groupHasActiveUnit host g active = false := by
  rw [lookupLast_isSome_iff]
  simp only [List.mem_flatMap, List.mem_filter, List.mem_map, Bool.not_eq_true']
  constructor
  · rintro ⟨_, ⟨g, ⟨hg, hinactive⟩, e, he, rfl⟩, rfl⟩
    exact ⟨g, hg, he, hinactive⟩
  · rintro ⟨g, hg, he, hinactive⟩
    exact ⟨(key, g.name), ⟨g, ⟨hg, hinactive⟩, key, he, rfl⟩, rfl⟩

/-- The loop over the services finds a group if one of them has one. -/
theorem findSome?_service (services : List String) (groupOf : String → Option String) :
    (∃ group, (services.findSome? fun service =>
        (groupOf service).map fun group => ("service", group)) = some ("service", group)) ↔
      ∃ service ∈ services, (groupOf service).isSome = true := by
  constructor
  · rintro ⟨group, h⟩
    obtain ⟨service, hmem, hfound⟩ := List.exists_of_findSome?_eq_some h
    obtain ⟨name, hname, _⟩ := Option.map_eq_some_iff.mp hfound
    exact ⟨service, hmem, by rw [hname]; rfl⟩
  · rintro ⟨service, hmem, hsome⟩
    have hfound : (services.findSome? fun service =>
        (groupOf service).map fun group => ("service", group)).isSome = true := by
      rw [List.findSome?_isSome_iff]
      exact ⟨service, hmem, by rwa [Option.isSome_map]⟩
    obtain ⟨matched, hfirst⟩ := Option.isSome_iff_exists.mp hfound
    obtain ⟨_, _, hmatched⟩ := List.exists_of_findSome?_eq_some hfirst
    obtain ⟨group, _, rfl⟩ := Option.map_eq_some_iff.mp hmatched
    exact ⟨group, hfirst⟩

/-- A rule is taken by its services if its source file is not disabled and one of them is
inactive. -/
theorem inactiveGroup_service_iff (host : Host) (active : List String) (rule : Rule) :
    (∃ group, inactiveGroup host active rule = some ("service", group)) ↔
      ¬ DisabledSource host active rule ∧
        ∃ service ∈ ruleServices host.lower rule.rawText, InGroup host active false service := by
  have hsource := lookupLast_inactive host active (fun g => g.sourceFiles)
    (sourceFileBase host.lower rule.sourceFile)
  have hservice := lookupLast_inactive host active fun g => g.services
  unfold inactiveGroup
  dsimp only
  split
  · next group hgroup =>
      rw [hgroup] at hsource
      refine iff_of_false ?_ fun h => h.1 (hsource.mp rfl)
      rintro ⟨_, h⟩
      have hby : "source_file" = "service" := congrArg Prod.fst (Option.some.inj h)
      exact absurd hby (by decide)
  · next hgroup =>
      rw [hgroup] at hsource
      have hfree : ¬ DisabledSource host active rule := fun h => by cases hsource.mpr h
      rw [findSome?_service]
      constructor
      · rintro ⟨service, hmem, hsome⟩
        exact ⟨hfree, service, hmem, (hservice service).mp hsome⟩
      · rintro ⟨_, service, hmem, hin⟩
        exact ⟨service, hmem, (hservice service).mpr hin⟩

/-! ## Rules that are spared -/

/-- The strategy returns the rule, and gives its services as the reason. -/
def ReturnedByService (host : Host) (rules : List Rule) (rule : Rule) : Prop :=
  ∃ decisions group, inactiveSystemdServicesFunc host rules = .ok decisions ∧
    decisionOn rule (inactiveReason host ("service", group)) ∈ decisions

/-- A rule that is returned because of its services names none of a group with an active unit. -/
def SparesActive (host : Host) (rules : List Rule) : Prop :=
  ∀ active, activeSystemdUnits host = .ok (some active) →
    ∀ rule ∈ rules, ReturnedByService host rules rule →
      ∀ service ∈ ruleServices host.lower rule.rawText, ¬ InGroup host active true service

/-- The reason tells how a rule was found. -/
theorem inactiveReason_service {host : Host} {matched : String × String} {group : String}
    (hby : matched.1 = "source_file" ∨ matched.1 = "service")
    (h : inactiveReason host matched = inactiveReason host ("service", group)) :
    matched.1 = "service" := by
  rcases hby with hby | hby
  · have hsecond := congrArg (fun s : String => s.toList[1]?) h
    simp [inactiveReason, hby] at hsecond
  · exact hby

theorem inactiveGroup_by {host : Host} {active : List String} {rule : Rule}
    {matched : String × String} (h : inactiveGroup host active rule = some matched) :
    matched.1 = "source_file" ∨ matched.1 = "service" := by
  unfold inactiveGroup at h
  dsimp only at h
  split at h
  · cases h
    exact .inl rfl
  · obtain ⟨_, _, hfound⟩ := List.exists_of_findSome?_eq_some h
    obtain ⟨_, _, rfl⟩ := Option.map_eq_some_iff.mp hfound
    exact .inr rfl

theorem returnedByService_iff {host : Host} {active : List String} {t : RuleTable} {runID : Int}
    (hactive : activeSystemdUnits host = .ok (some active)) {rule : Rule}
    (hrule : rule ∈ listRulesFromDB t runID true) :
    ReturnedByService host (listRulesFromDB t runID true) rule ↔
      ∃ group, inactiveGroup host active rule = some ("service", group) := by
  have hfunc : inactiveSystemdServicesFunc host (listRulesFromDB t runID true) =
      .ok ((listRulesFromDB t runID true).filterMap fun r =>
        (inactiveGroup host active r).map fun matched =>
          decisionOn r (inactiveReason host matched)) := by
    have hfold := foldl_addInactive host active (listRulesFromDB_pairwise t runID true) ([], [])
      (by simp)
    rw [List.nil_append] at hfold
    rw [inactiveSystemdServicesFunc, hactive, ← hfold]
    rfl
  constructor
  · rintro ⟨decisions, group, hok, hmem⟩
    rw [hfunc] at hok
    cases hok
    obtain ⟨r, hr, hdecision⟩ := List.mem_filterMap.mp hmem
    obtain ⟨matched, hmatched, heq⟩ := Option.map_eq_some_iff.mp hdecision
    -- the decision names its rule, and there is only one with that name
    have hkey : r.key = rule.key :=
      Prod.ext (congrArg (fun d => d.gid) heq) (congrArg (fun d => d.sid) heq)
    obtain rfl := rule_eq_of_key hr hrule hkey
    have hservice := inactiveReason_service (inactiveGroup_by hmatched)
      (congrArg (fun d => d.reason) heq)
    refine ⟨matched.2, ?_⟩
    rw [hmatched, ← hservice]
  · rintro ⟨group, hgroup⟩
    refine ⟨_, group, hfunc, List.mem_filterMap.mpr ⟨rule, hrule, ?_⟩⟩
    rw [hgroup]
    rfl

/-- **When rules of active services are spared.** For every machine and every table of rules: no
rule that is returned because of its services names one of an active group, exactly if no enabled
rule whose source file is not disabled names a service of a group without an active unit together
with one of a group that has one. -/
theorem inactiveServices_spare_iff (host : Host) (t : RuleTable) (runID : Int) :
    SparesActive host (listRulesFromDB t runID true) ↔
      ∀ active, activeSystemdUnits host = .ok (some active) →
        ∀ rule ∈ listRulesFromDB t runID true, ¬ DisabledSource host active rule →
          ¬ ((∃ service ∈ ruleServices host.lower rule.rawText,
              InGroup host active false service) ∧
            ∃ service ∈ ruleServices host.lower rule.rawText,
              InGroup host active true service) := by
  refine forall_congr' fun active => forall_congr' fun hactive => forall_congr' fun rule =>
    forall_congr' fun hrule => ?_
  rw [returnedByService_iff hactive hrule, inactiveGroup_service_iff]
  constructor
  · rintro h hfree ⟨hinactive, service, hmem, hin⟩
    exact h ⟨hfree, hinactive⟩ service hmem hin
  · rintro h ⟨hfree, hinactive⟩ service hmem hin
    exact h hfree ⟨hinactive, service, hmem, hin⟩

/-- A machine on which only a web server runs. -/
def webHost : Host := { plainHost with systemctl := .output "nginx.service loaded active running" }

/-- A rule for two services, alone in its table. -/
def twoServicesRule : Rule :=
  { loneRule with
    rawText := "alert tcp any any -> any any (service:ftp,http; content:\"evil\"; sid:1;)" }

def twoServices : RuleTable := insertRules Table.empty 0 [twoServicesRule]

/-- The rule goes because of `ftp`, although it names `http`. -/
theorem web_rule_returned :
    activeSystemdUnits webHost = .ok (some ["nginx.service"]) ∧
      twoServicesRule ∈ listRulesFromDB twoServices 0 true ∧
      ReturnedByService webHost (listRulesFromDB twoServices 0 true) twoServicesRule ∧
      "http" ∈ ruleServices webHost.lower twoServicesRule.rawText ∧
      InGroup webHost ["nginx.service"] true "http" ∧
      ¬ SparesActive webHost (listRulesFromDB twoServices 0 true) := by
  have hactive : activeSystemdUnits webHost = .ok (some ["nginx.service"]) := by
    apply eq_ok_of_toOption
    decide +kernel
  have hrule : twoServicesRule ∈ listRulesFromDB twoServices 0 true := by decide +kernel
  have hservice : "http" ∈ ruleServices webHost.lower twoServicesRule.rawText := by decide +kernel
  have hin : InGroup webHost ["nginx.service"] true "http" := by decide +kernel
  have hreturned : ReturnedByService webHost (listRulesFromDB twoServices 0 true)
      twoServicesRule := by
    rw [returnedByService_iff hactive hrule]
    exact ⟨"ftp", by decide +kernel⟩
  refine ⟨hactive, hrule, hreturned, hservice, hin, fun h => ?_⟩
  exact h _ hactive _ hrule hreturned _ hservice hin

end SnortOptimizer.Analyser
