import SnortOptimizer.Analyser.FlowMatch
import SnortOptimizer.Analyser.Search

/-!
# Statistics as sets (`analyser/sql/eval.go`, `analyser/sql/rule_fp.go`)

What the counters of a run say, for flows as they are loaded: each of them is the size of a set of
flows or of alerts, so neither the order of the alerts nor repeating one matters. The numbers of the
single rules are sizes of such sets, too, and together they cover the overall ones.

`RefreshRuleFP` writes the numbers of the rules into the table `rule_FP`. Here it is followed step
by step, each of which may fail.
-/

namespace SnortOptimizer.Analyser

open Text Counting

variable {rt : Runtime} {fs : FlowSet} {zone : Int}

/-! ## Alerts as they are counted -/

/-- An alert but for its row id. -/
def AlertForEval.content (a : AlertForEval) : AlertForEval := { a with id := 0 }

/-- What `alertUnmatchedKey` prints of an alert. -/
def AlertForEval.printed (a : AlertForEval) : Int × Int × Int × String × String × String :=
  (a.gid, a.sid, a.rev, a.srcAP, a.dstAP, a.timestamp)

def AlertForEval.NoBar (a : AlertForEval) : Prop := '|' ∉ a.srcAP.toList ∧ '|' ∉ a.dstAP.toList

instance (a : AlertForEval) : Decidable a.NoBar := inferInstanceAs (Decidable (_ ∧ _))

/-- The key determines what it prints. -/
theorem alertUnmatchedKey_inj {a b : AlertForEval} (ha : a.NoBar) (hb : b.NoBar) :
    alertUnmatchedKey a = alertUnmatchedKey b ↔ a.printed = b.printed := by
  have hlist (x : AlertForEval) : (alertUnmatchedKey x).toList =
      (toString x.gid).toList ++ ':' :: ((toString x.sid).toList ++ ':' ::
        ((toString x.rev).toList ++ '|' :: (x.srcAP.toList ++ '|' :: (x.dstAP.toList ++ '|' ::
          x.timestamp.toList)))) := by
    simp [alertUnmatchedKey, String.toList_append]
  have hcolon (n : Int) : ':' ∉ (toString n).toList := notMem_toString_int n (by decide) (by decide)
  have hbar (n : Int) : '|' ∉ (toString n).toList := notMem_toString_int n (by decide) (by decide)
  simp only [AlertForEval.printed, Prod.mk.injEq]
  constructor
  · intro h
    have h := congrArg String.toList h
    rw [hlist, hlist] at h
    obtain ⟨hgid, h⟩ := append_sep_inj (hcolon _) (hcolon _) h
    obtain ⟨hsid, h⟩ := append_sep_inj (hcolon _) (hcolon _) h
    obtain ⟨hrev, h⟩ := append_sep_inj (hbar _) (hbar _) h
    obtain ⟨hsrc, h⟩ := append_sep_inj ha.1 hb.1 h
    obtain ⟨hdst, hts⟩ := append_sep_inj ha.2 hb.2 h
    exact ⟨toString_int_inj (String.toList_inj.mp hgid),
      toString_int_inj (String.toList_inj.mp hsid), toString_int_inj (String.toList_inj.mp hrev),
      String.toList_inj.mp hsrc, String.toList_inj.mp hdst, String.toList_inj.mp hts⟩
  · rintro ⟨hgid, hsid, hrev, hsrc, hdst, hts⟩
    rw [alertUnmatchedKey, hgid, hsid, hrev, hsrc, hdst, hts, alertUnmatchedKey]

/-- The alerts without a flow, each kind once. -/
def unmatchedAlerts (rt : Runtime) (fs : FlowSet) (alerts : List AlertForEval) :
    Finset (Int × Int × Int × String × String × String) :=
  ((alerts.filter fun a => (matchAlertToFlow rt fs a).isNone).map AlertForEval.printed).toFinset

/-- Two ways to tell the elements of a list apart find the same number of them. -/
theorem card_toFinset_map_eq {α β γ : Type} [DecidableEq β] [DecidableEq γ] {f : α → β} {g : α → γ}
    {l : List α} (h : ∀ a ∈ l, ∀ b ∈ l, f a = f b ↔ g a = g b) :
    (l.map f).toFinset.card = (l.map g).toFinset.card := by
  induction l with
  | nil => rfl
  | cons a l ih =>
      have hmem : f a ∈ (l.map f).toFinset ↔ g a ∈ (l.map g).toFinset := by
        simp only [List.mem_toFinset, List.mem_map]
        refine exists_congr fun b => and_congr_right fun hb => ?_
        exact h b (List.mem_cons_of_mem _ hb) a List.mem_cons_self
      have hrest := ih fun b hb c hc =>
        h b (List.mem_cons_of_mem _ hb) c (List.mem_cons_of_mem _ hc)
      simp only [List.map_cons, List.toFinset_cons, Finset.card_insert_eq_ite, hmem, hrest]

theorem card_unmatchedSet {alerts : List AlertForEval} (hbar : ∀ a ∈ alerts, a.NoBar) :
    (unmatchedSet rt fs alerts).card = (unmatchedAlerts rt fs alerts).card := by
  apply card_toFinset_map_eq
  intro a ha b hb
  exact alertUnmatchedKey_inj (hbar a (List.mem_filter.mp ha).1) (hbar b (List.mem_filter.mp hb).1)

/-- Alerts with the same contents have the same flows and the same unmatched keys. -/
theorem evaluateAlerts_content {alerts alerts' : List AlertForEval}
    (h : ∀ c, c ∈ alerts'.map AlertForEval.content ↔ c ∈ alerts.map AlertForEval.content) :
    evaluateAlerts rt fs alerts' = evaluateAlerts rt fs alerts := by
  -- whatever only looks at the contents finds the same in both lists
  have hsame : ∀ P : AlertForEval → Prop, (∀ a, P a.content ↔ P a) →
      ((∃ a ∈ alerts', P a) ↔ ∃ a ∈ alerts, P a) := by
    intro P hP
    have hmap : ∀ l : List AlertForEval, (∃ a ∈ l, P a) ↔
        ∃ c ∈ l.map AlertForEval.content, P c := by
      intro l
      constructor
      · rintro ⟨a, ha, hPa⟩
        exact ⟨a.content, List.mem_map_of_mem ha, (hP a).mpr hPa⟩
      · rintro ⟨c, hc, hPc⟩
        obtain ⟨a, ha, rfl⟩ := List.mem_map.mp hc
        exact ⟨a, ha, (hP a).mp hPc⟩
    rw [hmap alerts', hmap alerts]
    exact exists_congr fun c => and_congr_left fun _ => h c
  apply evaluateAlerts_congr
  · ext i
    rw [mem_alertedSet, mem_alertedSet]
    exact hsame (fun a => matchAlertToFlow rt fs a = some i) fun a => Iff.rfl
  · ext key
    simp only [unmatchedSet, List.mem_toFinset, List.mem_map, List.mem_filter, and_assoc]
    exact hsame (fun a => (matchAlertToFlow rt fs a).isNone = true ∧ alertUnmatchedKey a = key)
      fun a => Iff.rfl

/-! ## Loaded flows -/

/-- A loaded flow is not marked both ways. -/
theorem Loaded.maliciousSet_eq {rows : List FlowRow} (hfs : Loaded rt zone rows fs) :
    maliciousSet fs = positions (fun flow => flow.isMalicious) fs.flows := by
  have hflag : ∀ f ∈ fs.flows, (!f.isBenign && f.isMalicious) = f.isMalicious := by
    intro f hf
    rw [hfs.flows] at hf
    obtain ⟨row, _, hrecord⟩ := List.mem_filterMap.mp hf
    obtain ⟨start, _, rfl⟩ := Option.map_eq_some_iff.mp hrecord
    generalize mapUpper rt.upper (trimSpace row.label) = label
    by_cases hbenign : label = "BENIGN"
    · simp [hbenign]
    · simp [hbenign]
  ext i
  rw [maliciousSet, mem_positions, mem_positions]
  refine exists_congr fun f => and_congr_right fun hf => ?_
  rw [hflag f (List.mem_of_getElem? hf)]

/-- **The evaluation as sets.** For flows that were loaded, with `M` the flows the alerts are
matched to, every counter is the size of a set; the rates lie between 0 and 1; and the result
depends only on which alerts there are, not on their order or on how often each one is there. -/
theorem evaluateAlerts_eq_sets (rt : Runtime) (zone : Int) (dbPath : String) (rows : List FlowRow)
    (fs : FlowSet) (hload : loadFlowSet rt zone dbPath (.ok rows) = .ok fs)
    (alerts : List AlertForEval) (hbar : ∀ a ∈ alerts, a.NoBar) :
    let e := evaluateAlerts rt fs alerts
    let M := (alerts.filterMap (matchAlertToFlow rt fs)).toFinset
    let benign := positions (fun flow => flow.isBenign) fs.flows
    let malicious := positions (fun flow => flow.isMalicious) fs.flows
    (e.totalFlows = fs.flows.length ∧ e.benignFlows = benign.card ∧
      e.maliciousFlows = malicious.card) ∧
    (e.alertedFlows = M.card ∧ e.falsePositiveFlows = (M ∩ benign).card ∧
      e.detectedMaliciousFlows = (M ∩ malicious).card ∧ e.missedFlows = (malicious \ M).card ∧
      e.unmatchedAlertFlows = (unmatchedAlerts rt fs alerts).card) ∧
    (e.detectedMaliciousFlows + e.missedFlows = e.maliciousFlows ∧
      e.falsePositiveFlows + e.detectedMaliciousFlows ≤ e.alertedFlows) ∧
    (e.falsePositiveRate = (if e.totalFlows = 0 then 0 else
        (e.falsePositiveFlows : ℚ) / e.totalFlows) ∧
      0 ≤ e.falsePositiveRate ∧ e.falsePositiveRate ≤ 1) ∧
    (e.missRate = (if e.maliciousFlows = 0 then 0 else (e.missedFlows : ℚ) / e.maliciousFlows) ∧
      0 ≤ e.missRate ∧ e.missRate ≤ 1) ∧
    ∀ alerts' : List AlertForEval,
      (∀ c, c ∈ alerts'.map AlertForEval.content ↔ c ∈ alerts.map AlertForEval.content) →
      evaluateAlerts rt fs alerts' = e := by
  obtain ⟨_, _, hfs⟩ := loadFlowSet_eq_ok hload
  intro e M benign malicious
  obtain ⟨⟨htotal, halerted, hunmatched⟩, hbenign, hfp, hmal, hdetected, hmissed⟩ :=
    evaluateAlerts_numbers rt fs alerts
  rw [hfs.maliciousSet_eq] at hmal hdetected hmissed
  rw [Finset.inter_comm] at hfp hdetected
  rw [card_unmatchedSet hbar] at hunmatched
  have hcounts := evaluateAlerts_counts rt fs alerts
  obtain ⟨⟨hmiss0, hmiss1⟩, hfp0, hfp1⟩ := hcounts.rates
  have hpos (n : Nat) (x : ℚ) : (if 0 < n then x else 0) = if n = 0 then 0 else x := by
    by_cases hn : n = 0
    · simp [hn]
    · simp [hn, Nat.pos_of_ne_zero hn]
  refine ⟨⟨htotal, hbenign, hmal⟩, ⟨halerted, hfp, hdetected, hmissed, hunmatched⟩, ⟨?_, ?_⟩,
    ⟨?_, hfp0, hfp1⟩, ⟨?_, hmiss0, hmiss1⟩, fun alerts' h => evaluateAlerts_content h⟩
  · have hsplit := Finset.card_sdiff_add_card_inter malicious M
    rw [Finset.inter_comm] at hsplit
    show (evaluateAlerts rt fs alerts).detectedMaliciousFlows + _ = _
    rw [hdetected, hmissed, hmal, Nat.add_comm]
    exact hsplit
  · -- a loaded flow is not on both sides
    have hdisjoint : Disjoint (M ∩ benign) (M ∩ malicious) := by
      rw [Finset.disjoint_left]
      intro i hb hm
      have hm := (Finset.mem_inter.mp hm).2
      have hmal : i ∈ maliciousSet fs := hfs.maliciousSet_eq ▸ hm
      obtain ⟨f, hf, hben⟩ := mem_positions.mp (Finset.mem_inter.mp hb).2
      rw [mem_maliciousSet hf, hben] at hmal
      cases hmal.1
    have hle : ((M ∩ benign) ∪ (M ∩ malicious)).card ≤ M.card :=
      Finset.card_le_card (Finset.union_subset Finset.inter_subset_left Finset.inter_subset_left)
    rw [Finset.card_union_of_disjoint hdisjoint] at hle
    show (evaluateAlerts rt fs alerts).falsePositiveFlows + _ ≤ _
    rw [hfp, hdetected, halerted]
    exact hle
  · rw [← hpos]
    exact hcounts.falsePositiveRate
  · rw [← hpos]
    exact hcounts.missRate

/-- An alert that belongs to no flow. -/
def strayAlert : AlertForEval := { nestedAlert with id := 2, timestamp := "07/05-10:00:00.000000" }

/-- Repeating an alert and changing the order does nothing. -/
theorem stray_alert_evaluation :
    let rt : Runtime := { upper := Char.toUpper, local_ := fun w => w - 0 }
    ∃ fs, loadFlowSet rt 0 "flows.db" (.ok nestedRows) = .ok fs ∧
      (evaluateAlerts rt fs [nestedAlert, strayAlert]).detectedMaliciousFlows = 1 ∧
      evaluateAlerts rt fs [strayAlert, nestedAlert, { nestedAlert with id := 3 }] =
        evaluateAlerts rt fs [nestedAlert, strayAlert] := by
  intro rt
  have hrun : (loadFlowSet rt 0 "flows.db" (.ok nestedRows)).toOption.map (fun fs =>
      (evaluateAlerts rt fs [nestedAlert, strayAlert]).detectedMaliciousFlows) = some 1 := by
    decide +kernel
  obtain ⟨fs, hfs, hdetected⟩ := Option.map_eq_some_iff.mp hrun
  have hload := eq_ok_of_toOption hfs
  obtain ⟨_, _, _, _, _, hsame⟩ := evaluateAlerts_eq_sets rt 0 "flows.db" nestedRows fs hload
    [nestedAlert, strayAlert] (by decide)
  refine ⟨fs, hload, hdetected, hsame _ ?_⟩
  intro c
  simp only [List.map_cons, List.map_nil, List.mem_cons, List.not_mem_nil, or_false]
  constructor
  · rintro (h | h | h)
    · exact .inr h
    · exact .inl h
    · exact .inl h
  · rintro (h | h)
    · exact .inr (.inl h)
    · exact .inl h

/-! ## The numbers of the rules -/

/-- The alerts of a rule. -/
def alertsOfRule (gid sid : Int) (alerts : List AlertForEval) : List AlertForEval :=
  alerts.filter fun a => a.gid = gid ∧ a.sid = sid

theorem filter_ruleKey (gid sid : Int) (alerts : List AlertForEval) :
    (alerts.filter fun a => ruleKey a.gid a.sid = ruleKey gid sid) =
      alertsOfRule gid sid alerts := by
  apply List.filter_congr
  intro a _
  rw [decide_eq_decide]
  constructor
  · exact ruleKey_inj
  · rintro ⟨hgid, hsid⟩
    rw [hgid, hsid]

/-- The order of the alerts does not matter. -/
theorem buildRuleFPStats_perm {alerts alerts' : List AlertForEval} (h : alerts.Perm alerts') :
    buildRuleFPStats rt fs alerts = buildRuleFPStats rt fs alerts' := by
  funext key
  have hown := h.filter fun a => decide (ruleKey a.gid a.sid = key)
  have hnil : alerts.filter (fun a => decide (ruleKey a.gid a.sid = key)) = [] ↔
      alerts'.filter (fun a => decide (ruleKey a.gid a.sid = key)) = [] :=
    ⟨fun hn => (hn ▸ hown).symm.eq_nil, fun hn => (hn ▸ hown).eq_nil⟩
  have hset : alertedSet rt fs (alerts.filter fun a => decide (ruleKey a.gid a.sid = key)) =
      alertedSet rt fs (alerts'.filter fun a => decide (ruleKey a.gid a.sid = key)) := by
    ext i
    simp only [mem_alertedSet]
    exact exists_congr fun a => and_congr_left fun _ => hown.mem_iff
  rw [buildRuleFPStats_apply, buildRuleFPStats_apply]
  simp only [hnil, hset, hown.countP_eq]

/-- The flows of the rules are all the flows there are. -/
theorem mem_seenFlows_iff {alerts : List AlertForEval} {i : Nat} :
    i ∈ alertedSet rt fs alerts ↔
      ∃ gid sid, i ∈ ((buildRuleFPStats rt fs alerts).get (ruleKey gid sid)).seenFlows := by
  simp only [(buildRuleFPStats_counts rt fs alerts _).seen_eq, mem_alertedSet]
  constructor
  · rintro ⟨a, ha, hi⟩
    exact ⟨a.gid, a.sid, a, List.mem_filter.mpr ⟨ha, decide_eq_true rfl⟩, hi⟩
  · rintro ⟨gid, sid, a, ha, hi⟩
    exact ⟨a, (List.mem_filter.mp ha).1, hi⟩

/-! ## `RefreshRuleFP`, step by step -/

/-- The primary key of `rule_FP`. -/
def RuleFPRow.Conflict (r s : RuleFPRow) : Prop :=
  r.runID = s.runID ∧ r.gid = s.gid ∧ r.sid = s.sid

instance (r s : RuleFPRow) : Decidable (r.Conflict s) := inferInstanceAs (Decidable (_ ∧ _ ∧ _))

abbrev RuleFPTable := Table RuleFPRow RuleFPRow.Conflict

/-- The calls that may fail. -/
inductive RefreshStep where
  | ensureRuleFP
  | loadEvalAlerts
  | listRules
  | openDB
  | begin
  | delete
  | prepare
  | exec (i : Nat)
  | commit

/-- Which calls fail, and with what error. -/
abbrev RefreshFaults := RefreshStep → Option String

def RefreshFaults.call (faults : RefreshFaults) (step : RefreshStep) : Except String Unit :=
  match faults step with
  | none => .ok ()
  | some err => .error err

/-- The loop of `stmt.Exec`. -/
def execRows (faults : RefreshFaults) : List RuleFPRow → Nat → RuleFPTable →
    Except String RuleFPTable
  | [], _, t => .ok t
  | row :: rows, i, t => do
      faults.call (.exec i)
      match t.insert? row with
      | none => .error "UNIQUE constraint failed"
      | some t => execRows faults rows (i + 1) t

/-- `RefreshRuleFP` once the table is there. -/
def refreshRows (rt : Runtime) (flows : FlowSet) (runID : Int) (faults : RefreshFaults)
    (db : SnortDB) (t : RuleFPTable) : Except String RuleFPTable := do
  faults.call .loadEvalAlerts
  let stats := buildRuleFPStats rt flows (loadEvalAlerts db runID)
  faults.call .listRules
  let rules := listRulesFromDB db.rules runID true
  faults.call .openDB
  faults.call .begin
  faults.call .delete
  let t := t.delete (·.runID = runID)
  faults.call .prepare
  let t ← execRows faults (rules.map (ruleFPRow stats runID)) 0 t
  faults.call .commit
  return t

/-- `RefreshRuleFP` on the table, if there is one, and its error. `EnsureRuleFP` may still fail when
it has `created` the table; what comes after it is one transaction and is rolled back. -/
def refreshRuleFPTable (rt : Runtime) (flows : FlowSet) (runID : Int) (faults : RefreshFaults)
    (created : Bool) (db : SnortDB) (table : Option RuleFPTable) :
    Option RuleFPTable × Option String :=
  match faults .ensureRuleFP with
  | some err => (if created then some (table.getD .empty) else table, some err)
  | none =>
      let t := table.getD .empty
      match refreshRows rt flows runID faults db t with
      | .ok t' => (some t', none)
      | .error err => (some t, some err)

/-- The rows of a table that may not be there. -/
def fpRows (table : Option RuleFPTable) : List RuleFPRow := (table.getD .empty).rows

theorem RefreshFaults.call_eq_ok {faults : RefreshFaults} {step : RefreshStep} :
    faults.call step = .ok () ↔ faults step = none := by
  unfold RefreshFaults.call
  cases faults step <;> simp

theorem execRows_eq_ok {faults : RefreshFaults} {rows : List RuleFPRow} {i : Nat}
    {t t' : RuleFPTable} (h : execRows faults rows i t = .ok t') : t'.rows = t.rows ++ rows := by
  induction rows generalizing i t with
  | nil =>
      cases h
      rw [List.append_nil]
  | cons row rows ih =>
      obtain ⟨_, _, h⟩ := bind_eq_ok.mp h
      split at h
      · cases h
      · next u hu =>
          rw [ih h, Table.insert?_eq_some hu, List.append_assoc]
          rfl

/-- Rows with keys of their own go in. -/
theorem execRows_isOk {faults : RefreshFaults} (hfaults : ∀ i, faults (.exec i) = none)
    {rows : List RuleFPRow} {i : Nat} {t : RuleFPTable}
    (hrows : rows.Pairwise fun r s => ¬ r.Conflict s)
    (ht : ∀ s ∈ t.rows, ∀ r ∈ rows, ¬ s.Conflict r) :
    ∃ t', execRows faults rows i t = .ok t' := by
  obtain ⟨t', ht'⟩ := Table.insertAll_isSome hrows ht
  refine ⟨t', ?_⟩
  clear hrows ht
  induction rows generalizing i t with
  | nil =>
      cases ht'
      rfl
  | cons row rows ih =>
      rw [Table.insertAll, List.foldlM_cons] at ht'
      obtain ⟨u, hu, hrest⟩ := Option.bind_eq_some_iff.mp ht'
      rw [execRows, RefreshFaults.call_eq_ok.mpr (hfaults i)]
      simp only [bind, Except.bind, hu]
      exact ih hrest

/-- **What a refresh writes**: the rows of the run are replaced, those of the others stay. -/
theorem refreshRows_eq_ok {flows : FlowSet} {runID : Int} {faults : RefreshFaults} {db : SnortDB}
    {t t' : RuleFPTable} (h : refreshRows rt flows runID faults db t = .ok t') :
    t'.rows = t.rows.filter (fun r => !decide (r.runID = runID)) ++
      (listRulesFromDB db.rules runID true).map
        (ruleFPRow (buildRuleFPStats rt flows (loadEvalAlerts db runID)) runID) := by
  unfold refreshRows at h
  obtain ⟨_, _, h⟩ := bind_eq_ok.mp h
  obtain ⟨_, _, h⟩ := bind_eq_ok.mp h
  obtain ⟨_, _, h⟩ := bind_eq_ok.mp h
  obtain ⟨_, _, h⟩ := bind_eq_ok.mp h
  obtain ⟨_, _, h⟩ := bind_eq_ok.mp h
  obtain ⟨_, _, h⟩ := bind_eq_ok.mp h
  obtain ⟨u, hu, h⟩ := bind_eq_ok.mp h
  obtain ⟨_, _, h⟩ := bind_eq_ok.mp h
  cases h
  exact execRows_eq_ok hu

/-- The rows of the enabled rules have keys of their own. -/
theorem pairwise_ruleFPRow (t : RuleTable) (stats : RuleFPStats) (runID : Int) :
    ((listRulesFromDB t runID true).map (ruleFPRow stats runID)).Pairwise
      fun r s => ¬ r.Conflict s := by
  rw [List.pairwise_map]
  apply (listRulesFromDB_pairwise t runID true).imp
  intro r s hne hconflict
  exact hne (Prod.ext hconflict.2.1 hconflict.2.2)

/-- Where no call fails there is no error. -/
theorem refreshRows_isOk {flows : FlowSet} {runID : Int} {faults : RefreshFaults}
    (hfaults : ∀ step, faults step = none) (db : SnortDB) (t : RuleFPTable) :
    ∃ t', refreshRows rt flows runID faults db t = .ok t' := by
  have hcall : ∀ step, faults.call step = .ok () := fun step =>
    RefreshFaults.call_eq_ok.mpr (hfaults step)
  obtain ⟨t', ht'⟩ := execRows_isOk (fun i => hfaults (.exec i)) (i := 0)
    (t := t.delete (·.runID = runID)) (pairwise_ruleFPRow db.rules
      (buildRuleFPStats rt flows (loadEvalAlerts db runID)) runID) (by
      intro s hs r hr hconflict
      obtain ⟨rule, _, rfl⟩ := List.mem_map.mp hr
      have hne := (List.mem_filter.mp hs).2
      simp [hconflict.1, ruleFPRow] at hne)
  refine ⟨t', ?_⟩
  simp only [refreshRows, hcall, bind, Except.bind, ht']
  rfl

/-- The two outcomes of a refresh: what `refreshRuleFP` makes of the rows, or an error and the rows
as they were. -/
theorem refreshRuleFPTable_cases (rt : Runtime) (fs : FlowSet) (runID : Int)
    (faults : RefreshFaults) (created : Bool) (db : SnortDB) (table : Option RuleFPTable) :
    let out := refreshRuleFPTable rt fs runID faults created db table
    (out.2 = none ∧
      fpRows out.1 = (refreshRuleFP rt fs runID { db with ruleFP := fpRows table }).ruleFP) ∨
    (out.2 ≠ none ∧ (out.1 = table ∨ out.1 = some (table.getD .empty))) := by
  intro out
  have hout : out = refreshRuleFPTable rt fs runID faults created db table := rfl
  unfold refreshRuleFPTable at hout
  split at hout
  · right
    rw [hout]
    refine ⟨by simp, ?_⟩
    cases created with
    | false => exact .inl rfl
    | true => exact .inr rfl
  · dsimp only at hout
    split at hout
    · next t' ht' =>
        left
        rw [hout]
        refine ⟨rfl, (refreshRows_eq_ok ht').trans ?_⟩
        simp only [refreshRuleFP, fpRows, ne_eq, decide_not]
        rfl
    · right
      rw [hout]
      exact ⟨by simp, .inr rfl⟩

theorem refreshRuleFPTable_rows {runID : Int} {faults : RefreshFaults} {created : Bool}
    {db : SnortDB} {table : Option RuleFPTable}
    (h : (refreshRuleFPTable rt fs runID faults created db table).2 = none) :
    fpRows (refreshRuleFPTable rt fs runID faults created db table).1 =
      (refreshRuleFP rt fs runID { db with ruleFP := fpRows table }).ruleFP := by
  rcases refreshRuleFPTable_cases rt fs runID faults created db table with ⟨_, hrows⟩ | ⟨herr, _⟩
  · exact hrows
  · exact absurd h herr

theorem refreshRuleFPTable_noFault {runID : Int} {faults : RefreshFaults}
    (hfaults : ∀ step, faults step = none) (created : Bool) (db : SnortDB)
    (table : Option RuleFPTable) :
    (refreshRuleFPTable rt fs runID faults created db table).2 = none := by
  obtain ⟨t', ht'⟩ : ∃ t', refreshRows rt fs runID faults db (table.getD .empty) = .ok t' :=
    refreshRows_isOk hfaults db _
  simp only [refreshRuleFPTable, hfaults, ht']

theorem mem_refreshRuleFP {runID : Int} {db : SnortDB} {r : RuleFPRow} :
    r ∈ (refreshRuleFP rt fs runID db).ruleFP ↔ (r ∈ db.ruleFP ∧ r.runID ≠ runID) ∨
      ∃ rule ∈ listRulesFromDB db.rules runID true,
        ruleFPRow (buildRuleFPStats rt fs (loadEvalAlerts db runID)) runID rule = r := by
  rw [refreshRuleFP, List.mem_append, List.mem_filter, List.mem_map, decide_eq_true_iff]

/-- Writing the rows of a run once more changes nothing. -/
theorem refreshRuleFP_twice (rt : Runtime) (fs : FlowSet) (runID : Int) (db : SnortDB) :
    refreshRuleFP rt fs runID (refreshRuleFP rt fs runID db) = refreshRuleFP rt fs runID db := by
  have hnew : ∀ (stats : RuleFPStats) (rules : List Rule),
      (rules.map (ruleFPRow stats runID)).filter (·.runID ≠ runID) = [] := by
    intro stats rules
    rw [List.filter_eq_nil_iff]
    intro r hr
    obtain ⟨rule, _, rfl⟩ := List.mem_map.mp hr
    simp [ruleFPRow]
  simp only [refreshRuleFP, loadEvalAlerts, List.filter_append, List.filter_filter, hnew,
    List.append_nil, Bool.and_self]

/-- **The statistics of the rules.** The numbers of a rule are the sizes of the sets of flows its
alerts are matched to, whatever the order of the alerts, and these sets make up the alerted flows of
the evaluation. A refresh without an error leaves exactly one row for each enabled rule of the run,
with these numbers, and the rows of the other runs; one with an error changes no row; a second one
changes nothing. -/
theorem ruleFP_statistics (rt : Runtime) (fs : FlowSet) :
    (∀ alerts gid sid,
      let own := alertsOfRule gid sid alerts
      let seen := (own.filterMap (matchAlertToFlow rt fs)).toFinset
      let stat := (buildRuleFPStats rt fs alerts).get (ruleKey gid sid)
      stat.alertedFlows = seen.card ∧ stat.benignAlertedFlows = (benignSet fs ∩ seen).card ∧
        stat.maliciousAlertedFlows = (maliciousSet fs ∩ seen).card ∧
        stat.unmatchedAlerts = (own.filter fun a => (matchAlertToFlow rt fs a).isNone).length) ∧
    (∀ alerts alerts', alerts.Perm alerts' →
      buildRuleFPStats rt fs alerts = buildRuleFPStats rt fs alerts') ∧
    (∀ alerts i, i ∈ (matchAlertsToFlows rt fs alerts).1.foldl (fun m x => insert x.flow m)
        (∅ : Finset Nat) ↔
      ∃ gid sid, i ∈ ((buildRuleFPStats rt fs alerts).get (ruleKey gid sid)).seenFlows) ∧
    (∀ zone dbPath rows, loadFlowSet rt zone dbPath (.ok rows) = .ok fs →
      maliciousSet fs = positions (fun flow => flow.isMalicious) fs.flows) ∧
    ∀ runID faults created db table,
      let out := refreshRuleFPTable rt fs runID faults created db table
      let stats := buildRuleFPStats rt fs (loadEvalAlerts db runID)
      ((∀ step, faults step = none) → out.2 = none) ∧
      (out.2 = none →
        (∀ row ∈ db.rules.rows, row.runID = runID → row.rule.enabled = true →
          ruleFPRow stats runID row.rule ∈ fpRows out.1) ∧
        (∀ r ∈ fpRows out.1, r.runID = runID → ∃ row ∈ db.rules.rows, row.runID = runID ∧
          row.rule.enabled = true ∧ r = ruleFPRow stats runID row.rule) ∧
        (fpRows out.1).Pairwise (fun r s => ¬ (r.runID = s.runID ∧ r.gid = s.gid ∧ r.sid = s.sid)) ∧
        (∀ id, id ≠ runID →
          (fpRows out.1).filter (·.runID = id) = (fpRows table).filter (·.runID = id)) ∧
        ∀ faults' created', (refreshRuleFPTable rt fs runID faults' created' db out.1).2 = none →
          fpRows (refreshRuleFPTable rt fs runID faults' created' db out.1).1 = fpRows out.1) ∧
      (out.2 ≠ none → fpRows out.1 = fpRows table ∧ ∀ t, table = some t → out.1 = some t) := by
  refine ⟨?_, fun _ _ => buildRuleFPStats_perm, ?_, ?_, ?_⟩
  · intro alerts gid sid own seen stat
    have hstat : stat = RuleFPStat.counting fs (alertedSet rt fs own)
        (own.countP fun a => (matchAlertToFlow rt fs a).isNone) := by
      have hget := buildRuleFPStats_get rt fs alerts (ruleKey gid sid)
      rw [filter_ruleKey] at hget
      exact hget
    rw [hstat]
    exact ⟨rfl, rfl, rfl, List.countP_eq_length_filter⟩
  · intro alerts i
    rw [alerted_eq_alertedSet]
    exact mem_seenFlows_iff
  · intro zone dbPath rows hload
    obtain ⟨_, _, hfs⟩ := loadFlowSet_eq_ok hload
    exact hfs.maliciousSet_eq
  · intro runID faults created db table out stats
    refine ⟨fun hfaults => refreshRuleFPTable_noFault hfaults created db table, ?_, ?_⟩
    · intro hout
      have hrows := refreshRuleFPTable_rows hout
      refine ⟨?_, ?_, (out.1.getD .empty).apart, ?_, ?_⟩
      · intro row hrow hid henabled
        rw [hrows, mem_refreshRuleFP]
        exact .inr ⟨row.rule, mem_listRulesFromDB.mpr ⟨⟨row, mem_rowsOf.mpr ⟨hrow, hid⟩, rfl⟩,
          fun _ => henabled⟩, rfl⟩
      · intro r hr hid
        rw [hrows, mem_refreshRuleFP] at hr
        rcases hr with ⟨_, hne⟩ | ⟨rule, hrule, rfl⟩
        · exact absurd hid hne
        · obtain ⟨⟨row, hrow, rfl⟩, henabled⟩ := mem_listRulesFromDB.mp hrule
          obtain ⟨hmem, hrun⟩ := mem_rowsOf.mp hrow
          exact ⟨row, hmem, hrun, henabled rfl, rfl⟩
      · intro id hid
        rw [hrows, refreshRuleFP, filter_replace, if_neg hid]
        intro r hr
        obtain ⟨rule, _, rfl⟩ := List.mem_map.mp hr
        rfl
      · intro faults' created' hout'
        rw [refreshRuleFPTable_rows hout', hrows]
        exact congrArg SnortDB.ruleFP
          (refreshRuleFP_twice rt fs runID { db with ruleFP := fpRows table })
    · intro hout
      rcases refreshRuleFPTable_cases rt fs runID faults created db table with
        ⟨hnone, _⟩ | ⟨_, hsame | hcreated⟩
      · exact absurd hnone hout
      · exact ⟨congrArg fpRows hsame, fun t ht => hsame.trans ht⟩
      · constructor
        · show fpRows (refreshRuleFPTable rt fs runID faults created db table).1 = _
          rw [hcreated]
          rfl
        · intro t ht
          subst ht
          exact hcreated

end SnortOptimizer.Analyser
