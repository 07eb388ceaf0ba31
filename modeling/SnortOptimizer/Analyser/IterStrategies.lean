import SnortOptimizer.Analyser.SafeStrategies
import SnortOptimizer.Analyser.Statistics
import SnortOptimizer.Sorting.Ties
import Mathlib.Data.Rat.Floor

/-!
# The ITER strategies (`analyser/iter`)

Each of the four strategies ranks the enabled rules of a run by what the databases say of them and
returns the first part of the ranking, by a fraction of its own and the factor it is given. The
scheduler halves the factor after a rollback; it relies on the shorter list being a first part of
the longer one (`iterStrategy_factor`).

Factors, rates and fractions are exact. What a map and a sort leave open is part of `IterEnv`.
-/

namespace SnortOptimizer.Analyser

open Text Sorting

/-! ## Factors and limits -/

def boundedFactor (factor : ℚ) : ℚ := if factor < 0 then 0 else if 1 < factor then 1 else factor

def scaledLimit (size : Nat) (fraction factor : ℚ) : Nat :=
  if size = 0 ∨ fraction ≤ 0 ∨ factor ≤ 0 then 0
  else
    let limit := ⌈size * fraction * factor⌉₊
    let limit := if limit < 1 then 1 else limit
    if size < limit then size else limit

/-! ## Texts -/

def roundHalfEven (num den : Nat) : Nat :=
  let q := num / den
  let r := num % den
  if 2 * r < den then q else if den < 2 * r then q + 1 else if q % 2 = 0 then q else q + 1

/-- `%.nf`. -/
def fixedText (digits : Nat) (x : ℚ) : String :=
  let n := roundHalfEven (x.num.natAbs * 10 ^ digits) x.den
  let fraction := toString (n % 10 ^ digits)
  (if x < 0 then "-" else "") ++ toString (n / 10 ^ digits) ++
    if digits = 0 then ""
    else "." ++ String.ofList (List.replicate (digits - fraction.length) '0') ++ fraction

/-! ## The databases -/

/-- A row of `rule_profiler_metrics`. -/
structure ProfilerRow where
  runID : Int
  gid : Int
  sid : Int
  checks : Int
  matches_ : Int
  alerts : Int
  timeUS : Int
  ruleTimePct : ℚ

structure InstanceDB where
  rules : RuleTable
  ruleFP : RuleFPTable
  profiler : List ProfilerRow

/-- What a strategy is given; every query on a database that cannot be read is an error. -/
structure IterInput where
  exp : Except String InstanceDB
  real : Except String InstanceDB
  sourceRunID : Int
  factor : ℚ

/-- `rules r JOIN ... ON run_id, gid, sid WHERE r.run_id = ? AND r.enabled = 1`. -/
def joinEnabled {β γ : Type} (t : RuleTable) (runID : Int) (rows : List β)
    (key : β → Int × Int × Int) (row : Rule → β → γ) : List γ :=
  (((rowsOf t runID).map RuleRow.rule).filter fun r => r.enabled).flatMap fun r =>
    (rows.filter fun b => key b = (runID, r.gid, r.sid)).map (row r)

def ProfilerRow.key (p : ProfilerRow) : Int × Int × Int := (p.runID, p.gid, p.sid)

def RuleFPRow.key (fp : RuleFPRow) : Int × Int × Int := (fp.runID, fp.gid, fp.sid)

/-- What is scanned of a rule. -/
def scannedRule (r : Rule) : TrimDecision :=
  { gid := r.gid, sid := r.sid, rev := r.rev, sourceFile := r.sourceFile, msg := r.msg
    reason := "", function := "", type := .ITER, metrics := [] }

/-! ## High cost -/

structure HighCostRule extends TrimDecision where
  timeUS : Int
  ruleTimePct : ℚ
  checks : Int
  matches_ : Int
  alerts : Int

/-- `ORDER BY p.time_us DESC, p.rule_time_pct DESC, r.gid, r.sid`. -/
def highCostLe (a b : HighCostRule) : Prop :=
  b.timeUS < a.timeUS ∨ (a.timeUS = b.timeUS ∧
    (b.ruleTimePct < a.ruleTimePct ∨ (a.ruleTimePct = b.ruleTimePct ∧ keyLe a.key b.key)))

instance : DecidableRel highCostLe := fun _ _ => inferInstanceAs (Decidable (_ ∨ (_ ∧ _)))

def queryHighCostRules (db : Except String InstanceDB) (runID : Int) :
    Except String (List HighCostRule) := do
  let db ← db
  let rows := joinEnabled db.rules runID (db.profiler.filter fun p => 0 < p.timeUS)
    ProfilerRow.key fun r p =>
      { scannedRule r with
        timeUS := p.timeUS, ruleTimePct := p.ruleTimePct, checks := p.checks
        matches_ := p.matches_, alerts := p.alerts : HighCostRule }
  return rows.insertionSort highCostLe

/-- The rules of the real instance, or of the experiment if there are none. -/
def highCostCandidates (input : IterInput) : Except String (List HighCostRule) := do
  let rows ← queryHighCostRules input.real input.sourceRunID
  if rows.isEmpty then queryHighCostRules input.exp input.sourceRunID else return rows

def highCostDecision (rank : Nat) (row : HighCostRule) : TrimDecision :=
  { row.toTrimDecision with
    reason := "high real-traffic rule profiler cost: rank=" ++ toString rank ++ " time_us=" ++
      toString row.timeUS ++ " pct=" ++ fixedText 4 row.ruleTimePct ++ " checks=" ++
      toString row.checks ++ " matches=" ++ toString row.matches_ ++ " alerts=" ++
      toString row.alerts
    metrics := [("time_us", row.timeUS), ("rule_time_pct", row.ruleTimePct),
      ("checks", row.checks), ("matches", row.matches_), ("alerts", row.alerts)] }

/-- `HighCostRulesFunc`, with a limit of its own. -/
def highCostRulesFunc (input : IterInput) : Except String (List TrimDecision) := do
  let factor := input.factor
  if factor ≤ 0 then return []
  else
    let factor := if 1 < factor then 1 else factor
    let rows ← highCostCandidates input
    if rows.isEmpty then return []
    else
      let limit := ⌈rows.length * (1 / 5 : ℚ) * factor⌉₊
      let limit := if limit < 1 then 1 else limit
      let limit := if rows.length < limit then rows.length else limit
      return (rows.take limit).zipIdx.map fun (row, i) => highCostDecision (i + 1) row

/-! ## Many false positives, little use -/

structure FPLowUtilizationRule extends TrimDecision where
  alertedFlows : Int
  benignAlertedFlows : Int
  maliciousAlertedFlows : Int
  ruleFPRate : ℚ
  utilization : ℚ

/-- `ORDER BY fp.fp_rate DESC, fp.utilization ASC, fp.benign_alerted_flows DESC, r.gid, r.sid`. -/
def fpLowUtilizationLe (a b : FPLowUtilizationRule) : Prop :=
  b.ruleFPRate < a.ruleFPRate ∨ (a.ruleFPRate = b.ruleFPRate ∧
    (a.utilization < b.utilization ∨ (a.utilization = b.utilization ∧
      (b.benignAlertedFlows < a.benignAlertedFlows ∨
        (a.benignAlertedFlows = b.benignAlertedFlows ∧ keyLe a.key b.key)))))

instance : DecidableRel fpLowUtilizationLe := fun _ _ => inferInstanceAs (Decidable (_ ∨ (_ ∧ _)))

def queryHighFPLowUtilization (db : Except String InstanceDB) (runID : Int) :
    Except String (List FPLowUtilizationRule) := do
  let db ← db
  let selected := db.ruleFP.rows.filter fun fp =>
    0 < fp.alertedFlows ∧ 0 < fp.benignAlertedFlows ∧ 4 / 5 ≤ fp.fpRate ∧ fp.utilization ≤ 1 / 10 ∧
      fp.maliciousAlertedFlows ≤ 1
  let rows := joinEnabled db.rules runID selected RuleFPRow.key fun r fp =>
    { scannedRule r with
      alertedFlows := fp.alertedFlows, benignAlertedFlows := fp.benignAlertedFlows
      maliciousAlertedFlows := fp.maliciousAlertedFlows, ruleFPRate := fp.fpRate
      utilization := fp.utilization : FPLowUtilizationRule }
  return rows.insertionSort fpLowUtilizationLe

def fpLowUtilizationDecision (row : FPLowUtilizationRule) : TrimDecision :=
  { row.toTrimDecision with
    reason := "high rule false-positive rate and low malicious utilization: rule_fp_rate=" ++
      fixedText 4 row.ruleFPRate ++ " utilization=" ++ fixedText 4 row.utilization ++
      " benign_alerted_flows=" ++ toString row.benignAlertedFlows ++
      " malicious_alerted_flows=" ++ toString row.maliciousAlertedFlows ++
      " alerted_flows=" ++ toString row.alertedFlows
    metrics := [("alerted_flows", row.alertedFlows),
      ("benign_alerted_flows", row.benignAlertedFlows),
      ("malicious_alerted_flows", row.maliciousAlertedFlows), ("rule_fp_rate", row.ruleFPRate),
      ("utilization", row.utilization)] }

/-- The first part of a ranking, as three of the strategies cut it. -/
def cutRanking {α : Type} (fraction factor : ℚ) (rows : Except String (List α))
    (decision : α → TrimDecision) : Except String (List TrimDecision) := do
  let factor := boundedFactor factor
  if factor ≤ 0 then return []
  else
    let rows ← rows
    if rows.isEmpty then return []
    else return (rows.take (scaledLimit rows.length fraction factor)).map decision

def highFPLowUtilizationFunc (input : IterInput) : Except String (List TrimDecision) :=
  cutRanking (3 / 10) input.factor (queryHighFPLowUtilization input.exp input.sourceRunID)
    fpLowUtilizationDecision

/-! ## Many checks, little yield -/

structure LowYieldFPStat extends TrimDecision where
  alertedFlows : Int
  maliciousAlertedFlows : Int
  fpRate : ℚ
  utilization : ℚ

structure LowYieldHotRule extends TrimDecision where
  checks : Int
  matches_ : Int
  alerts : Int
  timeUS : Int
  ruleTimePct : ℚ
  alertedFlows : Int
  maliciousAlertedFlows : Int
  fpRate : ℚ
  utilization : ℚ

/-- The entries of the map that `queryLowYieldFPStats` returns. -/
def queryLowYieldFPStats (db : Except String InstanceDB) (runID : Int) :
    Except String (List LowYieldFPStat) := do
  let db ← db
  let selected := db.ruleFP.rows.filter fun fp =>
    fp.maliciousAlertedFlows ≤ 1 ∧ fp.utilization ≤ 1 / 20
  return joinEnabled db.rules runID selected RuleFPRow.key fun r fp =>
    { scannedRule r with
      alertedFlows := fp.alertedFlows, maliciousAlertedFlows := fp.maliciousAlertedFlows
      fpRate := fp.fpRate, utilization := fp.utilization : LowYieldFPStat }

/-- `ORDER BY p.checks DESC, p.matches ASC, p.alerts ASC, p.time_us DESC, r.gid, r.sid`. -/
def hotLe (a b : (Int × Int) × ProfilerRow) : Prop :=
  b.2.checks < a.2.checks ∨ (a.2.checks = b.2.checks ∧
    (a.2.matches_ < b.2.matches_ ∨ (a.2.matches_ = b.2.matches_ ∧
      (a.2.alerts < b.2.alerts ∨ (a.2.alerts = b.2.alerts ∧
        (b.2.timeUS < a.2.timeUS ∨ (a.2.timeUS = b.2.timeUS ∧ keyLe a.1 b.1)))))))

instance : DecidableRel hotLe := fun _ _ => inferInstanceAs (Decidable (_ ∨ (_ ∧ _)))

def hotRule (p : ProfilerRow) (stat : LowYieldFPStat) : LowYieldHotRule :=
  { stat.toTrimDecision with
    checks := p.checks, matches_ := p.matches_, alerts := p.alerts, timeUS := p.timeUS
    ruleTimePct := p.ruleTimePct, alertedFlows := stat.alertedFlows
    maliciousAlertedFlows := stat.maliciousAlertedFlows, fpRate := stat.fpRate
    utilization := stat.utilization }

def queryLowYieldHotRules (db : Except String InstanceDB) (runID : Int)
    (fpStats : List LowYieldFPStat) : Except String (List LowYieldHotRule) := do
  let db ← db
  let rows := joinEnabled db.rules runID (db.profiler.filter fun p => 1000 ≤ p.checks)
    ProfilerRow.key fun r p => (r.key, p)
  return (rows.insertionSort hotLe).filterMap fun (key, p) =>
    (fpStats.find? fun stat => ruleKey stat.gid stat.sid = ruleKey key.1 key.2).map (hotRule p)

/-- The rules of the real instance, or of the experiment if there are none. -/
def lowYieldCandidates (input : IterInput) : Except String (List LowYieldHotRule) := do
  let fpStats ← queryLowYieldFPStats input.exp input.sourceRunID
  if fpStats.isEmpty then return []
  else
    let rows ← queryLowYieldHotRules input.real input.sourceRunID fpStats
    if rows.isEmpty then queryLowYieldHotRules input.exp input.sourceRunID fpStats else return rows

def lowYieldDecision (row : LowYieldHotRule) : TrimDecision :=
  { row.toTrimDecision with
    reason := "frequently checked rule has low malicious yield: checks=" ++ toString row.checks ++
      " matches=" ++ toString row.matches_ ++ " alerts=" ++ toString row.alerts ++
      " malicious_flows=" ++ toString row.maliciousAlertedFlows ++ " utilization=" ++
      fixedText 4 row.utilization ++ " fp_rate=" ++ fixedText 4 row.fpRate
    metrics := [("checks", row.checks), ("matches", row.matches_), ("alerts", row.alerts),
      ("time_us", row.timeUS), ("rule_time_pct", row.ruleTimePct),
      ("alerted_flows", row.alertedFlows),
      ("malicious_alerted_flows", row.maliciousAlertedFlows), ("fp_rate", row.fpRate),
      ("utilization", row.utilization)] }

def lowYieldHotRulesFunc (input : IterInput) : Except String (List TrimDecision) :=
  cutRanking (1 / 5) input.factor (lowYieldCandidates input) lowYieldDecision

/-! ## Overlapping alerts of a protocol -/

structure ProtocolAlertRule extends TrimDecision where
  group : String
  alertedFlows : Int
  benignAlertedFlows : Int
  maliciousAlertedFlows : Int
  fpRate : ℚ
  utilization : ℚ
  groupAlertedFlows : Int
  groupKeptRules : Nat
  groupCoverageThreshold : ℚ
  deriving DecidableEq

/-- The comparison of the sort in `lowCoverageProtocolRules`. -/
def groupLess (a b : ProtocolAlertRule) : Prop :=
  if a.maliciousAlertedFlows ≠ b.maliciousAlertedFlows then
    b.maliciousAlertedFlows < a.maliciousAlertedFlows
  else if a.alertedFlows ≠ b.alertedFlows then b.alertedFlows < a.alertedFlows
  else if a.utilization ≠ b.utilization then b.utilization < a.utilization
  else a.sid < b.sid

/-- The comparison of the sort in `ProtocolAlertOverlapFunc`. -/
def candidateLess (a b : ProtocolAlertRule) : Prop :=
  if a.groupAlertedFlows ≠ b.groupAlertedFlows then b.groupAlertedFlows < a.groupAlertedFlows
  else if a.alertedFlows ≠ b.alertedFlows then a.alertedFlows < b.alertedFlows
  else if a.utilization ≠ b.utilization then a.utilization < b.utilization
  else a.sid < b.sid

/-- What the strategies use of the Go runtime: the order in which the map of groups is read and what
the sorts make of ties are open. -/
structure IterEnv where
  host : Host
  groupOrder : MapOrder (String × List ProtocolAlertRule)
  sortGroup : SliceSort groupLess
  sortCandidates : SliceSort candidateLess

def isProtocolGroup (source : String) : Bool :=
  "snort3-protocol-".toList.isPrefixOf source.toList || source = "snort3-netbios.rules"
    || source = "snort3-x11.rules"

/-- `ORDER BY r.source_file, fp.alerted_flows DESC, r.gid, r.sid`. -/
def protocolLe (a b : ProtocolAlertRule) : Prop :=
  a.sourceFile < b.sourceFile ∨ (a.sourceFile = b.sourceFile ∧
    (b.alertedFlows < a.alertedFlows ∨ (a.alertedFlows = b.alertedFlows ∧ keyLe a.key b.key)))

instance : DecidableRel protocolLe := fun _ _ => inferInstanceAs (Decidable (_ ∨ (_ ∧ _)))

/-- The rows of the query that belong to a protocol. -/
def protocolRows (lower : Char → Char) (db : InstanceDB) (runID : Int) : List ProtocolAlertRule :=
  let rows := joinEnabled db.rules runID (db.ruleFP.rows.filter fun fp => 0 < fp.alertedFlows)
    RuleFPRow.key fun r fp =>
      { scannedRule r with
        group := sourceFileBase lower r.sourceFile, alertedFlows := fp.alertedFlows
        benignAlertedFlows := fp.benignAlertedFlows
        maliciousAlertedFlows := fp.maliciousAlertedFlows, fpRate := fp.fpRate
        utilization := fp.utilization, groupAlertedFlows := 0, groupKeptRules := 0
        groupCoverageThreshold := 0 : ProtocolAlertRule }
  (rows.insertionSort protocolLe).filter fun row => isProtocolGroup row.group

/-- The groups of a database that can be read. -/
def alertGroups (lower : Char → Char) (db : InstanceDB) (runID : Int) :
    List (String × List ProtocolAlertRule) :=
  let rows := protocolRows lower db runID
  (rows.map ProtocolAlertRule.group).dedup.map fun group =>
    (group, rows.filter fun row => row.group = group)

/-- The entries of the map that `queryProtocolAlertGroups` returns. -/
def queryProtocolAlertGroups (lower : Char → Char) (db : Except String InstanceDB) (runID : Int) :
    Except String (List (String × List ProtocolAlertRule)) := do
  let db ← db
  return alertGroups lower db runID

def coverageThreshold : ℚ := 4 / 5

/-- The loop that counts the rules to keep, from place `i` on. -/
def coverageCut (total : Int) : Int → Nat → List ProtocolAlertRule → Option Nat
  | _, _, [] => none
  | cumulative, i, row :: rows =>
      let cumulative := cumulative + row.alertedFlows
      if coverageThreshold ≤ (cumulative : ℚ) / (total : ℚ) then some (i + 1)
      else coverageCut total cumulative (i + 1) rows

def totalAlerted (group : List ProtocolAlertRule) : Int := (group.map (·.alertedFlows)).sum

/-- What a trimmed rule is returned with. -/
def marked (total : Int) (keep : Nat) (row : ProtocolAlertRule) : ProtocolAlertRule :=
  { row with
    groupAlertedFlows := total, groupKeptRules := keep
    groupCoverageThreshold := coverageThreshold }

def lowCoverageProtocolRules (sort : SliceSort groupLess) (group : List ProtocolAlertRule) :
    List ProtocolAlertRule :=
  if group.length < 4 then []
  else
    let group := sort.sort group
    let total := totalAlerted group
    if total < 3 then []
    else
      let keep := (coverageCut total 0 0 group).getD group.length
      if group.length ≤ keep ∨ group.length / 2 < keep then []
      else (group.drop keep).map (marked total keep)

/-- The candidates of all groups in their ranking. -/
def protocolCandidates (env : IterEnv) (input : IterInput) :
    Except String (List ProtocolAlertRule) := do
  let groups ← queryProtocolAlertGroups env.host.lower input.exp input.sourceRunID
  let candidates := (env.groupOrder.order groups).flatMap fun group =>
    lowCoverageProtocolRules env.sortGroup group.2
  return env.sortCandidates.sort candidates

def protocolDecision (host : Host) (row : ProtocolAlertRule) : TrimDecision :=
  { row.toTrimDecision with
    reason := "protocol group " ++ host.quote row.group ++
      " has concentrated alert coverage; trimming lower-coverage rule outside top " ++
      fixedText 0 (row.groupCoverageThreshold * 100) ++ "% coverage: rule_alerted=" ++
      toString row.alertedFlows ++ " group_alerted=" ++ toString row.groupAlertedFlows ++
      " kept_rules=" ++ toString row.groupKeptRules ++ " utilization=" ++
      fixedText 4 row.utilization ++ " fp_rate=" ++ fixedText 4 row.fpRate
    metrics := [("alerted_flows", row.alertedFlows),
      ("benign_alerted_flows", row.benignAlertedFlows),
      ("malicious_alerted_flows", row.maliciousAlertedFlows), ("fp_rate", row.fpRate),
      ("utilization", row.utilization), ("group_alerted_flows", row.groupAlertedFlows),
      ("group_kept_rules", row.groupKeptRules),
      ("group_coverage_threshold", row.groupCoverageThreshold)] }

def protocolAlertOverlapFunc (env : IterEnv) (input : IterInput) :
    Except String (List TrimDecision) :=
  cutRanking (1 / 4) input.factor (protocolCandidates env input) (protocolDecision env.host)

/-! ## The four of them -/

inductive IterStrategy where
  | highCostRules
  | highFPLowUtilization
  | lowYieldHotRules
  | protocolAlertOverlap
  deriving DecidableEq, Repr

def IterStrategy.fn (env : IterEnv) (input : IterInput) :
    IterStrategy → Except String (List TrimDecision)
  | .highCostRules => highCostRulesFunc input
  | .highFPLowUtilization => highFPLowUtilizationFunc input
  | .lowYieldHotRules => lowYieldHotRulesFunc input
  | .protocolAlertOverlap => protocolAlertOverlapFunc env input

def IterStrategy.fraction : IterStrategy → ℚ
  | .highCostRules => 1 / 5
  | .highFPLowUtilization => 3 / 10
  | .lowYieldHotRules => 1 / 5
  | .protocolAlertOverlap => 1 / 4

/-- The number of candidates. -/
def IterStrategy.count (env : IterEnv) (input : IterInput) : IterStrategy → Except String Nat
  | .highCostRules => (highCostCandidates input).map List.length
  | .highFPLowUtilization =>
      (queryHighFPLowUtilization input.exp input.sourceRunID).map List.length
  | .lowYieldHotRules => (lowYieldCandidates input).map List.length
  | .protocolAlertOverlap => (protocolCandidates env input).map List.length

/-! ## What the factor does -/

/-- How much of a ranking of `n` candidates is returned. -/
def limitFor (n : Nat) (fraction factor : ℚ) : Nat :=
  min n (max 1 ⌈n * fraction * min factor 1⌉₊)

theorem limitFor_mono {n : Nat} {fraction f₁ f₂ : ℚ} (hfraction : 0 ≤ fraction) (h : f₁ ≤ f₂) :
    limitFor n fraction f₁ ≤ limitFor n fraction f₂ := by
  unfold limitFor
  gcongr

/-- A limit that is raised to one and lowered to the number of candidates. -/
theorem clamped_eq (n limit : Nat) :
    (if n < (if limit < 1 then 1 else limit) then n else if limit < 1 then 1 else limit) =
      min n (max 1 limit) := by
  have hmax : (if limit < 1 then 1 else limit) = max 1 limit := by
    split <;> omega
  rw [hmax]
  split <;> omega

theorem boundedFactor_of_pos {f : ℚ} (h : 0 < f) : boundedFactor f = min f 1 := by
  unfold boundedFactor
  rw [if_neg h.le.not_gt]
  split
  · next h1 => rw [min_eq_right h1.le]
  · next h1 => rw [min_eq_left (not_lt.mp h1)]

theorem boundedFactor_pos {f : ℚ} (h : 0 < f) : 0 < boundedFactor f := by
  rw [boundedFactor_of_pos h]
  exact lt_min h one_pos

theorem boundedFactor_of_nonpos {f : ℚ} (h : f ≤ 0) : boundedFactor f ≤ 0 := by
  unfold boundedFactor
  split
  · exact le_refl 0
  · rw [if_neg (by linarith)]
    exact h

theorem scaledLimit_eq {n : Nat} {fraction f : ℚ} (hn : n ≠ 0) (hfraction : 0 < fraction)
    (hf : 0 < f) : scaledLimit n fraction (boundedFactor f) = limitFor n fraction f := by
  unfold scaledLimit
  rw [if_neg (by simp [hn, hfraction, boundedFactor_pos hf])]
  dsimp only
  rw [clamped_eq, boundedFactor_of_pos hf]
  rfl

/-- The strategy returns the first part of one ranking, whatever the factor. -/
def Cuts (run : ℚ → Except String (List TrimDecision)) (fraction : ℚ)
    (ranking : Except String (List TrimDecision)) : Prop :=
  (∀ f ≤ 0, run f = .ok []) ∧
    ∀ f, 0 < f → run f = ranking.map fun ds => ds.take (limitFor ds.length fraction f)

theorem cutRanking_cuts {α : Type} {fraction : ℚ} (hfraction : 0 < fraction)
    (rows : Except String (List α)) (decision : α → TrimDecision) :
    Cuts (fun f => cutRanking fraction f rows decision) fraction
      (rows.map fun l => l.map decision) := by
  constructor
  · intro f hf
    unfold cutRanking
    dsimp only
    rw [if_pos (boundedFactor_of_nonpos hf)]
    rfl
  · intro f hf
    unfold cutRanking
    dsimp only
    rw [if_neg (boundedFactor_pos hf).not_ge]
    cases rows with
    | error e => rfl
    | ok l =>
        show (if l.isEmpty = true then Except.ok [] else Except.ok _) = Except.ok _
        split
        · next hempty => rw [List.isEmpty_iff.mp hempty]; rfl
        · next hne =>
            have hn : l.length ≠ 0 := by simpa using hne
            rw [scaledLimit_eq hn hfraction hf, List.map_take]
            dsimp only
            rw [List.length_map]

theorem zipIdx_take {α : Type} (l : List α) (k : Nat) : (l.take k).zipIdx = l.zipIdx.take k := by
  apply List.ext_getElem?
  intro i
  rw [List.getElem?_zipIdx, List.getElem?_take, List.getElem?_take, List.getElem?_zipIdx]
  split <;> rfl

theorem highCostRules_cuts (exp real : Except String InstanceDB) (runID : Int) :
    Cuts (fun f => highCostRulesFunc ⟨exp, real, runID, f⟩) (1 / 5)
      ((highCostCandidates ⟨exp, real, runID, 1⟩).map fun l =>
        l.zipIdx.map fun (row, i) => highCostDecision (i + 1) row) := by
  constructor
  · intro f hf
    unfold highCostRulesFunc
    dsimp only
    rw [if_pos hf]
    rfl
  · intro f hf
    have hfactor : (if 1 < f then 1 else f) = min f 1 := by
      split
      · next h => rw [min_eq_right h.le]
      · next h => rw [min_eq_left (not_lt.mp h)]
    unfold highCostRulesFunc
    dsimp only
    rw [if_neg (not_le.mpr hf), hfactor]
    have hcandidates : highCostCandidates ⟨exp, real, runID, f⟩ =
        highCostCandidates ⟨exp, real, runID, 1⟩ := rfl
    rw [hcandidates]
    cases highCostCandidates ⟨exp, real, runID, 1⟩ with
    | error e => rfl
    | ok l =>
        show (if l.isEmpty = true then Except.ok [] else Except.ok _) = Except.ok _
        split
        · next hempty => rw [List.isEmpty_iff.mp hempty]; rfl
        · rw [clamped_eq, zipIdx_take, List.map_take]
          dsimp only
          rw [List.length_map, List.length_zipIdx]
          rfl

/-- The ranking that a strategy cuts. -/
theorem IterStrategy.cuts (env : IterEnv) (exp real : Except String InstanceDB) (runID : Int)
    (s : IterStrategy) :
    ∃ ranking, Cuts (fun f => s.fn env ⟨exp, real, runID, f⟩) s.fraction ranking ∧
      ranking.map List.length = s.count env ⟨exp, real, runID, 1⟩ := by
  have hlength {α : Type} (rows : Except String (List α)) (decisions : List α → List TrimDecision)
      (h : ∀ l, (decisions l).length = l.length) :
      (rows.map decisions).map List.length = rows.map List.length := by
    cases rows with
    | error e => rfl
    | ok l => exact congrArg Except.ok (h l)
  cases s with
  | highCostRules =>
      exact ⟨_, highCostRules_cuts exp real runID, hlength _ _ fun l => by simp⟩
  | highFPLowUtilization =>
      have hcuts := cutRanking_cuts (α := FPLowUtilizationRule) (show (0 : ℚ) < 3 / 10 by norm_num)
        (queryHighFPLowUtilization exp runID) fpLowUtilizationDecision
      exact ⟨_, hcuts, hlength _ _ fun l => List.length_map _⟩
  | lowYieldHotRules =>
      have hcuts := cutRanking_cuts (α := LowYieldHotRule) (show (0 : ℚ) < 1 / 5 by norm_num)
        (lowYieldCandidates ⟨exp, real, runID, 1⟩) lowYieldDecision
      exact ⟨_, hcuts, hlength _ _ fun l => List.length_map _⟩
  | protocolAlertOverlap =>
      have hcuts := cutRanking_cuts (α := ProtocolAlertRule) (show (0 : ℚ) < 1 / 4 by norm_num)
        (protocolCandidates env ⟨exp, real, runID, 1⟩) (protocolDecision env.host)
      exact ⟨_, hcuts, hlength _ _ fun l => List.length_map _⟩

/-- **Lowering the factor only shortens the list.** For each strategy and every content of the
databases, with `n` candidates `min n (max 1 ⌈n q min(f, 1)⌉)` of them are returned for a positive
factor `f`, none for others, and the list for the smaller of two factors is the first part of the
list for the other. -/
theorem iterStrategy_factor (env : IterEnv) (exp real : Except String InstanceDB) (runID : Int)
    (s : IterStrategy) :
    let run := fun f => s.fn env ⟨exp, real, runID, f⟩
    (∀ f ≤ 0, run f = .ok []) ∧
    (∀ e, s.count env ⟨exp, real, runID, 1⟩ = .error e → ∀ f, 0 < f → run f = .error e) ∧
    ∀ n, s.count env ⟨exp, real, runID, 1⟩ = .ok n →
      (∀ f, 0 < f → ∃ ds, run f = .ok ds ∧
        ds.length = min n (max 1 ⌈n * s.fraction * min f 1⌉₊) ∧
        (0 < n → 1 ≤ ds.length) ∧ ds.length ≤ n) ∧
      ∀ f₁ f₂, 0 < f₁ → f₁ ≤ f₂ →
        ∃ ds₁ ds₂, run f₁ = .ok ds₁ ∧ run f₂ = .ok ds₂ ∧ ds₁ <+: ds₂ := by
  intro run
  obtain ⟨ranking, ⟨hnone, hcut⟩, hcount⟩ := s.cuts env exp real runID
  have hfraction : 0 ≤ s.fraction := by
    cases s <;> norm_num [IterStrategy.fraction]
  refine ⟨hnone, ?_, ?_⟩
  · intro e he f hf
    cases ranking with
    | error e' =>
        rw [← hcount] at he
        cases he
        exact hcut f hf
    | ok ds =>
        rw [← hcount] at he
        cases he
  · intro n hn
    cases ranking with
    | error e =>
        rw [← hcount] at hn
        cases hn
    | ok ds =>
        rw [← hcount] at hn
        cases hn
        refine ⟨fun f hf => ⟨_, hcut f hf, ?_⟩, fun f₁ f₂ hf₁ hle => ?_⟩
        · have hlength : (ds.take (limitFor ds.length s.fraction f)).length =
              limitFor ds.length s.fraction f := by
            rw [List.length_take, limitFor]
            omega
          rw [hlength, limitFor]
          refine ⟨rfl, fun hpos => ?_, Nat.min_le_left _ _⟩
          exact le_min hpos (le_max_left _ _)
        · refine ⟨_, _, hcut f₁ hf₁, hcut f₂ (hf₁.trans_le hle), ?_⟩
          exact List.take_prefix_take_left (limitFor_mono hfraction hle)

end SnortOptimizer.Analyser
