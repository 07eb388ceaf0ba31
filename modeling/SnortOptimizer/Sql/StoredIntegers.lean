import SnortOptimizer.Server.ProductionRules
import SnortOptimizer.Sql.Listing

/-!
# Integers in and out (`sql/db/sqlite.go`, `sql/rules/store.go`, `sql/alerts/store.go`)

The integers of a rule or an alert are written out in decimal digits, and the database keeps them as
they are. On the way back `QueryJSON` makes floating point numbers of them, and `asInt` makes
integers again. What comes back is what was stored exactly if it needs no more than 53 binary digits
(`integers_survive_iff`); beyond that, different ids become the same one.
-/

namespace SnortOptimizer.Sql

open Analyser Number Server

def IsInt64 (n : Int) : Prop := -2 ^ 63 ≤ n ∧ n < 2 ^ 63

instance decidableIsInt64 (n : Int) : Decidable (IsInt64 n) := inferInstanceAs (Decidable (_ ∧ _))

/-- No more than 53 binary digits, but for zeros at the end. -/
def ShortInt (n : Int) : Prop := Short n.natAbs

/-! ## One integer -/

/-- The integer nearest to `n` that is a floating point number. -/
def nearest (n : Int) : Int := if n < 0 then -(roundMant n.natAbs : Int) else roundMant n.natAbs

theorem nearest_eq_iff (n : Int) : nearest n = n ↔ ShortInt n := by
  rw [ShortInt, ← roundMant_eq_self_iff, nearest]
  split <;> omega

theorem toInt64_float64 (n : Int) :
    (float64 n).toInt64 = if IsInt64 (nearest n) then nearest n else -2 ^ 63 := by
  have hwhole : wholePart (roundMant n.natAbs) 0 = roundMant n.natAbs := Nat.mul_one _
  rw [float64, Binary64.toInt64, hwhole]
  simp only [decide_eq_true_eq]
  rfl

/-- **An integer comes back** exactly if it is a floating point number. -/
theorem asInt_eq_iff {n : Int} (hn : IsInt64 n) : asInt (some n) = n ↔ ShortInt n := by
  rw [← nearest_eq_iff, asInt, toInt64_float64]
  by_cases hfits : IsInt64 (nearest n)
  · rw [if_pos hfits]
  · -- what is rounded out of the range is large, and the smallest integer is not rounded
    have hsmallest : nearest (-2 ^ 63) = -2 ^ 63 := by decide +kernel
    rw [if_neg hfits]
    constructor
    · rintro rfl
      exact hsmallest
    · intro h
      rw [h] at hfits
      exact absurd hn hfits

/-! ## Records -/

/-- The table of alerts; ids are never given twice. -/
structure AlertsTable where
  lastID : Int
  rows : List AlertsRow

def alertRow (cfg : Config) (now : String) (id : Int) (a : Alert) : AlertsRow :=
  { id := id, runID := cfg.runID, timestamp := some a.timestamp, pktNum := some a.pktNum
    proto := some a.proto, pktGen := some a.pktGen, pktLen := some a.pktLen, dir := some a.dir
    srcAP := some a.srcAP, dstAP := some a.dstAP, gid := some a.gid, sid := some a.sid
    rev := some a.rev, rule := some a.rule, action := some a.action, rawJSON := a.rawJSON
    createdAt := if a.createdAt = "" then now else a.createdAt }

/-- The script of `alerts.InsertBatch`, in one transaction. -/
def AlertsTable.insertAlerts (t : AlertsTable) (cfg : Config) (now : String) (batch : List Alert) :
    AlertsTable :=
  batch.foldl (fun t a =>
    { lastID := t.lastID + 1, rows := t.rows ++ [alertRow cfg now (t.lastID + 1) a] }) t

/-- The queries that ask for everything in the run of the configuration. -/
def allRules : RulesQuery :=
  { runID := 0, sid := 0, gid := 0, msg := "", classtype := "", enabled := none, limit := 0 }

def allAlerts : AlertsQuery :=
  { limit := 0, runID := 0, gid := 0, sid := 0, proto := "", action := "", srcAP := ""
    dstAP := "" }

/-- A record with integers of 64 bits. -/
inductive Record where
  | rule (r : Rule) (fits : ∀ n ∈ [r.gid, r.sid, r.rev], IsInt64 n)
  | alert (a : Alert) (fits : ∀ n ∈ [a.pktNum, a.pktLen, a.gid, a.sid, a.rev], IsInt64 n)

def Record.integers : Record → List Int
  | .rule r _ => [r.gid, r.sid, r.rev]
  | .alert a _ => [a.pktNum, a.pktLen, a.gid, a.sid, a.rev]

theorem Record.fits (rec : Record) : ∀ n ∈ rec.integers, IsInt64 n := by
  cases rec with
  | rule r fits => exact fits
  | alert a fits => exact fits

/-- The record is inserted into an empty run and the run is listed: there is one record, and it has
the same integers. -/
def Record.Survives : Record → Prop
  | .rule r _ => ∀ (cfg : Config) (now : String) (t : RulesTable),
      (∀ row ∈ t.rows, row.runID ≠ cfg.runID) →
        ∃ read, listRules cfg allRules (t.insertRules cfg.runID now [r]) = .ok [read] ∧
          [read.rule.gid, read.rule.sid, read.rule.rev] = [r.gid, r.sid, r.rev]
  | .alert a _ => ∀ (cfg : Config) (now : String) (t : AlertsTable),
      (∀ row ∈ t.rows, row.runID ≠ cfg.runID) →
        ∃ read, listAlerts cfg allAlerts (t.insertAlerts cfg now [a]).rows = .ok [read] ∧
          [read.alert.pktNum, read.alert.pktLen, read.alert.gid, read.alert.sid, read.alert.rev] =
            [a.pktNum, a.pktLen, a.gid, a.sid, a.rev]

/-- The only rows of the run are the new ones. -/
theorem filter_append_of_empty {ρ : Type} {rows new : List ρ} {p : ρ → Bool}
    (hold : ∀ r ∈ rows, p r = false) (hnew : ∀ r ∈ new, p r = true) :
    (rows ++ new).filter p = new := by
  have hnone : rows.filter p = [] := by
    rw [List.filter_eq_nil_iff]
    intro r hr
    simp [hold r hr]
  rw [List.filter_append, hnone, List.nil_append, List.filter_eq_self]
  exact hnew

theorem effectiveRunID_zero (cfg : Config) : effectiveRunID cfg 0 = cfg.runID := rfl

theorem listRules_insert (cfg : Config) (now : String) {t : RulesTable} (r : Rule)
    (hempty : ∀ row ∈ t.rows, row.runID ≠ cfg.runID) :
    listRules cfg allRules (t.insertRules cfg.runID now [r]) =
      .ok [rowToRule (ruleRow cfg.runID now r)] := by
  have hrows : (t.insertRules cfg.runID now [r]).rows = t.rows ++ [ruleRow cfg.runID now r] := by
    apply Table.insertOrIgnore_rows
    intro row hrow hconflict
    exact hempty row hrow hconflict.1
  show Except.ok (rulesPage 0 ((t.insertRules cfg.runID now [r]).rows.filter _)) = _
  rw [hrows, filter_append_of_empty]
  · rfl
  · intro row hrow
    simp [allRules, effectiveRunID_zero, hempty row hrow]
  · intro row hrow
    rw [List.mem_singleton.mp hrow]
    simp [allRules, effectiveRunID_zero, numberFilter, enabledFilter, ruleRow]

theorem listAlerts_insert (cfg : Config) (now : String) {t : AlertsTable} (a : Alert)
    (hempty : ∀ row ∈ t.rows, row.runID ≠ cfg.runID) :
    listAlerts cfg allAlerts (t.insertAlerts cfg now [a]).rows =
      .ok [rowToAlert (alertRow cfg now (t.lastID + 1) a)] := by
  show Except.ok (alertsPage 0 ((t.rows ++ [alertRow cfg now (t.lastID + 1) a]).filter _)) = _
  rw [filter_append_of_empty]
  · rfl
  · intro row hrow
    simp [allAlerts, effectiveRunID_zero, hempty row hrow]
  · intro row hrow
    rw [List.mem_singleton.mp hrow]
    simp [allAlerts, effectiveRunID_zero, numberFilter, alertRow]

/-- All integers of a record survive if each of them does. -/
theorem map_asInt_eq_iff {ns : List Int} (h : ∀ n ∈ ns, IsInt64 n) :
    ns.map (fun n => asInt (some n)) = ns ↔ ∀ n ∈ ns, ShortInt n := by
  have hself : ns.map (fun n => asInt (some n)) = ns ↔
      ns.map (fun n => asInt (some n)) = ns.map id := by
    rw [List.map_id]
  rw [hself, List.map_inj_left]
  exact forall₂_congr fun n hn => asInt_eq_iff (h n hn)

/-- **Integers survive storage** exactly if none of them has more than 53 binary digits, but for
zeros at the end. -/
theorem integers_survive_iff (rec : Record) :
    rec.Survives ↔ ∀ n ∈ rec.integers, ShortInt n := by
  rw [← map_asInt_eq_iff rec.fits]
  cases rec with
  | rule r fits =>
      constructor
      · intro h
        obtain ⟨read, hread, hsame⟩ := h ⟨0, ""⟩ "" .fresh (fun row hrow => by cases hrow)
        rw [listRules_insert _ _ _ (fun row hrow => by cases hrow)] at hread
        rw [← List.singleton_inj.mp (Except.ok.inj hread)] at hsame
        exact hsame
      · intro h cfg now t hempty
        exact ⟨_, listRules_insert cfg now r hempty, h⟩
  | alert a fits =>
      constructor
      · intro h
        obtain ⟨read, hread, hsame⟩ := h ⟨0, ""⟩ "" ⟨0, []⟩ (fun row hrow => by cases hrow)
        rw [listAlerts_insert _ _ _ (fun row hrow => by cases hrow)] at hread
        rw [← List.singleton_inj.mp (Except.ok.inj hread)] at hsame
        exact hsame
      · intro h cfg now t hempty
        exact ⟨_, listAlerts_insert cfg now a hempty, h⟩

def sidRule (sid : Int) : Rule :=
  { sid := sid, gid := 1, rev := 1, action := "alert", proto := "tcp", srcNet := "any"
    srcPort := "any", direction := "->", dstNet := "any", dstPort := "any", msg := ""
    classtype := "", enabled := true, sourceFile := "local.rules", rawText := toString sid }

theorem sidRule_fits {sid : Int} (h : IsInt64 sid) :
    ∀ n ∈ [(sidRule sid).gid, (sidRule sid).sid, (sidRule sid).rev], IsInt64 n := by
  simp only [sidRule, List.forall_mem_cons, List.not_mem_nil, false_imp_iff, implies_true, and_true]
  exact ⟨by decide, h, by decide⟩

/-- Two rules that differ in the last digit of their sids are listed under the same sid. -/
theorem large_sids_merge :
    (listRules ⟨0, ""⟩ allRules (RulesTable.fresh.insertRules 0 ""
        [sidRule (2 ^ 53), sidRule (2 ^ 53 + 1)])).toOption.map
          (fun rules => rules.map fun read => read.rule.sid) = some [2 ^ 53, 2 ^ 53] ∧
      ¬ (Record.rule (sidRule (2 ^ 53 + 1)) (sidRule_fits (by decide))).Survives := by
  constructor
  · decide +kernel
  · intro h
    obtain ⟨read, hread, hsame⟩ := h ⟨0, ""⟩ "" .fresh (fun row hrow => by cases hrow)
    rw [listRules_insert _ _ _ (fun row hrow => by cases hrow)] at hread
    rw [← List.singleton_inj.mp (Except.ok.inj hread)] at hsame
    have hsid : asInt (some (2 ^ 53 + 1)) = 2 ^ 53 + 1 :=
      (List.cons.inj (List.cons.inj hsame).2).1
    have hrounded : asInt (some (2 ^ 53 + 1)) = 2 ^ 53 := by decide +kernel
    omega

end SnortOptimizer.Sql
