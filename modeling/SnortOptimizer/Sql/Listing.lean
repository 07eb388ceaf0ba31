import SnortOptimizer.Number.Binary64
import SnortOptimizer.Server.CopyRules
import SnortOptimizer.Sql.Like
import SnortOptimizer.Sql.Script

/-!
# Listing rules and alerts (`sql/rules/store.go`, `sql/alerts/store.go`, `sql/db/sqlite.go`)

`List` writes a `SELECT` statement with a condition for each field of the query that is set, and
reads the answer through `QueryJSON`, which hands out all integers as floating point numbers. The
tables are as `EnsureRules` and `EnsureAlerts` leave them.
-/

namespace SnortOptimizer.Sql

open Analyser Number Server

/-! ## Values -/

/-- `float64(value)`: the nearest floating point number. -/
def float64 (n : Int) : Binary64 := .finite (decide (n < 0)) (roundMant n.natAbs) 0

/-- `asInt` of an integer column, after `normalizeValue`. -/
def asInt : Option Int → Int
  | none => 0
  | some n => (float64 n).toInt64

def asString (value : Option String) : String := value.getD ""

/-- `db.Like`. -/
def likeText (value : String) : List Char := quote ("%" ++ value ++ "%")

/-- The value of a string literal. -/
def literal (text : List Char) : Except String (List Char) :=
  match lex text with
  | [.string value] => .ok value
  | _ => .error "SQL logic error: unrecognized token"

theorem literal_quote {value : String} (h : '\x00' ∉ value.toList) :
    literal (quote value) = .ok value.toList := by
  have hopen : run .blank ['\''] = ([], .string []) := rfl
  have hclose : run (.string value.toList) ['\''] = ([], .stringQuote value.toList) := rfl
  have hrun : run .blank (quote value) = ([], .stringQuote value.toList) :=
    run_trans (run_trans hopen (run_doubled h [])) hclose
  rw [literal, lex, hrun]
  rfl

/-! ## Conditions -/

section Conditions

variable {ρ : Type}

/-- `column = n`, for a number that is set. -/
def numberFilter (n : Int) (column : ρ → Option Int) (r : ρ) : Bool :=
  decide (n ≤ 0) || column r = some n

/-- `column = 'value'`, for a value that is set. -/
def valueFilter (value : String) (column : ρ → Option String) : Except String (ρ → Bool) :=
  if value = "" then .ok fun _ => true
  else do
    let value ← literal (quote value)
    return fun r => (column r).map String.toList = some value

/-- `column LIKE pattern`; a column without a value is like nothing. -/
def isLike (pattern : List Char) : Option String → Bool
  | none => false
  | some text => like pattern text.toList

/-- `column LIKE '%value%'`, for a value that is set. -/
def likeFilter (value : String) (column : ρ → Option String) : Except String (ρ → Bool) :=
  if value = "" then .ok fun _ => true
  else do
    let pattern ← literal (likeText value)
    return fun r => isLike pattern (column r)

/-- `column = 1` or `column = 0`, where it is asked for. -/
def enabledFilter (enabled : Option Bool) (column : ρ → Int) (r : ρ) : Bool :=
  match enabled with
  | none => true
  | some value => column r = if value then 1 else 0

end Conditions

/-- The number of rows at most, where the query does not say. -/
def listLimit (limit : Int) : Nat := if limit ≤ 0 then 100 else limit.toNat

/-! ## Rules -/

/-- `rules.Query`. -/
structure RulesQuery where
  runID : Int
  sid : Int
  gid : Int
  msg : String
  classtype : String
  enabled : Option Bool
  limit : Int

def rowToRule (row : RulesRow) : RuleRow :=
  { runID := asInt (some row.runID)
    rule :=
      { sid := asInt (some row.sid), gid := asInt (some row.gid), rev := asInt row.rev
        action := asString row.action, proto := asString row.proto
        srcNet := asString row.srcNet, srcPort := asString row.srcPort
        direction := asString row.direction, dstNet := asString row.dstNet
        dstPort := asString row.dstPort, msg := asString row.msg
        classtype := asString row.classtype, enabled := decide (asInt (some row.enabled) ≠ 0)
        sourceFile := asString row.sourceFile, rawText := row.rawText } }

/-- The conditions of `rules.List` other than that on the message. -/
def rulesConditions (cfg : Config) (q : RulesQuery) : Except String (RulesRow → Bool) := do
  let classtype ← valueFilter q.classtype fun r : RulesRow => r.classtype
  return fun r => decide (r.runID = effectiveRunID cfg q.runID) &&
    numberFilter q.sid (fun r => some r.sid) r && numberFilter q.gid (fun r => some r.gid) r &&
    classtype r && enabledFilter q.enabled RulesRow.enabled r

/-- `ORDER BY gid, sid LIMIT n`, read. -/
def rulesPage (limit : Int) (rows : List RulesRow) : List RuleRow :=
  ((rows.insertionSort fun a b => keyLe (a.gid, a.sid) (b.gid, b.sid)).take (listLimit limit)).map
    rowToRule

/-- `rules.List`. -/
def listRules (cfg : Config) (q : RulesQuery) (t : RulesTable) : Except String (List RuleRow) := do
  let others ← rulesConditions cfg q
  let msg ← likeFilter q.msg fun r : RulesRow => r.msg
  return rulesPage q.limit (t.rows.filter fun r => others r && msg r)

/-! ## Alerts -/

/-- A row of `alerts`, as far as it is read. -/
structure AlertsRow where
  id : Int
  runID : Int
  timestamp : Option String
  pktNum : Option Int
  proto : Option String
  pktGen : Option String
  pktLen : Option Int
  dir : Option String
  srcAP : Option String
  dstAP : Option String
  gid : Option Int
  sid : Option Int
  rev : Option Int
  rule : Option String
  action : Option String
  rawJSON : String
  createdAt : String

/-- An alert with the columns the database adds to it. -/
structure ListedAlert where
  id : Int
  runID : Int
  alert : Alert

/-- `alerts.Query`. -/
structure AlertsQuery where
  limit : Int
  runID : Int
  gid : Int
  sid : Int
  proto : String
  action : String
  srcAP : String
  dstAP : String

def rowToAlert (row : AlertsRow) : ListedAlert :=
  { id := asInt (some row.id), runID := asInt (some row.runID)
    alert :=
      { timestamp := asString row.timestamp, pktNum := asInt row.pktNum
        proto := asString row.proto, pktGen := asString row.pktGen, pktLen := asInt row.pktLen
        dir := asString row.dir, srcAP := asString row.srcAP, dstAP := asString row.dstAP
        gid := asInt row.gid, sid := asInt row.sid, rev := asInt row.rev
        rule := asString row.rule, action := asString row.action, rawJSON := row.rawJSON
        createdAt := row.createdAt } }

/-- The conditions of `alerts.List` other than those on the addresses. -/
def alertsConditions (cfg : Config) (q : AlertsQuery) : Except String (AlertsRow → Bool) := do
  let proto ← valueFilter q.proto fun r : AlertsRow => r.proto
  let action ← valueFilter q.action fun r : AlertsRow => r.action
  return fun r => decide (r.runID = effectiveRunID cfg q.runID) &&
    numberFilter q.gid AlertsRow.gid r && numberFilter q.sid AlertsRow.sid r && proto r && action r

/-- `ORDER BY id DESC LIMIT n`, read. -/
def alertsPage (limit : Int) (rows : List AlertsRow) : List ListedAlert :=
  ((rows.insertionSort fun a b => b.id ≤ a.id).take (listLimit limit)).map rowToAlert

/-- `alerts.List`. -/
def listAlerts (cfg : Config) (q : AlertsQuery) (rows : List AlertsRow) :
    Except String (List ListedAlert) := do
  let others ← alertsConditions cfg q
  let src ← likeFilter q.srcAP fun r : AlertsRow => r.srcAP
  let dst ← likeFilter q.dstAP fun r : AlertsRow => r.dstAP
  return alertsPage q.limit (rows.filter fun r => others r && src r && dst r)

end SnortOptimizer.Sql
