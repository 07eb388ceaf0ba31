import SnortOptimizer.Text.Basic
import SnortOptimizer.Text.Lines
import Mathlib.Data.List.TakeWhile

/-!
# Importing alert lines (`sql/alerts/store.go`)

`importLines` reads a piece of `alert_json.txt` line by line, parses every line that is not blank,
skips those that do not parse, and stores the alerts in batches of 256. Parsing one line is a
parameter: what is proved here holds for every parser, `ParseLine` included.

`alertsOf` states what a piece of the file says, with no mention of batches; `importLines_eq`
shows that this is what gets stored as long as the inserts succeed and no line exceeds the
scanner's buffer.
-/

namespace SnortOptimizer.Alerts

open Text

def newline : UInt8 := 10

/-- The buffer given to `bufio.Scanner`: it stops with an error at the first line this long. -/
def maxTokenSize : Nat := 2 * 1024 * 1024

/-- A carriage return before the newline belongs to the line end. -/
def dropCR (line : Bytes) : Bytes :=
  if line.getLast? = some 13 then line.dropLast else line

section

variable {Alert : Type} (parseLine : Bytes → Option Alert)

/-- The alert one line of the file stands for, if any. -/
def alertOf (line : Bytes) : Option Alert :=
  let text := trimSpaceBytes (dropCR line)
  if text = [] then none else parseLine text

/-- The alerts a piece of the file stands for. -/
def alertsOf (data : Bytes) : List Alert := (splitLines newline data).filterMap (alertOf parseLine)

/-- The variables of `importLines`, with the rows stored so far and the number of calls of
`InsertBatch` made. -/
structure ImportState (Alert : Type) where
  stored : List Alert
  batch : List Alert
  imported : Nat
  calls : Nat

/-- `flush`. A batch that could not be inserted is kept for the next attempt. -/
def flush (insertOk : Nat → Bool) (s : ImportState Alert) : ImportState Alert :=
  if s.batch = [] then s
  else if insertOk s.calls then
    { stored := s.stored ++ s.batch, batch := [], imported := s.imported + s.batch.length
      calls := s.calls + 1 }
  else { s with calls := s.calls + 1 }

def importLine (insertOk : Nat → Bool) (s : ImportState Alert) (line : Bytes) :
    ImportState Alert :=
  match alertOf parseLine line with
  | none => s
  | some alert =>
      let s := { s with batch := s.batch ++ [alert] }
      if 256 ≤ s.batch.length then flush insertOk s else s

/-- The lines the scanner hands out before it stops. -/
def scannedLines (data : Bytes) : List Bytes :=
  (splitLines newline data).takeWhile (·.length < maxTokenSize)

/-- Every line fits the scanner's buffer. -/
def Fits (data : Bytes) : Prop := ∀ line ∈ splitLines newline data, line.length < maxTokenSize

instance (data : Bytes) : Decidable (Fits data) :=
  inferInstanceAs (Decidable (∀ line ∈ splitLines newline data, line.length < maxTokenSize))

/-- `importLines`: the rows stored by it, the number it returns, and whether `scanner.Err()` is
`nil`. -/
def importLines (insertOk : Nat → Bool) (data : Bytes) : List Alert × Nat × Bool :=
  let start : ImportState Alert := { stored := [], batch := [], imported := 0, calls := 0 }
  let s := flush insertOk ((scannedLines data).foldl (importLine parseLine insertOk) start)
  (s.stored, s.imported, decide (Fits data))

/-! ## What an import stores -/

/-- `InsertBatch` never fails. -/
def neverFails : Nat → Bool := fun _ => true

/-- The loop in numbers: how many alerts wait in the batch after so many alerts, and how often
`InsertBatch` has been called. -/
def afterAlerts (insertOk : Nat → Bool) : Nat → Nat × Nat
  | 0 => (0, 0)
  | m + 1 =>
      let (waiting, calls) := afterAlerts insertOk m
      if waiting + 1 < 256 then (waiting + 1, calls)
      else if insertOk calls then (0, calls + 1)
      else (waiting + 1, calls + 1)

/-- The last call of `InsertBatch` in an import of so many alerts succeeds, if there is one. -/
def LastCallOk (insertOk : Nat → Bool) (m : Nat) : Prop :=
  (afterAlerts insertOk m).1 = 0 ∨ insertOk (afterAlerts insertOk m).2 = true

/-- What has been read so far is stored or waits in the batch, in order, and the counters are
right. -/
structure Imported (insertOk : Nat → Bool) (alerts : List Alert) (s : ImportState Alert) :
    Prop where
  split : s.stored ++ s.batch = alerts
  imported : s.imported = s.stored.length
  waiting : s.batch.length = (afterAlerts insertOk alerts.length).1
  calls : s.calls = (afterAlerts insertOk alerts.length).2

variable {insertOk : Nat → Bool}

/-- An alert is put into the batch, and the batch is stored if it is full and can be inserted. -/
theorem Imported.importLine {alerts : List Alert} {s : ImportState Alert}
    (h : Imported insertOk alerts s) (line : Bytes) :
    Imported insertOk (alerts ++ (alertOf parseLine line).toList)
      (importLine parseLine insertOk s line) := by
  unfold Alerts.importLine
  cases alertOf parseLine line with
  | none =>
      rw [Option.toList_none, List.append_nil]
      exact h
  | some alert =>
      have hlen : (alerts ++ [alert]).length = alerts.length + 1 := List.length_append
      have hbatch : (s.batch ++ [alert]).length = s.batch.length + 1 := List.length_append
      have hsplit : s.stored ++ (s.batch ++ [alert]) = alerts ++ [alert] := by
        rw [← List.append_assoc, h.split]
      have hne : s.batch ++ [alert] ≠ [] := by simp
      have hnumbers : afterAlerts insertOk (alerts ++ [alert]).length =
          if s.batch.length + 1 < 256 then (s.batch.length + 1, s.calls)
          else if insertOk s.calls then (0, s.calls + 1)
          else (s.batch.length + 1, s.calls + 1) := by
        rw [hlen, afterAlerts, h.waiting, h.calls]
      rw [Option.toList_some]
      dsimp only
      split
      · next hfull =>
          rw [hbatch] at hfull
          rw [if_neg (Nat.not_lt.mpr hfull)] at hnumbers
          rw [flush, if_neg hne]
          split
          · next hok =>
              rw [if_pos hok] at hnumbers
              refine ⟨?_, ?_, ?_, ?_⟩
              · rw [List.append_nil]
                exact hsplit
              · show s.imported + _ = (s.stored ++ _).length
                rw [h.imported, ← List.length_append]
              · rw [hnumbers]
                rfl
              · rw [hnumbers]
          · next hfail =>
              rw [if_neg hfail] at hnumbers
              exact ⟨hsplit, h.imported, by rw [hnumbers]; exact hbatch, by rw [hnumbers]⟩
      · next hfree =>
          rw [hbatch, Nat.not_le] at hfree
          rw [if_pos hfree] at hnumbers
          exact ⟨hsplit, h.imported, by rw [hnumbers]; exact hbatch, by rw [hnumbers]⟩

theorem Imported.foldl {alerts : List Alert} {s : ImportState Alert} (lines : List Bytes)
    (h : Imported insertOk alerts s) :
    Imported insertOk (alerts ++ lines.filterMap (alertOf parseLine))
      (lines.foldl (Alerts.importLine parseLine insertOk) s) := by
  induction lines generalizing alerts s with
  | nil =>
      rw [List.filterMap_nil, List.append_nil]
      exact h
  | cons line lines ih =>
      have hrest := ih (h.importLine parseLine line)
      cases hline : alertOf parseLine line with
      | none =>
          rw [hline, Option.toList_none, List.append_nil] at hrest
          rw [List.filterMap_cons_none hline, List.foldl_cons]
          exact hrest
      | some alert =>
          rw [hline, Option.toList_some, List.append_assoc] at hrest
          rw [List.filterMap_cons_some hline, List.foldl_cons]
          exact hrest

/-- The alerts of the lines that are scanned. -/
def scannedAlerts (data : Bytes) : List Alert := (scannedLines data).filterMap (alertOf parseLine)

/-- **What an import stores**: all alerts that were scanned if its last insert succeeds, and
otherwise without those that still wait in the batch. -/
theorem importLines_spec (insertOk : Nat → Bool) (data : Bytes) :
    let alerts := scannedAlerts parseLine data
    let waiting := (afterAlerts insertOk alerts.length).1
    let result := importLines parseLine insertOk data
    result.2.1 = result.1.length ∧ result.2.2 = decide (Fits data) ∧
      (LastCallOk insertOk alerts.length → result.1 = alerts) ∧
      (¬ LastCallOk insertOk alerts.length →
        waiting ≠ 0 ∧ waiting ≤ alerts.length ∧
          result.1 = alerts.take (alerts.length - waiting)) := by
  intro alerts waiting result
  let start : ImportState Alert := { stored := [], batch := [], imported := 0, calls := 0 }
  have hstart : Imported insertOk [] start := ⟨rfl, rfl, rfl, rfl⟩
  have hscan := hstart.foldl parseLine (scannedLines data)
  rw [List.nil_append] at hscan
  generalize hs : (scannedLines data).foldl (Alerts.importLine parseLine insertOk) start = s
    at hscan
  have hresult : result = ((flush insertOk s).stored, (flush insertOk s).imported,
      decide (Fits data)) := by
    rw [← hs]
    rfl
  have hscan : Imported insertOk alerts s := hscan
  have hsplit : s.stored ++ s.batch = alerts := hscan.split
  have hwaiting : s.batch.length = waiting := hscan.waiting
  rw [hresult, flush]
  by_cases hbatch : s.batch = []
  · -- nothing waits: no further call
    have hzero : waiting = 0 := by rw [← hwaiting, hbatch, List.length_nil]
    have hall : s.stored = alerts := by rw [← hsplit, hbatch, List.append_nil]
    rw [if_pos hbatch]
    exact ⟨hscan.imported, rfl, fun _ => hall, fun hfail => absurd (.inl hzero) hfail⟩
  · rw [if_neg hbatch]
    by_cases hok : insertOk s.calls = true
    · rw [if_pos hok]
      refine ⟨?_, rfl, fun _ => hsplit, fun hfail => absurd (.inr ?_) hfail⟩
      · rw [List.length_append, hscan.imported]
      · rw [← hscan.calls]
        exact hok
    · rw [if_neg hok]
      have hlen : alerts.length = s.stored.length + waiting := by
        rw [← hsplit, List.length_append, hwaiting]
      have hpos : waiting ≠ 0 := by
        rw [← hwaiting]
        exact fun h => hbatch (List.length_eq_zero_iff.mp h)
      refine ⟨hscan.imported, rfl, fun hlast => ?_, fun _ => ⟨hpos, by omega, ?_⟩⟩
      · rcases hlast with hzero | hlast
        · exact absurd hzero hpos
        · exact absurd (hscan.calls ▸ hlast) hok
      · have htake : alerts.length - waiting = s.stored.length := by omega
        rw [htake, ← hsplit, List.take_left]

theorem lastCallOk_neverFails (m : Nat) : LastCallOk neverFails m := .inr rfl

theorem scannedAlerts_of_fits {data : Bytes} (h : Fits data) :
    scannedAlerts parseLine data = alertsOf parseLine data := by
  have hall : scannedLines data = splitLines newline data := by
    rw [scannedLines, List.takeWhile_eq_self_iff]
    intro line hline
    simpa using h line hline
  rw [scannedAlerts, hall, alertsOf]

/-- **An import stores what the data says**: the alerts of its lines, in order, each once. -/
theorem importLines_eq {data : Bytes} (h : Fits data) :
    importLines parseLine neverFails data =
      (alertsOf parseLine data, (alertsOf parseLine data).length, true) := by
  obtain ⟨hn, hok, hstored, _⟩ := importLines_spec parseLine neverFails data
  have hstored := hstored (lastCallOk_neverFails _)
  rw [scannedAlerts_of_fits parseLine h] at hstored
  rw [decide_eq_true h] at hok
  refine Prod.ext hstored (Prod.ext ?_ hok)
  rw [hn, hstored]

/-! ## Reading piecewise -/

theorem alertsOf_append {xs : Bytes} (h : EndsLine newline xs) (ys : Bytes) :
    alertsOf parseLine (xs ++ ys) = alertsOf parseLine xs ++ alertsOf parseLine ys := by
  rw [alertsOf, splitLines_append h, List.filterMap_append, alertsOf, alertsOf]

theorem fits_append {xs ys : Bytes} (h : EndsLine newline xs) (hfit : Fits (xs ++ ys)) :
    Fits xs ∧ Fits ys := by
  rw [Fits, splitLines_append h] at hfit
  constructor
  · intro line hline
    exact hfit line (List.mem_append_left _ hline)
  · intro line hline
    exact hfit line (List.mem_append_right _ hline)

/-- A file that fits has fitted before. -/
theorem fits_of_append {xs ys : Bytes} (hfit : Fits (xs ++ ys)) : Fits xs := by
  intro line hline
  obtain ⟨longer, hlonger, hfront⟩ := exists_longer_line hline ys
  exact hfront.length_le.trans_lt (hfit longer hlonger)

end

end SnortOptimizer.Alerts
