import SnortOptimizer.Alerts.Tailer
import Mathlib.Data.List.Perm.Subperm

/-!
# Reads one after the other (`sql/alerts/store.go`)

The calls of `readAvailable` on a file that grows, and on their own what each of them says about
inserts that fail. Where no insert fails, the calls together store what one import of the whole file
stores, wherever the growth of the file is cut (`reads_eq_import`).

`importLines` logs a failed insert and keeps the batch for the next attempt; after the last line
there is none. Its error is the scanner's, which comes when some batches may have been stored
already. `import_reports_iff` says when its result can be trusted nevertheless.
-/

namespace SnortOptimizer.Alerts

open Text

section

variable {Alert : Type} (parseLine : Bytes → Option Alert)

/-! ## A growing file -/

/-- `ImportFile`. -/
def importFile (insertOk : Nat → Bool) (file : Option Bytes) : List Alert × Nat × Bool :=
  match file with
  | none => ([], 0, true)
  | some data => importLines parseLine insertOk data

/-- A tailer with its file open. -/
structure Reading (Alert : Type) where
  content : Bytes
  offset : Nat
  inserted : List Alert

/-- The file grows, and `readAvailable` is called. -/
def Reading.next (final : Bool) (r : Reading Alert) (piece : Bytes) : Reading Alert :=
  let content := r.content ++ piece
  let (stored, offset) := readAvailable parseLine neverFails final content r.offset
  { content := content, offset := offset, inserted := r.inserted ++ stored }

/-- The reads of a file that starts empty. -/
def reads (pieces : List Bytes) : Reading Alert :=
  pieces.foldl (Reading.next parseLine false) { content := [], offset := 0, inserted := [] }

variable {parseLine}

theorem Reading.content_foldl (pieces : List Bytes) (r : Reading Alert) :
    (pieces.foldl (Reading.next parseLine false) r).content = r.content ++ pieces.flatten := by
  induction pieces generalizing r with
  | nil => simp
  | cons piece pieces ih =>
      rw [List.foldl_cons, ih, List.flatten_cons, ← List.append_assoc]
      rfl

/-- The tailer has a position in the file after every read. -/
theorem Position.foldl {r : Reading Alert} {seen rest : Bytes} (pieces : List Bytes)
    (h : Position parseLine 0 r.content r.offset r.inserted seen rest)
    (hfit : Fits (r.content ++ pieces.flatten)) :
    let r' := pieces.foldl (Reading.next parseLine false) r
    ∃ seen' rest', Position parseLine 0 r'.content r'.offset r'.inserted seen' rest' := by
  induction pieces generalizing r seen rest with
  | nil => exact ⟨seen, rest, h⟩
  | cons piece pieces ih =>
      rw [List.flatten_cons, ← List.append_assoc] at hfit
      have hgrown := h.append piece
      have hwhole : r.content ++ piece = seen ++ (rest ++ piece) := hgrown.split
      obtain ⟨seen', rest', hnext⟩ := hgrown.tick (hwhole ▸ fits_of_append hfit)
      exact ih hnext hfit

theorem Position.offset_le {content : Bytes} {offset : Nat} {inserted : List Alert}
    {seen rest : Bytes} (h : Position parseLine 0 content offset inserted seen rest) :
    offset ≤ content.length ∧ EndsLine newline (content.take offset) := by
  have hcontent : content = seen ++ rest := h.split
  have hoffset : offset = seen.length := by rw [h.offset_eq, Nat.zero_add]
  rw [hoffset, hcontent, List.take_left, List.length_append]
  exact ⟨Nat.le_add_right _ _, h.endsLine⟩

theorem position_reads (parseLine : Bytes → Option Alert) {pieces : List Bytes}
    (hfit : Fits pieces.flatten) :
    ∃ seen rest, Position parseLine 0 (reads parseLine pieces).content
      (reads parseLine pieces).offset (reads parseLine pieces).inserted seen rest := by
  have hstart : Position parseLine 0 [] 0 [] [] [] := ⟨Nat.le_refl 0, rfl, rfl, .inl rfl, rfl⟩
  exact Position.foldl (r := { content := [], offset := 0, inserted := [] }) pieces hstart hfit

/-- **Reading piecewise is importing at once.** However the growth of a file is cut into reads, the
last of which is the final one, the alerts inserted are those of one import of the whole file, which
are the alerts of its lines, each once. Until the final read the offset stands where a line ends,
within the file. -/
theorem reads_eq_import (parseLine : Bytes → Option Alert) (pieces : List Bytes) (last : Bytes)
    (hfit : Fits (pieces.flatten ++ last)) :
    (∀ k, let r := reads parseLine (pieces.take k)
      r.offset ≤ r.content.length ∧ EndsLine newline (r.content.take r.offset)) ∧
    ((reads parseLine pieces).next parseLine true last).inserted =
      (importFile parseLine neverFails (some (pieces.flatten ++ last))).1 ∧
    (importFile parseLine neverFails (some (pieces.flatten ++ last))).1 =
      alertsOf parseLine (pieces.flatten ++ last) := by
  have hpieces : Fits pieces.flatten := fits_of_append hfit
  have hall : (importFile parseLine neverFails (some (pieces.flatten ++ last))).1 =
      alertsOf parseLine (pieces.flatten ++ last) :=
    congrArg Prod.fst (importLines_eq parseLine hfit)
  refine ⟨fun k => ?_, ?_, hall⟩
  · have hfront : Fits (pieces.take k).flatten := by
      rw [← List.take_append_drop k pieces, List.flatten_append] at hpieces
      exact fits_of_append hpieces
    obtain ⟨_, _, hpos⟩ := position_reads parseLine hfront
    exact hpos.offset_le
  · obtain ⟨seen, rest, hpos⟩ := position_reads parseLine hpieces
    have hcontent : (reads parseLine pieces).content = pieces.flatten :=
      Reading.content_foldl pieces _
    have hgrown := hpos.append last
    have hwhole : pieces.flatten ++ last = seen ++ (rest ++ last) := by
      rw [← hcontent]
      exact hgrown.split
    have hfinal := hgrown.final (hwhole ▸ hfit)
    rw [hall, ← hcontent]
    exact hfinal

/-- A file that grows in the middle of its lines. -/
theorem reads_two_lines :
    ((reads some [[97], [98, 10, 99], []]).next some true [100]).inserted = [[97, 98], [99, 100]] ∧
      (reads some [[97], [98, 10, 99]]).offset = 3 := by
  have hfit : Fits ([[97], [98, 10, 99], []].flatten ++ [100]) := by decide
  obtain ⟨_, hinserted, halerts⟩ := reads_eq_import some [[97], [98, 10, 99], []] [100] hfit
  refine ⟨?_, by decide⟩
  rw [hinserted, halerts]
  decide

/-! ## Inserts that fail -/

/-- The call of a read that fails before anything is imported. -/
inductive ReadFault where
  | stat
  | read                           -- `Seek` or `ReadAll`
  deriving DecidableEq

/-- What `readAvailable` does and returns: the rows it stores, the offset it leaves, the number, and
whether the error is `nil`. -/
structure ReadResult (Alert : Type) where
  stored : List Alert
  offset : Nat
  n : Nat
  ok : Bool

/-- The offset a call starts from. -/
def startOffset (fault : Option ReadFault) (content : Bytes) (offset : Nat) : Nat :=
  if fault ≠ some .stat ∧ content.length < offset then 0 else offset

/-- The bytes a call hands to `importLines`, if it comes to that. -/
def importedPart (fault : Option ReadFault) (final : Bool) (content : Bytes) (offset : Nat) :
    Option Bytes :=
  let offset := startOffset fault content offset
  if fault = none ∧ offset < content.length then completePart final (content.drop offset) else none

/-- `readAvailable` with its result. -/
def readResult (parseLine : Bytes → Option Alert) (fault : Option ReadFault)
    (insertOk : Nat → Bool) (final : Bool) (content : Bytes) (offset : Nat) : ReadResult Alert :=
  if fault = some .stat then { stored := [], offset := offset, n := 0, ok := false }
  else
    let offset := if content.length < offset then 0 else offset
    if content.length ≤ offset then { stored := [], offset := offset, n := 0, ok := true }
    else if fault = some .read then { stored := [], offset := offset, n := 0, ok := false }
    else
      match completePart final (content.drop offset) with
      | none => { stored := [], offset := offset, n := 0, ok := true }
      | some complete =>
          let (stored, n, ok) := importLines parseLine insertOk complete
          { stored := stored, offset := if ok then offset + complete.length else offset
            n := n, ok := ok }

/-- Where no file operation fails this is `readAvailable`. -/
theorem readResult_eq (insertOk : Nat → Bool) (final : Bool) (content : Bytes) (offset : Nat) :
    let r := readResult parseLine none insertOk final content offset
    (r.stored, r.offset) = readAvailable parseLine insertOk final content offset := by
  simp only [readResult, readAvailable, reduceCtorEq, if_false]
  generalize (if content.length < offset then 0 else offset) = start
  split
  · rfl
  · cases completePart final (content.drop start) <;> rfl

/-! ### Which attempts there are -/

variable {insertOk : Nat → Bool}

theorem afterAlerts_waiting_le (insertOk : Nat → Bool) (m : Nat) :
    (afterAlerts insertOk m).1 ≤ m := by
  induction m with
  | zero => exact Nat.le_refl 0
  | succ m ih =>
      rw [afterAlerts]
      dsimp only
      split
      · omega
      · split <;> omega

/-- As long as all attempts fail, everything waits. -/
theorem afterAlerts_of_fail {m : Nat} (h : ∀ i < m - 255, insertOk i = false) :
    afterAlerts insertOk m = (m, m - 255) := by
  induction m with
  | zero => rfl
  | succ m ih =>
      have hmono : m - 255 ≤ m + 1 - 255 := by omega
      have hm := ih fun i hi => h i (Nat.lt_of_lt_of_le hi hmono)
      rw [afterAlerts, hm]
      dsimp only
      split
      · next hfree =>
          have : m + 1 - 255 = m - 255 := by omega
          rw [this]
      · next hfull =>
          have hfail := h (m - 255) (by omega)
          have hcalls : m - 255 + 1 = m + 1 - 255 := by omega
          rw [hfail, if_neg (by simp), hcalls]

theorem fail_of_waiting {m : Nat} (h : (afterAlerts insertOk m).1 = m) :
    ∀ i < m - 255, insertOk i = false := by
  induction m with
  | zero =>
      intro i hi
      omega
  | succ m ih =>
      have hle := afterAlerts_waiting_le insertOk m
      rw [afterAlerts] at h
      dsimp only at h
      split at h
      · next hfree =>
          intro i hi
          omega
      · next hfull =>
          split at h
          · cases h
          · next hfail =>
              have hbefore := ih (Nat.succ.inj h)
              have hcalls := congrArg Prod.snd (afterAlerts_of_fail hbefore)
              rw [hcalls, Bool.not_eq_true] at hfail
              intro i hi
              rcases Nat.lt_or_ge i (m - 255) with hlt | hge
              · exact hbefore i hlt
              · have hlast : i = m - 255 := by omega
                rw [hlast]
                exact hfail

/-- Every call of `InsertBatch` in an import of so many alerts fails: one for each alert from the
256th on, and one at the end. -/
def AllCallsFail (insertOk : Nat → Bool) (m : Nat) : Prop :=
  0 < m → ∀ i < m - 255 + 1, insertOk i = false

theorem importLines_eq_nil_iff (insertOk : Nat → Bool) (data : Bytes) :
    (importLines parseLine insertOk data).1 = [] ↔
      AllCallsFail insertOk (scannedAlerts parseLine data).length := by
  obtain ⟨_, _, hall, hsome⟩ := importLines_spec parseLine insertOk data
  generalize hm : (scannedAlerts parseLine data).length = m at hall hsome ⊢
  constructor
  · intro hnil hpos i hi
    by_cases hlast : LastCallOk insertOk m
    · rw [hall hlast] at hnil
      rw [hnil] at hm
      exact absurd hm (by simp; omega)
    · obtain ⟨_, hle, hstored⟩ := hsome hlast
      rw [hstored] at hnil
      have hlen := congrArg List.length hnil
      rw [List.length_take, hm, List.length_nil] at hlen
      have hfail : ∀ i < m - 255, insertOk i = false := fail_of_waiting (by omega)
      by_cases hend : i = m - 255
      · have hcalls : (afterAlerts insertOk m).2 = m - 255 := by rw [afterAlerts_of_fail hfail]
        rw [hend, ← hcalls]
        exact Bool.eq_false_iff.mpr fun h => hlast (.inr h)
      · exact hfail i (by omega)
  · intro hfail
    rcases Nat.eq_zero_or_pos m with hzero | hpos
    · have hnil : scannedAlerts parseLine data = [] := by
        apply List.length_eq_zero_iff.mp
        rw [hm, hzero]
      have hlast : LastCallOk insertOk m := .inl (by rw [hzero]; rfl)
      rw [hall hlast, hnil]
    · have hafter : afterAlerts insertOk m = (m, m - 255) :=
        afterAlerts_of_fail fun i hi => hfail hpos i (by omega)
      have hlast : ¬ LastCallOk insertOk m := by
        rw [LastCallOk, hafter]
        have hend := hfail hpos (m - 255) (by omega)
        rintro (h | h)
        · dsimp only at h
          omega
        · rw [hend] at h
          cases h
      obtain ⟨_, _, hstored⟩ := hsome hlast
      rw [hstored, hafter, Nat.sub_self, List.take_zero]

/-! ### What a result says -/

/-- An import without an error has stored every alert once, and says how many. -/
def Reported (parseLine : Bytes → Option Alert) (insertOk : Nat → Bool) (data : Bytes) : Prop :=
  let result := importLines parseLine insertOk data
  result.2.2 = true →
    result.1 = alertsOf parseLine data ∧ result.2.1 = (alertsOf parseLine data).length

theorem reported_iff (parseLine : Bytes → Option Alert) (insertOk : Nat → Bool) (data : Bytes) :
    Reported parseLine insertOk data ↔
      (Fits data → LastCallOk insertOk (alertsOf parseLine data).length) := by
  obtain ⟨hn, hok, hall, hsome⟩ := importLines_spec parseLine insertOk data
  rw [Reported, hok, decide_eq_true_iff]
  refine forall_congr' fun hfit => ?_
  rw [scannedAlerts_of_fits parseLine hfit] at hall hsome
  constructor
  · rintro ⟨hstored, _⟩
    by_contra hlast
    obtain ⟨hpos, hle, htake⟩ := hsome hlast
    have hlen := congrArg List.length (hstored.symm.trans htake)
    rw [List.length_take] at hlen
    omega
  · intro hlast
    rw [hn, hall hlast]
    exact ⟨rfl, rfl⟩

/-- What a read may promise: it has only passed alerts that it has stored, and after an error it can
be repeated, whatever the inserts do then, without an alert being stored more often than it was
scanned. -/
structure ReadSafe (parseLine : Bytes → Option Alert) (fault : Option ReadFault)
    (insertOk : Nat → Bool) (final : Bool) (content : Bytes) (offset : Nat) : Prop where
  passed :
    let r := readResult parseLine fault insertOk final content offset
    let start := startOffset fault content offset
    (alertsOf parseLine ((content.drop start).take (r.offset - start))).Sublist r.stored
  again :
    let r := readResult parseLine fault insertOk final content offset
    r.ok = false → ∀ fault' insertOk',
      (r.stored ++ (readResult parseLine fault' insertOk' final content r.offset).stored).Subperm
        (scannedAlerts parseLine ((importedPart none final content offset).getD []))

theorem completePart_front {final : Bool} {buf complete : Bytes}
    (h : completePart final buf = some complete) : complete <+: buf := by
  unfold completePart at h
  split at h
  · split at h
    · cases h
      exact List.prefix_refl buf
    · cases h
  · cases h
    split
    · exact List.prefix_refl buf
    · exact List.take_prefix _ buf

/-- What a read does: nothing is imported and nothing is passed, or a part of the file is imported
and passed if it fits. -/
theorem readResult_cases (parseLine : Bytes → Option Alert) (fault : Option ReadFault)
    (insertOk : Nat → Bool) (final : Bool) (content : Bytes) (offset : Nat) :
    let r := readResult parseLine fault insertOk final content offset
    let start := startOffset fault content offset
    (importedPart fault final content offset = none ∧ r.stored = [] ∧ r.offset = start ∧
      (fault = none → r.ok = true)) ∨
    ∃ complete, importedPart fault final content offset = some complete ∧ fault = none ∧
      complete <+: content.drop start ∧
      r.stored = (importLines parseLine insertOk complete).1 ∧ r.ok = decide (Fits complete) ∧
      r.offset = if Fits complete then start + complete.length else start := by
  intro r start
  have hr : r = readResult parseLine fault insertOk final content offset := rfl
  unfold readResult at hr
  cases fault with
  | some f =>
      left
      cases f with
      | stat =>
          rw [hr]
          exact ⟨rfl, rfl, rfl, by simp⟩
      | read =>
          have hstart : start = if content.length < offset then 0 else offset := by
            simp [start, startOffset]
          simp only [reduceCtorEq, Option.some.injEq, if_false, if_true] at hr
          rw [← hstart] at hr
          split at hr
          · rw [hr]
            exact ⟨rfl, rfl, rfl, by simp⟩
          · rw [hr]
            exact ⟨rfl, rfl, rfl, by simp⟩
  | none =>
      have hstart : start = if content.length < offset then 0 else offset := by
        simp [start, startOffset]
      simp only [reduceCtorEq, if_false] at hr
      rw [← hstart] at hr
      have hpart : importedPart none final content offset =
          if start < content.length then completePart final (content.drop start) else none := by
        simp [importedPart, start]
      split at hr
      · next hle =>
          left
          rw [hpart, if_neg (Nat.not_lt.mpr hle), hr]
          exact ⟨rfl, rfl, rfl, fun _ => rfl⟩
      · next hlt =>
          rw [if_pos (Nat.not_le.mp hlt)] at hpart
          rw [hpart]
          cases hcomplete : completePart final (content.drop start) with
          | none =>
              left
              rw [hcomplete] at hr
              rw [hr]
              exact ⟨rfl, rfl, rfl, fun _ => rfl⟩
          | some complete =>
              right
              rw [hcomplete] at hr
              obtain ⟨_, hok, _⟩ := importLines_spec parseLine insertOk complete
              refine ⟨complete, rfl, rfl, completePart_front hcomplete, ?_, ?_, ?_⟩
              · rw [hr]
              · rw [hr]
                exact hok
              · rw [hr]
                dsimp only
                rw [hok, if_congr decide_eq_true_iff rfl rfl]

theorem importLines_stored_front (insertOk : Nat → Bool) (data : Bytes) :
    (importLines parseLine insertOk data).1 <+: scannedAlerts parseLine data := by
  obtain ⟨_, _, hall, hsome⟩ := importLines_spec parseLine insertOk data
  by_cases hlast : LastCallOk insertOk (scannedAlerts parseLine data).length
  · exact hall hlast ▸ List.prefix_refl _
  · exact (hsome hlast).2.2 ▸ List.take_prefix _ _

/-- A call that has moved nothing is repeated from the same place. -/
theorem importedPart_start (fault : Option ReadFault) (final : Bool) (content : Bytes)
    (offset : Nat) :
    importedPart none final content (startOffset fault content offset) =
      importedPart none final content offset := by
  have hstart : startOffset none content (startOffset fault content offset) =
      startOffset none content offset := by
    by_cases hlt : content.length < offset
    · rcases fault with _ | ⟨_ | _⟩ <;> simp [startOffset, hlt]
    · rcases fault with _ | ⟨_ | _⟩ <;> simp [startOffset, hlt]
  simp only [importedPart, hstart]

/-- The rows a call stores are alerts it can read, each at most once. -/
theorem readResult_stored_subperm (parseLine : Bytes → Option Alert) (fault : Option ReadFault)
    (insertOk : Nat → Bool) (final : Bool) (content : Bytes) (offset : Nat) :
    (readResult parseLine fault insertOk final content offset).stored.Subperm
      (scannedAlerts parseLine ((importedPart none final content offset).getD [])) := by
  rcases readResult_cases parseLine fault insertOk final content offset with
    ⟨_, hstored, _⟩ | ⟨complete, hpart, hfault, _, hstored, _⟩
  · rw [hstored]
    exact List.nil_subperm
  · subst hfault
    rw [hstored, hpart, Option.getD_some]
    exact (importLines_stored_front insertOk complete).sublist.subperm

theorem readResult_neverFails (parseLine : Bytes → Option Alert) {final : Bool}
    {content complete : Bytes} {offset : Nat}
    (hpart : importedPart none final content offset = some complete) :
    (readResult parseLine none neverFails final content offset).stored =
      scannedAlerts parseLine complete := by
  obtain ⟨_, _, hall, _⟩ := importLines_spec parseLine neverFails complete
  rcases readResult_cases parseLine none neverFails final content offset with
    ⟨hnone, _⟩ | ⟨_, hsome, _, _, hstored, _⟩
  · rw [hpart] at hnone
    cases hnone
  · rw [hpart] at hsome
    cases hsome
    rw [hstored, hall (lastCallOk_neverFails _)]

/-- When a read can be trusted. -/
theorem readSafe_iff (parseLine : Bytes → Option Alert) (fault : Option ReadFault)
    (insertOk : Nat → Bool) (final : Bool) (content : Bytes) (offset : Nat) :
    ReadSafe parseLine fault insertOk final content offset ↔
      ∀ complete, importedPart fault final content offset = some complete →
        (Fits complete → LastCallOk insertOk (alertsOf parseLine complete).length) ∧
        (¬ Fits complete → AllCallsFail insertOk (scannedAlerts parseLine complete).length) := by
  rcases readResult_cases parseLine fault insertOk final content offset with
    ⟨hpart, hstored, hoffset, hok⟩ | ⟨complete, hpart, hfault, hfront, hstored, hok, hoffset⟩
  · -- nothing was imported
    refine iff_of_true ⟨?_, ?_⟩ (by rw [hpart]; intro complete h; cases h)
    · intro r start
      have hzero : r.offset - start = 0 := by
        rw [show r.offset = start from hoffset, Nat.sub_self]
      rw [hzero, List.take_zero]
      exact List.nil_sublist _
    · intro r _ fault' insertOk'
      rw [show r.stored = [] from hstored, show r.offset = _ from hoffset, List.nil_append,
        ← importedPart_start fault]
      exact readResult_stored_subperm parseLine fault' insertOk' final content _
  · subst hfault
    rw [hpart]
    -- the two conditions are about the part that was imported
    have hcond : (∀ c, some complete = some c →
          (Fits c → LastCallOk insertOk (alertsOf parseLine c).length) ∧
          (¬ Fits c → AllCallsFail insertOk (scannedAlerts parseLine c).length)) ↔
        (Fits complete → LastCallOk insertOk (alertsOf parseLine complete).length) ∧
        (¬ Fits complete → AllCallsFail insertOk (scannedAlerts parseLine complete).length) :=
      ⟨fun h => h complete rfl, fun h c hc => by cases hc; exact h⟩
    rw [hcond]
    obtain ⟨_, _, hall, hsome⟩ := importLines_spec parseLine insertOk complete
    by_cases hfit : Fits complete
    · -- the part was passed: all of it has to be stored
      rw [if_pos hfit] at hoffset
      rw [decide_eq_true hfit] at hok
      rw [scannedAlerts_of_fits parseLine hfit] at hall hsome
      have hpassed : (content.drop (startOffset none content offset)).take
          ((readResult parseLine none insertOk final content offset).offset -
            startOffset none content offset) = complete := by
        rw [hoffset, Nat.add_sub_cancel_left]
        exact (List.prefix_iff_eq_take.mp hfront).symm
      constructor
      · intro hsafe
        refine ⟨fun _ => ?_, fun hno => absurd hfit hno⟩
        by_contra hlast
        obtain ⟨hpos, hle, htake⟩ := hsome hlast
        have hlen := hsafe.passed.length_le
        rw [hpassed, hstored, htake, List.length_take] at hlen
        omega
      · rintro ⟨hlast, _⟩
        refine ⟨?_, ?_⟩
        · intro r start
          rw [show (content.drop start).take (r.offset - start) = complete from hpassed,
            show r.stored = _ from hstored, hall (hlast hfit)]
        · intro r herr
          rw [show r.ok = true from hok] at herr
          cases herr
    · -- nothing was passed: what was stored is read again
      rw [if_neg hfit] at hoffset
      have hagain (insertOk' : Nat → Bool) (fault' : Option ReadFault) :=
        readResult_stored_subperm parseLine fault' insertOk' final content
          (startOffset none content offset)
      rw [importedPart_start, hpart, Option.getD_some] at hagain
      constructor
      · intro hsafe
        refine ⟨fun hyes => absurd hyes hfit, fun _ => ?_⟩
        rw [← importLines_eq_nil_iff, ← hstored]
        -- a second call whose inserts succeed stores everything
        have hsecond := readResult_neverFails parseLine
          (importedPart_start none final content offset ▸ hpart)
        rw [decide_eq_false hfit] at hok
        have hlen := (hsafe.again hok none neverFails).length_le
        rw [hoffset, hpart, Option.getD_some, List.length_append, hsecond] at hlen
        exact List.length_eq_zero_iff.mp (by omega)
      · rintro ⟨_, hfail⟩
        have hnil := (importLines_eq_nil_iff insertOk complete).mpr (hfail hfit)
        refine ⟨?_, ?_⟩
        · intro r start
          have hzero : r.offset - start = 0 := by
            rw [show r.offset = start from hoffset, Nat.sub_self]
          rw [hzero, List.take_zero]
          exact List.nil_sublist _
        · intro r _ fault' insertOk'
          rw [show r.stored = _ from hstored, hnil, List.nil_append, hpart, Option.getD_some,
            show r.offset = _ from hoffset]
          exact hagain insertOk' fault'

/-- **When an import reports its losses.** An import that returns no error has stored every alert
exactly if its last insert has succeeded. A read passes only alerts that are stored, and after an
error can be repeated, exactly if the last insert succeeds where the lines fit the scanner, and all
inserts fail where they do not. -/
theorem import_reports_iff (parseLine : Bytes → Option Alert) (insertOk : Nat → Bool) :
    (∀ data, Reported parseLine insertOk data ↔
      (Fits data → LastCallOk insertOk (alertsOf parseLine data).length)) ∧
    ∀ fault final content offset,
      ReadSafe parseLine fault insertOk final content offset ↔
        ∀ complete, importedPart fault final content offset = some complete →
          (Fits complete → LastCallOk insertOk (alertsOf parseLine complete).length) ∧
          (¬ Fits complete → AllCallsFail insertOk (scannedAlerts parseLine complete).length) :=
  ⟨reported_iff parseLine insertOk, fun fault final content offset =>
    readSafe_iff parseLine fault insertOk final content offset⟩

end

/-- One alert and an insert that fails: no error, and no alert. -/
theorem alert_lost_without_error :
    importLines acceptsEmptyObject (fun _ => false) emptyObject = ([], 0, true) ∧
      alertsOf acceptsEmptyObject emptyObject = [()] ∧
      ¬ Reported acceptsEmptyObject (fun _ => false) emptyObject ∧
      (readAvailable acceptsEmptyObject (fun _ => false) true emptyObject 0) = ([], 2) := by
  have hlost : importLines acceptsEmptyObject (fun _ => false) emptyObject = ([], 0, true) := by
    decide
  have halerts : alertsOf acceptsEmptyObject emptyObject = [()] := by decide
  refine ⟨hlost, halerts, ?_, by decide⟩
  intro h
  rw [Reported, hlost, halerts] at h
  cases (h rfl).2

end SnortOptimizer.Alerts
