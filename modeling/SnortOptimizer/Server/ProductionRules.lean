import SnortOptimizer.Machine.Basic
import SnortOptimizer.Rules.Store
import SnortOptimizer.Server.CopyRules

/-!
# The production rule store (`wrap/runner/storage.go`, `sql/rules/store.go`, `sql/schema/schema.go`)

Rules get into the production database when Snort is first started on it, or when an analysis is
applied. `ensureRuleStore` decides whether to import them by looking whether the database file
exists; it then calls `EnsureRules`, which creates the file, and only after that reads the rule
files. A rule toggle and a rule copy create the file as well.

The operations on one database path follow each other. Whatever may fail in them does so by a fault
that comes with the operation; `filled` remembers whether rules were imported or copied to run 0
since the file was last absent.
-/

namespace SnortOptimizer.Server

open Analyser (Rule keyLe)

/-! ## The database file -/

/-- `none` is no file, `some none` a file without a `rules` table. -/
abbrev DBFile := Option (Option RulesTable)

/-- Before or after the file has come into being. -/
inductive EnsureFault where
  | before (err : String)
  | after (err : String)

/-- The table as `EnsureRules` creates it. -/
def RulesTable.fresh : RulesTable := { indexed := true, table := .empty }

/-- `CREATE UNIQUE INDEX IF NOT EXISTS idx_rules_run_source_raw`. -/
def RulesTable.index (t : RulesTable) : Option RulesTable :=
  if h : t.rows.Pairwise fun r s => ¬ r.Conflict true s then
    some { indexed := true, table := ⟨t.rows, h⟩ }
  else none

/-- `EnsureRules` on a file whose table, if any, has the current columns. -/
def ensureRules (fault : Option EnsureFault) (file : DBFile) : Except String Unit × DBFile :=
  match fault with
  | some (.before e) => (.error e, file)
  | some (.after e) => (.error e, some file.join)
  | none =>
      match file.join with
      | none => (.ok (), some (some .fresh))
      | some t =>
          match t.index with
          | none => (.error "constraint failed: UNIQUE constraint failed", some (some t))
          | some t => (.ok (), some (some t))

def ruleRow (runID : Int) (now : String) (r : Rule) : RulesRow :=
  { runID := runID, sid := r.sid, gid := r.gid, rev := some r.rev, action := some r.action
    proto := some r.proto, srcNet := some r.srcNet, srcPort := some r.srcPort
    direction := some r.direction, dstNet := some r.dstNet, dstPort := some r.dstPort
    msg := some r.msg, classtype := some r.classtype, enabled := if r.enabled then 1 else 0
    sourceFile := some r.sourceFile, rawText := r.rawText, createdAt := now }

/-- The script of `INSERT OR IGNORE`s, in one transaction. -/
def RulesTable.insertRules (t : RulesTable) (runID : Int) (now : String) (records : List Rule) :
    RulesTable :=
  { t with table := records.foldl (fun t r => t.insertOrIgnore (ruleRow runID now r)) t.table }

/-! ## Starting Snort -/

/-- What a start of Snort meets. -/
structure StartWorld where
  stat : Option String
  mkdir : Option String                      -- `ensureSQLStore`
  ensure : Option EnsureFault
  rawRulePath : Except String (List Rule)    -- `LoadPath`
  ensureInsert : Option EnsureFault          -- the `EnsureRules` of `InsertBatch`
  insert : Option String
  later : Option String                      -- the first error between the rules and `cmd.Start`
  now : String

/-- `InsertBatch`: nothing is done when there is nothing to insert. -/
def insertBatch (w : StartWorld) (records : List Rule) (file : DBFile) :
    Except String Unit × DBFile :=
  if records = [] then (.ok (), file)
  else
    match ensureRules w.ensureInsert file with
    | (.error e, file) => (.error e, file)
    | (.ok _, file) =>
        match w.insert with
        | some e => (.error e, file)
        | none => (.ok (), file.map fun t => t.map fun t => t.insertRules 0 w.now records)

/-- `ImportDir`. -/
def importRules (w : StartWorld) (file : DBFile) : Except String Unit × DBFile :=
  match w.rawRulePath with
  | .error e => (.error e, file)
  | .ok records => insertBatch w records file

/-- What `ensureRuleStore` comes to, and whether it has imported rules. -/
structure InitResult where
  result : Except String Unit
  file : DBFile
  imported : Bool

/-- `ensureRuleStore` for run 0. -/
def ensureRuleStore (w : StartWorld) (file : DBFile) : InitResult :=
  let dbMissing := file.isNone
  match w.stat with
  | some e => { result := .error ("stat sql db: " ++ e), file := file, imported := false }
  | none =>
      match w.mkdir with
      | some e =>
          { result := .error ("create snort working dir: " ++ e), file := file, imported := false }
      | none =>
          match ensureRules w.ensure file with
          | (.error e, file) => { result := .error e, file := file, imported := false }
          | (.ok _, file) =>
              if dbMissing then
                match importRules w file with
                | (.error e, file) => { result := .error e, file := file, imported := false }
                | (.ok _, file) => { result := .ok (), file := file, imported := true }
              else { result := .ok (), file := file, imported := false }

/-- The lines `generateAllRules` writes to `all.rules`. -/
def generateAllRules (file : DBFile) : List String :=
  let rows := (file.join.map RulesTable.rows).getD []
  let listed := ((rows.filter fun r => r.runID = 0 ∧ r.enabled = 1).insertionSort
    fun a b => keyLe (a.gid, a.sid) (b.gid, b.sid)).take Rules.maxRuleList
  (listed.map fun r => Text.trimSpace r.rawText).filter (· ≠ "")

/-! ## Operations in a row -/

/-- A launch of Snort: the rules it is given, and whether the store had been filled. -/
structure Launch where
  lines : List String
  filled : Bool
  deriving DecidableEq, Repr

structure StoreState where
  file : DBFile
  filled : Bool
  launches : List Launch
  initFailed : Bool        -- the last operation was a start that failed with the rules

def StoreState.new : StoreState :=
  { file := none, filled := false, launches := [], initFailed := false }

/-- The arguments of a rule copy into the production database, and what it meets. -/
structure CopyCall where
  faults : CopyFaults
  now : String
  sourceAbs : String
  source : SourceDB
  sourceRunID : Int
  targetRunID : Int

/-- The database file, and what SQLite keeps beside it. -/
inductive ResetFile where
  | db
  | wal
  | shm
  deriving DecidableEq, Repr

inductive StoreAction where
  | start (w : StartWorld)                               -- of a runner that is not running
  | toggle (ensure : Option EnsureFault) (update : Option String) (runID gid sid : Int)
      (enabled : Bool)
  | reset (faults : ResetFile → Option String)
  | copy (c : CopyCall)

/-- `Runner.Start`. -/
def StoreState.start (s : StoreState) (w : StartWorld) : StoreState :=
  let init := ensureRuleStore w s.file
  let t := { s with file := init.file, filled := s.filled || init.imported, initFailed := false }
  match init.result, w.later with
  | .error _, _ => { t with initFailed := true }
  | .ok _, some _ => t
  | .ok _, none =>
      { t with
        launches := t.launches ++ [{ lines := generateAllRules t.file, filled := t.filled }] }

def setEnabledRow (runID gid sid : Int) (enabled : Bool) (r : RulesRow) : RulesRow :=
  if r.runID = runID ∧ r.gid = gid ∧ r.sid = sid then
    { r with enabled := if enabled then 1 else 0 }
  else r

theorem setEnabledRow_eq (runID gid sid : Int) (enabled : Bool) (r : RulesRow) :
    ∃ value, setEnabledRow runID gid sid enabled r = { r with enabled := value } := by
  unfold setEnabledRow
  split
  · exact ⟨_, rfl⟩
  · exact ⟨r.enabled, rfl⟩

theorem setEnabledRow_conflict {indexed : Bool} {runID gid sid : Int} {enabled : Bool}
    {r s : RulesRow} (h : (setEnabledRow runID gid sid enabled r).Conflict indexed
      (setEnabledRow runID gid sid enabled s)) : r.Conflict indexed s := by
  obtain ⟨v, hr⟩ := setEnabledRow_eq runID gid sid enabled r
  obtain ⟨w, hs⟩ := setEnabledRow_eq runID gid sid enabled s
  rw [hr, hs] at h
  exact h

def RulesTable.setEnabled (t : RulesTable) (runID gid sid : Int) (enabled : Bool) : RulesTable :=
  let table := t.table.update (setEnabledRow runID gid sid enabled)
    fun _ _ => setEnabledRow_conflict
  { t with table := table }

/-- `SetEnabled`. -/
def StoreState.toggle (s : StoreState) (ensure : Option EnsureFault) (update : Option String)
    (runID gid sid : Int) (enabled : Bool) : StoreState :=
  let s := { s with initFailed := false }
  match ensureRules ensure s.file, update with
  | (.error _, file), _ => { s with file := file }
  | (.ok _, file), some _ => { s with file := file }
  | (.ok _, file), none =>
      { s with
        file := file.map fun t => t.map fun t => t.setEnabled runID gid sid enabled }

/-- `schema.Reset`: the files are removed one after the other, and the database is the first. -/
def resetFiles (faults : ResetFile → Option String) (file : DBFile) :
    Except String Unit × DBFile :=
  match faults .db, faults .wal <|> faults .shm with
  | some e, _ => (.error e, file)
  | none, some e => (.error e, none)
  | none, none => (.ok (), none)

def StoreState.reset (s : StoreState) (faults : ResetFile → Option String) : StoreState :=
  let file := (resetFiles faults s.file).2
  { s with file := file, filled := file.isSome && s.filled, initFailed := false }

/-- The target file is not even opened. -/
def CopyCall.fileError (c : CopyCall) : Option String :=
  Server.fileError c.faults c.sourceAbs c.source

/-- `copyRulesBetweenDBs` into the production database. -/
def StoreState.copy (s : StoreState) (c : CopyCall) : StoreState :=
  let s := { s with initFailed := false }
  if c.fileError ≠ none then s
  else
    let call := copyRulesBetweenDBs c.faults c.now c.sourceAbs c.source s.file.join c.sourceRunID
      c.targetRunID
    match call.1 with
    | .error _ => { s with file := some call.2 }
    | .ok _ => { s with file := some call.2, filled := s.filled || c.targetRunID = 0 }

def StoreState.act (s : StoreState) : StoreAction → StoreState
  | .start w => s.start w
  | .toggle ensure update runID gid sid enabled => s.toggle ensure update runID gid sid enabled
  | .reset faults => s.reset faults
  | .copy c => s.copy c

def storeMachine : Machine StoreState StoreAction where
  init := .new
  step s a := some (s.act a)

/-! ## Filled before it is used -/

/-- Snort was never launched on a store that had not been filled, and after a start that failed
with the rules the next start will import them, unless the store has been filled already. -/
structure LaunchedFilled (s : StoreState) : Prop where
  launches : ∀ l ∈ s.launches, l.filled = true
  retry : s.initFailed = true → s.file = none ∨ s.filled = true

/-- The import of a start goes through. -/
def ImportSucceeds (w : StartWorld) : Prop :=
  ∃ records, w.rawRulePath = .ok records ∧
    (records = [] ∨ (w.ensureInsert = none ∧ w.insert = none))

/-- A start where there is no file imports the rules, or fails before the file is created. -/
def StartKeeps (w : StartWorld) : Prop :=
  w.stat ≠ none ∨ w.mkdir ≠ none ∨ (∃ e, w.ensure = some (.before e)) ∨
    (w.ensure = none ∧ ImportSucceeds w)

/-- Where there is no file, the operation does not leave one that is not filled: a start imports the
rules or fails before the file is created, a toggle fails before that, and a copy does so or copies
rules to run 0. -/
def KeepsFilled (s : StoreState) : StoreAction → Prop
  | .start w => s.file = none → StartKeeps w
  | .toggle ensure _ _ _ _ _ => s.file = none → ∃ e, ensure = some (.before e)
  | .reset _ => True
  | .copy c => s.file = none →
      c.fileError ≠ none ∨ (c.targetRunID = 0 ∧ firstError c.faults c.sourceAbs c.source = none ∧
        Copyable c.faults c.source none c.sourceRunID)

/-! ## What each operation does to the file -/

/-- `EnsureRules` leaves no file only where there was none and it failed before making one. -/
theorem ensureRules_eq_none {fault : Option EnsureFault} {file : DBFile} :
    (ensureRules fault file).2 = none ↔ file = none ∧ ∃ e, fault = some (.before e) := by
  unfold ensureRules
  split
  · simp
  · simp
  · split
    · simp
    · split <;> simp

theorem ensureRules_absent : ensureRules none none = (.ok (), some (some .fresh)) := rfl

/-- An import leaves the file there, and goes through exactly if nothing fails. -/
theorem importRules_present {w : StartWorld} {file : DBFile} (hfile : file ≠ none) :
    (importRules w file).2 ≠ none := by
  unfold importRules insertBatch
  have hensure : (ensureRules w.ensureInsert file).2 ≠ none := by
    rw [ne_eq, ensureRules_eq_none]
    exact fun h => hfile h.1
  split
  · exact hfile
  · split
    · exact hfile
    · split
      · next h =>
          rw [h] at hensure
          exact hensure
      · next h =>
          rw [h] at hensure
          split
          · exact hensure
          · simpa using hensure

theorem importRules_fresh_ok_iff {w : StartWorld} :
    (importRules w (some (some .fresh))).1 = .ok () ↔ ImportSucceeds w := by
  unfold importRules ImportSucceeds
  cases hload : w.rawRulePath with
  | error e => simp
  | ok records =>
      by_cases hnil : records = []
      · simp [insertBatch, hnil]
      · have hfresh : (ensureRules none (some (some RulesTable.fresh))).1 = .ok () := rfl
        unfold insertBatch
        simp only [if_neg hnil]
        cases hensure : w.ensureInsert with
        | some fault => cases fault <;> simp [ensureRules, hnil]
        | none =>
            rcases hcall : ensureRules none (some (some RulesTable.fresh)) with ⟨result, file⟩
            rw [hcall] at hfresh
            simp only at hfresh
            subst hfresh
            cases w.insert <;> simp [hnil]

/-- A start on a file that is there does not import anything. -/
theorem ensureRuleStore_present {w : StartWorld} {file : DBFile} (hfile : file ≠ none) :
    (ensureRuleStore w file).file ≠ none ∧ (ensureRuleStore w file).imported = false := by
  have hensure : (ensureRules w.ensure file).2 ≠ none := by
    rw [ne_eq, ensureRules_eq_none]
    exact fun h => hfile h.1
  have hthere : file.isNone = false := by simpa using Option.isSome_iff_ne_none.mpr hfile
  unfold ensureRuleStore
  cases w.stat with
  | some e => exact ⟨hfile, rfl⟩
  | none =>
      cases w.mkdir with
      | some e => exact ⟨hfile, rfl⟩
      | none =>
          rcases hcall : ensureRules w.ensure file with ⟨result, file'⟩
          rw [hcall] at hensure
          cases result with
          | error e => exact ⟨hensure, rfl⟩
          | ok _ => simpa [hthere] using hensure

/-- A start on no file: as long as it keeps to `StartKeeps` it imports the rules or leaves no file;
otherwise it leaves a file without having imported any. -/
theorem ensureRuleStore_absent (w : StartWorld) :
    (StartKeeps w ∧ (ensureRuleStore w none).imported = true ∧
      (ensureRuleStore w none).file ≠ none) ∨
    (StartKeeps w ∧ (ensureRuleStore w none).imported = false ∧
      (ensureRuleStore w none).file = none ∧ ∃ e, (ensureRuleStore w none).result = .error e) ∨
    (¬ StartKeeps w ∧ (ensureRuleStore w none).imported = false ∧
      (ensureRuleStore w none).file ≠ none) := by
  unfold ensureRuleStore
  cases hstat : w.stat with
  | some e => exact .inr (.inl ⟨.inl (by simp [hstat]), rfl, rfl, _, rfl⟩)
  | none =>
      cases hmkdir : w.mkdir with
      | some e => exact .inr (.inl ⟨.inr (.inl (by simp [hmkdir])), rfl, rfl, _, rfl⟩)
      | none =>
          cases hensure : w.ensure with
          | some fault =>
              cases fault with
              | before e => exact .inr (.inl ⟨.inr (.inr (.inl ⟨e, hensure⟩)), rfl, rfl, _, rfl⟩)
              | after e =>
                  refine .inr (.inr ⟨?_, rfl, by simp [ensureRules]⟩)
                  simp [StartKeeps, hstat, hmkdir, hensure]
          | none =>
              have hkeeps : StartKeeps w ↔ ImportSucceeds w := by
                simp [StartKeeps, hstat, hmkdir, hensure]
              have hpresent := importRules_present (w := w) (Option.some_ne_none (some .fresh))
              have hok := importRules_fresh_ok_iff (w := w)
              simp only [ensureRules_absent, Option.isNone_none, if_true]
              rcases hcall : importRules w (some (some .fresh)) with ⟨result, file⟩
              rw [hcall] at hpresent hok
              cases result with
              | error e =>
                  refine .inr (.inr ⟨?_, rfl, hpresent⟩)
                  rw [hkeeps, ← hok]
                  simp
              | ok _ => exact .inl ⟨hkeeps.mpr (hok.mp rfl), rfl, hpresent⟩

/-- A rule copy where there is no file. -/
theorem copy_absent {s : StoreState} (c : CopyCall) (hfile : s.file = none) :
    let guarded := c.fileError ≠ none ∨ (c.targetRunID = 0 ∧
      firstError c.faults c.sourceAbs c.source = none ∧
      Copyable c.faults c.source none c.sourceRunID)
    (guarded ∧ (s.copy c).file = none ∧ (s.copy c).filled = s.filled) ∨
    (guarded ∧ (s.copy c).file ≠ none ∧ (s.copy c).filled = true) ∨
    (¬ guarded ∧ (s.copy c).file ≠ none ∧ (s.copy c).filled = s.filled) := by
  intro guarded
  unfold StoreState.copy
  dsimp only
  by_cases herror : c.fileError ≠ none
  · rw [if_pos herror]
    exact .inl ⟨.inl herror, hfile, rfl⟩
  · have hok : (copyRulesBetweenDBs c.faults c.now c.sourceAbs c.source none c.sourceRunID
        c.targetRunID).1 = .ok () ↔ firstError c.faults c.sourceAbs c.source = none ∧
          Copyable c.faults c.source none c.sourceRunID := copyRulesBetweenDBs_ok_iff
    simp only [if_neg herror, hfile, Option.join_none]
    rcases hcall : copyRulesBetweenDBs c.faults c.now c.sourceAbs c.source none c.sourceRunID
      c.targetRunID with ⟨result, table⟩
    rw [hcall] at hok
    cases result with
    | error e =>
        right
        right
        refine ⟨?_, by simp, rfl⟩
        rintro (h | ⟨_, h⟩)
        · exact herror h
        · cases hok.mpr h
    | ok _ =>
        right
        by_cases hrun : c.targetRunID = 0
        · exact .inl ⟨.inr ⟨hrun, hok.mp rfl⟩, by simp, by simp [hrun]⟩
        · right
          refine ⟨?_, by simp, by simp [hrun]⟩
          rintro (h | ⟨h, _⟩)
          · exact herror h
          · exact hrun h

theorem resetFiles_file (faults : ResetFile → Option String) (file : DBFile) :
    (resetFiles faults file).2 = file ∨ (resetFiles faults file).2 = none := by
  unfold resetFiles
  split
  · exact .inl rfl
  · exact .inr rfl
  · exact .inr rfl

theorem copy_present {s : StoreState} (c : CopyCall) (hfile : s.file ≠ none) :
    (s.copy c).file ≠ none ∧ (s.filled = true → (s.copy c).filled = true) := by
  unfold StoreState.copy
  dsimp only
  split
  · exact ⟨hfile, id⟩
  · split
    · exact ⟨by simp, id⟩
    · exact ⟨by simp, fun h => by simp [h]⟩

/-! ## Guarded runs -/

/-- A file that is there has been filled. -/
structure Filled (s : StoreState) : Prop where
  present : s.file ≠ none → s.filled = true
  absent : s.file = none → s.filled = false

/-- The launches an operation adds, and whether it is a start that failed with the rules. -/
theorem launchedFilled_other {s t : StoreState} (h : LaunchedFilled s)
    (hlaunches : t.launches = s.launches) (hinit : t.initFailed = false) : LaunchedFilled t := by
  constructor
  · rw [hlaunches]
    exact h.launches
  · rw [hinit]
    intro hfalse
    cases hfalse

theorem copy_launches (s : StoreState) (c : CopyCall) :
    (s.copy c).launches = s.launches ∧ (s.copy c).initFailed = false := by
  unfold StoreState.copy
  dsimp only
  split
  · exact ⟨rfl, rfl⟩
  · split <;> exact ⟨rfl, rfl⟩

theorem toggle_launches (s : StoreState) (ensure : Option EnsureFault) (update : Option String)
    (runID gid sid : Int) (enabled : Bool) :
    (s.toggle ensure update runID gid sid enabled).launches = s.launches ∧
      (s.toggle ensure update runID gid sid enabled).initFailed = false ∧
      (s.toggle ensure update runID gid sid enabled).filled = s.filled ∧
      ((s.toggle ensure update runID gid sid enabled).file = none ↔
        s.file = none ∧ ∃ e, ensure = some (.before e)) := by
  have hnone : (ensureRules ensure s.file).2 = none ↔ _ := ensureRules_eq_none
  unfold StoreState.toggle
  rcases hcall : ensureRules ensure s.file with ⟨result, file⟩
  rw [hcall] at hnone
  rw [← hnone]
  cases result with
  | error e => simp [hcall]
  | ok _ => cases update <;> simp [hcall]

/-- What a start makes of the state, once its rules are seen to. -/
theorem start_eq (s : StoreState) (w : StartWorld) :
    (s.start w).file = (ensureRuleStore w s.file).file ∧
      (s.start w).filled = (s.filled || (ensureRuleStore w s.file).imported) ∧
      ((∃ e, (ensureRuleStore w s.file).result = .error e) → (s.start w).launches = s.launches) ∧
      ∀ l ∈ (s.start w).launches, l ∈ s.launches ∨ l.filled = (s.start w).filled := by
  unfold StoreState.start
  rcases ensureRuleStore w s.file with ⟨result, file, imported⟩
  cases result with
  | error e => simp +contextual
  | ok _ =>
      cases w.later with
      | some e => simp +contextual
      | none => simp +contextual [or_imp]

/-- A start that comes out with a filled store is a good one. -/
theorem filled_start {s : StoreState} {w : StartWorld} (hlaunched : LaunchedFilled s)
    (hfile : (s.start w).file ≠ none) (hfilled : (s.start w).filled = true) :
    Filled (s.start w) ∧ LaunchedFilled (s.start w) := by
  obtain ⟨_, _, _, hlaunches⟩ := start_eq s w
  refine ⟨⟨fun _ => hfilled, fun h => absurd h hfile⟩, ⟨fun l hl => ?_, fun _ => .inr hfilled⟩⟩
  rcases hlaunches l hl with hold | hnew
  · exact hlaunched.launches l hold
  · rw [hnew]
    exact hfilled

theorem filled_act {s : StoreState} {a : StoreAction} (h : Filled s ∧ LaunchedFilled s)
    (hguard : KeepsFilled s a) : Filled (s.act a) ∧ LaunchedFilled (s.act a) := by
  obtain ⟨hfilled, hlaunched⟩ := h
  cases a with
  | start w =>
      obtain ⟨hstartFile, hstartFilled, hfailed, _⟩ := start_eq s w
      by_cases habsent : s.file = none
      · rw [habsent] at hstartFile hstartFilled hfailed
        rw [hfilled.absent habsent] at hstartFilled
        rcases ensureRuleStore_absent w with ⟨_, himported, hfile⟩ | ⟨_, himported, hfile, herror⟩ |
          ⟨hnot, _, _⟩
        · exact filled_start hlaunched (hstartFile ▸ hfile) (by rw [hstartFilled, himported]; rfl)
        · -- no file is left, so the next start is the first one again
          have hnone : (s.start w).file = none := hstartFile.trans hfile
          refine ⟨⟨fun h => absurd hnone h, fun _ => ?_⟩, ⟨?_, fun _ => .inl hnone⟩⟩
          · show (s.start w).filled = false
            rw [hstartFilled, himported]
            rfl
          · show ∀ l ∈ (s.start w).launches, l.filled = true
            rw [hfailed herror]
            exact hlaunched.launches
        · exact absurd (hguard habsent) hnot
      · obtain ⟨hfile, _⟩ := ensureRuleStore_present (w := w) habsent
        refine filled_start hlaunched (hstartFile ▸ hfile) ?_
        rw [hstartFilled, hfilled.present habsent]
        rfl
  | toggle ensure update runID gid sid enabled =>
      obtain ⟨hlaunches, hinit, hsame, hnone⟩ :=
        toggle_launches s ensure update runID gid sid enabled
      refine ⟨⟨fun hfile => ?_, fun hfile => ?_⟩, launchedFilled_other hlaunched hlaunches hinit⟩
      · show (s.toggle ensure update runID gid sid enabled).filled = true
        rw [hsame]
        apply hfilled.present
        intro habsent
        exact hfile (hnone.mpr ⟨habsent, hguard habsent⟩)
      · show (s.toggle ensure update runID gid sid enabled).filled = false
        rw [hsame]
        exact hfilled.absent (hnone.mp hfile).1
  | reset faults =>
      refine ⟨⟨fun hfile => ?_, fun hfile => ?_⟩, launchedFilled_other hlaunched rfl rfl⟩
      · -- a database that is still there is the one that was there before
        have hstays := (resetFiles_file faults s.file).resolve_right hfile
        change (resetFiles faults s.file).2 ≠ none at hfile
        show ((resetFiles faults s.file).2.isSome && s.filled) = true
        rw [hstays] at hfile ⊢
        rw [hfilled.present hfile, Option.isSome_iff_ne_none.mpr hfile]
        rfl
      · change (resetFiles faults s.file).2 = none at hfile
        show ((resetFiles faults s.file).2.isSome && s.filled) = false
        rw [hfile]
        rfl
  | copy c =>
      obtain ⟨hlaunches, hinit⟩ := copy_launches s c
      refine ⟨?_, launchedFilled_other hlaunched hlaunches hinit⟩
      by_cases habsent : s.file = none
      · rcases copy_absent c habsent with ⟨_, hfile, hsame⟩ | ⟨_, hfile, hnew⟩ | ⟨hnot, _, _⟩
        · exact ⟨fun h => absurd hfile h, fun _ => hsame.trans (hfilled.absent habsent)⟩
        · exact ⟨fun _ => hnew, fun h => absurd h hfile⟩
        · exact absurd (hguard habsent) hnot
      · obtain ⟨hfile, hkept⟩ := copy_present c habsent
        exact ⟨fun _ => hkept (hfilled.present habsent), fun h => absurd h hfile⟩

/-! ## Unguarded steps -/

/-- An operation that breaks the guard leaves a file that is not filled. -/
theorem unfilled_of_not_keepsFilled {s : StoreState} {a : StoreAction} (h : Filled s)
    (hguard : ¬ KeepsFilled s a) : (s.act a).file ≠ none ∧ (s.act a).filled = false := by
  cases a with
  | start w =>
      obtain ⟨habsent, hnot⟩ := Classical.not_imp.mp hguard
      obtain ⟨hstartFile, hstartFilled, _, _⟩ := start_eq s w
      rw [habsent] at hstartFile hstartFilled
      rcases ensureRuleStore_absent w with ⟨hkeeps, _, _⟩ | ⟨hkeeps, _, _, _⟩ |
        ⟨_, himported, hfile⟩
      · exact absurd hkeeps hnot
      · exact absurd hkeeps hnot
      · refine ⟨fun hnone => hfile (hstartFile.symm.trans hnone), ?_⟩
        show (s.start w).filled = false
        rw [hstartFilled, himported, h.absent habsent]
        rfl
  | toggle ensure update runID gid sid enabled =>
      obtain ⟨habsent, hnot⟩ := Classical.not_imp.mp hguard
      obtain ⟨_, _, hsame, hnone⟩ := toggle_launches s ensure update runID gid sid enabled
      exact ⟨fun hfile => hnot (hnone.mp hfile).2, hsame.trans (h.absent habsent)⟩
  | reset faults => exact absurd trivial hguard
  | copy c =>
      obtain ⟨habsent, hnot⟩ := Classical.not_imp.mp hguard
      rcases copy_absent c habsent with ⟨hkeeps, _, _⟩ | ⟨hkeeps, _, _⟩ | ⟨_, hfile, hsame⟩
      · exact absurd hkeeps hnot
      · exact absurd hkeeps hnot
      · exact ⟨hfile, hsame.trans (h.absent habsent)⟩

/-- A start that meets no fault, with readable rule files. -/
def faultless : StartWorld :=
  { stat := none, mkdir := none, ensure := none, rawRulePath := .ok [], ensureInsert := none
    insert := none, later := none, now := "2026-01-01T00:00:00Z" }

/-- On a file that is not filled, even a start without any fault launches Snort unfilled, or fails
with the rules for ever. -/
theorem not_launchedFilled_start {s : StoreState} (hfile : s.file ≠ none)
    (hfilled : s.filled = false) : ¬ LaunchedFilled (s.start faultless) := by
  obtain ⟨hpresent, himported⟩ := ensureRuleStore_present (w := faultless) hfile
  unfold StoreState.start
  rcases hinit : ensureRuleStore faultless s.file with ⟨result, file, imported⟩
  rw [hinit] at hpresent himported
  simp only at himported
  subst himported
  intro h
  cases result with
  | error e =>
      rcases h.retry rfl with hnone | htrue
      · exact hpresent hnone
      · simp [hfilled] at htrue
  | ok _ =>
      have hlast := h.launches ⟨generateAllRules file, s.filled || false⟩
        (List.mem_append_right _ List.mem_cons_self)
      simp [hfilled] at hlast

/-- **When Snort is launched on a filled store.** In every sequence of operations that are all
guarded, Snort is only ever launched on a store that has been filled, and after a start that failed
with the rules the next one imports them. And the guard cannot be left out: as soon as one operation
breaks it, the next start goes wrong even if it meets no fault. -/
theorem launches_filled_of_guarded (acts : List StoreAction) :
    (storeMachine.Guarded KeepsFilled .new acts →
      storeMachine.Always LaunchedFilled .new acts) ∧
    ∀ s a, storeMachine.exec .new acts = some s → storeMachine.Guarded KeepsFilled .new acts →
      ¬ KeepsFilled s a →
      ∃ t, storeMachine.exec s [a, .start faultless] = some t ∧ ¬ LaunchedFilled t := by
  have hnew : Filled .new ∧ LaunchedFilled .new :=
    ⟨⟨fun h => absurd rfl h, fun _ => rfl⟩, ⟨by simp [StoreState.new], by simp [StoreState.new]⟩⟩
  have hstep : ∀ s a s', Filled s ∧ LaunchedFilled s → KeepsFilled s a →
      storeMachine.step s a = some s' → Filled s' ∧ LaunchedFilled s' := by
    rintro s a s' h hguard hs'
    cases hs'
    exact filled_act h hguard
  constructor
  · intro hguarded
    exact (Machine.always_of_guarded hstep hnew hguarded).imp fun _ h => h.2
  · intro s a hexec hguarded hbreak
    have hfilled := (Machine.always_of_guarded hstep hnew hguarded).last hexec
    obtain ⟨hfile, hunfilled⟩ := unfilled_of_not_keepsFilled hfilled.1 hbreak
    exact ⟨_, rfl, not_launchedFilled_start hfile hunfilled⟩

/-- The rule path is missing at the first start and there at the second, which launches Snort
without any rules. -/
theorem missing_rules_launch_empty :
    ∃ s, storeMachine.exec .new
        [.start { faultless with rawRulePath := .error "stat rules path: no such file" },
          .start faultless] = some s ∧
      s.launches = [{ lines := [], filled := false }] ∧ ¬ LaunchedFilled s := by
  have hlaunch : ((storeMachine.exec .new
      [.start { faultless with rawRulePath := .error "stat rules path: no such file" },
        .start faultless]).map StoreState.launches) =
      some [{ lines := [], filled := false }] := by
    decide
  obtain ⟨s, hs, hlaunches⟩ := Option.map_eq_some_iff.mp hlaunch
  refine ⟨s, hs, hlaunches, fun h => ?_⟩
  have hbad := h.launches ⟨[], false⟩ (by rw [hlaunches]; exact List.mem_cons_self)
  cases hbad

end SnortOptimizer.Server
