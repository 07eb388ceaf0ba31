import SnortOptimizer.Path.Basic
import SnortOptimizer.Rules.Parser
import SnortOptimizer.Text.Lines

/-!
# Rule files in and out (`sql/rules/store.go`, `wrap/runner/storage.go`)

`ImportDir` reads the rules of a file or a directory into a run. Runs are copied from one another
and rules are switched on and off, and before Snort starts, `generateAllRules` writes the raw text
of the enabled rules of a run to `all.rules`.

What is written can be read again because the raw text of a stored rule reads as that very rule
(`parseLine_rawText`) and fits on a line. `Legible` says so of one rule, every operation on the
store keeps it for the runs that stem from an import, and `loadFiles_allRules` is what follows for
the file.
-/

namespace SnortOptimizer.Rules

open Analyser Text

/-! ## Reading files -/

/-- A file that is to be read: its path, and its text unless it cannot be opened. -/
structure RuleFile where
  path : String
  text : Except String String

structure DirEntry where
  name : String
  isDir : Bool
  text : Except String String

/-- What the path to the rules may lead to. -/
inductive RulePath
  | missing (error : String)
  | file (file : RuleFile)
  | dir (path : String) (entries : Except String (List DirEntry))

/-- The longest line of the scanner's buffer has to leave room for its end. -/
def maxLine : Nat := 4 * 1024 * 1024

/-- The number of bytes of a text in UTF-8. -/
def byteLength : List Char → Nat
  | [] => 0
  | c :: cs => c.utf8Size + byteLength cs

/-- `bufio.ScanLines` leaves out a carriage return at the end of a line. -/
def dropCR (line : List Char) : List Char :=
  if line.getLast? = some '\r' then line.dropLast else line

/-- The rule of a line, if there is one. -/
def loadLine (source : String) (line : List Char) : Option Rule :=
  let line := trimSpace (String.ofList (dropCR line))
  if line = "" then none else (parseLine line source).toOption

def loadFile (file : RuleFile) : Except String (List Rule) :=
  match file.text with
  | .error e => .error ("open rule file " ++ file.path ++ ": " ++ e)
  | .ok text =>
      let lines := splitLines '\n' text.toList
      if lines.any fun line => maxLine ≤ byteLength line then
        .error ("scan rule file " ++ file.path ++ ": bufio.Scanner: token too long")
      else
        .ok (lines.filterMap (loadLine (String.ofList (Path.base file.path.toList))))

def loadFiles (files : List RuleFile) : Except String (List Rule) := do
  let records ← files.mapM loadFile
  return records.flatten

/-- `filepath.Ext` of a name. -/
def ext (name : String) : String :=
  match splitLast '.' name.toList with
  | none => ""
  | some (_, after) => String.ofList ('.' :: after)

def loadDir (path : String) (entries : List DirEntry) : Except String (List Rule) := do
  let entries := entries.insertionSort fun a b => ¬ b.name < a.name
  let files := entries.filter fun entry => !entry.isDir && ext entry.name = ".rules"
  let records ← files.mapM fun entry =>
    loadFiles [{ path := Path.join [path, entry.name], text := entry.text }]
  return records.flatten

def loadPath : RulePath → Except String (List Rule)
  | .missing e => .error ("stat rules path: " ++ e)
  | .file file => loadFiles [file]
  | .dir _ (.error e) => .error ("read rules dir: " ++ e)
  | .dir path (.ok entries) => loadDir path entries

/-! ## The store -/

/-- `InsertBatch`, given what the database says to a batch; a batch it refuses is rolled back. -/
def insertBatch (db : List Rule → Option String) (t : RuleTable) (runID : Int)
    (records : List Rule) : Except String RuleTable :=
  if records = [] then .ok t
  else
    match db records with
    | some e => .error e
    | none => .ok (insertRules t runID records)

/-- `ImportDir`: the number of records read, and the table. -/
def importDir (db : List Rule → Option String) (t : RuleTable) (runID : Int) (path : RulePath) :
    Except String (Nat × RuleTable) := do
  let records ← loadPath path
  let t ← insertBatch db t runID records
  return (records.length, t)

def setEnabledRow (runID : Int) (key : Int × Int) (enabled : Bool) (r : RuleRow) : RuleRow :=
  if r.runID = runID ∧ r.rule.key = key then { r with rule := { r.rule with enabled := enabled } }
  else r

theorem setEnabledRow_conflict {runID : Int} {key : Int × Int} {enabled : Bool} {r s : RuleRow}
    (h : (setEnabledRow runID key enabled r).Conflict (setEnabledRow runID key enabled s)) :
    r.Conflict s := by
  unfold setEnabledRow at h
  split at h <;> split at h <;> exact h

def setEnabled (t : RuleTable) (runID gid sid : Int) (enabled : Bool) : RuleTable :=
  t.update (setEnabledRow runID (gid, sid) enabled) fun _ _ => setEnabledRow_conflict

inductive StoreOp
  | setEnabled (runID gid sid : Int) (enabled : Bool)
  | cloneRulesInDB (fromRunID toRunID : Int) (decisions : List RuleRef)

/-- An operation on the table. A copy that fails is rolled back. -/
def applyOp (t : RuleTable) : StoreOp → RuleTable
  | .setEnabled runID gid sid enabled => setEnabled t runID gid sid enabled
  | .cloneRulesInDB fromRunID toRunID decisions =>
      match cloneRulesInDB t fromRunID toRunID decisions with
      | .error _ => t
      | .ok t' => t'

/-- The runs that stem from some runs: a copy stems from what its source stems from. -/
def stemming (runs : Set Int) : StoreOp → Set Int
  | .setEnabled _ _ _ _ => runs
  | .cloneRulesInDB fromRunID toRunID _ =>
      { id | (id = toRunID ∧ fromRunID ∈ runs) ∨ (id ≠ toRunID ∧ id ∈ runs) }

/-! ## Writing `all.rules` -/

def maxRuleList : Nat := 1000000

/-- `List` of the enabled rules of a run, up to a limit. -/
def listEnabled (t : RuleTable) (runID : Int) (limit : Nat) : List Rule :=
  (listRulesFromDB t runID true).take limit

def allRulesLines (rules : List Rule) : List (List Char) :=
  (rules.map fun r => (trimSpace r.rawText).toList).filter (· ≠ [])

/-- `generateAllRules`: the number it returns, and the text it writes. -/
def generateAllRules (t : RuleTable) (runID : Int) : Nat × List Char :=
  let lines := allRulesLines (listEnabled t runID maxRuleList)
  let content := ['\n'].intercalate lines
  (lines.length, if content = [] then content else content ++ ['\n'])

/-! ## Legible rules -/

/-- A rule whose raw text is a line that reads as the rule, switched on. -/
structure Legible (r : Rule) : Prop where
  ne_nil : r.rawText.toList ≠ []
  trimmed : trimSpace r.rawText = r.rawText
  one_line : '\n' ∉ r.rawText.toList
  fits : byteLength r.rawText.toList < maxLine
  reads (source : String) :
    parseLine r.rawText source = .ok { r with enabled := true, sourceFile := source }

theorem byteLength_le_of_sublist {cs ds : List Char} (h : cs.Sublist ds) :
    byteLength cs ≤ byteLength ds := by
  induction h with
  | slnil => exact Nat.le_refl 0
  | cons c _ ih => exact Nat.le_trans ih (Nat.le_add_left _ _)
  | cons_cons c _ ih => exact Nat.add_le_add_left ih _

theorem dropCR_sublist (line : List Char) : (dropCR line).Sublist line := by
  unfold dropCR
  split
  · exact List.dropLast_sublist line
  · exact List.Sublist.refl line

theorem Legible.setEnabled {r : Rule} (h : Legible r) (enabled : Bool) :
    Legible { r with enabled := enabled } :=
  ⟨h.ne_nil, h.trimmed, h.one_line, h.fits, h.reads⟩

/-- What is read from a line that fits is legible. -/
theorem loadLine_legible {source : String} {line : List Char} {r : Rule} (hline : '\n' ∉ line)
    (hfits : byteLength line < maxLine) (h : loadLine source line = some r) : Legible r := by
  unfold loadLine at h
  dsimp only at h
  split at h
  · cases h
  · obtain ⟨hne, htrim, hsub, hreads⟩ := parseLine_rawText (eq_ok_of_toOption h)
    have hall : r.rawText.toList.Sublist line := by
      have hdrop := trimSpace_sublist (String.ofList (dropCR line))
      rw [String.toList_ofList] at hdrop
      exact (hsub.trans hdrop).trans (dropCR_sublist line)
    refine ⟨?_, htrim, fun hmem => hline (hall.subset hmem), ?_, hreads⟩
    · intro hnil
      exact hne (String.toList_eq_nil_iff.mp hnil)
    · exact Nat.lt_of_le_of_lt (byteLength_le_of_sublist hall) hfits

theorem loadFile_legible {file : RuleFile} {records : List Rule} (h : loadFile file = .ok records) :
    ∀ r ∈ records, Legible r := by
  unfold loadFile at h
  split at h
  · cases h
  · dsimp only at h
    split at h
    · cases h
    · next text _ hshort =>
        cases h
        intro r hr
        obtain ⟨line, hline, hr⟩ := List.mem_filterMap.mp hr
        apply loadLine_legible (notMem_of_mem_splitLines hline) _ hr
        by_contra hlong
        apply hshort
        exact List.any_eq_true.mpr ⟨line, hline, decide_eq_true (Nat.not_lt.mp hlong)⟩

/-- Records collected from several places. -/
theorem legible_of_mapM {α : Type} {load : α → Except String (List Rule)} {xs : List α}
    {records : List (List Rule)}
    (hload : ∀ x ∈ xs, ∀ rs, load x = .ok rs → ∀ r ∈ rs, Legible r)
    (h : xs.mapM load = .ok records) : ∀ r ∈ records.flatten, Legible r := by
  induction xs generalizing records with
  | nil =>
      cases h
      exact fun r hr => absurd hr List.not_mem_nil
  | cons x xs ih =>
      rw [List.mapM_cons] at h
      obtain ⟨rs, hrs, h⟩ := bind_eq_ok.mp h
      obtain ⟨rest, hrest, h⟩ := bind_eq_ok.mp h
      cases h
      rw [List.forall_mem_cons] at hload
      intro r hr
      rw [List.flatten_cons, List.mem_append] at hr
      rcases hr with hr | hr
      · exact hload.1 rs hrs r hr
      · exact ih hload.2 hrest r hr

theorem loadFiles_legible {files : List RuleFile} {records : List Rule}
    (h : loadFiles files = .ok records) : ∀ r ∈ records, Legible r := by
  obtain ⟨lists, hlists, h⟩ := bind_eq_ok.mp h
  cases h
  exact legible_of_mapM (fun file _ _ => loadFile_legible) hlists

theorem loadPath_legible {path : RulePath} {records : List Rule} (h : loadPath path = .ok records) :
    ∀ r ∈ records, Legible r := by
  cases path with
  | missing e => cases h
  | file file => exact loadFiles_legible h
  | dir path entries =>
      cases entries with
      | error e => cases h
      | ok entries =>
          obtain ⟨lists, hlists, h⟩ := bind_eq_ok.mp h
          cases h
          exact legible_of_mapM (fun entry _ _ => loadFiles_legible) hlists

/-! ## The runs of a store -/

/-- The rules of these runs are legible. -/
def LegibleRuns (t : RuleTable) (runs : Set Int) : Prop :=
  ∀ row ∈ t.rows, row.runID ∈ runs → Legible row.rule

theorem mem_insertRules {t : RuleTable} {runID : Int} {records : List Rule} {row : RuleRow}
    (h : row ∈ (insertRules t runID records).rows) : row ∈ t.rows ∨ row.rule ∈ records := by
  induction records generalizing t with
  | nil => exact .inl h
  | cons r records ih =>
      rcases ih h with h | h
      · rcases Table.mem_insertOrIgnore h with h | rfl
        · exact .inl h
        · exact .inr List.mem_cons_self
      · exact .inr (List.mem_cons_of_mem _ h)

/-- An import into an empty run fills it with legible rules. -/
theorem importDir_legible {db : List Rule → Option String} {t t' : RuleTable} {runID : Int}
    {path : RulePath} {n : Nat} (hempty : rowsOf t runID = [])
    (h : importDir db t runID path = .ok (n, t')) : LegibleRuns t' {runID} := by
  have hbefore : ∀ row ∈ t.rows, row.runID ≠ runID := by
    intro row hrow hrun
    have hmem : row ∈ rowsOf t runID := mem_rowsOf.mpr ⟨hrow, hrun⟩
    rw [hempty] at hmem
    cases hmem
  obtain ⟨records, hrecords, h⟩ := bind_eq_ok.mp h
  obtain ⟨u, hu, h⟩ := bind_eq_ok.mp h
  cases h
  unfold insertBatch at hu
  intro row hrow hrun
  split at hu
  · cases hu
    exact absurd hrun (hbefore row hrow)
  · split at hu
    · cases hu
    · cases hu
      rcases mem_insertRules hrow with hold | hnew
      · exact absurd hrun (hbefore row hold)
      · exact loadPath_legible hrecords row.rule hnew

theorem mem_cloneRulesInDB {t t' : RuleTable} {fromRunID toRunID : Int} {decisions : List RuleRef}
    (h : cloneRulesInDB t fromRunID toRunID decisions = .ok t') {row : RuleRow}
    (hrow : row ∈ t'.rows) :
    (row.runID ≠ toRunID ∧ row ∈ t.rows) ∨
      (row.runID = toRunID ∧ ∃ r ∈ t.rows, r.runID = fromRunID ∧
        row = disableRows toRunID decisions { r with runID := toRunID }) := by
  unfold cloneRulesInDB at h
  dsimp only at h
  split at h
  · cases h
  · next u hu =>
      cases h
      rw [foldl_disable_rows, Table.insertAll_rows hu] at hrow
      obtain ⟨r, hr, rfl⟩ := List.mem_map.mp hrow
      rw [disableRows_runID]
      rcases List.mem_append.mp hr with hr | hr
      · obtain ⟨hr, hrun⟩ := List.mem_filter.mp hr
        have hne : r.runID ≠ toRunID := by simpa using hrun
        rw [disableRows_of_ne hne]
        exact .inl ⟨hne, hr⟩
      · obtain ⟨s, hs, rfl⟩ := List.mem_map.mp hr
        obtain ⟨hs, hfrom⟩ := mem_rowsOf.mp hs
        exact .inr ⟨rfl, s, (List.mem_filter.mp hs).1, hfrom, rfl⟩

/-- **One operation** keeps the rules of the runs that stem from legible ones legible. -/
theorem applyOp_legible {t : RuleTable} {runs : Set Int} (h : LegibleRuns t runs) (op : StoreOp) :
    LegibleRuns (applyOp t op) (stemming runs op) := by
  cases op with
  | setEnabled runID gid sid enabled =>
      intro row hrow hrun
      obtain ⟨r, hr, rfl⟩ := List.mem_map.mp hrow
      by_cases hc : r.runID = runID ∧ r.rule.key = (gid, sid)
      · rw [setEnabledRow, if_pos hc] at hrun ⊢
        exact (h r hr hrun).setEnabled enabled
      · rw [setEnabledRow, if_neg hc] at hrun ⊢
        exact h r hr hrun
  | cloneRulesInDB fromRunID toRunID decisions =>
      obtain ⟨t', ht'⟩ := cloneRulesInDB_isOk t fromRunID toRunID decisions
      intro row hrow hrun
      rw [applyOp, ht'] at hrow
      rcases mem_cloneRulesInDB ht' hrow with ⟨hne, hold⟩ | ⟨hto, r, hr, hfrom, rfl⟩
      · rcases hrun with ⟨heq, _⟩ | ⟨_, hmem⟩
        · exact absurd heq hne
        · exact h row hold hmem
      · rcases hrun with ⟨_, hmem⟩ | ⟨hne, _⟩
        · have hlegible := h r hr (hfrom ▸ hmem)
          unfold disableRows
          split
          · exact hlegible.setEnabled false
          · exact hlegible
        · exact absurd hto hne

/-- **Any sequence of operations** does. -/
theorem foldl_applyOp_legible {t : RuleTable} {runs : Set Int} (h : LegibleRuns t runs)
    (ops : List StoreOp) : LegibleRuns (ops.foldl applyOp t) (ops.foldl stemming runs) := by
  induction ops generalizing t runs with
  | nil => exact h
  | cons op ops ih => exact ih (applyOp_legible h op)

/-! ## Reading `all.rules` -/

theorem allRulesLines_of_legible {rules : List Rule} (h : ∀ r ∈ rules, Legible r) :
    allRulesLines rules = rules.map fun r => r.rawText.toList := by
  have htrim : (rules.map fun r => (trimSpace r.rawText).toList) =
      rules.map fun r => r.rawText.toList := by
    apply List.map_congr_left
    intro r hr
    rw [(h r hr).trimmed]
  rw [allRulesLines, htrim, List.filter_eq_self]
  intro line hline
  obtain ⟨r, hr, rfl⟩ := List.mem_map.mp hline
  exact decide_eq_true (h r hr).ne_nil

/-- Lines that are not empty, joined and ended. -/
theorem intercalate_newline {lines : List (List Char)} (h : ∀ line ∈ lines, line ≠ []) :
    (if ['\n'].intercalate lines = [] then ['\n'].intercalate lines
      else ['\n'].intercalate lines ++ ['\n']) = lines.flatMap (· ++ ['\n']) := by
  have hjoin : ∀ line lines, ['\n'].intercalate (line :: lines) ++ ['\n'] =
      (line :: lines).flatMap (· ++ ['\n']) := by
    intro line lines
    induction lines generalizing line with
    | nil => simp [List.intercalate]
    | cons next lines ih =>
        rw [List.flatMap_cons, ← ih next]
        simp [List.intercalate]
  cases lines with
  | nil => rfl
  | cons line lines =>
      rw [← hjoin, if_neg]
      intro hnil
      have hline : line ≠ [] := h line List.mem_cons_self
      cases lines with
      | nil => simp_all [List.intercalate]
      | cons next lines => simp [List.intercalate] at hnil

/-- The line of a legible rule reads as the rule. -/
theorem loadLine_rawText {r : Rule} (h : Legible r) (source : String) :
    loadLine source r.rawText.toList = some { r with enabled := true, sourceFile := source } := by
  -- a trimmed text does not end in a carriage return
  have hcr : dropCR r.rawText.toList = r.rawText.toList := by
    rw [dropCR, if_neg]
    intro hlast
    have hspace := (trimSpace_ends r.rawText).2 '\r'
    rw [h.trimmed] at hspace
    exact absurd (hspace hlast) (by decide)
  have hne : r.rawText ≠ "" := fun hnil => h.ne_nil (by rw [hnil]; rfl)
  unfold loadLine
  dsimp only
  rw [hcr, String.ofList_toList, h.trimmed, if_neg hne, h.reads]
  rfl

/-- The enabled rules of a run. -/
def enabledRules (t : RuleTable) (runID : Int) : List Rule :=
  ((rowsOf t runID).filter (·.rule.enabled)).map RuleRow.rule

theorem listRulesFromDB_perm (t : RuleTable) (runID : Int) :
    (listRulesFromDB t runID true).Perm (enabledRules t runID) := by
  refine (List.perm_insertionSort _ _).trans ?_
  rw [enabledRules, List.filter_map]
  exact List.Perm.refl _

/-- A file of lines that fit. -/
theorem loadFiles_lines {path : String} {lines : List (List Char)}
    (hnl : ∀ line ∈ lines, '\n' ∉ line) (hfits : ∀ line ∈ lines, byteLength line < maxLine) :
    loadFiles [⟨path, .ok (String.ofList (lines.flatMap (· ++ ['\n'])))⟩] =
      .ok (lines.filterMap (loadLine (String.ofList (Path.base path.toList)))) := by
  have hshort : ¬ (lines.any fun line => maxLine ≤ byteLength line) = true := by
    intro hany
    obtain ⟨line, hline, hlong⟩ := List.any_eq_true.mp hany
    exact absurd (of_decide_eq_true hlong) (Nat.not_le.mpr (hfits line hline))
  have hfile : loadFile ⟨path, .ok (String.ofList (lines.flatMap (· ++ ['\n'])))⟩ =
      .ok (lines.filterMap (loadLine (String.ofList (Path.base path.toList)))) := by
    unfold loadFile
    dsimp only
    rw [String.toList_ofList, splitLines_flatMap hnl, if_neg hshort]
  rw [loadFiles, List.mapM_cons, hfile]
  show Except.ok (lines.filterMap _ ++ []) = _
  rw [List.append_nil]

/-- **What is written is read back.** In a run that stems from an import into an empty run, whatever
has been switched on and off and copied since, `all.rules` has a line for each enabled rule, and
reads as these rules in key order. -/
theorem loadFiles_allRules {db : List Rule → Option String} {t t' : RuleTable} {runID : Int}
    {source : RulePath} {n : Nat} (hempty : rowsOf t runID = [])
    (himport : importDir db t runID source = .ok (n, t')) (ops : List StoreOp) {id : Int}
    (hid : id ∈ ops.foldl stemming {runID})
    (hlimit : (enabledRules (ops.foldl applyOp t') id).length ≤ maxRuleList) (path : String) :
    let store := ops.foldl applyOp t'
    let written := generateAllRules store id
    written.1 = (enabledRules store id).length ∧
      (splitLines '\n' written.2).length = written.1 ∧
      ∃ records, loadFiles [⟨path, .ok (String.ofList written.2)⟩] = .ok records ∧
        records.Pairwise (fun r s => keyLe r.key s.key ∧ r.key ≠ s.key) ∧
        (∀ r ∈ records, r.enabled = true) ∧
        records.Perm ((enabledRules store id).map fun r =>
          { r with sourceFile := String.ofList (Path.base path.toList) }) := by
  intro store written
  let rules := listRulesFromDB store id true
  have hperm : rules.Perm (enabledRules store id) := listRulesFromDB_perm store id
  have hlegible : ∀ r ∈ rules, Legible r := by
    intro r hr
    obtain ⟨⟨row, hrow, rfl⟩, _⟩ := mem_listRulesFromDB.mp hr
    obtain ⟨hrow, hrun⟩ := mem_rowsOf.mp hrow
    exact foldl_applyOp_legible (importDir_legible hempty himport) ops row hrow (hrun ▸ hid)
  have henabled : ∀ r ∈ rules, r.enabled = true := fun r hr => (mem_listRulesFromDB.mp hr).2 rfl
  -- the limit cuts nothing off
  have hlisted : listEnabled store id maxRuleList = rules := by
    apply List.take_of_length_le
    rw [hperm.length_eq]
    exact hlimit
  have hlines : allRulesLines (listEnabled store id maxRuleList) =
      rules.map fun r => r.rawText.toList := by
    rw [hlisted, allRulesLines_of_legible hlegible]
  have hraw : ∀ line ∈ rules.map fun r => r.rawText.toList,
      '\n' ∉ line ∧ byteLength line < maxLine ∧ line ≠ [] := by
    intro line hline
    obtain ⟨r, hr, rfl⟩ := List.mem_map.mp hline
    exact ⟨(hlegible r hr).one_line, (hlegible r hr).fits, (hlegible r hr).ne_nil⟩
  have hnl : ∀ line ∈ rules.map fun r => r.rawText.toList, '\n' ∉ line := fun line hline =>
    (hraw line hline).1
  have htext : written.2 = (rules.map fun r => r.rawText.toList).flatMap (· ++ ['\n']) := by
    show (if ['\n'].intercalate (allRulesLines _) = [] then _ else _) = _
    rw [hlines]
    apply intercalate_newline
    exact fun line hline => (hraw line hline).2.2
  have hcount : written.1 = rules.length := by
    show (allRulesLines _).length = _
    rw [hlines, List.length_map]
  have hread : (rules.map fun r => r.rawText.toList).filterMap
      (loadLine (String.ofList (Path.base path.toList))) =
        rules.map fun r => { r with sourceFile := String.ofList (Path.base path.toList) } := by
    rw [List.filterMap_map, ← List.filterMap_eq_map]
    apply List.filterMap_congr
    intro r hr
    rw [Function.comp_apply, loadLine_rawText (hlegible r hr), ← henabled r hr]
    rfl
  refine ⟨hcount.trans hperm.length_eq, ?_, _, ?_, ?_, ?_, hperm.map _⟩
  · rw [htext, splitLines_flatMap hnl, hcount, List.length_map]
  · rw [htext, loadFiles_lines hnl fun line hline => (hraw line hline).2.1, hread]
  · rw [List.pairwise_map]
    exact (listRulesFromDB_sorted store id true).and (listRulesFromDB_pairwise store id true)
  · intro r hr
    obtain ⟨r', hr', rfl⟩ := List.mem_map.mp hr
    exact henabled r' hr'

/-- A file with one rule that is commented out. -/
def pingFile : RulePath := .file ⟨"rules/ping.rules", .ok "#alert icmp (sid:7;)\n"⟩

def pingRule : Rule :=
  { sid := 7, gid := 1, rev := 0, action := "alert", proto := "icmp", srcNet := "", srcPort := ""
    direction := "", dstNet := "", dstPort := "", msg := "", classtype := "", enabled := false
    sourceFile := "ping.rules", rawText := "alert icmp (sid:7;)" }

/-- The rule is switched on in the run it came to, and the run is copied. -/
def pingOps : List StoreOp := [.setEnabled 3 1 7 true, .cloneRulesInDB 3 4 []]

theorem pingFile_allRules :
    importDir (fun _ => none) Table.empty 3 pingFile =
        .ok (1, insertRules Table.empty 3 [pingRule]) ∧
      (generateAllRules (pingOps.foldl applyOp (insertRules Table.empty 3 [pingRule])) 4).1 = 1 ∧
      ∃ records, loadFiles [⟨"work/all.rules", .ok (String.ofList (generateAllRules
          (pingOps.foldl applyOp (insertRules Table.empty 3 [pingRule])) 4).2)⟩] = .ok records ∧
        records.Perm [{ pingRule with enabled := true, sourceFile := "all.rules" }] := by
  have himport : importDir (fun _ => none) Table.empty 3 pingFile =
      .ok (1, insertRules Table.empty 3 [pingRule]) := rfl
  have henabled : enabledRules (pingOps.foldl applyOp (insertRules Table.empty 3 [pingRule])) 4 =
      [{ pingRule with enabled := true }] := by
    decide +kernel
  have hid : (4 : Int) ∈ pingOps.foldl stemming {3} := .inl ⟨rfl, rfl⟩
  obtain ⟨hcount, _, records, hrecords, _, _, hperm⟩ := loadFiles_allRules rfl himport pingOps hid
    (by rw [henabled]; decide) "work/all.rules"
  rw [henabled] at hcount hperm
  exact ⟨himport, hcount, records, hrecords, hperm⟩

end SnortOptimizer.Rules
