import SnortOptimizer.Rules.Store

/-!
# Which rule an import keeps (`sql/rules/store.go`)

`ImportDir` hands all the rules of a path to `INSERT OR IGNORE`, so that a rule can be dropped
without a word by the primary key `(run_id, gid, sid)` or by the unique index on
`(run_id, source_file, raw_text)`. The text of a rule determines its numbers, commented out or not,
and so the index never drops what the key would let through (`conflict_iff`). What is left is the
first rule of each key, in the order in which the files are read: by name and line.
-/

namespace SnortOptimizer.Rules

open Analyser Text

/-! ## Places

The files are taken here in no particular order; the order is that of the places. -/

/-- The rule files of a path, each with the name it is sorted by. -/
def RulePath.files : RulePath → List (String × RuleFile)
  | .missing _ => []
  | .file f => [(String.ofList (Path.base f.path.toList), f)]
  | .dir _ (.error _) => []
  | .dir path (.ok entries) =>
      (entries.filter fun entry => !entry.isDir && ext entry.name = ".rules").map fun entry =>
        (entry.name, { path := Path.join [path, entry.name], text := entry.text })

/-- The names in a directory are different from one another. -/
def RulePath.NamesApart : RulePath → Prop
  | .dir _ (.ok entries) => (entries.map DirEntry.name).Nodup
  | _ => True

/-- Line `line` of the file is a rule. -/
def RuleFile.ReadAt (file : RuleFile) (line : Nat) (r : Rule) : Prop :=
  ∃ text chars, file.text = .ok text ∧ (splitLines '\n' text.toList)[line]? = some chars ∧
    loadLine (String.ofList (Path.base file.path.toList)) chars = some r

/-- A file name and a line of that file at which there is a rule. -/
def RulePath.ReadAt (path : RulePath) (place : String × Nat) (r : Rule) : Prop :=
  ∃ file, (place.1, file) ∈ path.files ∧ file.ReadAt place.2 r

/-- `(file name, line)` order. -/
def Before (a b : String × Nat) : Prop := a.1 < b.1 ∨ (a.1 = b.1 ∧ a.2 < b.2)

theorem Before.asymm {a b : String × Nat} (h : Before a b) : ¬ Before b a := by
  rintro (h' | ⟨heq, h'⟩)
  · rcases h with h | ⟨heq, _⟩
    · exact String.lt_asymm h h'
    · exact String.lt_irrefl _ (heq ▸ h')
  · rcases h with h | ⟨_, h⟩
    · exact String.lt_irrefl _ (heq ▸ h)
    · exact Nat.lt_asymm h h'

/-- The rule is the first one of its key. -/
def RulePath.FirstOfKey (path : RulePath) (r : Rule) : Prop :=
  ∃ place, path.ReadAt place r ∧
    ∀ place' r', path.ReadAt place' r' → r'.key = r.key → ¬ Before place' place

/-! ## The records by place -/

def placedLines (name source : String) (lines : List (List Char)) :
    List ((String × Nat) × Rule) :=
  lines.zipIdx.filterMap fun (line, i) => (loadLine source line).map fun r => ((name, i), r)

def placedFile (name : String) (file : RuleFile) : List ((String × Nat) × Rule) :=
  match file.text with
  | .error _ => []
  | .ok text =>
      placedLines name (String.ofList (Path.base file.path.toList)) (splitLines '\n' text.toList)

def placedFiles (files : List (String × RuleFile)) : List ((String × Nat) × Rule) :=
  files.flatMap fun (name, file) => placedFile name file

theorem mem_placedFile {name : String} {file : RuleFile} {place : String × Nat} {r : Rule} :
    (place, r) ∈ placedFile name file ↔ place.1 = name ∧ file.ReadAt place.2 r := by
  unfold placedFile RuleFile.ReadAt
  split
  · next e he => simp [he]
  · next text htext =>
      simp only [placedLines, List.mem_filterMap, Prod.exists, List.mem_zipIdx_iff_getElem?,
        Option.map_eq_some_iff, htext, Except.ok.injEq]
      constructor
      · rintro ⟨chars, i, hchars, r', hr, heq⟩
        cases heq
        exact ⟨rfl, text, chars, rfl, hchars, hr⟩
      · rintro ⟨rfl, _, chars, rfl, hchars, hr⟩
        exact ⟨chars, place.2, hchars, r, hr, rfl⟩

theorem mem_placedFiles {files : List (String × RuleFile)} {place : String × Nat} {r : Rule} :
    (place, r) ∈ placedFiles files ↔ ∃ file, (place.1, file) ∈ files ∧ file.ReadAt place.2 r := by
  simp only [placedFiles, List.mem_flatMap, Prod.exists, mem_placedFile]
  constructor
  · rintro ⟨_, file, hfile, rfl, hread⟩
    exact ⟨file, hfile, hread⟩
  · rintro ⟨file, hfile, hread⟩
    exact ⟨place.1, file, hfile, rfl, hread⟩

/-- Within a file the places are in order. -/
theorem placedFile_pairwise (name : String) (file : RuleFile) :
    (placedFile name file).Pairwise fun a b => Before a.1 b.1 := by
  unfold placedFile
  split
  · exact .nil
  · rw [placedLines, List.pairwise_filterMap]
    have hidx (lines : List (List Char)) :
        lines.zipIdx.Pairwise fun (a b : List Char × Nat) => a.2 < b.2 := by
      rw [← List.pairwise_map (f := Prod.snd) (R := (· < ·)), List.zipIdx_map_snd]
      exact List.pairwise_lt_range'
    refine (hidx _).imp ?_
    rintro ⟨line, i⟩ ⟨line', j⟩ hij a ha b hb
    obtain ⟨r, _, rfl⟩ := Option.map_eq_some_iff.mp ha
    obtain ⟨s, _, rfl⟩ := Option.map_eq_some_iff.mp hb
    exact .inr ⟨rfl, hij⟩

theorem placedFiles_pairwise {files : List (String × RuleFile)}
    (h : files.Pairwise fun a b => a.1 < b.1) :
    (placedFiles files).Pairwise fun a b => Before a.1 b.1 := by
  induction files with
  | nil => exact .nil
  | cons file files ih =>
      rw [placedFiles, List.flatMap_cons, List.pairwise_append]
      refine ⟨placedFile_pairwise _ _, ih h.of_cons, ?_⟩
      rintro ⟨a, r⟩ ha ⟨b, s⟩ hb
      obtain ⟨hname, _⟩ := mem_placedFile.mp ha
      obtain ⟨other, hother, _⟩ := mem_placedFiles.mp hb
      have hlt := List.rel_of_pairwise_cons h hother
      exact .inl (hname ▸ hlt)

theorem loadFile_eq_placed (name : String) {file : RuleFile} {records : List Rule}
    (h : loadFile file = .ok records) : (placedFile name file).map Prod.snd = records := by
  cases htext : file.text with
  | error e =>
      simp only [loadFile, htext] at h
      cases h
  | ok text =>
      simp only [loadFile, htext] at h
      split at h
      · cases h
      · cases h
        simp only [placedFile, htext]
        simp only [placedLines, List.map_filterMap, Option.map_map, Function.comp_def,
          Option.map_id']
        nth_rewrite 2 [← List.zipIdx_map_fst 0 (splitLines '\n' text.toList)]
        rw [List.filterMap_map, Function.comp_def]

/-! ## Reading a path by place -/

theorem loadFiles_singleton {file : RuleFile} {records : List Rule}
    (h : loadFiles [file] = .ok records) : loadFile file = .ok records := by
  obtain ⟨lists, hlists, h⟩ := bind_eq_ok.mp h
  rw [List.mapM_cons] at hlists
  obtain ⟨rs, hrs, hlists⟩ := bind_eq_ok.mp hlists
  cases hlists
  cases h
  rw [hrs]
  exact congrArg Except.ok (List.append_nil rs).symm

/-- Files that are read one by one. -/
theorem mapM_loadFiles_eq_placed {α : Type} (named : α → String × RuleFile) {xs : List α}
    {lists : List (List Rule)} (h : xs.mapM (fun x => loadFiles [(named x).2]) = .ok lists) :
    (placedFiles (xs.map named)).map Prod.snd = lists.flatten := by
  induction xs generalizing lists with
  | nil =>
      cases h
      rfl
  | cons x xs ih =>
      rw [List.mapM_cons] at h
      obtain ⟨rs, hrs, h⟩ := bind_eq_ok.mp h
      obtain ⟨rest, hrest, h⟩ := bind_eq_ok.mp h
      cases h
      have hx : (placedFile (named x).1 (named x).2).map Prod.snd = rs :=
        loadFile_eq_placed _ (loadFiles_singleton hrs)
      rw [List.map_cons, placedFiles, List.flatMap_cons, List.map_append, List.flatten_cons, hx]
      exact congrArg (rs ++ ·) (ih hrest)

theorem sorted_names_lt {entries : List DirEntry} (h : (entries.map DirEntry.name).Nodup) :
    (entries.insertionSort fun a b => ¬ b.name < a.name).Pairwise fun a b => a.name < b.name := by
  have htotal : Std.Total fun a b : DirEntry => ¬ b.name < a.name :=
    ⟨fun a b => String.le_total a.name b.name⟩
  have htrans : IsTrans DirEntry fun a b => ¬ b.name < a.name :=
    ⟨fun _ _ _ => String.le_trans⟩
  have hsorted := List.pairwise_insertionSort (fun a b : DirEntry => ¬ b.name < a.name) entries
  have hnodup : (entries.insertionSort fun a b => ¬ b.name < a.name).Pairwise
      fun a b => a.name ≠ b.name := by
    rw [← List.pairwise_map (f := DirEntry.name) (R := (· ≠ ·))]
    exact ((List.perm_insertionSort _ entries).map DirEntry.name).nodup_iff.mpr h
  refine (hsorted.and hnodup).imp ?_
  rintro a b ⟨hle, hne⟩
  by_contra hnot
  exact hne (String.le_antisymm hle hnot)

/-- **The records of a path** are the rules at its places, in the order of the places. -/
theorem loadPath_eq_placed {path : RulePath} {records : List Rule} (hnames : path.NamesApart)
    (h : loadPath path = .ok records) :
    ∃ placed : List ((String × Nat) × Rule), placed.map Prod.snd = records ∧
      (placed.Pairwise fun a b => Before a.1 b.1) ∧
      ∀ place r, (place, r) ∈ placed ↔ path.ReadAt place r := by
  cases path with
  | missing e => cases h
  | file f =>
      refine ⟨placedFiles (RulePath.file f).files, ?_, ?_, fun place r => mem_placedFiles⟩
      · have hf := loadFile_eq_placed (String.ofList (Path.base f.path.toList))
          (loadFiles_singleton h)
        simpa [placedFiles, RulePath.files] using hf
      · exact placedFiles_pairwise (List.pairwise_singleton _ _)
  | dir path entries =>
      cases entries with
      | error e => cases h
      | ok entries =>
          obtain ⟨lists, hlists, h⟩ := bind_eq_ok.mp h
          cases h
          let named : DirEntry → String × RuleFile := fun entry =>
            (entry.name, { path := Path.join [path, entry.name], text := entry.text })
          let isRules : DirEntry → Bool := fun entry =>
            !entry.isDir && ext entry.name = ".rules"
          let sorted := entries.insertionSort fun a b => ¬ b.name < a.name
          refine ⟨placedFiles ((sorted.filter isRules).map named),
            mapM_loadFiles_eq_placed named hlists, ?_, ?_⟩
          · apply placedFiles_pairwise
            rw [List.pairwise_map]
            exact (sorted_names_lt hnames).filter _
          · intro place r
            rw [mem_placedFiles]
            simp only [RulePath.ReadAt, RulePath.files, List.mem_map, List.mem_filter, sorted,
              List.mem_insertionSort, named, isRules]

/-! ## What an import keeps -/

/-- The first record in a list that is in the order of the places. -/
theorem find?_placed {placed : List ((String × Nat) × Rule)}
    (h : placed.Pairwise fun a b => Before a.1 b.1) (p : Rule → Bool) {r : Rule} :
    (placed.map Prod.snd).find? p = some r ↔
      ∃ place, (place, r) ∈ placed ∧ p r = true ∧
        ∀ place' r', (place', r') ∈ placed → p r' = true → ¬ Before place' place := by
  rw [List.find?_map, Option.map_eq_some_iff]
  constructor
  · rintro ⟨⟨place, r⟩, hfind, rfl⟩
    obtain ⟨hp, pre, post, rfl, hpre⟩ := List.find?_eq_some_iff_append.mp hfind
    refine ⟨place, List.mem_append_right _ List.mem_cons_self, hp, ?_⟩
    intro place' r' hmem hp' hbefore
    rcases List.mem_append.mp hmem with hmem | hmem
    · have hno := hpre _ hmem
      simp [hp'] at hno
    · rcases List.mem_cons.mp hmem with heq | hmem
      · cases heq
        exact hbefore.asymm hbefore
      · have hafter : Before place place' :=
          List.rel_of_pairwise_cons (List.pairwise_append.mp h).2.1 hmem
        exact hafter.asymm hbefore
  · rintro ⟨place, hmem, hp, hfirst⟩
    obtain ⟨⟨place', r'⟩, hfind⟩ : ∃ x, placed.find? (p ∘ Prod.snd) = some x := by
      rw [← Option.isSome_iff_exists, List.find?_isSome]
      exact ⟨(place, r), hmem, hp⟩
    obtain ⟨hp', pre, post, rfl, hpre⟩ := List.find?_eq_some_iff_append.mp hfind
    refine ⟨(place', r'), hfind, ?_⟩
    rcases List.mem_append.mp hmem with hmem | hmem
    · have hno := hpre _ hmem
      simp [hp] at hno
    · rcases List.mem_cons.mp hmem with heq | hmem
      · cases heq
        rfl
      · exfalso
        apply hfirst place' r' (List.mem_append_right _ List.mem_cons_self) hp'
        exact List.rel_of_pairwise_cons (List.pairwise_append.mp h).2.1 hmem

/-- The text of a rule determines its key. -/
theorem Legible.key_eq {r s : Rule} (hr : Legible r) (hs : Legible s)
    (h : r.rawText = s.rawText) : r.key = s.key := by
  have heq := (hr.reads "").symm.trans (h ▸ hs.reads "")
  have hrule := Except.ok.inj heq
  rw [Rule.mk.injEq] at hrule
  exact Prod.ext hrule.2.1 hrule.1

/-- **The unique index adds nothing to the primary key.** -/
theorem conflict_iff (runID : Int) {r s : Rule} (hr : Legible r) (hs : Legible s) :
    RuleRow.Conflict ⟨runID, r⟩ ⟨runID, s⟩ ↔ r.key = s.key := by
  constructor
  · rintro ⟨_, ⟨hgid, hsid⟩ | ⟨_, hraw⟩⟩
    · exact Prod.ext hgid hsid
    · exact hr.key_eq hs hraw
  · intro hkey
    exact ⟨rfl, .inl ⟨congrArg Prod.fst hkey, congrArg Prod.snd hkey⟩⟩

theorem insertRules_eq_foldl (t : RuleTable) (runID : Int) (records : List Rule) :
    insertRules t runID records =
      (records.map (RuleRow.mk runID)).foldl Table.insertOrIgnore t := by
  rw [List.foldl_map]
  rfl

/-- The rows of an import into an empty run. -/
theorem mem_insertRules_iff {t : RuleTable} {runID : Int} {records : List Rule}
    (hempty : rowsOf t runID = []) (hlegible : ∀ r ∈ records, Legible r) {r : Rule} :
    ⟨runID, r⟩ ∈ (insertRules t runID records).rows ↔
      records.find? (fun q => q.key = r.key) = some r := by
  have hnot : ∀ row ∈ t.rows, row.runID ≠ runID := by
    intro row hrow hrun
    have hmem : row ∈ rowsOf t runID := mem_rowsOf.mpr ⟨hrow, hrun⟩
    rw [hempty] at hmem
    cases hmem
  have hkey : ∀ a ∈ records.map (RuleRow.mk runID), ∀ b ∈ records.map (RuleRow.mk runID),
      RuleRow.Conflict a b ↔ a.rule.key = b.rule.key := by
    intro a ha b hb
    obtain ⟨q, hq, rfl⟩ := List.mem_map.mp ha
    obtain ⟨s, hs, rfl⟩ := List.mem_map.mp hb
    exact conflict_iff runID (hlegible q hq) (hlegible s hs)
  have hfree : ∀ row ∈ t.rows, ∀ b ∈ records.map (RuleRow.mk runID), ¬ RuleRow.Conflict row b := by
    intro row hrow b hb hconflict
    obtain ⟨s, _, rfl⟩ := List.mem_map.mp hb
    exact hnot row hrow hconflict.1
  rw [insertRules_eq_foldl, Table.mem_foldl_insertOrIgnore (fun row => row.rule.key) hkey hfree,
    or_iff_right fun hold => hnot _ hold rfl, List.find?_map, Option.map_eq_some_iff]
  simp only [RuleRow.mk.injEq, true_and, exists_eq_right]
  rfl

theorem mem_rowsOf_insertRules {t : RuleTable} {runID : Int} {records : List Rule}
    (hempty : rowsOf t runID = []) (hlegible : ∀ r ∈ records, Legible r) {row : RuleRow} :
    row ∈ rowsOf (insertRules t runID records) runID ↔
      row.runID = runID ∧ records.find? (fun q => q.key = row.rule.key) = some row.rule := by
  rw [mem_rowsOf, and_comm]
  refine and_congr_right fun hrun => ?_
  obtain ⟨id, r⟩ := row
  cases hrun
  exact mem_insertRules_iff hempty hlegible

theorem importDir_eq_insertRules {db : List Rule → Option String} {t : RuleTable} {runID : Int}
    {path : RulePath} {records : List Rule} (hload : loadPath path = .ok records)
    (hdb : db records = none) :
    importDir db t runID path = .ok (records.length, insertRules t runID records) := by
  have hinsert : insertBatch db t runID records = .ok (insertRules t runID records) := by
    unfold insertBatch
    split
    · next hnil => rw [hnil]; rfl
    · rw [hdb]
  rw [importDir, hload]
  simp only [bind, Except.bind, hinsert]
  rfl

/-- What is found for a key is the record at the first place. -/
theorem find?_key_iff_firstOfKey {path : RulePath} {records : List Rule}
    (hnames : path.NamesApart) (hload : loadPath path = .ok records) {r : Rule} :
    records.find? (fun q => q.key = r.key) = some r ↔ path.FirstOfKey r := by
  obtain ⟨placed, rfl, hsorted, hread⟩ := loadPath_eq_placed hnames hload
  rw [find?_placed hsorted]
  simp only [hread, decide_true, true_and, decide_eq_true_eq]
  rfl

/-- **An import keeps the first rule of each key.** Where the files can be read and the database
takes the batch, an import into an empty run ends with one row for each key among the records, and
it is the record at the first place; the unique index never drops a record whose key is new. -/
theorem importDir_first_of_key {db : List Rule → Option String} {t : RuleTable} {runID : Int}
    {path : RulePath} {records : List Rule} (hnames : path.NamesApart)
    (hempty : rowsOf t runID = []) (hload : loadPath path = .ok records)
    (hdb : db records = none) :
    ∃ t', importDir db t runID path = .ok (records.length, t') ∧
      (∀ r, r ∈ records ↔ ∃ place, path.ReadAt place r) ∧
      (∀ key, (∃ r ∈ records, r.key = key) →
        ∃! row, row ∈ rowsOf t' runID ∧ row.rule.key = key) ∧
      (∀ row, row ∈ rowsOf t' runID ↔ row.runID = runID ∧ path.FirstOfKey row.rule) ∧
      ∀ before r after, records = before ++ r :: after → (∀ q ∈ before, q.key ≠ r.key) →
        ∀ row ∈ (insertRules t runID before).rows, ¬ row.Conflict ⟨runID, r⟩ := by
  have hlegible := loadPath_legible hload
  have hrows (row : RuleRow) : row ∈ rowsOf (insertRules t runID records) runID ↔
      row.runID = runID ∧ records.find? (fun q => q.key = row.rule.key) = some row.rule :=
    mem_rowsOf_insertRules hempty hlegible
  refine ⟨insertRules t runID records, importDir_eq_insertRules hload hdb, ?_, ?_, ?_, ?_⟩
  · intro r
    obtain ⟨placed, rfl, _, hread⟩ := loadPath_eq_placed hnames hload
    simp only [List.mem_map, Prod.exists, exists_eq_right, hread]
  · rintro key ⟨r, hr, rfl⟩
    obtain ⟨first, hfirst⟩ : ∃ first, records.find? (fun q => q.key = r.key) = some first := by
      rw [← Option.isSome_iff_exists, List.find?_isSome]
      exact ⟨r, hr, decide_eq_true rfl⟩
    have hkey : first.key = r.key := by simpa using List.find?_some hfirst
    refine ⟨⟨runID, first⟩, ⟨(hrows _).mpr ⟨rfl, ?_⟩, hkey⟩, ?_⟩
    · rw [hkey]
      exact hfirst
    · rintro ⟨id, other⟩ ⟨hmem, hother⟩
      obtain ⟨hrun, hfind⟩ := (hrows _).mp hmem
      rw [hother, hfirst] at hfind
      cases hrun
      cases hfind
      rfl
  · intro row
    rw [hrows, find?_key_iff_firstOfKey hnames hload]
  · intro before r after hsplit hnew row hrow hconflict
    have hlegible' : ∀ q ∈ before, Legible q := fun q hq =>
      hlegible q (hsplit ▸ List.mem_append_left _ hq)
    have hmem := (mem_rowsOf_insertRules hempty hlegible').mp (mem_rowsOf.mpr ⟨hrow, hconflict.1⟩)
    have hold : row.rule ∈ before := List.mem_of_find?_eq_some hmem.2
    have hr : Legible r := hlegible r (hsplit ▸ List.mem_append_right _ List.mem_cons_self)
    refine hnew _ hold ((conflict_iff runID (hlegible' _ hold) hr).mp ?_)
    exact ⟨rfl, hconflict.2⟩

/-- One rule twice in a file, commented out first, and once more in another file. -/
def pingDir : RulePath :=
  .dir "rules" (.ok
    [⟨"b.rules", false, .ok "alert icmp (sid:7; rev:2;)\n"⟩,
      ⟨"a.rules", false, .ok "#alert icmp (sid:7;)\nalert icmp (sid:7;)\n"⟩])

def pingOff : Rule :=
  { sid := 7, gid := 1, rev := 0, action := "alert", proto := "icmp", srcNet := "", srcPort := ""
    direction := "", dstNet := "", dstPort := "", msg := "", classtype := "", enabled := false
    sourceFile := "a.rules", rawText := "alert icmp (sid:7;)" }

def pingRecords : List Rule :=
  [pingOff, { pingOff with enabled := true },
    { pingOff with
      rev := 2, enabled := true, sourceFile := "b.rules", rawText := "alert icmp (sid:7; rev:2;)" }]

theorem pingDir_first_of_key :
    importDir (fun _ => none) Table.empty 3 pingDir =
        .ok (3, insertRules Table.empty 3 pingRecords) ∧
      rowsOf (insertRules Table.empty 3 pingRecords) 3 = [⟨3, pingOff⟩] ∧
      pingDir.FirstOfKey pingOff := by
  have hload : loadPath pingDir = .ok pingRecords := by decide +kernel
  have hnames : pingDir.NamesApart := by
    show ["b.rules", "a.rules"].Nodup
    decide
  have himport : importDir (fun _ => none) Table.empty 3 pingDir =
      .ok (3, insertRules Table.empty 3 pingRecords) := by
    rw [importDir, hload]
    rfl
  have hone : rowsOf (insertRules Table.empty 3 pingRecords) 3 = [⟨3, pingOff⟩] := by
    decide +kernel
  obtain ⟨t', himport', _, _, hrows, _⟩ := @importDir_first_of_key (fun _ => none) Table.empty 3
    pingDir pingRecords hnames rfl hload rfl
  cases himport.symm.trans himport'
  refine ⟨himport, hone, ((hrows ⟨3, pingOff⟩).mp ?_).2⟩
  rw [hone]
  exact List.mem_cons_self

end SnortOptimizer.Rules
