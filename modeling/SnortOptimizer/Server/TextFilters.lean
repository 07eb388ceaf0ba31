import SnortOptimizer.Server.AnalysisResult
import SnortOptimizer.Sql.Listing

/-!
# Text filters (`sql/rules/store.go`, `sql/alerts/store.go`, `server/api/queries.go`)

The filters on texts are meant as "contains": `List` puts the text of a query between two `%` and
compares with `LIKE`, and the rule search of the server does the same for three columns. The text
goes into the pattern as it is, so the filters mean what they say exactly for texts without `%` and
`_` (`filters_contain_iff`).
-/

namespace SnortOptimizer.Server

open Analyser Sql

/-! ## The rule search of the server -/

structure RuleQuery where
  runID : Int
  limit : Int
  offset : Int
  gid : Int
  sid : Int
  search : String
  classtype : String
  enabled : Option Bool

structure RuleItem where
  runID : Int
  gid : Int
  sid : Int
  rev : Int
  action : String
  proto : String
  msg : String
  classtype : String
  enabled : Bool
  sourceFile : String

structure RuleListResponse where
  items : List RuleItem
  total : Nat
  limit : Int
  offset : Int

/-- `rows.Scan` of one column: there is no place for a column without a value. -/
def scanned {α : Type} (index : Nat) (name type : String) (value : Option α) : Except String α :=
  match value with
  | none => .error ("sql: Scan error on column index " ++ toString index ++ ", name \"" ++ name ++
      "\": converting NULL to " ++ type ++ " is unsupported")
  | some value => .ok value

def scanItem (r : RulesRow) : Except String RuleItem := do
  let rev ← scanned 3 "rev" "int64" r.rev
  let action ← scanned 4 "action" "string" r.action
  let proto ← scanned 5 "proto" "string" r.proto
  let msg ← scanned 6 "msg" "string" r.msg
  let classtype ← scanned 7 "classtype" "string" r.classtype
  let sourceFile ← scanned 9 "source_file" "string" r.sourceFile
  return {
    runID := r.runID, gid := r.gid, sid := r.sid, rev := rev, action := action, proto := proto
    msg := msg, classtype := classtype, enabled := decide (r.enabled ≠ 0)
    sourceFile := sourceFile }

/-- The conditions of `ruleWhere` other than the search; values are bound to the statement. -/
def ruleConditions (q : RuleQuery) (r : RulesRow) : Bool :=
  decide (r.runID = q.runID) && numberFilter q.gid (fun r => some r.gid) r &&
    numberFilter q.sid (fun r => some r.sid) r &&
    (decide (q.classtype = "") || r.classtype = some q.classtype) &&
    enabledFilter q.enabled RulesRow.enabled r

/-- `(msg LIKE ? OR source_file LIKE ? OR raw_text LIKE ?)`, for a search that is set. -/
def ruleSearch (search : String) (r : RulesRow) : Bool :=
  decide (search = "") ||
    let pattern := ("%" ++ search ++ "%").toList
    isLike pattern r.msg || isLike pattern r.sourceFile || isLike pattern (some r.rawText)

/-- `ORDER BY gid, sid LIMIT ? OFFSET ?`, read, with the number of all rows. -/
def rulePage (q : RuleQuery) (rows : List RulesRow) : Except String RuleListResponse := do
  let sorted := rows.insertionSort fun a b => keyLe (a.gid, a.sid) (b.gid, b.sid)
  let items ← (sqlLimit q.limit (sorted.drop q.offset.toNat)).mapM scanItem
  return { items := items, total := rows.length, limit := q.limit, offset := q.offset }

/-- `queryRules` on a database with a `rules` table. -/
def queryRules (q : RuleQuery) (t : RulesTable) : Except String RuleListResponse :=
  rulePage q (t.rows.filter fun r => ruleConditions q r && ruleSearch q.search r)

/-! ## What the filters are to mean -/

/-- A column without a value reads as the empty text. -/
def Contains (column : Option String) (part : String) : Prop :=
  ContainsText (asString column).toList part.toList

instance decidableContains (column : Option String) (part : String) :
    Decidable (Contains column part) :=
  inferInstanceAs (Decidable (ContainsText _ _))

/-- **The filters mean "contains".** -/
structure FiltersContain (part : String) : Prop where
  rules : ∀ (cfg : Sql.Config) (q : RulesQuery) (t : RulesTable) (others : RulesRow → Bool),
    q.msg = part → rulesConditions cfg q = .ok others →
      listRules cfg q t =
        .ok (rulesPage q.limit (t.rows.filter fun r => others r && Contains r.msg part))
  alerts : ∀ (cfg : Sql.Config) (q : AlertsQuery) (rows : List AlertsRow)
    (others : AlertsRow → Bool),
    (q.srcAP = "" ∨ q.srcAP = part) → (q.dstAP = "" ∨ q.dstAP = part) →
    alertsConditions cfg q = .ok others →
      listAlerts cfg q rows =
        .ok (alertsPage q.limit (rows.filter fun r =>
          others r && Contains r.srcAP q.srcAP && Contains r.dstAP q.dstAP))
  search : ∀ (q : RuleQuery) (t : RulesTable), q.search = part →
    queryRules q t =
      rulePage q (t.rows.filter fun r => ruleConditions q r &&
        (Contains r.msg part ∨ Contains r.sourceFile part ∨ Contains (some r.rawText) part))

/-! ## Texts without wildcards -/

section Plain

variable {part : String} (hplain : ∀ c ∈ part.toList, isWildcard c = false)

theorem wrapped_toList (part : String) :
    ("%" ++ part ++ "%").toList = '%' :: (part.toList ++ ['%']) := by
  rw [String.toList_append, String.toList_append]
  rfl

theorem contains_empty (column : Option String) : Contains column "" := by
  show ([] : List Char).map foldCase <:+: _
  exact List.nil_infix

include hplain

/-- A column without a value is like nothing, and contains nothing but the empty text. -/
theorem isLike_eq_contains (hne : part ≠ "") (column : Option String) :
    isLike ("%" ++ part ++ "%").toList column = decide (Contains column part) := by
  rw [wrapped_toList]
  cases column with
  | none =>
      have hno : ¬ Contains none part := by
        intro h
        have hnil := List.map_eq_nil_iff.mp (List.infix_nil.mp h)
        exact hne (String.toList_eq_nil_iff.mp hnil)
      rw [decide_eq_false hno]
      rfl
  | some text =>
      rw [Bool.eq_iff_iff, decide_eq_true_iff]
      exact like_wrapped hplain text.toList

theorem likeFilter_eq_contains (hnul : '\x00' ∉ part.toList) {ρ : Type}
    (column : ρ → Option String) :
    likeFilter part column = .ok fun r => decide (Contains (column r) part) := by
  rw [likeFilter]
  by_cases hne : part = ""
  · subst hne
    simp [contains_empty]
  · have hliteral : literal (likeText part) = .ok ("%" ++ part ++ "%").toList := by
      apply literal_quote
      simp [hnul]
    rw [if_neg hne, hliteral]
    show Except.ok (fun r => isLike ("%" ++ part ++ "%").toList (column r)) = _
    simp only [isLike_eq_contains hplain hne]

theorem ruleSearch_eq_contains (r : RulesRow) :
    ruleSearch part r = decide
      (Contains r.msg part ∨ Contains r.sourceFile part ∨ Contains (some r.rawText) part) := by
  rw [ruleSearch]
  by_cases hne : part = ""
  · subst hne
    simp [contains_empty]
  · simp only [isLike_eq_contains hplain hne, hne, decide_false, Bool.false_or, Bool.decide_or,
      Bool.or_assoc]

theorem filtersContain_of_plain (hnul : '\x00' ∉ part.toList) : FiltersContain part where
  rules cfg q t others hmsg hothers := by
    rw [listRules, hothers, hmsg, likeFilter_eq_contains hplain hnul]
    rfl
  alerts cfg q rows others hsrc hdst hothers := by
    have hfilter : ∀ text, text = "" ∨ text = part → ∀ column : AlertsRow → Option String,
        likeFilter text column = .ok fun r => decide (Contains (column r) text) := by
      rintro _ (rfl | rfl) column
      · exact likeFilter_eq_contains (by simp) (by simp) column
      · exact likeFilter_eq_contains hplain hnul column
    rw [listAlerts, hothers, hfilter _ hsrc, hfilter _ hdst]
    rfl
  search q t hsearch := by
    rw [queryRules, hsearch]
    simp only [ruleSearch_eq_contains hplain]

end Plain

/-! ## Texts with wildcards -/

def msgRow (msg : String) : RulesRow :=
  { runID := 0, sid := 1, gid := 1, rev := some 1, action := some "alert", proto := some "tcp"
    srcNet := some "any", srcPort := some "any", direction := some "->", dstNet := some "any"
    dstPort := some "any", msg := some msg, classtype := some "", enabled := 1
    sourceFile := some "local.rules", rawText := "", createdAt := "" }

/-- A table with one rule. -/
def msgTable (msg : String) : RulesTable :=
  { indexed := true, table := ⟨[msgRow msg], List.pairwise_singleton _ _⟩ }

def msgQuery (msg : String) : RulesQuery :=
  { runID := 0, sid := 0, gid := 0, msg := msg, classtype := "", enabled := none, limit := 0 }

theorem listRules_msgTable {part text : String} (hnul : '\x00' ∉ part.toList) (hne : part ≠ "")
    (hlike : like ("%" ++ part ++ "%").toList text.toList = true) :
    listRules ⟨0, ""⟩ (msgQuery part) (msgTable text) = .ok [rowToRule (msgRow text)] := by
  have hliteral : literal (likeText part) = .ok ("%" ++ part ++ "%").toList := by
    apply literal_quote
    simp [hnul]
  have hfilter : likeFilter part (fun r : RulesRow => r.msg) =
      .ok fun r => isLike ("%" ++ part ++ "%").toList r.msg := by
    rw [likeFilter, if_neg hne, hliteral]
    rfl
  have hrow : isLike ("%" ++ part ++ "%").toList (msgRow text).msg = true := hlike
  show (likeFilter part _ >>= _) = _
  rw [hfilter]
  show Except.ok (rulesPage 0 ([msgRow text].filter _)) = _
  rw [List.filter_cons_of_pos]
  · rfl
  · exact Bool.and_eq_true_iff.mpr ⟨rfl, hrow⟩

/-- One rule that is listed and does not contain the text is enough. -/
theorem not_filtersContain {part text : String} (hnul : '\x00' ∉ part.toList) (hne : part ≠ "")
    (hlike : like ("%" ++ part ++ "%").toList text.toList = true)
    (hno : ¬ Contains (msgRow text).msg part) : ¬ FiltersContain part := by
  intro h
  obtain ⟨others, hothers⟩ : ∃ others, rulesConditions ⟨0, ""⟩ (msgQuery part) = .ok others :=
    ⟨_, rfl⟩
  have hmeant := h.rules ⟨0, ""⟩ (msgQuery part) (msgTable text) others rfl hothers
  have hempty : (msgTable text).rows.filter (fun r => others r && decide (Contains r.msg part)) =
      [] :=
    List.filter_cons_of_neg (by simp [hno])
  rw [listRules_msgTable hnul hne hlike, hempty] at hmeant
  cases hmeant

/-- **The filters mean "contains"** exactly for a text without wildcards. -/
theorem filters_contain_iff (part : String) (hnul : '\x00' ∉ part.toList) :
    FiltersContain part ↔ '%' ∉ part.toList ∧ '_' ∉ part.toList := by
  constructor
  · intro h
    have hplain : ∀ w, isWildcard w = true → w ∉ part.toList := by
      intro w hw hmem
      let text := String.ofList (part.toList.map blank)
      have htext : text.toList = part.toList.map blank := String.toList_ofList
      have hne : part ≠ "" := by
        rintro rfl
        cases hmem
      refine @not_filtersContain part text hnul hne ?_ ?_ h
      · rw [wrapped_toList, htext]
        exact like_blanked part.toList
      · show ¬ ContainsText text.toList part.toList
        rw [htext]
        exact not_containsText_blanked hw hmem
    exact ⟨hplain '%' rfl, hplain '_' rfl⟩
  · rintro ⟨hmany, hone⟩
    refine filtersContain_of_plain (fun c hc => ?_) hnul
    have hc' : c ≠ '%' ∧ c ≠ '_' := ⟨fun h => hmany (h ▸ hc), fun h => hone (h ▸ hc)⟩
    simp [isWildcard, hc'.1, hc'.2]

theorem filters_contain_ftp : '\x00' ∉ "FTP".toList ∧ FiltersContain "FTP" :=
  ⟨by decide, (filters_contain_iff "FTP" (by decide)).mpr ⟨by decide, by decide⟩⟩

/-- A search for `a_b` finds `a-b`. -/
theorem underscore_finds_dash :
    listRules ⟨0, ""⟩ (msgQuery "a_b") (msgTable "a-b") = .ok [rowToRule (msgRow "a-b")] ∧
      ¬ Contains (msgRow "a-b").msg "a_b" ∧ ¬ FiltersContain "a_b" := by
  have hlike : like ("%" ++ "a_b" ++ "%").toList "a-b".toList = true := by decide
  have hno : ¬ Contains (msgRow "a-b").msg "a_b" := by decide
  exact ⟨listRules_msgTable (by decide) (by decide) hlike, hno,
    not_filtersContain (by decide) (by decide) hlike hno⟩

end SnortOptimizer.Server
