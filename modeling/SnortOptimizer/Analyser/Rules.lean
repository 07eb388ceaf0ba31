import SnortOptimizer.Table.Basic
import SnortOptimizer.Text.Basic
import SnortOptimizer.Analyser.Evaluation
import Mathlib.Data.List.Sort

/-!
# The rules table (`analyser/sql/rules_load.go`, `analyser/sql/rules_clone.go`)

Every Snort database holds its rules under a run id, one row for each `(gid, sid)` of a run. A
candidate rule set is made from an accepted one by copying its rows to a new run id and switching
off the rules that are to go.

The table carries its two constraints: the primary key `(run_id, gid, sid)` and the unique index on
`(run_id, source_file, raw_text)`. `cloneRulesInDB_eq` says that a copy never runs into them, what
the new run's rows are, and that no other run's rows are touched.
-/

namespace SnortOptimizer.Analyser

open Text

structure Rule where
  sid : Int
  gid : Int
  rev : Int
  action : String
  proto : String
  srcNet : String
  srcPort : String
  direction : String
  dstNet : String
  dstPort : String
  msg : String
  classtype : String
  enabled : Bool
  sourceFile : String
  rawText : String
  deriving DecidableEq, Repr

structure RuleRow where
  runID : Int
  rule : Rule
  deriving DecidableEq, Repr

/-- The row violates the primary key or the unique index beside the other. -/
def RuleRow.Conflict (r s : RuleRow) : Prop :=
  r.runID = s.runID ∧
    ((r.rule.gid = s.rule.gid ∧ r.rule.sid = s.rule.sid) ∨
      (r.rule.sourceFile = s.rule.sourceFile ∧ r.rule.rawText = s.rule.rawText))

instance (r s : RuleRow) : Decidable (r.Conflict s) :=
  inferInstanceAs (Decidable (_ ∧ (_ ∨ _)))

abbrev RuleTable := Table RuleRow RuleRow.Conflict

structure RuleRef where
  gid : Int
  sid : Int
  rev : Int
  deriving DecidableEq, Repr

def Rule.key (r : Rule) : Int × Int := (r.gid, r.sid)

def RuleRef.key (r : RuleRef) : Int × Int := (r.gid, r.sid)

/-- The rows of one run. -/
def rowsOf (t : RuleTable) (runID : Int) : List RuleRow := t.rows.filter (·.runID = runID)

/-- The enabled rules of a run. -/
def enabledSet (t : RuleTable) (runID : Int) : Finset (Int × Int) :=
  (((rowsOf t runID).filter (·.rule.enabled)).map (·.rule.key)).toFinset

/-- `insertRules`: one `INSERT OR IGNORE` for each record. -/
def insertRules (t : RuleTable) (runID : Int) (records : List Rule) : RuleTable :=
  records.foldl (fun t r => t.insertOrIgnore { runID := runID, rule := r }) t

/-- `(gid, sid)` order. -/
def keyLe (a b : Int × Int) : Prop := a.1 < b.1 ∨ (a.1 = b.1 ∧ a.2 ≤ b.2)

instance (a b : Int × Int) : Decidable (keyLe a b) := inferInstanceAs (Decidable (_ ∨ _))

/-- `ListRulesFromDB` on a table with all its columns. -/
def listRulesFromDB (t : RuleTable) (runID : Int) (enabledOnly : Bool) : List Rule :=
  (((rowsOf t runID).map RuleRow.rule).filter fun r => !enabledOnly || r.enabled).insertionSort
    fun a b => keyLe a.key b.key

def enabledRuleMap (t : RuleTable) (runID : Int) : String → Option Rule :=
  (listRulesFromDB t runID true).foldl
    (fun m r => Function.update m (ruleKey r.gid r.sid) (some r)) fun _ => none

/-- `UPDATE rules SET enabled = 0 WHERE run_id = ? AND gid = ? AND sid = ?`. -/
def disableRow (runID : Int) (key : Int × Int) (r : RuleRow) : RuleRow :=
  if r.runID = runID ∧ r.rule.key = key then { r with rule := { r.rule with enabled := false } }
  else r

theorem disableRow_conflict {runID : Int} {key : Int × Int} {r s : RuleRow}
    (h : (disableRow runID key r).Conflict (disableRow runID key s)) : r.Conflict s := by
  unfold disableRow at h
  split at h <;> split at h <;> exact h

def disable (t : RuleTable) (runID : Int) (key : Int × Int) : RuleTable :=
  t.update (disableRow runID key) fun _ _ => disableRow_conflict

/-- `CloneRulesInDB`: delete the target run, copy the source run, switch the listed rules off. -/
def cloneRulesInDB (t : RuleTable) (fromRunID toRunID : Int) (decisions : List RuleRef) :
    Except String RuleTable :=
  let t := t.delete (·.runID = toRunID)
  match t.insertAll ((rowsOf t fromRunID).map fun r => { r with runID := toRunID }) with
  | none => .error "constraint failed"
  | some t => .ok (decisions.foldl (fun t d => disable t toRunID d.key) t)

/-! ## Rule keys

The text key of a rule has a colon between two numbers, so it determines them. -/

theorem ruleKey_inj {gid sid gid' sid' : Int} (h : ruleKey gid sid = ruleKey gid' sid') :
    gid = gid' ∧ sid = sid' := by
  have hlist : (toString gid).toList ++ ':' :: (toString sid).toList =
      (toString gid').toList ++ ':' :: (toString sid').toList := by
    have := congrArg String.toList h
    simpa [ruleKey, String.toList_append] using this
  have hcolon (n : Int) : ':' ∉ (toString n).toList := notMem_toString_int n (by decide) (by decide)
  obtain ⟨hg, hs⟩ := append_sep_inj (hcolon gid) (hcolon gid') hlist
  exact ⟨toString_int_inj (String.toList_inj.mp hg), toString_int_inj (String.toList_inj.mp hs)⟩

/-! ## Enabled rules -/

variable {t t' : RuleTable} {runID : Int}

theorem mem_rowsOf {r : RuleRow} : r ∈ rowsOf t runID ↔ r ∈ t.rows ∧ r.runID = runID := by
  rw [rowsOf, List.mem_filter, decide_eq_true_iff]

theorem enabledSet_congr {runID' : Int} (h : rowsOf t' runID' = rowsOf t runID) :
    enabledSet t' runID' = enabledSet t runID := by
  rw [enabledSet, h, enabledSet]

theorem mem_listRulesFromDB {r : Rule} {enabledOnly : Bool} :
    r ∈ listRulesFromDB t runID enabledOnly ↔
      (∃ row ∈ rowsOf t runID, row.rule = r) ∧ (enabledOnly = true → r.enabled = true) := by
  rw [listRulesFromDB, List.mem_insertionSort, List.mem_filter, List.mem_map]
  cases enabledOnly <;> simp

theorem mem_enabledSet {key : Int × Int} :
    key ∈ enabledSet t runID ↔ ∃ r ∈ listRulesFromDB t runID true, r.key = key := by
  rw [enabledSet, List.mem_toFinset, List.mem_map]
  constructor
  · rintro ⟨row, hrow, hkey⟩
    obtain ⟨hrow, hen⟩ := List.mem_filter.mp hrow
    exact ⟨row.rule, mem_listRulesFromDB.mpr ⟨⟨row, hrow, rfl⟩, fun _ => hen⟩, hkey⟩
  · rintro ⟨r, hr, hkey⟩
    obtain ⟨⟨row, hrow, rfl⟩, hen⟩ := mem_listRulesFromDB.mp hr
    exact ⟨row, List.mem_filter.mpr ⟨hrow, hen rfl⟩, hkey⟩

/-- The map knows a key only for an enabled rule with that key. -/
theorem foldl_update_eq_some {rules : List Rule} {m : String → Option Rule} {key : String}
    {r : Rule}
    (h : rules.foldl (fun m r => Function.update m (ruleKey r.gid r.sid) (some r)) m key =
      some r) :
    (r ∈ rules ∧ ruleKey r.gid r.sid = key) ∨ m key = some r := by
  induction rules generalizing m with
  | nil => exact .inr h
  | cons x rules ih =>
      rw [List.foldl_cons] at h
      rcases ih h with ⟨hmem, hkey⟩ | hm
      · exact .inl ⟨List.mem_cons_of_mem _ hmem, hkey⟩
      · by_cases hk : key = ruleKey x.gid x.sid
        · rw [hk, Function.update_self, Option.some.injEq] at hm
          subst hm
          exact .inl ⟨List.mem_cons_self, hk.symm⟩
        · rw [Function.update_of_ne hk] at hm
          exact .inr hm

theorem enabledRuleMap_eq_some {key : String} {r : Rule} (h : enabledRuleMap t runID key = some r) :
    r.key ∈ enabledSet t runID ∧ ruleKey r.gid r.sid = key := by
  rcases foldl_update_eq_some h with ⟨hmem, hkey⟩ | hnone
  · exact ⟨mem_enabledSet.mpr ⟨r, hmem, rfl⟩, hkey⟩
  · cases hnone

/-- The map keeps every key it has, and gets those of all rules. -/
theorem foldl_update_isSome {rules : List Rule} {m : String → Option Rule} {key : String}
    (h : (∃ r ∈ rules, ruleKey r.gid r.sid = key) ∨ (m key).isSome = true) :
    (rules.foldl (fun m r => Function.update m (ruleKey r.gid r.sid) (some r)) m key).isSome =
      true := by
  induction rules generalizing m with
  | nil => exact h.resolve_left (by simp)
  | cons x rules ih =>
      rw [List.foldl_cons]
      apply ih
      by_cases hkey : key = ruleKey x.gid x.sid
      · right
        rw [hkey, Function.update_self]
        rfl
      · rw [Function.update_of_ne hkey]
        rcases h with ⟨r, hr, hrkey⟩ | hm
        · rcases List.mem_cons.mp hr with rfl | hr
          · exact absurd hrkey.symm hkey
          · exact .inl ⟨r, hr, hrkey⟩
        · exact .inr hm

theorem enabledRuleMap_isSome_iff {gid sid : Int} :
    (enabledRuleMap t runID (ruleKey gid sid)).isSome = true ↔ (gid, sid) ∈ enabledSet t runID := by
  constructor
  · intro h
    obtain ⟨r, hr⟩ := Option.isSome_iff_exists.mp h
    obtain ⟨hmem, hkey⟩ := enabledRuleMap_eq_some hr
    obtain ⟨rfl, rfl⟩ := ruleKey_inj hkey
    exact hmem
  · intro h
    obtain ⟨r, hr, hkey⟩ := mem_enabledSet.mp h
    obtain ⟨hgid, hsid⟩ := Prod.mk.inj hkey
    apply foldl_update_isSome
    refine .inl ⟨r, hr, ?_⟩
    rw [hgid, hsid]

/-! ## Copying a run -/

/-- Switching off a list of rules, row by row. -/
def disableRows (runID : Int) (refs : List RuleRef) (r : RuleRow) : RuleRow :=
  if r.runID = runID ∧ r.rule.key ∈ refs.map RuleRef.key then
    { r with rule := { r.rule with enabled := false } }
  else r

theorem disableRows_cons (d : RuleRef) (refs : List RuleRef) (r : RuleRow) :
    disableRows runID refs (disableRow runID d.key r) = disableRows runID (d :: refs) r := by
  unfold disableRows disableRow
  by_cases hrun : r.runID = runID <;> by_cases hkey : r.rule.key = d.key <;>
    by_cases hmem : r.rule.key ∈ refs.map RuleRef.key <;>
    simp_all [Rule.key]

theorem foldl_disable_rows (refs : List RuleRef) (t : RuleTable) :
    (refs.foldl (fun t d => disable t runID d.key) t).rows =
      t.rows.map (disableRows runID refs) := by
  induction refs generalizing t with
  | nil =>
      have hid : disableRows runID [] = id := by
        funext r
        simp [disableRows]
      rw [hid, List.map_id]
      rfl
  | cons d refs ih =>
      rw [List.foldl_cons, ih]
      show (t.rows.map (disableRow runID d.key)).map (disableRows runID refs) = _
      rw [List.map_map]
      congr 1
      funext r
      exact disableRows_cons d refs r

theorem disableRows_runID (refs : List RuleRef) (r : RuleRow) :
    (disableRows runID refs r).runID = r.runID := by
  unfold disableRows
  split <;> rfl

theorem disableRows_of_ne {refs : List RuleRef} {r : RuleRow} (h : r.runID ≠ runID) :
    disableRows runID refs r = r := by
  rw [disableRows, if_neg fun hr => h hr.1]

/-- Switching rules off moves no row to another run. -/
theorem rowsOf_foldl_disable (refs : List RuleRef) (t : RuleTable) (id : Int) :
    rowsOf (refs.foldl (fun t d => disable t runID d.key) t) id =
      (rowsOf t id).map (disableRows runID refs) := by
  have hcomp : ((fun x : RuleRow => decide (x.runID = id)) ∘ disableRows runID refs) =
      fun x : RuleRow => decide (x.runID = id) := by
    funext x
    rw [Function.comp_apply, disableRows_runID]
  rw [rowsOf, foldl_disable_rows, List.filter_map, hcomp, rowsOf]

theorem rowsOf_delete_self : rowsOf (t.delete (·.runID = runID)) runID = [] := by
  rw [rowsOf, List.filter_eq_nil_iff]
  intro r hr
  have hne := (List.mem_filter.mp hr).2
  simpa using hne

theorem rowsOf_delete_of_ne {other : Int} (h : other ≠ runID) :
    rowsOf (t.delete (·.runID = runID)) other = rowsOf t other := by
  rw [rowsOf, Table.delete, List.filter_filter, rowsOf]
  apply List.filter_congr
  intro r _
  by_cases hr : r.runID = other
  · simp [hr, h]
  · simp [hr]

/-- Rows of one run moved to another do not come into conflict with each other. -/
theorem pairwise_copy (fromRunID toRunID : Int) :
    ((rowsOf t fromRunID).map fun r => { r with runID := toRunID }).Pairwise
      fun r s => ¬ RuleRow.Conflict r s := by
  rw [List.pairwise_map]
  have hrows : (rowsOf t fromRunID).Pairwise fun r s => ¬ RuleRow.Conflict r s :=
    t.apart.filter _
  refine hrows.imp_of_mem ?_
  intro r s hr hs hns hc
  exact hns ⟨(mem_rowsOf.mp hr).2.trans (mem_rowsOf.mp hs).2.symm, hc.2⟩

/-- After the delete no row of the target run is left for a copy to conflict with. -/
theorem insertAll_copies (t : RuleTable) (fromRunID toRunID : Int) :
    ∃ v, (t.delete (·.runID = toRunID)).insertAll
      ((rowsOf (t.delete (·.runID = toRunID)) fromRunID).map fun r => { r with runID := toRunID }) =
        some v := by
  apply Table.insertAll_isSome (pairwise_copy fromRunID toRunID)
  intro s hs r hr hc
  obtain ⟨r', _, rfl⟩ := List.mem_map.mp hr
  have hrun : s.runID ≠ toRunID := by simpa [Table.delete] using (List.mem_filter.mp hs).2
  exact hrun hc.1

/-- Also a run copied onto itself, which leaves it empty. -/
theorem cloneRulesInDB_isOk (t : RuleTable) (fromRunID toRunID : Int) (decisions : List RuleRef) :
    ∃ t', cloneRulesInDB t fromRunID toRunID decisions = .ok t' := by
  obtain ⟨v, hv⟩ := insertAll_copies t fromRunID toRunID
  unfold cloneRulesInDB
  dsimp only
  rw [hv]
  exact ⟨_, rfl⟩

/-- **A copy never fails.** The target run gets the rows of the source run with the listed rules
switched off, and every other run keeps its rows. -/
theorem cloneRulesInDB_eq {fromRunID toRunID : Int} (hne : fromRunID ≠ toRunID)
    (t : RuleTable) (decisions : List RuleRef) :
    ∃ t', cloneRulesInDB t fromRunID toRunID decisions = .ok t' ∧
      (∀ r, r ≠ toRunID → rowsOf t' r = rowsOf t r) ∧
      rowsOf t' toRunID = (rowsOf t fromRunID).map fun r =>
        disableRows toRunID decisions { r with runID := toRunID } := by
  let u := t.delete (·.runID = toRunID)
  let copies := (rowsOf u fromRunID).map fun r => { r with runID := toRunID }
  obtain ⟨v, hv⟩ := insertAll_copies t fromRunID toRunID
  have hvrows : v.rows = u.rows ++ copies := Table.insertAll_rows hv
  have hfrom : rowsOf u fromRunID = rowsOf t fromRunID := rowsOf_delete_of_ne hne
  refine ⟨decisions.foldl (fun t d => disable t toRunID d.key) v, ?_, ?_, ?_⟩
  · show (match u.insertAll copies with
      | none => Except.error "constraint failed"
      | some t => .ok (decisions.foldl (fun t (d : RuleRef) => disable t toRunID d.key) t)) = _
    rw [hv]
  · intro r hr
    have hcopies : copies.filter (·.runID = r) = [] := by
      rw [List.filter_eq_nil_iff]
      intro s hs
      obtain ⟨s', _, rfl⟩ := List.mem_map.mp hs
      simpa using fun h => hr h.symm
    have hkeep : rowsOf v r = rowsOf t r := by
      rw [rowsOf, hvrows, List.filter_append, hcopies, List.append_nil]
      exact rowsOf_delete_of_ne hr
    rw [rowsOf_foldl_disable, hkeep]
    refine (List.map_congr_left ?_).trans (List.map_id _)
    intro x hx
    apply disableRows_of_ne
    rw [(mem_rowsOf.mp hx).2]
    exact hr
  · have hcopies : copies.filter (·.runID = toRunID) = copies := by
      rw [List.filter_eq_self]
      intro s hs
      obtain ⟨s', _, rfl⟩ := List.mem_map.mp hs
      simp
    have hto : rowsOf v toRunID = copies := by
      rw [rowsOf, hvrows, List.filter_append, hcopies]
      have hgone : u.rows.filter (·.runID = toRunID) = [] := rowsOf_delete_self
      rw [hgone, List.nil_append]
    rw [rowsOf_foldl_disable, hto, List.map_map, hfrom]
    rfl

/-- A run has each `(gid, sid)` once. -/
theorem rule_eq_of_key {enabledOnly : Bool} {r r' : Rule}
    (hr : r ∈ listRulesFromDB t runID enabledOnly) (hr' : r' ∈ listRulesFromDB t runID enabledOnly)
    (hkey : r.key = r'.key) : r = r' := by
  obtain ⟨⟨row, hrow, rfl⟩, _⟩ := mem_listRulesFromDB.mp hr
  obtain ⟨⟨row', hrow', rfl⟩, _⟩ := mem_listRulesFromDB.mp hr'
  obtain ⟨hmem, hrun⟩ := mem_rowsOf.mp hrow
  obtain ⟨hmem', hrun'⟩ := mem_rowsOf.mp hrow'
  obtain ⟨hgid, hsid⟩ := Prod.mk.inj hkey
  have hsame : row = row' := by
    apply t.eq_of_conflict _ hmem hmem' ⟨hrun.trans hrun'.symm, .inl ⟨hgid, hsid⟩⟩
    rintro a b ⟨hid, ⟨hg, hs⟩ | ⟨hf, ht⟩⟩
    · exact ⟨hid.symm, .inl ⟨hg.symm, hs.symm⟩⟩
    · exact ⟨hid.symm, .inr ⟨hf.symm, ht.symm⟩⟩
  rw [hsame]

theorem listRulesFromDB_pairwise (t : RuleTable) (runID : Int) (enabledOnly : Bool) :
    (listRulesFromDB t runID enabledOnly).Pairwise fun r s => r.key ≠ s.key := by
  have hrows : (rowsOf t runID).Pairwise fun r s => r.rule.key ≠ s.rule.key := by
    apply (t.apart.filter _).imp_of_mem
    intro r s hr hs hapart hkey
    obtain ⟨_, hr⟩ := mem_rowsOf.mp hr
    obtain ⟨_, hs⟩ := mem_rowsOf.mp hs
    obtain ⟨hgid, hsid⟩ := Prod.mk.inj hkey
    exact hapart ⟨hr.trans hs.symm, .inl ⟨hgid, hsid⟩⟩
  have hrules : ((rowsOf t runID).map RuleRow.rule).Pairwise fun r s => r.key ≠ s.key :=
    List.pairwise_map.mpr hrows
  have hperm := List.perm_insertionSort (fun a b : Rule => keyLe a.key b.key)
    (((rowsOf t runID).map RuleRow.rule).filter fun r => !enabledOnly || r.enabled)
  exact (hperm.pairwise_iff Ne.symm).mpr (hrules.filter _)

theorem listRulesFromDB_sorted (t : RuleTable) (runID : Int) (enabledOnly : Bool) :
    (listRulesFromDB t runID enabledOnly).Pairwise fun r s => keyLe r.key s.key := by
  have htotal : Std.Total fun r s : Rule => keyLe r.key s.key := ⟨by unfold keyLe; omega⟩
  have htrans : IsTrans Rule fun r s => keyLe r.key s.key := ⟨by unfold keyLe; omega⟩
  exact List.pairwise_insertionSort _ _

/-- The enabled rules of a copy. -/
theorem mem_listRulesFromDB_clone {fromRunID toRunID : Int} {decisions : List RuleRef}
    (h : rowsOf t' toRunID = (rowsOf t fromRunID).map fun r =>
      disableRows toRunID decisions { r with runID := toRunID }) (r : Rule) :
    r ∈ listRulesFromDB t' toRunID true ↔
      r ∈ listRulesFromDB t fromRunID true ∧ r.key ∉ decisions.map RuleRef.key := by
  rw [mem_listRulesFromDB, mem_listRulesFromDB, h]
  constructor
  · rintro ⟨⟨row, hrow, rfl⟩, hen⟩
    obtain ⟨row', hrow', rfl⟩ := List.mem_map.mp hrow
    have hen := hen rfl
    by_cases hd : row'.rule.key ∈ decisions.map RuleRef.key
    · rw [disableRows, if_pos ⟨rfl, hd⟩] at hen
      cases hen
    · rw [disableRows, if_neg fun hc => hd hc.2] at hen ⊢
      exact ⟨⟨⟨row', hrow', rfl⟩, fun _ => hen⟩, hd⟩
  · rintro ⟨⟨⟨row, hrow, rfl⟩, hen⟩, hd⟩
    refine ⟨⟨_, List.mem_map.mpr ⟨row, hrow, rfl⟩, ?_⟩, hen⟩
    rw [disableRows, if_neg fun hc => hd hc.2]

/-- What a copy does to the set of the enabled rules. -/
theorem enabledSet_clone {fromRunID toRunID : Int} {decisions : List RuleRef}
    (h : rowsOf t' toRunID = (rowsOf t fromRunID).map fun r =>
      disableRows toRunID decisions { r with runID := toRunID }) :
    enabledSet t' toRunID =
      enabledSet t fromRunID \ (decisions.map RuleRef.key).toFinset := by
  ext key
  rw [Finset.mem_sdiff, mem_enabledSet, mem_enabledSet, List.mem_toFinset]
  constructor
  · rintro ⟨r, hr, rfl⟩
    obtain ⟨hold, hkept⟩ := (mem_listRulesFromDB_clone h r).mp hr
    exact ⟨⟨r, hold, rfl⟩, hkept⟩
  · rintro ⟨⟨r, hr, rfl⟩, hkept⟩
    exact ⟨r, (mem_listRulesFromDB_clone h r).mpr ⟨hr, hkept⟩, rfl⟩

end SnortOptimizer.Analyser
