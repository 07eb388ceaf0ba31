import SnortOptimizer.Analyser.IterStrategies
import Mathlib.Data.Prod.Lex
import Mathlib.Order.OrderDual
import Mathlib.Order.Bounds.Basic

/-!
# What the protocol strategy trims

A group of rules is ordered, the first rules that together reach four fifths of the alerted flows
are kept, and the others may be trimmed. `lowCoverageProtocolRules_spec` says what that guarantees
for each group, whatever the sort does with ties.

The two comparisons end with the sid and leave out the gid. Two rules of different generators may
therefore tie, and then it is the order of the map or of the sort that decides which of them is
trimmed. `protocolAlertOverlap_determined_iff` says for which tables this happens.
-/

namespace SnortOptimizer.Analyser

open Text Sorting

/-! ## The comparisons by key -/

def groupKey (row : ProtocolAlertRule) : Lex (ℤᵒᵈ × Lex (ℤᵒᵈ × Lex (ℚᵒᵈ × ℤ))) :=
  toLex (OrderDual.toDual row.maliciousAlertedFlows,
    toLex (OrderDual.toDual row.alertedFlows, toLex (OrderDual.toDual row.utilization, row.sid)))

def candidateKey (row : ProtocolAlertRule) : Lex (ℤᵒᵈ × Lex (ℤ × Lex (ℚ × ℤ))) :=
  toLex (OrderDual.toDual row.groupAlertedFlows,
    toLex (row.alertedFlows, toLex (row.utilization, row.sid)))

/-- A comparison that looks at one field and goes on at a tie. -/
theorem ite_ne_iff_lex {α : Type} {a b : α} [DecidableEq α] {lt next : Prop} (hlt : lt → a ≠ b) :
    (if a ≠ b then lt else next) ↔ lt ∨ (a = b ∧ next) := by
  by_cases h : a = b
  · have hlt' : ¬ lt := fun hl => hlt hl h
    simp [h, hlt']
  · simp [h]

theorem groupLess_iff (a b : ProtocolAlertRule) : groupLess a b ↔ groupKey a < groupKey b := by
  simp only [groupLess, groupKey, Prod.Lex.toLex_lt_toLex, OrderDual.toDual_lt_toDual,
    OrderDual.toDual_inj]
  rw [ite_ne_iff_lex fun h => h.ne', ite_ne_iff_lex fun h => h.ne', ite_ne_iff_lex fun h => h.ne']

theorem candidateLess_iff (a b : ProtocolAlertRule) :
    candidateLess a b ↔ candidateKey a < candidateKey b := by
  simp only [candidateLess, candidateKey, Prod.Lex.toLex_lt_toLex, OrderDual.toDual_lt_toDual,
    OrderDual.toDual_inj]
  rw [ite_ne_iff_lex fun h => h.ne', ite_ne_iff_lex fun h => h.ne, ite_ne_iff_lex fun h => h.ne]

theorem candidateKey_eq_iff {a b : ProtocolAlertRule} :
    candidateKey a = candidateKey b ↔ a.groupAlertedFlows = b.groupAlertedFlows ∧
      a.alertedFlows = b.alertedFlows ∧ a.utilization = b.utilization ∧ a.sid = b.sid := by
  simp only [candidateKey, toLex_inj, Prod.mk.injEq, OrderDual.toDual_inj]

/-! ## How many rules are kept -/

theorem totalAlerted_perm {l l' : List ProtocolAlertRule} (h : l.Perm l') :
    totalAlerted l = totalAlerted l' :=
  (h.map _).sum_eq

theorem totalAlerted_append (l l' : List ProtocolAlertRule) :
    totalAlerted (l ++ l') = totalAlerted l + totalAlerted l' := by
  simp [totalAlerted]

theorem totalAlerted_cons (row : ProtocolAlertRule) (l : List ProtocolAlertRule) :
    totalAlerted (row :: l) = row.alertedFlows + totalAlerted l := by
  simp [totalAlerted]

/-- The numbers of first rules that reach the threshold. -/
def reaching (total cumulative : Int) (rows : List ProtocolAlertRule) : Set Nat :=
  {k | 4 * total ≤ 5 * (cumulative + totalAlerted (rows.take k))}

theorem threshold_le_iff {total c : Int} (htotal : 0 < total) :
    coverageThreshold ≤ (c : ℚ) / (total : ℚ) ↔ 4 * total ≤ 5 * c := by
  have hpos : (0 : ℚ) < total := by exact_mod_cast htotal
  rw [coverageThreshold, div_le_div_iff₀ (by norm_num) hpos, mul_comm (c : ℚ)]
  exact_mod_cast Iff.rfl

/-- The loop stops at the first place where the threshold is reached. -/
theorem coverageCut_isLeast {total : Int} (htotal : 0 < total) (rows : List ProtocolAlertRule)
    (cumulative : Int) (i : Nat) (hbefore : 5 * cumulative < 4 * total)
    (hall : 4 * total ≤ 5 * (cumulative + totalAlerted rows)) :
    ∃ k, coverageCut total cumulative i rows = some (i + k) ∧
      IsLeast (reaching total cumulative rows) k ∧ k ≤ rows.length := by
  induction rows generalizing cumulative i with
  | nil =>
      have hnil : totalAlerted [] = 0 := rfl
      omega
  | cons row rows ih =>
      have hzero : 0 ∉ reaching total cumulative (row :: rows) := by
        simpa [reaching, totalAlerted] using hbefore
      have hsucc (k : Nat) : k + 1 ∈ reaching total cumulative (row :: rows) ↔
          k ∈ reaching total (cumulative + row.alertedFlows) rows := by
        simp only [reaching, Set.mem_ofPred_eq, List.take_succ_cons, totalAlerted_cons,
          Int.add_assoc]
      simp only [coverageCut, threshold_le_iff htotal]
      by_cases hreached : 4 * total ≤ 5 * (cumulative + row.alertedFlows)
      · rw [if_pos hreached]
        refine ⟨1, rfl, ⟨?_, fun k hk => ?_⟩, by simp⟩
        · simpa [hsucc, reaching, totalAlerted] using hreached
        · cases k with
          | zero => exact absurd hk hzero
          | succ k => exact Nat.le_add_left 1 k
      · rw [if_neg hreached]
        rw [totalAlerted_cons, ← Int.add_assoc] at hall
        obtain ⟨k, hcut, hleast, hlength⟩ := ih _ (i + 1) (not_le.mp hreached) hall
        refine ⟨k + 1, by rw [hcut]; congr 1; omega, ⟨(hsucc k).mpr hleast.1, fun j hj => ?_⟩,
          Nat.succ_le_succ hlength⟩
        cases j with
        | zero => exact absurd hj hzero
        | succ j => exact Nat.succ_le_succ (hleast.2 ((hsucc j).mp hj))

/-! ## One group -/

/-- The rules to keep of an ordered group. -/
def keepCount (sorted : List ProtocolAlertRule) : Nat :=
  (coverageCut (totalAlerted sorted) 0 0 sorted).getD sorted.length

theorem keepCount_isLeast {sorted : List ProtocolAlertRule} (htotal : 0 < totalAlerted sorted) :
    IsLeast (reaching (totalAlerted sorted) 0 sorted) (keepCount sorted) ∧
      keepCount sorted ≤ sorted.length := by
  obtain ⟨k, hcut, hleast, hlength⟩ :=
    coverageCut_isLeast htotal sorted 0 0 (by omega) (by omega)
  rw [keepCount, hcut, Option.getD_some, Nat.zero_add]
  exact ⟨hleast, hlength⟩

theorem totalAlerted_map_marked (total : Int) (keep : Nat) (l : List ProtocolAlertRule) :
    totalAlerted (l.map (marked total keep)) = totalAlerted l := by
  rw [totalAlerted, List.map_map]
  rfl

theorem lowCoverageProtocolRules_eq (sort : SliceSort groupLess) (group : List ProtocolAlertRule) :
    lowCoverageProtocolRules sort group =
      if group.length < 4 ∨ totalAlerted group < 3 ∨
          group.length < 2 * keepCount (sort.sort group) then []
      else ((sort.sort group).drop (keepCount (sort.sort group))).map
        (marked (totalAlerted group) (keepCount (sort.sort group))) := by
  have hlength : (sort.sort group).length = group.length := (sort.perm group).length_eq
  have htotal : totalAlerted (sort.sort group) = totalAlerted group :=
    totalAlerted_perm (sort.perm group)
  have hkeep : (coverageCut (totalAlerted group) 0 0 (sort.sort group)).getD group.length =
      keepCount (sort.sort group) := by
    rw [keepCount, hlength, htotal]
  simp only [lowCoverageProtocolRules, hlength, htotal, hkeep]
  split_ifs <;> first | rfl | omega

theorem malicious_le_of_groupKey_le {a b : ProtocolAlertRule} (h : groupKey a ≤ groupKey b) :
    b.maliciousAlertedFlows ≤ a.maliciousAlertedFlows := by
  rcases Prod.Lex.toLex_le_toLex.mp h with h | ⟨h, _⟩
  · exact (OrderDual.toDual_lt_toDual.mp h).le
  · exact (OrderDual.toDual_inj.mp h).ge

/-- What follows the first rules that reach the threshold has a fifth of the alerted flows. -/
theorem totalAlerted_drop_le {sorted : List ProtocolAlertRule} {keep : Nat}
    (hkeep : 4 * totalAlerted sorted ≤ 5 * totalAlerted (sorted.take keep)) :
    5 * totalAlerted (sorted.drop keep) ≤ totalAlerted sorted := by
  have hsum : totalAlerted (sorted.take keep) + totalAlerted (sorted.drop keep) =
      totalAlerted sorted := by
    rw [← totalAlerted_append, List.take_append_drop]
  omega

theorem malicious_drop_le {sorted : List ProtocolAlertRule} {keep : Nat}
    (hsorted : sorted.Pairwise fun a b => groupKey a ≤ groupKey b) {row kept : ProtocolAlertRule}
    (hrow : row ∈ sorted.drop keep) (hkept : kept ∈ sorted.take keep) :
    row.maliciousAlertedFlows ≤ kept.maliciousAlertedFlows := by
  rw [← List.take_append_drop keep sorted, List.pairwise_append] at hsorted
  exact malicious_le_of_groupKey_le (hsorted.2.2 kept hkept row hrow)

/-- **The trimmed rules are the tail of the group, and little of its coverage.** The group is put in
the order of malicious flows, alerted flows, utilization (all falling) and sid; `keep` is the least
number of its first rules that reach four fifths of the alerted flows. The rules after them are
returned, or nothing if the group has fewer than four rules or fewer than three alerted flows, or
if more than half of it is kept. -/
theorem lowCoverageProtocolRules_spec (sort : SliceSort groupLess)
    (group : List ProtocolAlertRule) :
    let sorted := sort.sort group
    let total := totalAlerted group
    let out := lowCoverageProtocolRules sort group
    sorted.Perm group ∧ (sorted.Pairwise fun a b => groupKey a ≤ groupKey b) ∧
    ∃ keep, IsLeast {k | 4 * total ≤ 5 * totalAlerted (sorted.take k)} keep ∧
      (group.length < 4 ∨ total < 3 ∨ group.length < 2 * keep → out = []) ∧
      (¬ (group.length < 4 ∨ total < 3 ∨ group.length < 2 * keep) →
        out = (sorted.drop keep).map (marked total keep) ∧ out ≠ []) ∧
      (out ≠ [] → 5 * totalAlerted out ≤ total ∧ 2 * keep ≤ group.length ∧
        ∀ row ∈ out, ∀ kept ∈ sorted.take keep,
          row.maliciousAlertedFlows ≤ kept.maliciousAlertedFlows) := by
  intro sorted total out
  have hperm : sorted.Perm group := sort.perm group
  have hsorted : sorted.Pairwise fun a b => groupKey a ≤ groupKey b :=
    SliceSort.sorted_key groupLess_iff sort group
  have htotal : totalAlerted sorted = total := totalAlerted_perm hperm
  have hout : out = if group.length < 4 ∨ total < 3 ∨ group.length < 2 * keepCount sorted then []
      else (sorted.drop (keepCount sorted)).map (marked total (keepCount sorted)) :=
    lowCoverageProtocolRules_eq sort group
  refine ⟨hperm, hsorted, ?_⟩
  by_cases hpos : 0 < total
  · obtain ⟨hleast, hle⟩ := keepCount_isLeast (htotal ▸ hpos)
    simp only [reaching, htotal, Int.zero_add] at hleast
    have hn : sorted.length = group.length := hperm.length_eq
    refine ⟨keepCount sorted, hleast, fun h => hout.trans (if_pos h), fun h => ?_, fun hne => ?_⟩
    · rw [hout, if_neg h]
      refine ⟨rfl, List.ne_nil_of_length_pos ?_⟩
      rw [List.length_map, List.length_drop]
      omega
    · have hguard : ¬ (group.length < 4 ∨ total < 3 ∨ group.length < 2 * keepCount sorted) :=
        fun h => hne (hout.trans (if_pos h))
      rw [hout, if_neg hguard, totalAlerted_map_marked]
      refine ⟨?_, by omega, fun row hrow kept hkept => ?_⟩
      · rw [← htotal]
        apply totalAlerted_drop_le
        rw [htotal]
        exact hleast.1
      · obtain ⟨row', hrow', rfl⟩ := List.mem_map.mp hrow
        show row'.maliciousAlertedFlows ≤ _
        exact malicious_drop_le hsorted hrow' hkept
  · -- nothing is returned; the empty beginning reaches the threshold
    have hnil : out = [] := hout.trans (if_pos (by omega))
    refine ⟨0, ⟨?_, fun k _ => Nat.zero_le k⟩, fun _ => hnil, fun h => ?_, fun hne => ?_⟩
    · simp only [Set.mem_ofPred_eq, List.take_zero, totalAlerted, List.map_nil, List.sum_nil]
      omega
    · omega
    · exact absurd hnil hne

/-! ## The groups -/

/-- A join by the keys of two tables has one row for each rule. -/
theorem joinEnabled_nodup {β γ : Type} (t : RuleTable) (runID : Int) {rows : List β}
    {key : β → Int × Int × Int} {row : Rule → β → γ} {keyOf : γ → Int × Int}
    (hrows : rows.Pairwise fun a b => key a ≠ key b) (hkey : ∀ r b, keyOf (row r b) = r.key) :
    ((joinEnabled t runID rows key row).map keyOf).Nodup := by
  have hrules : (((rowsOf t runID).map RuleRow.rule).filter fun r => r.enabled).Pairwise
      fun r s => r.key ≠ s.key := by
    apply List.Pairwise.filter
    rw [List.pairwise_map]
    refine (t.apart.filter _).imp_of_mem fun {r s} hr hs hapart hsame => hapart ⟨?_, .inl ?_⟩
    · exact (mem_rowsOf.mp hr).2.trans (mem_rowsOf.mp hs).2.symm
    · exact Prod.mk.inj hsame
  unfold List.Nodup
  rw [List.pairwise_map, joinEnabled, List.pairwise_flatMap]
  refine ⟨fun r _ => ?_, hrules.imp fun {r s} hrs c hc d hd => ?_⟩
  · -- the other table has one row for a rule
    rw [List.pairwise_map]
    refine (hrows.filter _).imp_of_mem fun {a b} ha hb hab _ => hab ?_
    simp only [List.mem_filter, decide_eq_true_eq] at ha hb
    rw [ha.2, hb.2]
  · obtain ⟨a, _, rfl⟩ := List.mem_map.mp hc
    obtain ⟨b, _, rfl⟩ := List.mem_map.mp hd
    rw [hkey, hkey]
    exact hrs

theorem protocolRows_nodup (lower : Char → Char) (db : InstanceDB) (runID : Int) :
    ((protocolRows lower db runID).map fun r => r.key).Nodup := by
  have hfp : (db.ruleFP.rows.filter fun fp => 0 < fp.alertedFlows).Pairwise
      fun a b => a.key ≠ b.key := by
    refine (db.ruleFP.apart.filter _).imp fun {a b} hapart hsame => hapart ?_
    simpa [RuleFPRow.key, RuleFPRow.Conflict] using hsame
  unfold protocolRows
  dsimp only
  refine List.Nodup.sublist ((List.filter_sublist).map _) ?_
  rw [((List.perm_insertionSort protocolLe _).map _).nodup_iff]
  exact joinEnabled_nodup db.rules runID hfp fun r b => rfl

theorem alertGroups_names (lower : Char → Char) (db : InstanceDB) (runID : Int) :
    ((alertGroups lower db runID).map Prod.fst).Nodup := by
  rw [alertGroups, List.map_map]
  exact (List.map_id _).symm ▸ List.nodup_dedup _

section Groups

variable {lower : Char → Char} {db : InstanceDB} {runID : Int}
  {group : String × List ProtocolAlertRule} {row : ProtocolAlertRule}

theorem mem_protocolRows_of_group (hgroup : group ∈ alertGroups lower db runID)
    (hrow : row ∈ group.2) : row ∈ protocolRows lower db runID ∧ row.group = group.1 := by
  obtain ⟨name, _, rfl⟩ := List.mem_map.mp hgroup
  simpa using hrow

theorem alertGroups_keys (hgroup : group ∈ alertGroups lower db runID) :
    (group.2.map fun r => r.key).Nodup := by
  obtain ⟨name, _, rfl⟩ := List.mem_map.mp hgroup
  exact (protocolRows_nodup lower db runID).sublist ((List.filter_sublist).map _)

/-- A row belongs to one group. -/
theorem group_eq_of_mem {group' : String × List ProtocolAlertRule}
    (hgroup : group ∈ alertGroups lower db runID) (hgroup' : group' ∈ alertGroups lower db runID)
    (hrow : row ∈ group.2) (hrow' : row ∈ group'.2) : group = group' := by
  apply List.inj_on_of_nodup_map (alertGroups_names lower db runID) hgroup hgroup'
  rw [← (mem_protocolRows_of_group hgroup hrow).2, (mem_protocolRows_of_group hgroup' hrow').2]

end Groups

/-! ## What does not depend on ties -/

/-- The flows in a key of a group. -/
def flowsOf (key : Lex (ℤᵒᵈ × Lex (ℤᵒᵈ × Lex (ℚᵒᵈ × ℤ)))) : Int :=
  OrderDual.ofDual (ofLex (ofLex key).2).1

/-- The key among the candidates, by the key in the group and its total. -/
def candidateKeyOf (total : Int) (key : Lex (ℤᵒᵈ × Lex (ℤᵒᵈ × Lex (ℚᵒᵈ × ℤ)))) :
    Lex (ℤᵒᵈ × Lex (ℤ × Lex (ℚ × ℤ))) :=
  let last := ofLex (ofLex (ofLex key).2).2
  toLex (OrderDual.toDual total, toLex (flowsOf key, toLex (OrderDual.ofDual last.1, last.2)))

theorem coverageCut_congr (total : Int) {rows rows' : List ProtocolAlertRule}
    (h : rows.map (·.alertedFlows) = rows'.map (·.alertedFlows)) (cumulative : Int) (i : Nat) :
    coverageCut total cumulative i rows = coverageCut total cumulative i rows' := by
  induction rows generalizing rows' cumulative i with
  | nil =>
      rw [List.map_nil, eq_comm, List.map_eq_nil_iff] at h
      rw [h]
  | cons row rows ih =>
      cases rows' with
      | nil => cases h
      | cons row' rows' =>
          rw [List.map_cons, List.map_cons, List.cons.injEq] at h
          simp only [coverageCut, h.1, ih h.2]

theorem keepCount_congr {l l' : List ProtocolAlertRule} (h : l.map groupKey = l'.map groupKey) :
    keepCount l = keepCount l' := by
  have hflows : l.map (·.alertedFlows) = l'.map (·.alertedFlows) := by
    have hmap (rows : List ProtocolAlertRule) :
        rows.map (·.alertedFlows) = (rows.map groupKey).map flowsOf := by
      rw [List.map_map]
      rfl
    rw [hmap, hmap, h]
  have hlength : l.length = l'.length := by simpa using congrArg List.length h
  rw [keepCount, keepCount, totalAlerted, totalAlerted, hflows, coverageCut_congr _ hflows, hlength]

/-- The sorts that leave ties as they are. -/
def stableGroup : SliceSort groupLess := SliceSort.stable groupLess_iff

def stableCandidates : SliceSort candidateLess := SliceSort.stable candidateLess_iff

def keepOf (group : List ProtocolAlertRule) : Nat := keepCount (stableGroup.sort group)

theorem map_groupKey_eq (sort : SliceSort groupLess) (group : List ProtocolAlertRule) :
    (sort.sort group).map groupKey = (stableGroup.sort group).map groupKey :=
  SliceSort.map_key_eq groupLess_iff sort stableGroup (.refl _)

theorem keepCount_sort (sort : SliceSort groupLess) (group : List ProtocolAlertRule) :
    keepCount (sort.sort group) = keepOf group :=
  keepCount_congr (map_groupKey_eq sort group)

/-- A group of which something is trimmed. -/
def Concentrated (group : List ProtocolAlertRule) : Prop :=
  4 ≤ group.length ∧ 3 ≤ totalAlerted group ∧ 2 * keepOf group ≤ group.length

instance (group : List ProtocolAlertRule) : Decidable (Concentrated group) :=
  inferInstanceAs (Decidable (_ ∧ _ ∧ _))

/-- A trimmed rule of a group. -/
def trimmedOf (group : List ProtocolAlertRule) (row : ProtocolAlertRule) : ProtocolAlertRule :=
  marked (totalAlerted group) (keepOf group) row

theorem lowCoverageProtocolRules_eq_drop (sort : SliceSort groupLess)
    (group : List ProtocolAlertRule) :
    lowCoverageProtocolRules sort group =
      if Concentrated group then ((sort.sort group).drop (keepOf group)).map (trimmedOf group)
      else [] := by
  rw [lowCoverageProtocolRules_eq, keepCount_sort, ← ite_not]
  congr 1
  simp only [Concentrated, not_or, not_lt]

/-- **The keys of the candidates do not depend on ties.** -/
theorem lowCoverage_candidateKeys (sort : SliceSort groupLess) (group : List ProtocolAlertRule) :
    (lowCoverageProtocolRules sort group).map candidateKey =
      (lowCoverageProtocolRules stableGroup group).map candidateKey := by
  have hkeys (l : List ProtocolAlertRule) :
      ((l.drop (keepOf group)).map (trimmedOf group)).map candidateKey =
        ((l.map groupKey).drop (keepOf group)).map (candidateKeyOf (totalAlerted group)) := by
    rw [← List.map_drop, List.map_map, List.map_map]
    rfl
  rw [lowCoverageProtocolRules_eq_drop, lowCoverageProtocolRules_eq_drop]
  split
  · rw [hkeys, hkeys, map_groupKey_eq]
  · rfl

/-- The candidates of groups in some order. -/
def candidatesOf (sort : SliceSort groupLess) (groups : List (String × List ProtocolAlertRule)) :
    List ProtocolAlertRule :=
  groups.flatMap fun group => lowCoverageProtocolRules sort group.2

theorem candidatesOf_keys {groups groups' : List (String × List ProtocolAlertRule)}
    (hperm : groups'.Perm groups) (sort : SliceSort groupLess) :
    ((candidatesOf sort groups').map candidateKey).Perm
      ((candidatesOf stableGroup groups).map candidateKey) := by
  have hkeys (l : List (String × List ProtocolAlertRule)) :
      (candidatesOf sort l).map candidateKey = (candidatesOf stableGroup l).map candidateKey := by
    simp only [candidatesOf, List.map_flatMap, lowCoverage_candidateKeys sort]
  rw [hkeys]
  exact (hperm.flatMap_right _).map _

/-! ## What may be trimmed -/

/-- Some order of the ties leaves the rule outside the kept ones. -/
def CanBeTrimmed (group : List ProtocolAlertRule) (row : ProtocolAlertRule) : Prop :=
  Concentrated group ∧ row ∈ group ∧
    keepOf group < group.countP fun other => groupKey other ≤ groupKey row

theorem canBeTrimmed_of_mem {sort : SliceSort groupLess} {group : List ProtocolAlertRule}
    {c : ProtocolAlertRule} (hc : c ∈ lowCoverageProtocolRules sort group) :
    ∃ row, CanBeTrimmed group row ∧ c = trimmedOf group row := by
  rw [lowCoverageProtocolRules_eq_drop] at hc
  split at hc
  · next hgroup =>
      obtain ⟨row, hrow, rfl⟩ := List.mem_map.mp hc
      refine ⟨row, ⟨hgroup, (sort.perm group).subset (List.mem_of_mem_drop hrow), ?_⟩, rfl⟩
      rw [← (sort.perm group).countP_eq]
      exact SliceSort.lt_countP_le (SliceSort.sorted_key groupLess_iff sort group) hrow
  · exact absurd hc List.not_mem_nil

theorem mem_of_canBeTrimmed {group : List ProtocolAlertRule} {row : ProtocolAlertRule}
    (hnodup : group.Nodup) (hrow : CanBeTrimmed group row) :
    trimmedOf group row ∈ lowCoverageProtocolRules (SliceSort.last groupLess_iff row) group := by
  rw [lowCoverageProtocolRules_eq_drop, if_pos hrow.1]
  exact List.mem_map_of_mem (SliceSort.mem_drop_last groupLess_iff hnodup hrow.2.1 hrow.2.2)

section Candidates

variable {lower : Char → Char} {db : InstanceDB} {runID : Int}

theorem mem_candidatesOf {sort : SliceSort groupLess}
    {groups : List (String × List ProtocolAlertRule)} {c : ProtocolAlertRule} :
    c ∈ candidatesOf sort groups ↔
      ∃ group ∈ groups, c ∈ lowCoverageProtocolRules sort group.2 :=
  List.mem_flatMap

theorem candidatesOf_nodup (sort : SliceSort groupLess) :
    (candidatesOf sort (alertGroups lower db runID)).Nodup := by
  rw [candidatesOf, List.nodup_flatMap]
  constructor
  · intro group hgroup
    rw [lowCoverageProtocolRules_eq_drop]
    split
    · have hkeys : ((sort.sort group.2).map fun r => r.key).Nodup :=
        ((sort.perm group.2).map _).nodup_iff.mpr (alertGroups_keys hgroup)
      refine List.Nodup.of_map (fun r => r.key) ?_
      rw [List.map_map]
      exact hkeys.sublist ((List.drop_sublist _ _).map _)
    · exact List.nodup_nil
  · -- the candidates of two groups differ in the group
    have hnames := alertGroups_names lower db runID
    rw [List.Nodup, List.pairwise_map] at hnames
    refine hnames.imp_of_mem fun {g h} hg hh hne c hcg hch => hne ?_
    obtain ⟨r, hr, rfl⟩ := canBeTrimmed_of_mem hcg
    obtain ⟨s, hs, hrs⟩ := canBeTrimmed_of_mem hch
    calc
      g.1 = r.group := (mem_protocolRows_of_group hg hr.2.1).2.symm
      _ = (trimmedOf g.2 r).group := rfl
      _ = (trimmedOf h.2 s).group := by rw [hrs]
      _ = h.1 := (mem_protocolRows_of_group hh hs.2.1).2

/-- The number of candidates in front of a key. -/
def rankOf (groups : List (String × List ProtocolAlertRule))
    (key : Lex (ℤᵒᵈ × Lex (ℤ × Lex (ℚ × ℤ)))) : Nat :=
  (candidatesOf stableGroup groups).countP fun c => candidateKey c < key

theorem countP_candidates {groups : List (String × List ProtocolAlertRule)}
    {l : List ProtocolAlertRule}
    (h : (l.map candidateKey).Perm ((candidatesOf stableGroup groups).map candidateKey))
    (key : Lex (ℤᵒᵈ × Lex (ℤ × Lex (ℚ × ℤ)))) :
    l.countP (fun c => candidateKey c < key) = rankOf groups key := by
  have hcount := h.countP_eq fun k => decide (k < key)
  rw [List.countP_map, List.countP_map] at hcount
  exact hcount

end Candidates

/-! ## The ranking -/

def rankingOf (env : IterEnv) (db : InstanceDB) (runID : Int) : List ProtocolAlertRule :=
  env.sortCandidates.sort
    (candidatesOf env.sortGroup (env.groupOrder.order (alertGroups env.host.lower db runID)))

theorem rankingOf_keys (env : IterEnv) (db : InstanceDB) (runID : Int) :
    ((rankingOf env db runID).map candidateKey).Perm
      ((candidatesOf stableGroup (alertGroups env.host.lower db runID)).map candidateKey) :=
  ((env.sortCandidates.perm _).map _).trans
    (candidatesOf_keys (env.groupOrder.perm _) env.sortGroup)

theorem mem_rankingOf {env : IterEnv} {db : InstanceDB} {runID : Int} {c : ProtocolAlertRule}
    (hc : c ∈ rankingOf env db runID) : ∃ group ∈ alertGroups env.host.lower db runID, ∃ row,
      CanBeTrimmed group.2 row ∧ c = trimmedOf group.2 row := by
  obtain ⟨group, hgroup, hc⟩ := mem_candidatesOf.mp ((env.sortCandidates.perm _).subset hc)
  exact ⟨group, (env.groupOrder.perm _).subset hgroup, canBeTrimmed_of_mem hc⟩

/-- The number of candidates that are returned for a factor. -/
def returnedCount (lower : Char → Char) (db : InstanceDB) (runID : Int) (factor : ℚ) : Nat :=
  scaledLimit (candidatesOf stableGroup (alertGroups lower db runID)).length (1 / 4)
    (boundedFactor factor)

theorem protocolAlertOverlapFunc_of_nonpos (env : IterEnv) {input : IterInput}
    (hfactor : input.factor ≤ 0) : protocolAlertOverlapFunc env input = .ok [] := by
  rw [protocolAlertOverlapFunc, cutRanking]
  rw [if_pos (boundedFactor_of_nonpos hfactor)]
  rfl

theorem protocolAlertOverlapFunc_error (env : IterEnv) (e : String)
    (real : Except String InstanceDB) (runID : Int) {factor : ℚ} (hfactor : 0 < factor) :
    protocolAlertOverlapFunc env ⟨.error e, real, runID, factor⟩ = .error e := by
  have hcandidates : protocolCandidates env ⟨.error e, real, runID, factor⟩ = .error e := rfl
  rw [protocolAlertOverlapFunc, hcandidates, cutRanking]
  dsimp only
  rw [if_neg (boundedFactor_pos hfactor).not_ge]
  rfl

theorem protocolAlertOverlapFunc_eq (env : IterEnv) (db : InstanceDB)
    (real : Except String InstanceDB) (runID : Int) {factor : ℚ} (hfactor : 0 < factor) :
    protocolAlertOverlapFunc env ⟨.ok db, real, runID, factor⟩ =
      .ok (((rankingOf env db runID).take (returnedCount env.host.lower db runID factor)).map
        (protocolDecision env.host)) := by
  have hlength : (rankingOf env db runID).length =
      (candidatesOf stableGroup (alertGroups env.host.lower db runID)).length := by
    simpa using (rankingOf_keys env db runID).length_eq
  have hcandidates : protocolCandidates env ⟨.ok db, real, runID, factor⟩ =
      .ok (rankingOf env db runID) := rfl
  rw [protocolAlertOverlapFunc, hcandidates, cutRanking]
  dsimp only
  rw [if_neg (boundedFactor_pos hfactor).not_ge, returnedCount, ← hlength]
  show (if (rankingOf env db runID).isEmpty = true then Except.ok [] else _) = _
  split
  · next hempty =>
      rw [List.isEmpty_iff.mp hempty, List.take_nil]
      rfl
  · rfl

/-- Two rules that can be trimmed tie for a place that is returned. -/
def TiesInReach (lower : Char → Char) (db : InstanceDB) (runID : Int) (factor : ℚ) : Prop :=
  let groups := alertGroups lower db runID
  ∃ g ∈ groups, ∃ h ∈ groups, ∃ r s, CanBeTrimmed g.2 r ∧ CanBeTrimmed h.2 s ∧ r ≠ s ∧
    totalAlerted g.2 = totalAlerted h.2 ∧ r.alertedFlows = s.alertedFlows ∧
    r.utilization = s.utilization ∧ r.sid = s.sid ∧
    rankOf groups (candidateKey (trimmedOf g.2 r)) < returnedCount lower db runID factor

/-- Without such a tie the same rules come first whatever the orders. -/
theorem rankingOf_take_eq {env env' : IterEnv} (hhost : env'.host = env.host) {db : InstanceDB}
    {runID : Int} {factor : ℚ} (hties : ¬ TiesInReach env.host.lower db runID factor) :
    (rankingOf env db runID).take (returnedCount env.host.lower db runID factor) =
      (rankingOf env' db runID).take (returnedCount env.host.lower db runID factor) := by
  have hkeys : (rankingOf env db runID).map candidateKey =
      (rankingOf env' db runID).map candidateKey := by
    apply SliceSort.map_key_eq candidateLess_iff
    rw [hhost]
    exact (candidatesOf_keys (env.groupOrder.perm _) env.sortGroup).trans
      (candidatesOf_keys (env'.groupOrder.perm _) env'.sortGroup).symm
  have hsorted : (rankingOf env db runID).Pairwise fun a b => candidateKey a ≤ candidateKey b :=
    SliceSort.sorted_key candidateLess_iff env.sortCandidates _
  apply List.ext_getElem?
  intro i
  rw [List.getElem?_take, List.getElem?_take]
  split
  · next hi =>
      have hkey : (rankingOf env db runID)[i]?.map candidateKey =
          (rankingOf env' db runID)[i]?.map candidateKey := by
        rw [← List.getElem?_map, ← List.getElem?_map, hkeys]
      cases hc : (rankingOf env db runID)[i]? with
      | none =>
          rw [hc, Option.map_none, eq_comm, Option.map_eq_none_iff] at hkey
          exact hkey.symm
      | some c =>
          rw [hc, Option.map_some, eq_comm, Option.map_eq_some_iff] at hkey
          obtain ⟨c', hc', hkey⟩ := hkey
          rw [hc', Option.some_inj]
          obtain ⟨g, hg, r, hr, rfl⟩ := mem_rankingOf (List.mem_of_getElem? hc)
          obtain ⟨h, hh, s, hs, rfl⟩ := mem_rankingOf (List.mem_of_getElem? hc')
          rw [hhost] at hh
          by_cases hrs : r = s
          · rw [hrs] at hr ⊢
            rw [group_eq_of_mem hg hh hr.2.1 hs.2.1]
          · -- the tie is out of reach, and yet a place before the limit is theirs
            refine absurd ?_ hties
            obtain ⟨htotal, halerted, hutil, hsid⟩ := candidateKey_eq_iff.mp hkey.symm
            refine ⟨g, hg, h, hh, r, s, hr, hs, hrs, htotal, halerted, hutil, hsid, ?_⟩
            rw [← countP_candidates (rankingOf_keys env db runID)]
            exact (SliceSort.countP_lt_le hsorted hc).trans_lt hi
  · rfl

/-- Orders that bring a rule that can be trimmed to the front of its ties. -/
def envFor (host : Host) (group : List ProtocolAlertRule) (row : ProtocolAlertRule) : IterEnv where
  host := host
  groupOrder := MapOrder.asIs _
  sortGroup := SliceSort.last groupLess_iff row
  sortCandidates := SliceSort.first candidateLess_iff (trimmedOf group row)

@[simp]
theorem envFor_host (host : Host) (group : List ProtocolAlertRule) (row : ProtocolAlertRule) :
    (envFor host group row).host = host := rfl

theorem rankingOf_envFor {host : Host} {db : InstanceDB} {runID : Int}
    {group : String × List ProtocolAlertRule} {row : ProtocolAlertRule}
    (hgroup : group ∈ alertGroups host.lower db runID) (hrow : CanBeTrimmed group.2 row) :
    (rankingOf (envFor host group.2 row) db runID)[rankOf (alertGroups host.lower db runID)
      (candidateKey (trimmedOf group.2 row))]? = some (trimmedOf group.2 row) := by
  have hnodup : group.2.Nodup := List.Nodup.of_map _ (alertGroups_keys hgroup)
  have hmem : trimmedOf group.2 row ∈ candidatesOf (SliceSort.last groupLess_iff row)
      (alertGroups host.lower db runID) :=
    mem_candidatesOf.mpr ⟨group, hgroup, mem_of_canBeTrimmed hnodup hrow⟩
  have hfirst := SliceSort.first_getElem? candidateLess_iff (candidatesOf_nodup _) hmem
  rw [countP_candidates (candidatesOf_keys (.refl _) _)] at hfirst
  exact hfirst

theorem protocolDecision_key (host : Host) (group : List ProtocolAlertRule)
    (row : ProtocolAlertRule) : (protocolDecision host (trimmedOf group row)).key = row.key := by
  rw [protocolDecision]
  rfl

/-- With such a tie two orders give different decisions. -/
theorem tiesInReach_differ {host : Host} {db : InstanceDB} (real : Except String InstanceDB)
    {runID : Int} {factor : ℚ} (hfactor : 0 < factor)
    (hties : TiesInReach host.lower db runID factor) :
    ¬ ∀ env env' : IterEnv, env.host = host → env'.host = host →
      protocolAlertOverlapFunc env ⟨.ok db, real, runID, factor⟩ =
        protocolAlertOverlapFunc env' ⟨.ok db, real, runID, factor⟩ := by
  intro hsame
  obtain ⟨g, hg, h, hh, r, s, hr, hs, hrs, htotal, halerted, hutil, hsid, hreach⟩ := hties
  have hkey : candidateKey (trimmedOf h.2 s) = candidateKey (trimmedOf g.2 r) :=
    candidateKey_eq_iff.mpr ⟨htotal.symm, halerted.symm, hutil.symm, hsid.symm⟩
  have hfirst := rankingOf_envFor hg hr
  have hfirst' := rankingOf_envFor hh hs
  rw [hkey] at hfirst'
  have hlists := hsame (envFor host g.2 r) (envFor host h.2 s) rfl rfl
  rw [protocolAlertOverlapFunc_eq _ db real runID hfactor,
    protocolAlertOverlapFunc_eq _ db real runID hfactor, Except.ok.injEq] at hlists
  have hplace := congrArg
    (·[rankOf (alertGroups host.lower db runID) (candidateKey (trimmedOf g.2 r))]?) hlists
  simp only [List.getElem?_map, List.getElem?_take, envFor_host] at hplace
  rw [if_pos hreach, if_pos hreach, hfirst, hfirst', Option.map_some, Option.map_some,
    Option.some_inj] at hplace
  apply hrs
  apply List.inj_on_of_nodup_map (protocolRows_nodup host.lower db runID)
    (mem_protocolRows_of_group hg hr.2.1).1 (mem_protocolRows_of_group hh hs.2.1).1
  have hkeys : r.key = s.key := by
    rw [← protocolDecision_key host g.2 r, hplace, protocolDecision_key]
  exact hkeys

/-- **Ties decide what is trimmed, if they are in reach.** The decisions are the same for every
order of the map and of the ties if and only if there are none (the factor is not positive, or the
database cannot be read) or no two rules that can be trimmed tie for a place that is returned. -/
theorem protocolAlertOverlap_determined_iff (host : Host) (exp real : Except String InstanceDB)
    (runID : Int) (factor : ℚ) :
    (∀ env env' : IterEnv, env.host = host → env'.host = host →
      protocolAlertOverlapFunc env ⟨exp, real, runID, factor⟩ =
        protocolAlertOverlapFunc env' ⟨exp, real, runID, factor⟩) ↔
      factor ≤ 0 ∨ (∃ e, exp = .error e) ∨
        ∃ db, exp = .ok db ∧ ¬ TiesInReach host.lower db runID factor := by
  constructor
  · intro hsame
    by_cases hfactor : factor ≤ 0
    · exact .inl hfactor
    cases exp with
    | error e => exact .inr (.inl ⟨e, rfl⟩)
    | ok db =>
        refine .inr (.inr ⟨db, rfl, fun hties => ?_⟩)
        exact tiesInReach_differ real (not_le.mp hfactor) hties fun env env' => hsame env env'
  · intro hcond env env' henv henv'
    by_cases hfactor : factor ≤ 0
    · rw [protocolAlertOverlapFunc_of_nonpos env hfactor,
        protocolAlertOverlapFunc_of_nonpos env' hfactor]
    cases exp with
    | error e =>
        rw [protocolAlertOverlapFunc_error env e real runID (not_le.mp hfactor),
          protocolAlertOverlapFunc_error env' e real runID (not_le.mp hfactor)]
    | ok db =>
        have hties : ¬ TiesInReach host.lower db runID factor := by
          rcases hcond with h | ⟨e, he⟩ | ⟨db', hdb, hties⟩
          · exact absurd h hfactor
          · cases he
          · cases hdb
            exact hties
        have hhost : env'.host = env.host := henv'.trans henv.symm
        rw [protocolAlertOverlapFunc_eq env db real runID (not_le.mp hfactor),
          protocolAlertOverlapFunc_eq env' db real runID (not_le.mp hfactor), hhost]
        rw [← henv] at hties
        rw [rankingOf_take_eq hhost hties]

/-! ## Two generators -/

def protocolRule (file : String) (gid sid : Int) : Rule :=
  { loneRule with
    gid := gid, sid := sid, sourceFile := file, rawText := toString gid ++ ":" ++ toString sid }

/-- A rule that only benign flows have alerted. -/
def benignRow (gid sid : Int) (flows : Nat) : RuleFPRow :=
  { runID := 0, gid := gid, sid := sid, rev := 1, sourceFile := "", msg := ""
    alertedFlows := flows, benignAlertedFlows := flows, maliciousAlertedFlows := 0
    unmatchedAlerts := 0, fpRate := 1, utilization := 0 }

def insertRows (rows : List RuleFPRow) : RuleFPTable := rows.foldl Table.insertOrIgnore Table.empty

/-- Two groups alike: one busy rule, and three that have alerted one flow each. A rule of generator
1 in the one and a rule of generator 3 in the other have the sid 5. -/
def twoProtocols : InstanceDB where
  rules := insertRules Table.empty 0
    [protocolRule "snort3-netbios.rules" 1 2, protocolRule "snort3-netbios.rules" 1 8,
     protocolRule "snort3-netbios.rules" 1 9, protocolRule "snort3-netbios.rules" 3 5,
     protocolRule "snort3-x11.rules" 1 1, protocolRule "snort3-x11.rules" 1 5,
     protocolRule "snort3-x11.rules" 1 6, protocolRule "snort3-x11.rules" 1 7]
  ruleFP := insertRows
    [benignRow 1 1 100, benignRow 1 5 1, benignRow 1 6 1, benignRow 1 7 1,
     benignRow 1 2 100, benignRow 3 5 1, benignRow 1 8 1, benignRow 1 9 1]
  profiler := []

def overlapRow (group file : String) (gid sid : Int) (flows : Nat) : ProtocolAlertRule :=
  { scannedRule (protocolRule file gid sid) with
    group := group, alertedFlows := flows, benignAlertedFlows := flows, maliciousAlertedFlows := 0
    fpRate := 1, utilization := 0, groupAlertedFlows := 0, groupKeptRules := 0
    groupCoverageThreshold := 0 }

def netbiosRows (group : String) : List ProtocolAlertRule :=
  [overlapRow group "snort3-netbios.rules" 1 2 100, overlapRow group "snort3-netbios.rules" 1 8 1,
   overlapRow group "snort3-netbios.rules" 1 9 1, overlapRow group "snort3-netbios.rules" 3 5 1]

def x11Rows (group : String) : List ProtocolAlertRule :=
  [overlapRow group "snort3-x11.rules" 1 1 100, overlapRow group "snort3-x11.rules" 1 5 1,
   overlapRow group "snort3-x11.rules" 1 6 1, overlapRow group "snort3-x11.rules" 1 7 1]

theorem twoProtocols_rows : protocolRows plainHost.lower twoProtocols 0 =
    netbiosRows "snort3-netbios.rules" ++ x11Rows "snort3-x11.rules" := by
  have hbase : sourceFileBase plainHost.lower "snort3-netbios.rules" = "snort3-netbios.rules" ∧
      sourceFileBase plainHost.lower "snort3-x11.rules" = "snort3-x11.rules" := by
    decide +kernel
  have hrows : protocolRows plainHost.lower twoProtocols 0 =
      ((netbiosRows (sourceFileBase plainHost.lower "snort3-netbios.rules") ++
        x11Rows (sourceFileBase plainHost.lower "snort3-x11.rules")).insertionSort
          protocolLe).filter fun row => isProtocolGroup row.group := rfl
  rw [hrows, hbase.1, hbase.2]
  have hsort : (netbiosRows "snort3-netbios.rules" ++ x11Rows "snort3-x11.rules").insertionSort
      protocolLe = netbiosRows "snort3-netbios.rules" ++ x11Rows "snort3-x11.rules" := by
    decide +kernel
  rw [hsort, List.filter_eq_self]
  have hgroup : isProtocolGroup "snort3-netbios.rules" ∧ isProtocolGroup "snort3-x11.rules" := by
    decide +kernel
  simp [netbiosRows, x11Rows, overlapRow, hgroup]

theorem twoProtocols_groups : alertGroups plainHost.lower twoProtocols 0 =
    [("snort3-netbios.rules", netbiosRows "snort3-netbios.rules"),
     ("snort3-x11.rules", x11Rows "snort3-x11.rules")] := by
  rw [alertGroups, twoProtocols_rows]
  decide +kernel

def backwards (α : Type) : MapOrder α := ⟨List.reverse, List.reverse_perm⟩

/-- Sorts that keep ties as they are, and some order of the map. -/
def orderEnv (order : MapOrder (String × List ProtocolAlertRule)) : IterEnv where
  host := plainHost
  groupOrder := order
  sortGroup := stableGroup
  sortCandidates := stableCandidates

/-- The rule 3:5 is trimmed if the map is read in one order, and the rule 1:5 if it is read in the
other. -/
theorem twoProtocols_not_determined :
    ¬ ∀ env env' : IterEnv, env.host = plainHost → env'.host = plainHost →
      protocolAlertOverlapFunc env ⟨.ok twoProtocols, .ok twoProtocols, 0, 1 / 2⟩ =
        protocolAlertOverlapFunc env' ⟨.ok twoProtocols, .ok twoProtocols, 0, 1 / 2⟩ := by
  intro hsame
  have hlists := hsame (orderEnv (.asIs _)) (orderEnv (backwards _)) rfl rfl
  rw [protocolAlertOverlapFunc_eq _ _ _ _ (by norm_num),
    protocolAlertOverlapFunc_eq _ _ _ _ (by norm_num), Except.ok.injEq] at hlists
  have hgroups : alertGroups (orderEnv (.asIs _)).host.lower twoProtocols 0 = _ :=
    twoProtocols_groups
  have hgroups' : alertGroups (orderEnv (backwards _)).host.lower twoProtocols 0 = _ :=
    twoProtocols_groups
  simp only [rankingOf, returnedCount] at hlists
  rw [hgroups, hgroups'] at hlists
  have hkeys := congrArg (List.map fun d : TrimDecision => d.key) hlists
  revert hkeys
  decide +kernel

end SnortOptimizer.Analyser
