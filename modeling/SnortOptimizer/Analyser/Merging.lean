import SnortOptimizer.Analyser.Trim

/-!
# The merge as a function of the decisions (`analyser/sql/trim.go`)

`AggregateAndEnrich` builds its entries in a map, through pointers, and reads the map out in no
particular order before it sorts. Each entry is what the decisions about its rule add to it one
after the other (`entry_eq`), and nothing else; everything said about the result follows from that:
what stands in an entry (`Canonical`), that the order of the decisions is of little importance, and
that the order of the maps is of none.
-/

namespace SnortOptimizer.Analyser

open Text

/-- The decisions about a rule. -/
def about (key : Int × Int) (raw : List TrimDecision) : List TrimDecision :=
  raw.filter fun d => d.key = key

/-- The values that are not empty, each once, in the order in which they come first. -/
structure FirstOccurrences (values out : List String) : Prop where
  mem : ∀ x, x ∈ out ↔ x ∈ values ∧ x ≠ ""
  order : out.Pairwise fun a b => values.idxOf a < values.idxOf b

/-- Reading a map. -/
def Metrics.get (m : Metrics) (name : String) : Option ℚ :=
  (m.find? fun e => e.1 = name).map Prod.snd

/-- What an entry has to say, by the decisions about its rule and the stored rule. A text that is
blank counts as none. -/
structure Canonical (t : RuleTable) (runID : Int) (typ : FunctionType) (raw : List TrimDecision)
    (r : TrimmedRule) : Prop where
  reasons : FirstOccurrences ((about r.key raw).map fun d => trimSpace d.reason) r.reasons
  functions : FirstOccurrences ((about r.key raw).map fun d => trimSpace d.function) r.functions
  /-- The last of the values given for a name. -/
  metrics : ∀ name,
    r.metrics.get name = Metrics.get ((about r.key raw).flatMap fun d => d.metrics).reverse name
  first : ∃ d rule, (about r.key raw).head? = some d ∧ rule ∈ listRulesFromDB t runID true ∧
    rule.key = r.key ∧
    (r.rev = if d.rev ≠ 0 then d.rev else rule.rev) ∧
    (r.sourceFile =
      if trimSpace d.sourceFile ≠ "" then d.sourceFile
      else if trimSpace rule.sourceFile ≠ "" then rule.sourceFile else "") ∧
    (r.msg =
      if trimSpace d.msg ≠ "" then d.msg else if trimSpace rule.msg ≠ "" then rule.msg else "")
  run : r.runID = runID ∧ r.type = typ

/-! ## One entry -/

theorem appendUnique_firstOccurrences {values out : List String} (h : FirstOccurrences values out)
    (v : String) : FirstOccurrences (values ++ [v]) (appendUnique out v) := by
  have hidx : ∀ x ∈ out, (values ++ [v]).idxOf x = values.idxOf x := fun x hx =>
    List.idxOf_append_of_mem ((h.mem x).mp hx).1
  have horder : out.Pairwise fun a b => (values ++ [v]).idxOf a < (values ++ [v]).idxOf b := by
    refine h.order.imp_of_mem ?_
    intro a b ha hb hab
    rwa [hidx a ha, hidx b hb]
  unfold appendUnique
  split
  · next hskip =>
      refine ⟨fun x => ?_, horder⟩
      rw [h.mem, List.mem_append, List.mem_singleton, or_and_right]
      constructor
      · exact .inl
      · rintro (hx | ⟨rfl, hx⟩)
        · exact hx
        · rcases hskip with hempty | hmem
          · exact absurd hempty hx
          · exact (h.mem x).mp hmem
  · next hnew =>
      rw [not_or] at hnew
      refine ⟨fun x => ?_, ?_⟩
      · rw [List.mem_append, List.mem_append, h.mem, List.mem_singleton, or_and_right]
        refine or_congr_right ?_
        constructor
        · rintro rfl
          exact ⟨rfl, hnew.1⟩
        · exact fun hx => hx.1
      · rw [List.pairwise_append]
        refine ⟨horder, List.pairwise_singleton _ _, ?_⟩
        intro a ha b hb
        rw [List.mem_singleton.mp hb, hidx a ha]
        have hfresh : v ∉ values := fun hv => hnew.2 ((h.mem v).mpr ⟨hv, hnew.1⟩)
        have hlt : values.idxOf a < values.length := List.idxOf_lt_length_of_mem ((h.mem a).mp ha).1
        rw [List.idxOf_append_of_notMem hfresh]
        omega

theorem foldl_appendUnique_firstOccurrences (values : List String) :
    FirstOccurrences values (values.foldl appendUnique []) := by
  induction values using List.reverseRecOn with
  | nil => exact ⟨by simp, .nil⟩
  | append_singleton values v ih =>
      rw [List.foldl_append]
      exact appendUnique_firstOccurrences ih v

@[simp]
theorem TrimmedRule.add_reasons (r : TrimmedRule) (d : TrimDecision) :
    (r.add d).reasons = appendUnique r.reasons (trimSpace d.reason) := by
  rw [TrimmedRule.add]

@[simp]
theorem TrimmedRule.add_functions (r : TrimmedRule) (d : TrimDecision) :
    (r.add d).functions = appendUnique r.functions (trimSpace d.function) := by
  rw [TrimmedRule.add]

@[simp]
theorem TrimmedRule.add_metrics (r : TrimmedRule) (d : TrimDecision) :
    (r.add d).metrics = d.metrics.foldl Metrics.set r.metrics := by
  rw [TrimmedRule.add]

theorem foldl_add_reasons (ds : List TrimDecision) (r : TrimmedRule) :
    (ds.foldl TrimmedRule.add r).reasons =
      (ds.map fun d => trimSpace d.reason).foldl appendUnique r.reasons := by
  induction ds generalizing r with
  | nil => rfl
  | cons d ds ih => simp only [List.foldl_cons, List.map_cons, ih, TrimmedRule.add_reasons]

theorem foldl_add_functions (ds : List TrimDecision) (r : TrimmedRule) :
    (ds.foldl TrimmedRule.add r).functions =
      (ds.map fun d => trimSpace d.function).foldl appendUnique r.functions := by
  induction ds generalizing r with
  | nil => rfl
  | cons d ds ih => simp only [List.foldl_cons, List.map_cons, ih, TrimmedRule.add_functions]

theorem foldl_add_metrics (ds : List TrimDecision) (r : TrimmedRule) :
    (ds.foldl TrimmedRule.add r).metrics =
      (ds.flatMap fun d => d.metrics).foldl Metrics.set r.metrics := by
  induction ds generalizing r with
  | nil => rfl
  | cons d ds ih =>
      simp only [List.flatMap_cons, List.foldl_append, List.foldl_cons, ih, TrimmedRule.add_metrics]

/-- Adding leaves the rest of an entry as it is. -/
theorem foldl_add_rest (ds : List TrimDecision) (r : TrimmedRule) :
    ds.foldl TrimmedRule.add r =
      { r with
        reasons := (ds.foldl TrimmedRule.add r).reasons
        functions := (ds.foldl TrimmedRule.add r).functions
        metrics := (ds.foldl TrimmedRule.add r).metrics } := by
  induction ds generalizing r with
  | nil => rfl
  | cons d ds ih =>
      rw [List.foldl_cons]
      refine (ih (r.add d)).trans ?_
      simp only [TrimmedRule.add]

/-! ## Metrics -/

theorem Metrics.get_cons (x : String × ℚ) (m : Metrics) (name : String) :
    Metrics.get (x :: m) name = if x.1 = name then some x.2 else m.get name := by
  by_cases h : x.1 = name <;> simp [Metrics.get, h]

/-- Replacing the values of one name does not touch the others. -/
theorem Metrics.get_replace {e : String × ℚ} {name : String} (h : e.1 ≠ name) (m : Metrics) :
    Metrics.get (m.map fun x => if x.1 = e.1 then e else x) name = m.get name := by
  induction m with
  | nil => rfl
  | cons x m ih =>
      rw [List.map_cons, Metrics.get_cons, Metrics.get_cons, ih]
      by_cases hx : x.1 = e.1
      · rw [if_pos hx, if_neg h, hx, if_neg h]
      · rw [if_neg hx]

theorem Metrics.get_set (m : Metrics) (e : String × ℚ) (name : String) :
    (m.set e).get name = if e.1 = name then some e.2 else m.get name := by
  induction m with
  | nil => rw [← Metrics.get_cons]; rfl
  | cons x m ih =>
      by_cases hx : x.1 = e.1
      · have hset : Metrics.set (x :: m) e = e :: m.map fun x => if x.1 = e.1 then e else x := by
          simp [Metrics.set, hx]
        rw [hset, Metrics.get_cons, Metrics.get_cons]
        by_cases hname : e.1 = name
        · rw [if_pos hname, if_pos hname]
        · rw [if_neg hname, if_neg hname, Metrics.get_replace hname, hx, if_neg hname]
      · have hset : Metrics.set (x :: m) e = x :: Metrics.set m e := by
          unfold Metrics.set
          simp only [List.any_cons, hx, decide_false, Bool.false_or]
          split <;> simp [hx]
        rw [hset, Metrics.get_cons, ih, Metrics.get_cons]
        by_cases hname : x.1 = name
        · have hne : e.1 ≠ name := fun h => hx (hname.trans h.symm)
          rw [if_pos hname, if_neg hne, if_pos hname]
        · rw [if_neg hname, if_neg hname]

/-- Of several values written for a name the last one stays. -/
theorem Metrics.get_foldl_set (entries m : Metrics) (name : String) :
    Metrics.get (entries.foldl Metrics.set m) name =
      (Metrics.get entries.reverse name).or (m.get name) := by
  induction entries using List.reverseRecOn with
  | nil => rfl
  | append_singleton entries e ih =>
      rw [List.foldl_append, List.foldl_cons, List.foldl_nil, Metrics.get_set, ih,
        List.reverse_append, List.reverse_singleton, List.singleton_append, Metrics.get_cons]
      by_cases h : e.1 = name
      · rw [if_pos h, if_pos h, Option.some_or]
      · rw [if_neg h, if_neg h]

/-! ## The entries of the map -/

variable {enabled : String → Option Rule} {runID : Int} {typ : FunctionType}

/-- The entry is what the decisions about its rule made of it. -/
def EntryOf (enabled : String → Option Rule) (runID : Int) (typ : FunctionType)
    (raw : List TrimDecision) (r : TrimmedRule) : Prop :=
  ∃ d ds rule, about r.key raw = d :: ds ∧ enabled (ruleKey r.gid r.sid) = some rule ∧
    r = (d :: ds).foldl TrimmedRule.add (newTrimmed d rule runID typ)

theorem ruleKey_eq_iff {a b : RuleRef} :
    ruleKey a.gid a.sid = ruleKey b.gid b.sid ↔ a.key = b.key := by
  constructor
  · intro h
    obtain ⟨hgid, hsid⟩ := ruleKey_inj h
    exact Prod.ext hgid hsid
  · intro h
    obtain ⟨hgid, hsid⟩ := Prod.mk.inj h
    rw [hgid, hsid]

theorem about_append (key : Int × Int) (raw : List TrimDecision) (d : TrimDecision) :
    about key (raw ++ [d]) = if d.key = key then about key raw ++ [d] else about key raw := by
  unfold about
  rw [List.filter_append]
  split
  · next h => simp [h]
  · next h => simp [h]

theorem EntryOf.keep {raw : List TrimDecision} {r : TrimmedRule} {d : TrimDecision}
    (h : EntryOf enabled runID typ raw r) (hne : d.key ≠ r.key) :
    EntryOf enabled runID typ (raw ++ [d]) r := by
  obtain ⟨first, ds, rule, habout, hrule, hr⟩ := h
  refine ⟨first, ds, rule, ?_, hrule, hr⟩
  rw [about_append, if_neg hne, habout]

theorem EntryOf.add {raw : List TrimDecision} {r : TrimmedRule} {d : TrimDecision}
    (h : EntryOf enabled runID typ raw r) (heq : d.key = r.key) :
    EntryOf enabled runID typ (raw ++ [d]) (r.add d) := by
  obtain ⟨first, ds, rule, habout, hrule, hr⟩ := h
  refine ⟨first, ds ++ [d], rule, ?_, ?_, ?_⟩
  · have hkey : (r.add d).key = r.key := by rw [TrimmedRule.add]
    rw [about_append, hkey, if_pos heq, habout, List.cons_append]
  · rw [TrimmedRule.add]
    exact hrule
  · rw [← List.cons_append, List.foldl_append, ← hr]
    rfl

theorem entryOf_new {raw : List TrimDecision} {d : TrimDecision} {rule : Rule}
    (hnone : about d.key raw = []) (hrule : enabled (ruleKey d.gid d.sid) = some rule) :
    EntryOf enabled runID typ (raw ++ [d]) ((newTrimmed d rule runID typ).add d) := by
  refine ⟨d, [], rule, ?_, hrule, rfl⟩
  have hkey : ((newTrimmed d rule runID typ).add d).key = d.key := rfl
  rw [about_append, hkey, if_pos rfl, hnone, List.nil_append]

/-- **One decision** leaves every entry what the decisions so far made of it. -/
theorem mergeDecision_entries {raw : List TrimDecision} {d : TrimDecision}
    (h : ∀ e ∈ raw.foldl (mergeDecision enabled runID typ) [], EntryOf enabled runID typ raw e.2) :
    ∀ e ∈ (raw ++ [d]).foldl (mergeDecision enabled runID typ) [],
      EntryOf enabled runID typ (raw ++ [d]) e.2 := by
  have hm : Merged enabled (raw.foldl (mergeDecision enabled runID typ) []) :=
    foldl_mergeDecision_merged runID typ
      ⟨List.nodup_nil, fun e he => absurd he List.not_mem_nil,
        fun e he => absurd he List.not_mem_nil⟩
  have hmem := @mem_foldl_mergeDecision enabled [] runID typ raw (ruleKey d.gid d.sid)
  rw [List.foldl_append, List.foldl_cons, List.foldl_nil]
  generalize raw.foldl (mergeDecision enabled runID typ) [] = merged at h hm hmem ⊢
  have hother : ∀ e ∈ merged, e.1 ≠ ruleKey d.gid d.sid →
      EntryOf enabled runID typ (raw ++ [d]) e.2 := by
    intro e he hne
    apply (h e he).keep
    intro hkey
    exact hne ((hm.key e he).trans (ruleKey_eq_iff.mpr hkey.symm))
  have hsame : ∀ e ∈ merged, e.1 = ruleKey d.gid d.sid →
      EntryOf enabled runID typ (raw ++ [d]) (e.2.add d) := by
    intro e he heq
    apply (h e he).add
    exact ruleKey_eq_iff.mp (heq.symm.trans (hm.key e he))
  unfold mergeDecision
  dsimp only
  cases hrule : enabled (ruleKey d.gid d.sid) with
  | none =>
      intro e he
      refine hother e he fun heq => ?_
      have hsome := hm.enabled e he
      rw [heq, hrule] at hsome
      cases hsome
  | some rule =>
      intro e' he'
      obtain ⟨e, he, rfl⟩ := List.mem_map.mp he'
      -- the entry was there before, or the decision is the first about its rule
      have hcases : e ∈ merged ∨
          (e = (ruleKey d.gid d.sid, newTrimmed d rule runID typ) ∧ about d.key raw = []) := by
        split at he
        · exact .inl he
        · next hnew =>
            rcases List.mem_append.mp he with he | he
            · exact .inl he
            · refine .inr ⟨List.mem_singleton.mp he, ?_⟩
              rw [about, List.filter_eq_nil_iff]
              intro d' hd' hkey
              have hkey : ruleKey d'.gid d'.sid = ruleKey d.gid d.sid :=
                ruleKey_eq_iff.mpr (of_decide_eq_true hkey)
              obtain ⟨x, hx, hxkey⟩ := List.mem_map.mp
                (hmem.mpr (.inr ⟨⟨d', hd', hkey⟩, by rw [hrule]; rfl⟩))
              exact hnew (List.any_eq_true.mpr ⟨x, hx, decide_eq_true hxkey⟩)
      by_cases heq : e.1 = ruleKey d.gid d.sid
      · rw [if_pos heq]
        rcases hcases with he | ⟨rfl, hnone⟩
        · exact hsame e he heq
        · exact entryOf_new hnone hrule
      · rw [if_neg heq]
        rcases hcases with he | ⟨rfl, _⟩
        · exact hother e he heq
        · exact absurd rfl heq

theorem foldl_mergeDecision_entries (raw : List TrimDecision) :
    ∀ e ∈ raw.foldl (mergeDecision enabled runID typ) [], EntryOf enabled runID typ raw e.2 := by
  induction raw using List.reverseRecOn with
  | nil => exact fun e he => absurd he List.not_mem_nil
  | append_singleton raw d ih => exact mergeDecision_entries ih

/-! ## The result -/

variable {t : RuleTable} {raw raw' : List TrimDecision}

/-- The map that `AggregateAndEnrich` reads out. -/
def mergedEntries (t : RuleTable) (runID : Int) (typ : FunctionType) (raw : List TrimDecision) :
    List (String × TrimmedRule) :=
  raw.foldl (mergeDecision (enabledRuleMap t runID) runID typ) []

theorem aggregateAndEnrich_eq (t : RuleTable) (runID : Int) (typ : FunctionType)
    (raw : List TrimDecision) :
    aggregateAndEnrich t runID typ raw =
      ((mergedEntries t runID typ raw).map Prod.snd).insertionSort
        fun a b => keyLe a.key b.key := by
  unfold aggregateAndEnrich
  split
  · next h => rw [h]; rfl
  · rfl

/-- **Each entry** is what the decisions about its rule made of it. -/
theorem entry_eq {r : TrimmedRule} (hr : r ∈ aggregateAndEnrich t runID typ raw) :
    EntryOf (enabledRuleMap t runID) runID typ raw r := by
  rw [aggregateAndEnrich_eq, List.mem_insertionSort] at hr
  obtain ⟨e, he, rfl⟩ := List.mem_map.mp hr
  exact foldl_mergeDecision_entries raw e he

theorem firstNonEmpty_pair (a b : String) :
    firstNonEmpty [a, b] =
      if trimSpace a ≠ "" then a else if trimSpace b ≠ "" then b else "" := by
  by_cases ha : trimSpace a = "" <;> by_cases hb : trimSpace b = "" <;>
    simp [firstNonEmpty, ha, hb]

theorem EntryOf.canonical {r : TrimmedRule}
    (h : EntryOf (enabledRuleMap t runID) runID typ raw r) : Canonical t runID typ raw r := by
  obtain ⟨d, ds, rule, habout, hrule, hr⟩ := h
  have hrest := foldl_add_rest (d :: ds) (newTrimmed d rule runID typ)
  rw [← hr] at hrest
  refine ⟨?_, ?_, ?_, ?_, ?_⟩
  · rw [habout, hr, foldl_add_reasons]
    exact foldl_appendUnique_firstOccurrences _
  · rw [habout, hr, foldl_add_functions]
    exact foldl_appendUnique_firstOccurrences _
  · intro name
    rw [habout, hr, foldl_add_metrics, Metrics.get_foldl_set]
    exact Option.or_none
  · have hstored : rule ∈ listRulesFromDB t runID true ∧
        ruleKey rule.gid rule.sid = ruleKey r.gid r.sid := by
      rcases foldl_update_eq_some hrule with h | h
      · exact h
      · cases h
    refine ⟨d, rule, by rw [habout]; rfl, hstored.1, ?_, ?_, ?_, ?_⟩
    · obtain ⟨hgid, hsid⟩ := ruleKey_inj hstored.2
      exact Prod.ext hgid hsid
    · rw [hrest]
      rfl
    · have hsource : r.sourceFile = firstNonEmpty [d.sourceFile, rule.sourceFile] := by
        rw [hrest, newTrimmed]
      rw [hsource, firstNonEmpty_pair]
    · have hmsg : r.msg = firstNonEmpty [d.msg, rule.msg] := by
        rw [hrest, newTrimmed]
      rw [hmsg, firstNonEmpty_pair]
  · rw [hrest]
    exact ⟨rfl, rfl⟩

theorem keyLe_antisymm {a b : Int × Int} (hab : keyLe a b) (hba : keyLe b a) : a = b := by
  unfold keyLe at hab hba
  have h : a.1 = b.1 ∧ a.2 = b.2 := by omega
  exact Prod.ext h.1 h.2

theorem aggregateAndEnrich_sorted (t : RuleTable) (runID : Int) (typ : FunctionType)
    (raw : List TrimDecision) :
    (aggregateAndEnrich t runID typ raw).Pairwise fun a b => keyLe a.key b.key := by
  have htotal : Std.Total fun a b : TrimmedRule => keyLe a.key b.key := ⟨by unfold keyLe; omega⟩
  have htrans : IsTrans TrimmedRule fun a b => keyLe a.key b.key := ⟨by unfold keyLe; omega⟩
  rw [aggregateAndEnrich_eq]
  exact List.pairwise_insertionSort _ _

/-- However the map is read out and sorted, the result is the same: no two entries have one key. -/
theorem eq_aggregateAndEnrich_of_sorted {out : List TrimmedRule}
    (hperm : out.Perm ((mergedEntries t runID typ raw).map Prod.snd))
    (hsorted : out.Pairwise fun a b => keyLe a.key b.key) :
    out = aggregateAndEnrich t runID typ raw := by
  have hperm' : out.Perm (aggregateAndEnrich t runID typ raw) := by
    rw [aggregateAndEnrich_eq]
    exact hperm.trans (List.perm_insertionSort _ _).symm
  refine hperm'.eq_of_pairwise ?_ hsorted (aggregateAndEnrich_sorted t runID typ raw)
  intro a b ha hb hab hba
  have hkeys := (aggregateAndEnrich_keys t runID typ raw).1
  exact List.inj_on_of_nodup_map hkeys (hperm'.mem_iff.mp ha) hb (keyLe_antisymm hab hba)

/-- The keys are those of the decisions about enabled rules, in order. -/
theorem aggregateAndEnrich_keys_congr (h : ∀ key, key ∈ raw'.map (fun d => d.key) ↔
      key ∈ raw.map fun d => d.key) :
    (aggregateAndEnrich t runID typ raw').map (fun r => r.key) =
      (aggregateAndEnrich t runID typ raw).map fun r => r.key := by
  refine List.Perm.eq_of_pairwise (fun a b _ _ => keyLe_antisymm) ?_ ?_ ?_
  · exact List.pairwise_map.mpr (aggregateAndEnrich_sorted t runID typ raw')
  · exact List.pairwise_map.mpr (aggregateAndEnrich_sorted t runID typ raw)
  · rw [List.perm_ext_iff_of_nodup (aggregateAndEnrich_keys t runID typ raw').1
      (aggregateAndEnrich_keys t runID typ raw).1]
    intro key
    rw [mem_aggregateAndEnrich, mem_aggregateAndEnrich, h]

/-! ## The order of the metrics

A decision's metrics are a map, so its names are different from one another, and they are copied in
no particular order. -/

/-- The same decision, with its metrics in another order. -/
structure SameDecision (d d' : TrimDecision) : Prop where
  rest : d' = { d with metrics := d'.metrics }
  perm : d'.metrics.Perm d.metrics
  nodup : (d.metrics.map Prod.fst).Nodup

/-- The same entry, with the same metrics as a map. -/
structure SameEntry (r r' : TrimmedRule) : Prop where
  rest : r' = { r with metrics := r'.metrics }
  metrics : ∀ name, r'.metrics.get name = r.metrics.get name

theorem Metrics.get_eq_some_iff {m : Metrics} (h : (m.map Prod.fst).Nodup) {name : String} {v : ℚ} :
    m.get name = some v ↔ (name, v) ∈ m := by
  induction m with
  | nil => simp [Metrics.get]
  | cons x m ih =>
      rw [List.map_cons, List.nodup_cons] at h
      rw [Metrics.get_cons, List.mem_cons, ← ih h.2]
      by_cases hx : x.1 = name
      · have hnone : Metrics.get m name ≠ some v := by
          intro hv
          exact h.1 (List.mem_map.mpr ⟨(name, v), (ih h.2).mp hv, hx.symm⟩)
        rw [if_pos hx, or_iff_left hnone, Option.some_inj, ← hx]
        constructor
        · rintro rfl
          rfl
        · intro heq
          rw [← heq]
      · rw [if_neg hx, or_iff_right fun heq => hx (congrArg Prod.fst heq).symm]

theorem Metrics.get_perm {m m' : Metrics} (hperm : m'.Perm m) (h : (m.map Prod.fst).Nodup)
    (name : String) : m'.get name = m.get name := by
  have h' : (m'.map Prod.fst).Nodup := (hperm.map Prod.fst).nodup_iff.mpr h
  apply Option.ext
  intro v
  rw [Metrics.get_eq_some_iff h', Metrics.get_eq_some_iff h, hperm.mem_iff]

theorem Metrics.get_append (m m' : Metrics) (name : String) :
    Metrics.get (m ++ m') name = (m.get name).or (m'.get name) := by
  rw [Metrics.get, List.find?_append, Option.map_or]
  rfl

theorem SameDecision.get_reverse {d d' : TrimDecision} (h : SameDecision d d') (name : String) :
    Metrics.get d'.metrics.reverse name = Metrics.get d.metrics.reverse name := by
  apply Metrics.get_perm
  · exact (List.reverse_perm _).trans (h.perm.trans (List.reverse_perm _).symm)
  · rw [List.map_reverse, List.nodup_reverse]
    exact h.nodup

theorem get_flatMap_congr {ds ds' : List TrimDecision} (h : List.Forall₂ SameDecision ds ds')
    (name : String) : Metrics.get (ds'.flatMap fun d => d.metrics).reverse name =
      Metrics.get (ds.flatMap fun d => d.metrics).reverse name := by
  induction h with
  | nil => rfl
  | cons hd _ ih =>
      rw [List.flatMap_cons, List.flatMap_cons, List.reverse_append, List.reverse_append,
        Metrics.get_append, Metrics.get_append, ih, hd.get_reverse]

theorem map_congr_of_sameDecision {β : Type} {f : TrimDecision → β} {ds ds' : List TrimDecision}
    (h : List.Forall₂ SameDecision ds ds')
    (hf : ∀ (d : TrimDecision) (m : Metrics), f { d with metrics := m } = f d) :
    ds'.map f = ds.map f := by
  induction h with
  | nil => rfl
  | cons hd _ ih => rw [List.map_cons, List.map_cons, ih, hd.rest, hf]

theorem about_sameDecision (h : List.Forall₂ SameDecision raw raw') (key : Int × Int) :
    List.Forall₂ SameDecision (about key raw) (about key raw') := by
  induction h with
  | nil => exact .nil
  | @cons d d' raw raw' hd _ ih =>
      have hkey : d'.key = d.key := by rw [hd.rest]
      unfold about at ih ⊢
      rw [List.filter_cons, List.filter_cons, hkey]
      split
      · exact .cons hd ih
      · exact ih

theorem EntryOf.sameEntry {r r' : TrimmedRule} (h : EntryOf enabled runID typ raw r)
    (h' : EntryOf enabled runID typ raw' r') (hraw : List.Forall₂ SameDecision raw raw')
    (hkey : r.key = r'.key) : SameEntry r r' := by
  obtain ⟨d, ds, rule, habout, hrule, hr⟩ := h
  obtain ⟨d', ds', rule', habout', hrule', hr'⟩ := h'
  have hsame := about_sameDecision hraw r.key
  rw [habout, hkey, habout'] at hsame
  rw [ruleKey_eq_iff.mpr hkey, hrule'] at hrule
  cases hrule
  have hnew : newTrimmed d' rule runID typ = newTrimmed d rule runID typ := by
    cases hsame with
    | cons hd _ => rw [hd.rest]; rfl
  have hreasons := map_congr_of_sameDecision (f := fun d => trimSpace d.reason) hsame
    fun _ _ => rfl
  have hfunctions := map_congr_of_sameDecision (f := fun d => trimSpace d.function) hsame
    fun _ _ => rfl
  refine ⟨?_, fun name => ?_⟩
  · rw [hr, hr', foldl_add_rest (d' :: ds'), foldl_add_rest (d :: ds), foldl_add_reasons,
      foldl_add_reasons, foldl_add_functions, foldl_add_functions, hreasons, hfunctions, hnew]
  · rw [hr, hr', foldl_add_metrics, foldl_add_metrics, Metrics.get_foldl_set,
      Metrics.get_foldl_set, get_flatMap_congr hsame, hnew]

theorem forall₂_of_keys {out out' : List TrimmedRule}
    (hkeys : out'.map (fun r => r.key) = out.map fun r => r.key)
    (h : ∀ r ∈ out, ∀ r' ∈ out', r.key = r'.key → SameEntry r r') :
    List.Forall₂ SameEntry out out' := by
  induction out generalizing out' with
  | nil =>
      rw [List.map_nil, List.map_eq_nil_iff] at hkeys
      rw [hkeys]
      exact .nil
  | cons r out ih =>
      obtain ⟨r', rest, rfl, hkey, hrest⟩ := List.map_eq_cons_iff.mp hkeys
      refine .cons (h r List.mem_cons_self r' List.mem_cons_self hkey.symm) (ih hrest ?_)
      exact fun a ha b hb => h a (List.mem_cons_of_mem _ ha) b (List.mem_cons_of_mem _ hb)

/-- **The merge is canonical.** The keys increase strictly, they are those of the decisions about
enabled rules, and each entry is made of the decisions about its rule. The order of the decisions
has no influence on the keys and on what stands among the reasons and functions, the order in which
the maps are read none at all. -/
theorem aggregateAndEnrich_canonical (t : RuleTable) (runID : Int) (typ : FunctionType)
    (raw : List TrimDecision) :
    let out := aggregateAndEnrich t runID typ raw
    (out.Pairwise fun a b => a.gid < b.gid ∨ (a.gid = b.gid ∧ a.sid < b.sid)) ∧
    (∀ key, key ∈ out.map (fun r => r.key) ↔
      key ∈ raw.map (fun d => d.key) ∧ key ∈ enabledSet t runID) ∧
    (∀ r ∈ out, Canonical t runID typ raw r) ∧
    (∀ raw', raw'.Perm raw →
      (aggregateAndEnrich t runID typ raw').map (fun r => r.key) = out.map (fun r => r.key) ∧
      ∀ r ∈ out, ∀ r' ∈ aggregateAndEnrich t runID typ raw', r'.key = r.key →
        (∀ x, x ∈ r'.reasons ↔ x ∈ r.reasons) ∧ ∀ x, x ∈ r'.functions ↔ x ∈ r.functions) ∧
    (∀ (entries : List (String × TrimmedRule)) (sorted : List TrimmedRule),
      entries.Perm (mergedEntries t runID typ raw) → sorted.Perm (entries.map Prod.snd) →
        (sorted.Pairwise fun a b => keyLe a.key b.key) → sorted = out) ∧
    ∀ raw', List.Forall₂ SameDecision raw raw' →
      List.Forall₂ SameEntry out (aggregateAndEnrich t runID typ raw') := by
  intro out
  refine ⟨?_, mem_aggregateAndEnrich t runID typ raw, fun r hr => (entry_eq hr).canonical, ?_, ?_,
    ?_⟩
  · have hkeys := List.pairwise_map.mp (aggregateAndEnrich_keys t runID typ raw).1
    refine ((aggregateAndEnrich_sorted t runID typ raw).and hkeys).imp ?_
    rintro a b ⟨hle, hne⟩
    rcases hle with hlt | ⟨hgid, hsid⟩
    · exact .inl hlt
    · have hne : b.sid ≠ a.sid := fun heq => hne (Prod.ext hgid heq.symm)
      exact .inr ⟨hgid, lt_of_le_of_ne hsid hne.symm⟩
  · intro raw' hperm
    refine ⟨aggregateAndEnrich_keys_congr fun key => (hperm.map _).mem_iff, ?_⟩
    intro r hr r' hr' hkey
    have hr := (entry_eq hr).canonical
    have hr' := (entry_eq hr').canonical
    have habout : (about r'.key raw').Perm (about r.key raw) := by
      rw [hkey]
      exact hperm.filter _
    refine ⟨fun x => ?_, fun x => ?_⟩
    · rw [hr'.reasons.mem, hr.reasons.mem, (habout.map _).mem_iff]
    · rw [hr'.functions.mem, hr.functions.mem, (habout.map _).mem_iff]
  · intro entries sorted hentries hsorted hpairwise
    exact eq_aggregateAndEnrich_of_sorted (hsorted.trans (hentries.map _)) hpairwise
  · intro raw' hraw
    apply forall₂_of_keys
    · apply aggregateAndEnrich_keys_congr
      intro key
      rw [map_congr_of_sameDecision hraw fun _ _ => rfl]
    · intro r hr r' hr' hkey
      exact (entry_eq hr).sameEntry (entry_eq hr') hraw hkey

end SnortOptimizer.Analyser
