import SnortOptimizer.Analyser.Rules

/-!
# Merging trim decisions (`analyser/sql/trim.go`)

Trim functions return decisions: rules to switch off, with reasons. `AggregateAndEnrich` drops the
decisions about rules that are not enabled in the run, merges the rest into one entry for each rule
and fills in what the decisions leave out from the rules table. Whatever the functions return, the
result names each rule once and only enabled ones (`aggregateAndEnrich_keys`).
-/

namespace SnortOptimizer.Analyser

open Text

inductive FunctionType where
  | SAFE
  | ITER
  deriving DecidableEq, Repr

abbrev Metrics := List (String × ℚ)

structure TrimDecision extends RuleRef where
  sourceFile : String
  msg : String
  reason : String
  function : String
  type : FunctionType
  metrics : Metrics
  deriving DecidableEq

structure TrimmedRule extends RuleRef where
  sourceFile : String
  msg : String
  reasons : List String
  functions : List String
  runID : Int
  type : FunctionType
  metrics : Metrics
  deriving DecidableEq

def chooseRev (candidate fallback : Int) : Int := if candidate ≠ 0 then candidate else fallback

def firstNonEmpty (values : List String) : String :=
  (values.find? fun v => trimSpace v ≠ "").getD ""

def appendUnique (values : List String) (value : String) : List String :=
  if value = "" ∨ value ∈ values then values else values ++ [value]

/-- Writing to a map. -/
def Metrics.set (m : Metrics) (entry : String × ℚ) : Metrics :=
  if m.any (·.1 = entry.1) then m.map fun e => if e.1 = entry.1 then entry else e else m ++ [entry]

/-- The entry a first decision about a rule creates. -/
def newTrimmed (d : TrimDecision) (rule : Rule) (runID : Int) (typ : FunctionType) : TrimmedRule :=
  { gid := d.gid, sid := d.sid, rev := chooseRev d.rev rule.rev
    sourceFile := firstNonEmpty [d.sourceFile, rule.sourceFile]
    msg := firstNonEmpty [d.msg, rule.msg]
    reasons := [], functions := [], runID := runID, type := typ, metrics := [] }

/-- What every decision about a rule adds to its entry. -/
def TrimmedRule.add (current : TrimmedRule) (d : TrimDecision) : TrimmedRule :=
  { current with
    reasons := appendUnique current.reasons (trimSpace d.reason)
    functions := appendUnique current.functions (trimSpace d.function)
    metrics := d.metrics.foldl Metrics.set current.metrics }

/-- One decision in the loop of `AggregateAndEnrich`; the map is kept as a list of its entries. -/
def mergeDecision (enabled : String → Option Rule) (runID : Int) (typ : FunctionType)
    (merged : List (String × TrimmedRule)) (d : TrimDecision) : List (String × TrimmedRule) :=
  let key := ruleKey d.gid d.sid
  match enabled key with
  | none => merged
  | some rule =>
      let merged :=
        if merged.any (·.1 = key) then merged
        else merged ++ [(key, newTrimmed d rule runID typ)]
      merged.map fun e => if e.1 = key then (e.1, e.2.add d) else e

def aggregateAndEnrich (t : RuleTable) (runID : Int) (typ : FunctionType)
    (raw : List TrimDecision) : List TrimmedRule :=
  if raw = [] then []
  else
    ((raw.foldl (mergeDecision (enabledRuleMap t runID) runID typ) []).map Prod.snd).insertionSort
      fun a b => keyLe a.key b.key

/-! ## Each rule once, and only enabled ones -/

/-- The entries stand under the keys of their rules, each key once, and the rules are enabled. -/
structure Merged (enabled : String → Option Rule) (merged : List (String × TrimmedRule)) :
    Prop where
  nodup : (merged.map Prod.fst).Nodup
  key : ∀ e ∈ merged, e.1 = ruleKey e.2.gid e.2.sid
  enabled : ∀ e ∈ merged, (enabled e.1).isSome = true

variable {enabled : String → Option Rule} {merged : List (String × TrimmedRule)}

theorem Merged.append (h : Merged enabled merged) {e : String × TrimmedRule}
    (hnew : merged.any (·.1 = e.1) = false) (hkey : e.1 = ruleKey e.2.gid e.2.sid)
    (hen : (enabled e.1).isSome = true) : Merged enabled (merged ++ [e]) := by
  refine ⟨?_, ?_, ?_⟩
  · rw [List.map_append, List.nodup_append]
    refine ⟨h.nodup, by simp, ?_⟩
    rintro k hk k' hk' rfl
    rw [List.map_singleton, List.mem_singleton] at hk'
    obtain ⟨x, hx, hxk⟩ := List.mem_map.mp hk
    rw [List.any_eq_false] at hnew
    exact hnew x hx (by simp [hxk, hk'])
  · intro x hx
    rcases List.mem_append.mp hx with hx | hx
    · exact h.key x hx
    · rw [List.mem_singleton.mp hx]
      exact hkey
  · intro x hx
    rcases List.mem_append.mp hx with hx | hx
    · exact h.enabled x hx
    · rw [List.mem_singleton.mp hx]
      exact hen

/-- Adding to an entry changes neither its key nor its rule. -/
theorem Merged.map_add (h : Merged enabled merged) (key : String) (d : TrimDecision) :
    Merged enabled (merged.map fun e => if e.1 = key then (e.1, e.2.add d) else e) := by
  have hfst : ∀ e : String × TrimmedRule,
      (if e.1 = key then (e.1, e.2.add d) else e).1 = e.1 := by
    intro e
    split <;> rfl
  refine ⟨?_, ?_, ?_⟩
  · rw [List.map_map]
    have hkeys : merged.map (Prod.fst ∘ fun e => if e.1 = key then (e.1, e.2.add d) else e) =
        merged.map Prod.fst := List.map_congr_left fun e _ => hfst e
    rw [hkeys]
    exact h.nodup
  · intro x hx
    obtain ⟨e, he, rfl⟩ := List.mem_map.mp hx
    have hkey := h.key e he
    split <;> exact hkey
  · intro x hx
    obtain ⟨e, he, rfl⟩ := List.mem_map.mp hx
    rw [hfst e]
    exact h.enabled e he

theorem mergeDecision_merged (h : Merged enabled merged) (runID : Int) (typ : FunctionType)
    (d : TrimDecision) : Merged enabled (mergeDecision enabled runID typ merged d) := by
  unfold mergeDecision
  dsimp only
  split
  · exact h
  · next rule hrule =>
      apply Merged.map_add
      split
      · exact h
      · next hnew => exact h.append ((Bool.not_eq_true _).mp hnew) rfl (by rw [hrule]; rfl)

theorem foldl_mergeDecision_merged (runID : Int) (typ : FunctionType) {raw : List TrimDecision}
    (h : Merged enabled merged) :
    Merged enabled (raw.foldl (mergeDecision enabled runID typ) merged) := by
  induction raw generalizing merged with
  | nil => exact h
  | cons d raw ih =>
      rw [List.foldl_cons]
      apply ih
      exact mergeDecision_merged h runID typ d

theorem merged_decisions (t : RuleTable) (runID : Int) (typ : FunctionType)
    (raw : List TrimDecision) : Merged (enabledRuleMap t runID)
      (raw.foldl (mergeDecision (enabledRuleMap t runID) runID typ) []) := by
  apply foldl_mergeDecision_merged
  exact ⟨List.nodup_nil, fun e he => absurd he List.not_mem_nil,
    fun e he => absurd he List.not_mem_nil⟩

/-- **Merged decisions name each rule once, and only rules enabled in the run**, whatever the
decisions are. -/
theorem aggregateAndEnrich_keys (t : RuleTable) (runID : Int) (typ : FunctionType)
    (raw : List TrimDecision) :
    ((aggregateAndEnrich t runID typ raw).map fun r => r.key).Nodup ∧
      ∀ r ∈ aggregateAndEnrich t runID typ raw, r.key ∈ enabledSet t runID := by
  unfold aggregateAndEnrich
  split
  · exact ⟨List.nodup_nil, fun r hr => absurd hr List.not_mem_nil⟩
  · have hm := merged_decisions t runID typ raw
    generalize raw.foldl (mergeDecision (enabledRuleMap t runID) runID typ) [] = merged at hm ⊢
    -- sorting changes neither the keys nor that each stands once
    have hperm := List.perm_insertionSort
      (fun a b : TrimmedRule => keyLe a.key b.key) (merged.map Prod.snd)
    constructor
    · rw [(hperm.map _).nodup_iff, List.map_map]
      -- the text keys are distinct, and they are a function of the rules' keys
      have hfst : merged.map Prod.fst =
          (merged.map fun e => e.2.key).map fun k => ruleKey k.1 k.2 := by
        rw [List.map_map]
        exact List.map_congr_left fun e he => hm.key e he
      have hnodup := hm.nodup
      rw [hfst] at hnodup
      exact List.Nodup.of_map _ hnodup
    · intro r hr
      rw [List.mem_insertionSort, List.mem_map] at hr
      obtain ⟨e, he, rfl⟩ := hr
      obtain ⟨rule, hrule⟩ := Option.isSome_iff_exists.mp (hm.enabled e he)
      obtain ⟨hset, hkey⟩ := enabledRuleMap_eq_some hrule
      rw [hm.key e he] at hkey
      obtain ⟨hg, hs⟩ := ruleKey_inj hkey
      have hsame : e.2.key = rule.key := by
        rw [RuleRef.key, Rule.key, hg, hs]
      rw [hsame]
      exact hset

/-! ## No decision about an enabled rule is lost -/

/-- The text keys after one more decision. -/
theorem mem_mergeDecision {runID : Int} {typ : FunctionType} {d : TrimDecision} {key : String} :
    key ∈ (mergeDecision enabled runID typ merged d).map Prod.fst ↔
      key ∈ merged.map Prod.fst ∨ (ruleKey d.gid d.sid = key ∧ (enabled key).isSome = true) := by
  unfold mergeDecision
  dsimp only
  cases hrule : enabled (ruleKey d.gid d.sid) with
  | none =>
      constructor
      · exact .inl
      · rintro (h | ⟨rfl, h⟩)
        · exact h
        · rw [hrule] at h
          cases h
  | some rule =>
      have hfst : ∀ es : List (String × TrimmedRule),
          (es.map fun e => if e.1 = ruleKey d.gid d.sid then (e.1, e.2.add d) else e).map Prod.fst =
            es.map Prod.fst := by
        intro es
        rw [List.map_map]
        apply List.map_congr_left
        intro e _
        show (if e.1 = ruleKey d.gid d.sid then (e.1, e.2.add d) else e).1 = e.1
        split <;> rfl
      rw [hfst]
      have henabled : (enabled (ruleKey d.gid d.sid)).isSome = true := by rw [hrule]; rfl
      split
      · next hany =>
          -- the entry is there already
          obtain ⟨e, he, hkey⟩ := List.any_eq_true.mp hany
          constructor
          · exact .inl
          · rintro (h | ⟨rfl, _⟩)
            · exact h
            · exact List.mem_map.mpr ⟨e, he, of_decide_eq_true hkey⟩
      · rw [List.map_append, List.mem_append, List.map_singleton, List.mem_singleton]
        apply or_congr_right
        constructor
        · rintro rfl
          exact ⟨rfl, henabled⟩
        · exact fun h => h.1.symm

theorem mem_foldl_mergeDecision {runID : Int} {typ : FunctionType} {raw : List TrimDecision}
    {key : String} :
    key ∈ (raw.foldl (mergeDecision enabled runID typ) merged).map Prod.fst ↔
      key ∈ merged.map Prod.fst ∨
        ((∃ d ∈ raw, ruleKey d.gid d.sid = key) ∧ (enabled key).isSome = true) := by
  induction raw generalizing merged with
  | nil => simp
  | cons d raw ih =>
      rw [List.foldl_cons, ih, mem_mergeDecision, or_assoc]
      apply or_congr_right
      constructor
      · rintro (⟨hd, hen⟩ | ⟨⟨d', hd', hkey⟩, hen⟩)
        · exact ⟨⟨d, List.mem_cons_self, hd⟩, hen⟩
        · exact ⟨⟨d', List.mem_cons_of_mem _ hd', hkey⟩, hen⟩
      · rintro ⟨⟨d', hd', hkey⟩, hen⟩
        rcases List.mem_cons.mp hd' with rfl | hd'
        · exact .inl ⟨hkey, hen⟩
        · exact .inr ⟨⟨d', hd', hkey⟩, hen⟩

/-- **Exactly the decisions about enabled rules remain.** -/
theorem mem_aggregateAndEnrich (t : RuleTable) (runID : Int) (typ : FunctionType)
    (raw : List TrimDecision) (key : Int × Int) :
    key ∈ (aggregateAndEnrich t runID typ raw).map (fun r => r.key) ↔
      key ∈ raw.map (fun d => d.key) ∧ key ∈ enabledSet t runID := by
  unfold aggregateAndEnrich
  by_cases hraw : raw = []
  · simp [hraw]
  · rw [if_neg hraw]
    have hm := merged_decisions t runID typ raw
    have hkeys : ∀ k, k ∈ (raw.foldl (mergeDecision (enabledRuleMap t runID) runID typ)
        []).map Prod.fst ↔ _ := fun k => mem_foldl_mergeDecision
    generalize raw.foldl (mergeDecision (enabledRuleMap t runID) runID typ) [] = merged
      at hm hkeys ⊢
    have hsorted : key ∈ ((merged.map Prod.snd).insertionSort fun a b => keyLe a.key b.key).map
        (fun r => r.key) ↔ ruleKey key.1 key.2 ∈ merged.map Prod.fst := by
      simp only [List.mem_map, List.mem_insertionSort]
      constructor
      · rintro ⟨r, ⟨e, he, rfl⟩, rfl⟩
        exact ⟨e, he, hm.key e he⟩
      · rintro ⟨e, he, hkey⟩
        rw [hm.key e he] at hkey
        obtain ⟨hgid, hsid⟩ := ruleKey_inj hkey
        exact ⟨e.2, ⟨e, he, rfl⟩, Prod.ext hgid hsid⟩
    have hraw : (∃ d ∈ raw, ruleKey d.gid d.sid = ruleKey key.1 key.2) ↔
        key ∈ raw.map fun d => d.key := by
      rw [List.mem_map]
      refine exists_congr fun d => and_congr_right fun _ => ?_
      constructor
      · intro h
        obtain ⟨hgid, hsid⟩ := ruleKey_inj h
        exact Prod.ext hgid hsid
      · rintro rfl
        rfl
    rw [hsorted, hkeys, enabledRuleMap_isSome_iff, hraw]
    simp

end SnortOptimizer.Analyser
