import SnortOptimizer.Analyser.RunCount
import SnortOptimizer.Number.Binary64

/-!
# The expected number of runs (`server/api/jobs.go`)

The bar that shows how far an analysis has come divides by an estimate that is made from the request
alone: run 0, one run for all SAFE strategies, and `MaxRound` runs for each ITER strategy. The
estimate goes through the names of the request a second time, apart from the selection that the
scheduler is given (`selectedStrategyNames_eq` says the two agree). It is computed in 64 bits, and
that is the only way it can be too small (`estimate_holds_iff`).
-/

namespace SnortOptimizer.Server

open Analyser Number

/-! ## The selection -/

/-- The fields that decide which functions run, and how often. -/
structure AnalysisStartRequest where
  maxRound : Int
  strategies : List String
  disabledStrategies : List String
  fits : -2 ^ 63 ≤ maxRound ∧ maxRound < 2 ^ 63    -- `MaxRound` is an `int`

structure StrategySpec where
  name : String
  fn : RegisteredFunction

/-- The function registers itself under the name the server has for it. -/
def strategySpec (name : String) (type : FunctionType) (fn : TrimFunction) : StrategySpec :=
  { name := name, fn := { name := name, type := type, fn := fn } }

/-- `builtinStrategies`. What the strategies do with the databases is a parameter. -/
def builtinStrategies (fns : String → TrimFunction) : List StrategySpec :=
  [ strategySpec "safe_source_file_browser" .SAFE (fns "safe_source_file_browser"),
    strategySpec "safe_source_file_protocols" .SAFE (fns "safe_source_file_protocols"),
    strategySpec "safe_inactive_systemd_services" .SAFE (fns "safe_inactive_systemd_services"),
    strategySpec "safe_orphan_flowbits" .SAFE (fns "safe_orphan_flowbits"),
    strategySpec "iter_protocol_alert_overlap" .ITER (fns "iter_protocol_alert_overlap"),
    strategySpec "iter_high_fp_low_utilization" .ITER (fns "iter_high_fp_low_utilization"),
    strategySpec "iter_low_yield_hot_rules" .ITER (fns "iter_low_yield_hot_rules"),
    strategySpec "iter_high_cost_rules" .ITER (fns "iter_high_cost_rules") ]

inductive SelectError where
  | unknownStrategy (name : String)    -- `unknown strategy %q`
  deriving DecidableEq

/-- The map of the selected names; a name that was deleted reads like one that never was in it. -/
abbrev Selected := String → Bool

def selectAll (specs : List StrategySpec) (selected : Selected) : Selected :=
  specs.foldl (fun m spec => Function.update m spec.name true) selected

def enableName (specs : List StrategySpec) (known : String → Bool) (selected : Selected)
    (name : String) : Except SelectError Selected :=
  if name = "all" then .ok (selectAll specs selected)
  else if name = "none" then .ok fun _ => false
  else if known name then .ok (Function.update selected name true)
  else .error (.unknownStrategy name)

/-- Without a list of names all strategies are meant. -/
def enableNames (specs : List StrategySpec) (known : String → Bool) (enabled : List String) :
    Except SelectError Selected :=
  if enabled = [] then .ok (selectAll specs fun _ => false)
  else enabled.foldlM (enableName specs known) fun _ => false

/-- The words `all` and `none` mean nothing in the list of disabled names. -/
def disableName (known : String → Bool) (selected : Selected) (name : String) :
    Except SelectError Selected :=
  if known name then .ok (Function.update selected name false)
  else .error (.unknownStrategy name)

/-- The two loops over the names of a request. They stand twice in the source, each time with a map
of its own for the known names. -/
def selectNames (specs : List StrategySpec) (known : String → Bool)
    (enabled disabled : List String) : Except SelectError Selected := do
  let selected ← enableNames specs known enabled
  disabled.foldlM (disableName known) selected

def selectStrategies (fns : String → TrimFunction) (enabled disabled : List String) :
    Except SelectError (List RegisteredFunction) := do
  let specs := builtinStrategies fns
  let byName : String → Option RegisteredFunction :=
    specs.foldl (fun m spec => Function.update m spec.name (some spec.fn)) fun _ => none
  let selected ← selectNames specs (fun name => (byName name).isSome) enabled disabled
  return (specs.filter fun spec => selected spec.name).map fun spec => spec.fn

def selectedStrategyNames (fns : String → TrimFunction) (enabled disabled : List String) :
    Except SelectError (List String) := do
  let specs := builtinStrategies fns
  let known : String → Bool :=
    specs.foldl (fun m spec => Function.update m spec.name true) fun _ => false
  let selected ← selectNames specs known enabled disabled
  return (specs.filter fun spec => selected spec.name).map fun spec => spec.name

/-- `expectedAnalysisRunsFromRequest`, with `DefaultMaxRound` for a request without a number. -/
def expectedAnalysisRunsFromRequest (fns : String → TrimFunction) (req : AnalysisStartRequest) :
    Int :=
  let maxRound := if req.maxRound ≤ 0 then 4 else req.maxRound
  match selectedStrategyNames fns req.strategies req.disabledStrategies with
  | .error _ => 18
  | .ok selected =>
      let safeEnabled := selected.any fun name => "safe_".toList.isPrefixOf name.toList
      let iterCount := selected.countP fun name => "iter_".toList.isPrefixOf name.toList
      let expected := wrap64 (1 + wrap64 (iterCount * maxRound))
      if safeEnabled then wrap64 (expected + 1) else expected

/-! ## What a request asks for -/

/-- The words behind the last `none`. -/
def sinceNone (words : List String) : List String := words.reverse.takeWhile (· ≠ "none")

/-- The request selects the name. -/
def AnalysisStartRequest.asksFor (req : AnalysisStartRequest) (name : String) : Bool :=
  (decide (req.strategies = []) ||
    (sinceNone req.strategies).any fun word => word = "all" || word = name) &&
  !req.disabledStrategies.contains name

/-- The names and kinds of the strategies, without what they do. -/
def strategyKinds : List (String × FunctionType) :=
  (builtinStrategies fun _ _ _ => .ok []).map fun spec => (spec.name, spec.fn.type)

/-- All names of the request are known. -/
structure AnalysisStartRequest.Accepted (req : AnalysisStartRequest) : Prop where
  enabled : ∀ word ∈ req.strategies, word = "all" ∨ word = "none" ∨
    word ∈ strategyKinds.map Prod.fst
  disabled : ∀ word ∈ req.disabledStrategies, word ∈ strategyKinds.map Prod.fst

/-- The number of strategies of a kind that the request selects. -/
def AnalysisStartRequest.asked (req : AnalysisStartRequest) (type : FunctionType) : Nat :=
  strategyKinds.countP fun kind => decide (kind.2 = type) && req.asksFor kind.1

def AnalysisStartRequest.rounds (req : AnalysisStartRequest) : Int :=
  if req.maxRound ≤ 0 then 4 else req.maxRound

/-- The most runs there can be, as a number without bound. -/
def AnalysisStartRequest.mostRuns (req : AnalysisStartRequest) : Int :=
  1 + (if req.asked .SAFE = 0 then 0 else 1) + req.asked .ITER * req.rounds

/-! ## The loops -/

section Loops

variable {specs : List StrategySpec} {known : String → Bool}

theorem selectAll_apply (specs : List StrategySpec) (selected : Selected) (name : String) :
    selectAll specs selected name = (selected name || specs.any fun spec => spec.name = name) := by
  induction specs generalizing selected with
  | nil => simp [selectAll]
  | cons spec specs ih =>
      rw [selectAll, List.foldl_cons, ← selectAll, ih, List.any_cons]
      by_cases h : name = spec.name
      · simp [h]
      · simp [Function.update_of_ne h, Ne.symm h]

/-- The map from names to functions knows the same names. -/
theorem byName_isSome (specs : List StrategySpec) (m : String → Option RegisteredFunction)
    (name : String) :
    (specs.foldl (fun (m : String → Option RegisteredFunction) spec =>
        Function.update m spec.name (some spec.fn)) m name).isSome =
      ((m name).isSome || specs.any fun spec => spec.name = name) := by
  induction specs generalizing m with
  | nil => simp
  | cons spec specs ih =>
      rw [List.foldl_cons, ih, List.any_cons]
      by_cases h : name = spec.name
      · simp [h]
      · simp [Function.update_of_ne h, Ne.symm h]

theorem sinceNone_append (words : List String) (word : String) :
    sinceNone (words ++ [word]) = if word = "none" then [] else word :: sinceNone words := by
  rw [sinceNone, List.reverse_append]
  by_cases h : word = "none" <;> simp [h, sinceNone]

/-- The first loop. -/
theorem foldlM_enableName {words : List String} {selected : Selected}
    (h : words.foldlM (enableName specs known) (fun _ => false) = .ok selected) :
    (∀ word ∈ words, word = "all" ∨ word = "none" ∨ known word = true) ∧
      ∀ spec ∈ specs, selected spec.name =
        (sinceNone words).any fun word => word = "all" || word = spec.name := by
  induction words using List.reverseRecOn generalizing selected with
  | nil =>
      cases h
      exact ⟨fun _ hword => absurd hword List.not_mem_nil, fun _ _ => rfl⟩
  | append_singleton words word ih =>
      rw [List.foldlM_append] at h
      obtain ⟨before, hbefore, h⟩ := bind_eq_ok.mp h
      obtain ⟨hwords, hselected⟩ := ih hbefore
      obtain ⟨after, hafter, h⟩ := bind_eq_ok.mp h
      cases h
      rw [enableName] at hafter
      simp only [List.forall_mem_append, List.forall_mem_singleton, sinceNone_append]
      split at hafter
      · next hall =>
        cases hafter
        refine ⟨⟨hwords, .inl hall⟩, fun spec hspec => ?_⟩
        have hknown : (specs.any fun s => decide (s.name = spec.name)) = true :=
          List.any_eq_true.mpr ⟨spec, hspec, decide_eq_true rfl⟩
        rw [selectAll_apply, hknown]
        simp [hall]
      split at hafter
      · next hnone =>
        cases hafter
        exact ⟨⟨hwords, .inr (.inl hnone)⟩, fun spec _ => by rw [if_pos hnone]; rfl⟩
      split at hafter
      · next hall hnone hknown =>
        cases hafter
        refine ⟨⟨hwords, .inr (.inr hknown)⟩, fun spec hspec => ?_⟩
        rw [if_neg hnone, List.any_cons, ← hselected spec hspec]
        by_cases h : spec.name = word
        · simp [h]
        · simp [Function.update_of_ne h, hall, Ne.symm h]
      · cases hafter

theorem foldlM_enableName_succeeds {words : List String}
    (h : ∀ word ∈ words, word = "all" ∨ word = "none" ∨ known word = true) (selected : Selected) :
    ∃ selected', words.foldlM (enableName specs known) selected = .ok selected' := by
  induction words generalizing selected with
  | nil => exact ⟨selected, rfl⟩
  | cons word words ih =>
      rw [List.forall_mem_cons] at h
      obtain ⟨after, hafter⟩ : ∃ after, enableName specs known selected word = .ok after := by
        rw [enableName]
        split
        · exact ⟨_, rfl⟩
        split
        · exact ⟨_, rfl⟩
        · next hall hnone =>
          rw [if_pos ((h.1.resolve_left hall).resolve_left hnone)]
          exact ⟨_, rfl⟩
      obtain ⟨selected', hrest⟩ := ih h.2 after
      exact ⟨selected', bind_eq_ok.mpr ⟨after, hafter, hrest⟩⟩

/-- The second loop. -/
theorem foldlM_disableName {words : List String} {selected selected' : Selected} :
    words.foldlM (disableName known) selected = .ok selected' ↔
      (∀ word ∈ words, known word = true) ∧
        selected' = fun name => selected name && !words.contains name := by
  induction words generalizing selected with
  | nil =>
      show Except.ok selected = Except.ok selected' ↔ _
      rw [Except.ok.injEq, eq_comm]
      simp
  | cons word words ih =>
      rw [List.foldlM_cons, bind_eq_ok, List.forall_mem_cons]
      by_cases h : known word = true
      · have hmap : (fun name => Function.update selected word false name && !words.contains name) =
            fun name => selected name && !(word :: words).contains name := by
          funext name
          by_cases hname : name = word
          · simp [hname]
          · simp [hname]
        simp only [disableName, h, if_true, Except.ok.injEq, exists_eq_left', ih, hmap, true_and]
      · simp [disableName, h]

/-- Both loops. -/
theorem selectNames_eq_ok {req : AnalysisStartRequest} {selected : Selected}
    (h : selectNames specs known req.strategies req.disabledStrategies = .ok selected) :
    (∀ word ∈ req.strategies, word = "all" ∨ word = "none" ∨ known word = true) ∧
      (∀ word ∈ req.disabledStrategies, known word = true) ∧
      ∀ spec ∈ specs, selected spec.name = req.asksFor spec.name := by
  obtain ⟨before, hbefore, h⟩ := bind_eq_ok.mp h
  obtain ⟨hdisabled, rfl⟩ := foldlM_disableName.mp h
  by_cases hnone : req.strategies = []
  · rw [enableNames, if_pos hnone] at hbefore
    cases hbefore
    refine ⟨fun word hword => by simp [hnone] at hword, hdisabled, fun spec hspec => ?_⟩
    have hknown : (specs.any fun s => decide (s.name = spec.name)) = true :=
      List.any_eq_true.mpr ⟨spec, hspec, decide_eq_true rfl⟩
    show (selectAll specs _ spec.name && _) = _
    rw [selectAll_apply, hknown, AnalysisStartRequest.asksFor, decide_eq_true hnone]
    simp
  · rw [enableNames, if_neg hnone] at hbefore
    obtain ⟨henabled, hselected⟩ := foldlM_enableName hbefore
    refine ⟨henabled, hdisabled, fun spec hspec => ?_⟩
    show (before spec.name && _) = _
    rw [hselected spec hspec, AnalysisStartRequest.asksFor, decide_eq_false hnone, Bool.false_or]

theorem selectNames_succeeds {req : AnalysisStartRequest}
    (henabled : ∀ word ∈ req.strategies, word = "all" ∨ word = "none" ∨ known word = true)
    (hdisabled : ∀ word ∈ req.disabledStrategies, known word = true) :
    ∃ selected, selectNames specs known req.strategies req.disabledStrategies = .ok selected := by
  obtain ⟨before, hbefore⟩ : ∃ before, enableNames specs known req.strategies = .ok before := by
    rw [enableNames]
    split
    · exact ⟨_, rfl⟩
    · exact foldlM_enableName_succeeds henabled _
  exact ⟨_, bind_eq_ok.mpr ⟨before, hbefore, foldlM_disableName.mpr ⟨hdisabled, rfl⟩⟩⟩

end Loops

/-! ## The two selections agree -/

variable {fns : String → TrimFunction} {req : AnalysisStartRequest}

theorem kinds_eq (fns : String → TrimFunction) :
    (builtinStrategies fns).map (fun spec => (spec.name, spec.fn.type)) = strategyKinds := rfl

/-- The names the server knows, as either map has them. -/
def isKnown (fns : String → TrimFunction) (name : String) : Bool :=
  (builtinStrategies fns).any fun spec => spec.name = name

theorem isKnown_iff {name : String} :
    isKnown fns name = true ↔ name ∈ strategyKinds.map Prod.fst := by
  rw [isKnown, ← kinds_eq fns, List.map_map]
  simp only [List.any_eq_true, decide_eq_true_eq, List.mem_map, Function.comp_apply]

theorem selectNames_isKnown {selected : Selected}
    (h : selectNames (builtinStrategies fns) (isKnown fns) req.strategies req.disabledStrategies =
      .ok selected) :
    req.Accepted ∧
      (builtinStrategies fns).filter (fun spec => selected spec.name) =
        (builtinStrategies fns).filter fun spec => req.asksFor spec.name := by
  obtain ⟨henabled, hdisabled, hselected⟩ := selectNames_eq_ok h
  refine ⟨⟨?_, fun word hword => isKnown_iff.mp (hdisabled word hword)⟩,
    List.filter_congr hselected⟩
  intro word hword
  exact (henabled word hword).imp_right fun h => h.imp_right isKnown_iff.mp

theorem selectNames_accepted (fns : String → TrimFunction) (h : req.Accepted) :
    ∃ selected, selectNames (builtinStrategies fns) (isKnown fns) req.strategies
      req.disabledStrategies = .ok selected := by
  refine selectNames_succeeds (fun word hword => ?_) fun word hword =>
    isKnown_iff.mpr (h.disabled word hword)
  exact (h.enabled word hword).imp_right fun h => h.imp_right isKnown_iff.mpr

/-- What the scheduler is given. -/
theorem selectStrategies_eq_ok {functions : List RegisteredFunction} :
    selectStrategies fns req.strategies req.disabledStrategies = .ok functions ↔
      req.Accepted ∧ functions =
        ((builtinStrategies fns).filter fun spec => req.asksFor spec.name).map fun spec =>
          spec.fn := by
  have hknown : (fun name => (List.foldl (fun (m : String → Option RegisteredFunction) spec =>
      Function.update m spec.name (some spec.fn)) (fun _ => none) (builtinStrategies fns)
        name).isSome) = isKnown fns := by
    funext name
    rw [byName_isSome]
    rfl
  rw [selectStrategies]
  rw [hknown, bind_eq_ok]
  constructor
  · rintro ⟨selected, hselected, h⟩
    obtain ⟨haccepted, hfilter⟩ := selectNames_isKnown hselected
    cases h
    rw [hfilter]
    exact ⟨haccepted, rfl⟩
  · rintro ⟨haccepted, rfl⟩
    obtain ⟨selected, hselected⟩ := selectNames_accepted fns haccepted
    refine ⟨selected, hselected, ?_⟩
    rw [(selectNames_isKnown hselected).2]
    rfl

theorem selectedStrategyNames_eq (h : req.Accepted) :
    selectedStrategyNames fns req.strategies req.disabledStrategies =
      .ok (((builtinStrategies fns).filter fun spec => req.asksFor spec.name).map fun spec =>
        spec.name) := by
  have hknown : (List.foldl (fun (m : Selected) spec => Function.update m spec.name true)
      (fun _ => false) (builtinStrategies fns)) = isKnown fns := by
    funext name
    exact selectAll_apply _ _ name
  obtain ⟨selected, hselected⟩ := selectNames_accepted fns h
  rw [selectedStrategyNames]
  rw [hknown]
  refine bind_eq_ok.mpr ⟨selected, hselected, ?_⟩
  rw [(selectNames_isKnown hselected).2]
  rfl

/-- Every function has the name it is selected by. -/
theorem builtinStrategies_name {spec : StrategySpec} (h : spec ∈ builtinStrategies fns) :
    spec.fn.name = spec.name := by
  simp only [builtinStrategies, List.mem_cons, List.not_mem_nil, or_false] at h
  rcases h with rfl | rfl | rfl | rfl | rfl | rfl | rfl | rfl <;> rfl

/-- The first five letters of a name say what kind of strategy it is. -/
theorem builtinStrategies_type {spec : StrategySpec} (h : spec ∈ builtinStrategies fns) :
    "safe_".toList.isPrefixOf spec.name.toList = decide (spec.fn.type = .SAFE) ∧
      "iter_".toList.isPrefixOf spec.name.toList = decide (spec.fn.type = .ITER) := by
  have hkinds : ∀ kind ∈ strategyKinds,
      "safe_".toList.isPrefixOf kind.1.toList = decide (kind.2 = .SAFE) ∧
        "iter_".toList.isPrefixOf kind.1.toList = decide (kind.2 = .ITER) := by
    decide +kernel
  apply hkinds (spec.name, spec.fn.type)
  rw [← kinds_eq fns]
  exact List.mem_map.mpr ⟨spec, h, rfl⟩

/-! ## The estimate -/

/-- The strategies of one kind among those the request selects. -/
theorem countP_asked (fns : String → TrimFunction) (req : AnalysisStartRequest)
    (type : FunctionType) :
    ((builtinStrategies fns).filter fun spec => req.asksFor spec.name).countP
      (fun spec => spec.fn.type = type) = req.asked type := by
  rw [AnalysisStartRequest.asked, ← kinds_eq fns, List.countP_map, List.countP_filter]
  rfl

theorem maxRuns_eq {cfg : Config} (hround : cfg.maxRound = req.maxRound) :
    (Scheduler.maxRuns
      { cfg := normalizeNumbers cfg
        functions := ((builtinStrategies fns).filter fun spec => req.asksFor spec.name).map
          fun spec => spec.fn } : Int) = req.mostRuns := by
  have hlength (type : FunctionType) : ((((builtinStrategies fns).filter fun spec =>
      req.asksFor spec.name).map fun spec => spec.fn).filter fun fn => fn.type = type).length =
        req.asked type := by
    rw [← List.countP_eq_length_filter, List.countP_map]
    exact countP_asked fns req type
  have hrounds : ((normalizeNumbers cfg).maxRound.toNat : Int) = req.rounds := by
    rw [Int.toNat_of_nonneg (by linarith [(normalizeNumbers_normalized cfg).1])]
    show (if cfg.maxRound ≤ 0 then 4 else cfg.maxRound) = _
    rw [hround, AnalysisStartRequest.rounds]
  rw [Scheduler.maxRuns, AnalysisStartRequest.mostRuns, ← hrounds, ← hlength .SAFE,
    ← hlength .ITER]
  simp only [List.length_eq_zero_iff]
  push_cast
  rfl

theorem wrap64_add_wrap64 (a b : Int) : wrap64 (a + wrap64 b) = wrap64 (a + b) :=
  Int.add_bmod_bmod

theorem wrap64_lt (n : Int) : wrap64 n < 2 ^ 63 := Int.bmod_lt (by decide)

/-- The estimate is the number of runs there can be, in 64 bits. -/
theorem expectedAnalysisRunsFromRequest_eq (h : req.Accepted) :
    expectedAnalysisRunsFromRequest fns req = wrap64 req.mostRuns := by
  let selected := (builtinStrategies fns).filter fun spec => req.asksFor spec.name
  have hmem : ∀ spec ∈ selected, spec ∈ builtinStrategies fns := fun spec hspec =>
    List.mem_of_mem_filter hspec
  have hiter : (selected.map fun spec => spec.name).countP
      (fun name => "iter_".toList.isPrefixOf name.toList) = req.asked .ITER := by
    rw [List.countP_map, ← countP_asked fns]
    apply List.countP_congr
    intro spec hspec
    rw [Function.comp_apply, (builtinStrategies_type (hmem spec hspec)).2]
  have hsafe : ((selected.map fun spec => spec.name).any
      fun name => "safe_".toList.isPrefixOf name.toList) = true ↔ req.asked .SAFE ≠ 0 := by
    rw [← countP_asked fns, ← Nat.pos_iff_ne_zero, List.countP_pos_iff, List.any_map,
      List.any_eq_true]
    refine exists_congr fun spec => and_congr_right fun hspec => ?_
    rw [Function.comp_apply, (builtinStrategies_type (hmem spec hspec)).1]
  rw [expectedAnalysisRunsFromRequest, selectedStrategyNames_eq h]
  show (if ((selected.map fun spec => spec.name).any
      fun name => "safe_".toList.isPrefixOf name.toList) = true then _ else _) = _
  rw [hiter, AnalysisStartRequest.mostRuns, wrap64_add_wrap64]
  by_cases hnone : req.asked .SAFE = 0
  · rw [if_neg fun h => hsafe.mp h hnone, if_pos hnone]
    rfl
  · rw [if_pos (hsafe.mpr hnone), if_neg hnone, add_comm, wrap64_add_wrap64,
      AnalysisStartRequest.rounds]
    congr 1
    ring

/-- The estimate counts the functions the scheduler is given, and no search makes more runs. -/
def TrueEstimate (req : AnalysisStartRequest) : Prop :=
  ∀ fns functions,
    selectStrategies fns req.strategies req.disabledStrategies = .ok functions →
      selectedStrategyNames fns req.strategies req.disabledStrategies =
        .ok (functions.map fun fn => fn.name) ∧
      ∀ (cfg : Config) (env : Externals) (dbs : Databases) (store : AnalyserStore) (out : Output),
        cfg.maxRound = req.maxRound →
        Scheduler.run { cfg := normalizeNumbers cfg, functions := functions } env dbs store =
          .ok out →
        (out.result.runs.length : Int) ≤ expectedAnalysisRunsFromRequest fns req

/-- The two selections agree, whatever the request. -/
theorem selectedStrategyNames_of_selectStrategies {functions : List RegisteredFunction}
    (h : selectStrategies fns req.strategies req.disabledStrategies = .ok functions) :
    selectedStrategyNames fns req.strategies req.disabledStrategies =
      .ok (functions.map fun fn => fn.name) := by
  obtain ⟨haccepted, rfl⟩ := selectStrategies_eq_ok.mp h
  rw [selectedStrategyNames_eq haccepted, List.map_map]
  congr 1
  apply List.map_congr_left
  intro spec hspec
  exact (builtinStrategies_name (List.mem_of_mem_filter hspec)).symm

theorem mostRuns_pos (req : AnalysisStartRequest) : 1 ≤ req.mostRuns := by
  have hrounds : 0 ≤ req.rounds := by
    rw [AnalysisStartRequest.rounds]
    split <;> omega
  have hproduct : 0 ≤ (req.asked .ITER : Int) * req.rounds :=
    mul_nonneg (Int.natCast_nonneg _) hrounds
  rw [AnalysisStartRequest.mostRuns]
  split <;> omega

/-- **The estimate is an upper bound** exactly where the bound fits into 64 bits. Where it does not,
some search makes more runs than expected. -/
theorem estimate_holds_iff (req : AnalysisStartRequest) :
    TrueEstimate req ↔ (req.Accepted → req.mostRuns < 2 ^ 63) := by
  constructor
  · intro h haccepted
    by_contra hlarge
    let fns : String → TrimFunction := fun _ => dropFirst
    let cfg : Config := { lenientConfig with maxRound := req.maxRound }
    have hlenient : (normalizeNumbers cfg).Lenient := ⟨le_refl 1, le_refl 1⟩
    obtain ⟨_, hbound⟩ := h fns _ (selectStrategies_eq_ok.mpr ⟨haccepted, rfl⟩)
    let sch : Scheduler :=
      { cfg := normalizeNumbers cfg
        functions := ((builtinStrategies fns).filter fun spec => req.asksFor spec.name).map
          fun spec => spec.fn }
    have hfns : ∀ fn ∈ sch.functions, fn.fn = dropFirst := by
      intro fn hfn
      obtain ⟨spec, hspec, rfl⟩ := List.mem_map.mp hfn
      have hspec := List.mem_of_mem_filter hspec
      simp only [builtinStrategies, List.mem_cons, List.not_mem_nil, or_false] at hspec
      rcases hspec with rfl | rfl | rfl | rfl | rfl | rfl | rfl | rfl <;> rfl
    have hmax : (sch.maxRuns : Int) = req.mostRuns := @maxRuns_eq fns req cfg rfl
    obtain ⟨env, out, hrun, hlength⟩ := @maxRuns_attained sch hlenient hfns
    have hle := hbound cfg env _ _ out rfl hrun
    rw [hlength, hmax, expectedAnalysisRunsFromRequest_eq haccepted] at hle
    have hwrap := wrap64_lt req.mostRuns
    omega
  · intro h fns functions hselect
    refine ⟨selectedStrategyNames_of_selectStrategies hselect, ?_⟩
    obtain ⟨haccepted, rfl⟩ := selectStrategies_eq_ok.mp hselect
    intro cfg env dbs store out hround hrun
    have hlength := Int.ofNat_le.mpr (run_length_le hrun)
    rw [maxRuns_eq hround] at hlength
    rw [expectedAnalysisRunsFromRequest_eq haccepted,
      wrap64_of_fits (by linarith [mostRuns_pos req]) (h haccepted)]
    exact hlength

/-- Two ITER strategies and as many rounds as half of the range of an `int`. -/
def hugeRequest : AnalysisStartRequest :=
  { maxRound := 2 ^ 62
    strategies := ["iter_high_cost_rules", "iter_low_yield_hot_rules"]
    disabledStrategies := []
    fits := by decide }

def idle : String → TrimFunction := fun _ _ _ => .ok []

/-- The estimate wraps around, and less than no run is expected. -/
theorem huge_request_underestimated :
    hugeRequest.Accepted ∧
      expectedAnalysisRunsFromRequest idle hugeRequest = -2 ^ 63 + 1 ∧
      ¬ TrueEstimate hugeRequest := by
  have haccepted : hugeRequest.Accepted := by
    constructor
    · decide +kernel
    · decide +kernel
  have hexpected : expectedAnalysisRunsFromRequest idle hugeRequest = -2 ^ 63 + 1 := by
    decide +kernel
  refine ⟨haccepted, hexpected, fun h => ?_⟩
  let cfg : Config := { defaultConfig with maxRound := 2 ^ 62 }
  obtain ⟨functions, hfunctions⟩ : ∃ functions, selectStrategies idle hugeRequest.strategies
      hugeRequest.disabledStrategies = .ok functions :=
    ⟨_, selectStrategies_eq_ok.mpr ⟨haccepted, rfl⟩⟩
  have hends : ((Scheduler.run
      { cfg := normalizeNumbers cfg
        functions := (selectStrategies idle hugeRequest.strategies
          hugeRequest.disabledStrategies).toOption.getD [] }
      (lone true) .empty { runs := [], trimDecisions := [] }).toOption.isSome) = true := by
    decide +kernel
  rw [hfunctions] at hends
  cases hrun : Scheduler.run { cfg := normalizeNumbers cfg, functions := functions } (lone true)
      .empty { runs := [], trimDecisions := [] } with
  | error e =>
      rw [show (Except.ok functions : Except SelectError _).toOption.getD [] = functions from rfl,
        hrun] at hends
      cases hends
  | ok out =>
      have hbound := (h idle functions hfunctions).2 cfg _ _ _ out rfl hrun
      rw [hexpected] at hbound
      omega

end SnortOptimizer.Server
