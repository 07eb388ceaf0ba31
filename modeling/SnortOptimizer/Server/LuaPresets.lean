import SnortOptimizer.Server.SavedSettings

/-!
# Merging the Lua presets (`server/configoptimize/options.go`)

`MergePresetMetadata` runs on every read of the settings and again on every write, and what it
returns decides the configuration hash and Snort's command line. Its first loop decorates the
overrides it is given and remembers their ids, its second one adds the presets whose ids it has not
seen.

The settings use what the two loops compute, `mergePresetMetadata`. Here are the loops themselves
(`mergeLoops_eq`), and what holds of their result for every list of overrides
(`mergePresetMetadata_stable`).
-/

namespace SnortOptimizer.Server

/-! ## The loops -/

/-- `meta[preset.ID] = preset`. -/
def setMeta (known : String → Option LuaPreset) (preset : LuaPreset) : String → Option LuaPreset :=
  Function.update known preset.id (some preset)

/-- `meta`. -/
def presetMeta : String → Option LuaPreset := presets.foldl setMeta fun _ => none

/-- The variables of `MergePresetMetadata`. -/
structure MergeState where
  seen : String → Bool
  out : List LuaOverride

def MergeState.start : MergeState := { seen := fun _ => false, out := [] }

/-- The body of the loop over the overrides. -/
def MergeState.keep (s : MergeState) (override : LuaOverride) : MergeState :=
  let override :=
    match presetMeta override.id with
    | some preset => preset.decorate override
    | none => override
  { seen := Function.update s.seen override.id true, out := s.out ++ [override] }

/-- The body of the loop over the presets. -/
def MergeState.add (s : MergeState) (preset : LuaPreset) : MergeState :=
  if s.seen preset.id then s else { s with out := s.out ++ [preset.override] }

def mergeLoops (overrides : List LuaOverride) : List LuaOverride :=
  (presets.foldl MergeState.add (overrides.foldl MergeState.keep MergeState.start)).out

/-- The body of the loop of `EnabledLuaValues`. -/
def addEnabledValue (out : List String) (override : LuaOverride) : List String :=
  if override.enabled ∧ override.value ≠ "" then out ++ [override.value] else out

/-! ## What the loops compute -/

theorem presets_distinct : presets.Pairwise (·.id ≠ ·.id) := by decide

/-- A map filled from a list with different ids finds what is in the list. -/
theorem foldl_setMeta {l : List LuaPreset} (hdistinct : l.Pairwise (·.id ≠ ·.id))
    (known : String → Option LuaPreset) (id : String) :
    l.foldl setMeta known id = (l.find? (·.id = id)).or (known id) := by
  induction l generalizing known with
  | nil => rfl
  | cons preset l ih =>
      obtain ⟨hfirst, hrest⟩ := List.pairwise_cons.mp hdistinct
      rw [List.foldl_cons, ih hrest]
      by_cases hid : preset.id = id
      · -- no later preset replaces this one
        have hnone : l.find? (·.id = id) = none := by
          apply List.find?_eq_none.mpr
          intro other hother
          simpa [← hid] using (hfirst other hother).symm
        simp [setMeta, hid, hnone]
      · simp [setMeta, hid, Function.update_of_ne (Ne.symm hid)]

theorem presetMeta_eq (id : String) : presetMeta id = presets.find? (·.id = id) := by
  rw [presetMeta, foldl_setMeta presets_distinct, Option.or_none]

theorem MergeState.keep_eq (s : MergeState) (override : LuaOverride) :
    s.keep override =
      { seen := Function.update s.seen override.id true
        out := s.out ++ [override.withPreset] } := by
  have hsame : s.keep override =
      { seen := Function.update s.seen override.withPreset.id true
        out := s.out ++ [override.withPreset] } := by
    cases hfind : presets.find? (·.id = override.id) with
    | none => simp only [MergeState.keep, LuaOverride.withPreset, presetMeta_eq, hfind]
    | some preset => simp only [MergeState.keep, LuaOverride.withPreset, presetMeta_eq, hfind]
  rw [hsame, withPreset_id]

/-- After the first loop: the ids seen are those of the overrides. -/
theorem foldl_keep (overrides : List LuaOverride) (s : MergeState) :
    overrides.foldl MergeState.keep s =
      { seen := fun id => s.seen id || overrides.any (·.id = id)
        out := s.out ++ overrides.map LuaOverride.withPreset } := by
  induction overrides generalizing s with
  | nil => simp
  | cons override overrides ih =>
      rw [List.foldl_cons, ih, MergeState.keep_eq]
      congr 1
      · funext id
        by_cases hid : id = override.id
        · simp [hid]
        · simp [hid, Ne.symm hid]
      · simp

/-- The second loop adds the presets that are not seen, in their order. -/
theorem foldl_add (added : List LuaPreset) (s : MergeState) :
    (added.foldl MergeState.add s).out =
      s.out ++ (added.filter fun preset => !s.seen preset.id).map LuaPreset.override := by
  induction added generalizing s with
  | nil => simp
  | cons preset added ih =>
      rw [List.foldl_cons, ih, MergeState.add]
      cases hseen : s.seen preset.id with
      | true => simp [hseen]
      | false => simp [hseen]

theorem mergeLoops_eq (overrides : List LuaOverride) :
    mergeLoops overrides = mergePresetMetadata overrides := by
  rw [mergeLoops, foldl_add, foldl_keep, mergePresetMetadata_eq]
  simp [MergeState.start]

theorem foldl_addEnabledValue (overrides : List LuaOverride) (out : List String) :
    overrides.foldl addEnabledValue out = out ++ enabledLuaValues overrides := by
  induction overrides generalizing out with
  | nil => simp [enabledLuaValues]
  | cons override overrides ih =>
      rw [List.foldl_cons, ih, addEnabledValue]
      by_cases hlisted : override.enabled ∧ override.value ≠ ""
      · simp [enabledLuaValues, hlisted]
      · rw [if_neg hlisted]
        simp [enabledLuaValues, hlisted]

/-! ## What holds of the result -/

/-- What becomes of an override: it stays in its place with its id and its switch. Texts it has are
kept, and an override that is not a preset's stays as it is. -/
structure KeptAs (given kept : LuaOverride) : Prop where
  id : kept.id = given.id
  enabled : kept.enabled = given.enabled
  label : given.label ≠ "" → kept.label = given.label
  description : given.description ≠ "" → kept.description = given.description
  category : given.category ≠ "" → kept.category = given.category
  unknown : (∀ preset ∈ presets, preset.id ≠ given.id) → kept = given

/-- The value an override stands for: that of its preset if it is one, else its own. -/
def LuaOverride.forcedValue (override : LuaOverride) : String :=
  ((presets.find? (·.id = override.id)).map LuaPreset.value).getD override.value

/-- What an override contributes to Snort's command line. -/
def LuaOverride.contribution (override : LuaOverride) : Option String :=
  if override.enabled ∧ override.forcedValue ≠ "" then some override.forcedValue else none

theorem withPreset_kept (override : LuaOverride) : KeptAs override override.withPreset := by
  unfold LuaOverride.withPreset
  split
  · next preset hfound =>
      have hmem := List.mem_of_find?_eq_some hfound
      have hid : preset.id = override.id := by simpa using List.find?_some hfound
      exact ⟨rfl, rfl, fun h => if_neg h, fun h => if_neg h, fun h => if_neg h,
        fun hunknown => absurd hid (hunknown preset hmem)⟩
  · exact ⟨rfl, rfl, fun _ => rfl, fun _ => rfl, fun _ => rfl, fun _ => rfl⟩

theorem withPreset_value (override : LuaOverride) :
    override.withPreset.value = override.forcedValue := by
  unfold LuaOverride.withPreset LuaOverride.forcedValue
  split
  · next preset hfound => rw [hfound]; rfl
  · next hfound => rw [hfound]; rfl

theorem enabledLuaValues_append (overrides added : List LuaOverride) :
    enabledLuaValues (overrides ++ added) =
      enabledLuaValues overrides ++ enabledLuaValues added := by
  simp [enabledLuaValues]

/-- Overrides that are switched off contribute nothing. -/
theorem enabledLuaValues_of_disabled {overrides : List LuaOverride}
    (h : ∀ override ∈ overrides, override.enabled = false) : enabledLuaValues overrides = [] := by
  simp only [enabledLuaValues, List.map_eq_nil_iff, List.filter_eq_nil_iff]
  intro override hmem
  simp [h override hmem]

theorem enabledLuaValues_withPreset (overrides : List LuaOverride) :
    enabledLuaValues (overrides.map LuaOverride.withPreset) =
      overrides.filterMap LuaOverride.contribution := by
  induction overrides with
  | nil => rfl
  | cons override overrides ih =>
      have henabled := (withPreset_kept override).enabled
      have hvalue := withPreset_value override
      rw [List.map_cons, ← List.singleton_append, enabledLuaValues_append, ih, List.filterMap_cons]
      by_cases hlisted : override.enabled ∧ override.forcedValue ≠ ""
      · simp [enabledLuaValues, LuaOverride.contribution, henabled, hvalue, hlisted]
      · simp only [enabledLuaValues, LuaOverride.contribution, hlisted, if_false]
        simp [henabled, hvalue, hlisted]

/-- What the second loop adds. -/
theorem mem_added {overrides : List LuaOverride} {override : LuaOverride}
    (h : override ∈ (presets.filter fun preset => !overrides.any (·.id = preset.id)).map
      LuaPreset.override) :
    override.enabled = false ∧ ∃ preset ∈ presets, override = preset.override := by
  obtain ⟨preset, hpreset, rfl⟩ := List.mem_map.mp h
  exact ⟨rfl, preset, List.mem_of_mem_filter hpreset, rfl⟩

theorem mergePresetMetadata_contains (overrides : List LuaOverride) {preset : LuaPreset}
    (h : preset ∈ presets) :
    ∃ override ∈ mergePresetMetadata overrides, override.id = preset.id := by
  rw [mergePresetMetadata_eq]
  by_cases hgiven : ∃ given ∈ overrides, given.id = preset.id
  · obtain ⟨given, hmem, hid⟩ := hgiven
    refine ⟨given.withPreset, List.mem_append_left _ (List.mem_map_of_mem hmem), ?_⟩
    rw [withPreset_id, hid]
  · refine ⟨preset.override, List.mem_append_right _ (List.mem_map_of_mem ?_), rfl⟩
    simpa [h] using hgiven

theorem mergePresetMetadata_value {overrides : List LuaOverride} {override : LuaOverride}
    (hmem : override ∈ mergePresetMetadata overrides) {preset : LuaPreset} (h : preset ∈ presets)
    (hid : override.id = preset.id) : override.value = preset.value := by
  -- a merged override is what decorating it again gives, and that has the value of its preset
  have hsame : override.withPreset = override := by
    rw [mergePresetMetadata_eq] at hmem
    rcases List.mem_append.mp hmem with hold | hnew
    · obtain ⟨given, -, rfl⟩ := List.mem_map.mp hold
      exact withPreset_withPreset given
    · obtain ⟨-, added, hadded, rfl⟩ := mem_added hnew
      exact withPreset_override hadded
  rw [← hsame, withPreset_value, LuaOverride.forcedValue, hid, find?_presets h]
  rfl

/-- **Merging the presets is stable**, whatever overrides there are. Merging twice is merging once.
The overrides come first, each in its place with its switch, and what is added are presets that are
switched off. Every preset is there and has its own value. The values that count are those of the
overrides given, in their order: those that are switched on and not empty. -/
theorem mergePresetMetadata_stable (overrides : List LuaOverride) :
    mergePresetMetadata (mergePresetMetadata overrides) = mergePresetMetadata overrides ∧
    (∃ kept added, mergePresetMetadata overrides = kept ++ added ∧
      List.Forall₂ KeptAs overrides kept ∧
      (∀ override ∈ added, override.enabled = false ∧
        ∃ preset ∈ presets, override = preset.override) ∧
      enabledLuaValues (kept ++ added) = enabledLuaValues kept) ∧
    (∀ preset ∈ presets, ∃ override ∈ mergePresetMetadata overrides, override.id = preset.id) ∧
    (∀ override ∈ mergePresetMetadata overrides, ∀ preset ∈ presets,
      override.id = preset.id → override.value = preset.value) ∧
    enabledLuaValues (mergePresetMetadata overrides) =
      overrides.filterMap LuaOverride.contribution := by
  have hadded : enabledLuaValues ((presets.filter fun preset =>
      !overrides.any (·.id = preset.id)).map LuaPreset.override) = [] :=
    enabledLuaValues_of_disabled fun override h => (mem_added h).1
  refine ⟨mergePresetMetadata_idem overrides, ?_, ?_, ?_, ?_⟩
  · refine ⟨_, _, mergePresetMetadata_eq overrides, ?_, fun override h => mem_added h, ?_⟩
    · rw [List.forall₂_map_right_iff]
      exact List.forall₂_same.mpr fun override _ => withPreset_kept override
    · rw [enabledLuaValues_append, hadded, List.append_nil]
  · exact fun preset h => mergePresetMetadata_contains overrides h
  · exact fun override hmem preset h hid => mergePresetMetadata_value hmem h hid
  · rw [mergePresetMetadata_eq, enabledLuaValues_append, hadded, List.append_nil,
      enabledLuaValues_withPreset]

/-- An override with an id of its own, one of a preset with its value altered, and that once more:
the preset's value is forced both times. -/
example :
    enabledLuaValues (mergePresetMetadata
      [ { id := "mine", label := "", value := "a = 1", enabled := true, description := ""
          category := "" },
        { id := "wizard_disable", label := "", value := "", enabled := true, description := ""
          category := "" },
        { id := "wizard_disable", label := "", value := "x", enabled := true, description := ""
          category := "" } ]) = ["a = 1", "wizard = nil", "wizard = nil"] := by
  decide +kernel

end SnortOptimizer.Server
