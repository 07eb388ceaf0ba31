import SnortOptimizer.Server.ApplyAnalysis

/-!
# Settings that are read back (`server/store/store.go`, `server/api/server.go`)

A reader of the settings puts defaults in the place of what it takes for unset or outdated:
`mergeSettingDefaults`. Settings it leaves as they are, are called *settled*, and what a reader
returns is settled. What `PUT /api/settings` saves and answers with has not been read, so it comes
back unchanged only if it happens to be settled (`read_back_iff`, `settled_put_iff`).

`configHash` is the text a Snort configuration is recognised by. The JSON encoding and the digest
are a parameter here.
-/

namespace SnortOptimizer.Server

open SnortOptimizer.Path

/-! ## The requests -/

/-- What `GetSettings` returns. It leaves the row `(settingsUpdater root).repaired now stored`. -/
def getSettings (root now : String) : StoredSettings → AppSettings
  | none => defaultSettings root now
  | some raw => mergeSettingDefaults raw root

/-- `PUT /api/settings`: the settings it answers with, unless it is refused, and the row it
leaves. -/
def putSettings (root now : String) (incoming : AppSettings) (mkdirAll : String → Option String)
    (stored : StoredSettings) : Option AppSettings × StoredSettings :=
  match (SettingsCall.put incoming mkdirAll).next now (getSettings root now stored) with
  | none => (none, (settingsUpdater root).repaired now stored)
  | some merged => (some merged, some (saveSettings now merged))

def enabledLuaValues (overrides : List LuaOverride) : List String :=
  (overrides.filter fun override => override.enabled && override.value ≠ "").map LuaOverride.value

/-- What `configHash` encodes. -/
structure EffectiveConfig where
  swd : String
  snortConfigPath : String
  snortDBPath : String
  rawRulePath : String
  mode : String
  interface : String
  pcapFile : String
  needOutput : Bool
  needAlert : Bool
  needProfiler : Bool
  lua : List String
  deriving DecidableEq, Repr

def AppSettings.effective (settings : AppSettings) : EffectiveConfig :=
  { swd := settings.swd, snortConfigPath := settings.snortConfigPath
    snortDBPath := settings.snortDBPath, rawRulePath := settings.rawRulePath
    mode := settings.mode, interface := settings.interface, pcapFile := settings.pcapFile
    needOutput := settings.needOutput, needAlert := true, needProfiler := settings.needProfiler
    lua := enabledLuaValues (settings.luaOverrides.getD []) }

def configHash (digest : EffectiveConfig → String) (settings : AppSettings) : String :=
  digest settings.effective

/-- What a client is told of the settings, the time of the save aside. -/
def AppSettings.answered (settings : AppSettings) : AppSettings :=
  reread { settings with updatedAt := "" }

/-! ## Presets -/

theorem find?_presets {preset : LuaPreset} (h : preset ∈ presets) :
    presets.find? (·.id = preset.id) = some preset := by
  simp only [presets, List.mem_cons, List.not_mem_nil, or_false] at h
  rcases h with rfl | rfl | rfl | rfl | rfl | rfl | rfl <;> rfl

/-- An override after `MergePresetMetadata`. -/
def LuaOverride.withPreset (override : LuaOverride) : LuaOverride :=
  match presets.find? (·.id = override.id) with
  | some preset => preset.decorate override
  | none => override

theorem mergePresetMetadata_eq (overrides : List LuaOverride) :
    mergePresetMetadata overrides = overrides.map LuaOverride.withPreset ++
      (presets.filter fun preset => !overrides.any (·.id = preset.id)).map LuaPreset.override := rfl

theorem withPreset_id (override : LuaOverride) : override.withPreset.id = override.id := by
  unfold LuaOverride.withPreset
  split <;> rfl

theorem LuaPreset.decorate_decorate (preset : LuaPreset) (override : LuaOverride) :
    preset.decorate (preset.decorate override) = preset.decorate override := by
  simp only [LuaPreset.decorate, LuaOverride.mk.injEq, true_and]
  refine ⟨?_, ?_, ?_⟩ <;> split <;> simp_all

theorem withPreset_withPreset (override : LuaOverride) :
    override.withPreset.withPreset = override.withPreset := by
  cases h : presets.find? (·.id = override.id) with
  | none =>
      have heq : override.withPreset = override := by simp only [LuaOverride.withPreset, h]
      rw [heq, heq]
  | some preset =>
      have heq : override.withPreset = preset.decorate override := by
        simp only [LuaOverride.withPreset, h]
      have hid : (preset.decorate override).id = override.id := rfl
      rw [heq]
      simp only [LuaOverride.withPreset, hid, h]
      exact preset.decorate_decorate override

theorem withPreset_override {preset : LuaPreset} (h : preset ∈ presets) :
    preset.override.withPreset = preset.override := by
  have hid : preset.override.id = preset.id := rfl
  simp only [LuaOverride.withPreset, hid, find?_presets h]
  simp only [LuaPreset.decorate, LuaPreset.override, LuaOverride.mk.injEq, true_and]
  exact ⟨ite_self _, ite_self _, ite_self _⟩

/-- Merged overrides stay as they are. -/
theorem mergePresetMetadata_idem (overrides : List LuaOverride) :
    mergePresetMetadata (mergePresetMetadata overrides) = mergePresetMetadata overrides := by
  have hsame : ∀ o ∈ mergePresetMetadata overrides, o.withPreset = o := by
    intro o ho
    rcases List.mem_append.mp ho with hold | hnew
    · obtain ⟨old, _, rfl⟩ := List.mem_map.mp hold
      exact withPreset_withPreset old
    · obtain ⟨preset, hpreset, rfl⟩ := List.mem_map.mp hnew
      exact withPreset_override (List.mem_of_mem_filter hpreset)
  have hnone : (presets.filter fun preset =>
      !(mergePresetMetadata overrides).any (·.id = preset.id)) = [] := by
    apply List.filter_eq_nil_iff.mpr
    intro preset hpreset
    -- a preset is there because it was there before, or because it was missing
    by_cases hany : overrides.any (·.id = preset.id) = true
    · simp only [mergePresetMetadata_eq, List.any_append, List.any_map, Function.comp_def,
        withPreset_id, hany, Bool.true_or, Bool.not_true, Bool.false_eq_true, not_false_eq_true]
    · have hadded : preset.override ∈ mergePresetMetadata overrides := by
        apply List.mem_append_right
        apply List.mem_map_of_mem
        simp [hpreset, hany]
      simp only [Bool.not_eq_true, Bool.not_eq_false', List.any_eq_true]
      exact ⟨_, hadded, decide_eq_true rfl⟩
  rw [mergePresetMetadata_eq (mergePresetMetadata overrides), hnone, List.map_nil,
    List.append_nil]
  exact (List.map_congr_left hsame).trans (List.map_id' _)

theorem decorate_decorate (settings : AppSettings) :
    settings.decorate.decorate = settings.decorate := by
  simp [AppSettings.decorate, mergePresetMetadata_idem]

/-! ## Settled settings -/

def oldSWD (root : String) : List String :=
  [join [join [root, "server"], "SWD"], join [root, "SWD"]]

def oldAWD (root : String) : List String :=
  [join [join [root, "server"], "AWD"], join [root, "AWD"]]

def oldPcapDir (root : String) : List String :=
  [join [join [root, "server"], "pcap"], join [root, "real_pcap"]]

def oldSnortConfigPath (root : String) : List String := [join [root, "config", "snort.lua"]]

def oldSnortDBPath (root : String) : List String :=
  [join [join [root, "server"], "SWD", "snort.sqlite"], join [root, "SWD", "snort.sqlite"]]

def oldRawRulePath (root : String) : List String := [join [root, "config", "rules"]]

/-- A reader that takes the old names for the default leaves the path as it is. -/
def Kept (olds : List String) (default value : String) : Prop :=
  outdated value olds = true → default = value

theorem kept_iff {olds : List String} {default value : String} :
    (if outdated value olds = true then default else value) = value ↔ Kept olds default value :=
  ite_eq_right_iff

theorem kept_ite (olds : List String) (default value : String) :
    Kept olds default (if outdated value olds = true then default else value) := by
  intro h
  split at h
  · next hold => rw [if_pos hold]
  · next hnew => exact absurd h hnew

/-- Nothing is left to `mergeSettingDefaults`. -/
structure Settled (root : String) (s : AppSettings) : Prop where
  rootDir : s.rootDir = "" → root = s.rootDir
  swd : Kept (oldSWD root) "SWD" s.swd
  awd : Kept (oldAWD root) "AWD" s.awd
  pcapDir : Kept (oldPcapDir root) "real_pcap" s.pcapDir
  snortConfigPath : Kept (oldSnortConfigPath root) (join ["config", "snort.lua"]) s.snortConfigPath
  snortDBPath : Kept (oldSnortDBPath root) (join [s.swd, "snort.sqlite"]) s.snortDBPath
  rawRulePath : Kept (oldRawRulePath root) (join ["config", "rules"]) s.rawRulePath
  mode : s.mode ≠ ""
  activeRunID : s.activeRunID = 0
  needAlert : s.needAlert = true
  features : s.needOutput = true ∨ s.needProfiler = true

variable {root : String} {s : AppSettings}

theorem Settled.merge_eq (h : Settled root s) : mergeSettingDefaults s root = s := by
  have hswd : (mergeSettingDefaults s root).swd = s.swd := kept_iff.mpr h.swd
  have hdb : (mergeSettingDefaults s root).snortDBPath = s.snortDBPath := by
    show (if outdated s.snortDBPath (oldSnortDBPath root) = true
      then join [(mergeSettingDefaults s root).swd, "snort.sqlite"] else s.snortDBPath) = _
    rw [hswd]
    exact kept_iff.mpr h.snortDBPath
  have hset : (!s.needOutput && !s.needProfiler) = false := by
    cases h.features with
    | inl ho => simp [ho]
    | inr hp => simp [hp]
  exact AppSettings.ext (ite_eq_right_iff.mpr h.rootDir) hswd (kept_iff.mpr h.awd)
    (kept_iff.mpr h.pcapDir) (kept_iff.mpr h.snortConfigPath) hdb (kept_iff.mpr h.rawRulePath)
    rfl rfl (if_neg h.mode) rfl h.activeRunID.symm (by simp [mergeSettingDefaults, hset])
    h.needAlert.symm (by simp [mergeSettingDefaults, hset]) rfl rfl rfl rfl rfl rfl

/-- What a reader returns is settled. -/
theorem settled_merge (root : String) (raw : AppSettings) :
    Settled root (mergeSettingDefaults raw root) where
  rootDir h := by
    have hroot : (if raw.rootDir = "" then root else raw.rootDir) = "" := h
    show root = if raw.rootDir = "" then root else raw.rootDir
    split at hroot
    · next hempty => rw [if_pos hempty]
    · next hset => exact absurd hroot hset
  swd := kept_ite _ _ _
  awd := kept_ite _ _ _
  pcapDir := kept_ite _ _ _
  snortConfigPath := kept_ite _ _ _
  snortDBPath := kept_ite _ _ _
  rawRulePath := kept_ite _ _ _
  mode := by
    show (if raw.mode = "" then "interface" else raw.mode) ≠ ""
    split
    · decide
    · assumption
  activeRunID := rfl
  needAlert := rfl
  features := by
    simp only [mergeSettingDefaults, defaultSettings]
    cases raw.needOutput <;> cases raw.needProfiler <;> simp

theorem Settled.saved (h : Settled root s) (now : String) : Settled root (saveSettings now s) :=
  ⟨h.rootDir, h.swd, h.awd, h.pcapDir, h.snortConfigPath, h.snortDBPath, h.rawRulePath, h.mode,
    rfl, rfl, h.features⟩

theorem Settled.saveSettings_eq (h : Settled root s) (now : String) :
    saveSettings now s = reread { s with updatedAt := now } := by
  have hsame : { s with activeRunID := 0, needAlert := true, updatedAt := now } =
      { s with updatedAt := now } := by
    rw [AppSettings.mk.injEq]
    simp [h.activeRunID, h.needAlert]
  rw [saveSettings, hsame]

theorem settled_getSettings (root now : String) (stored : StoredSettings) :
    Settled root (getSettings root now stored) := by
  cases stored with
  | none =>
      have h := settled_merge root (defaultSettings root now)
      rwa [mergeSettingDefaults_default] at h
  | some raw => exact settled_merge root raw

theorem reread_reread (s : AppSettings) : reread (reread s) = reread s := by
  by_cases h : s.analysisDisabledStrategies = some [] <;> simp [reread, h]

/-- What is saved comes back as it was exactly if it is settled. -/
theorem read_back_iff (now : String) (hrun : s.activeRunID = 0) (halert : s.needAlert = true)
    (hroot : s.rootDir = "" → root = s.rootDir) (hmode : s.mode ≠ "") :
    (mergeSettingDefaults (saveSettings now s) root).answered = s.answered ↔ Settled root s := by
  constructor
  · intro h
    have hswd : (mergeSettingDefaults (saveSettings now s) root).swd = s.swd :=
      (congrArg AppSettings.swd h :)
    have hdb : (if outdated s.snortDBPath (oldSnortDBPath root) = true
        then join [(mergeSettingDefaults (saveSettings now s) root).swd, "snort.sqlite"]
        else s.snortDBPath) = s.snortDBPath :=
      (congrArg AppSettings.snortDBPath h :)
    rw [hswd] at hdb
    have hout : (if !s.needOutput && !s.needProfiler then true else s.needOutput) = s.needOutput :=
      (congrArg AppSettings.needOutput h :)
    exact {
      rootDir := hroot
      swd := kept_iff.mp hswd
      awd := kept_iff.mp (congrArg AppSettings.awd h)
      pcapDir := kept_iff.mp (congrArg AppSettings.pcapDir h)
      snortConfigPath := kept_iff.mp (congrArg AppSettings.snortConfigPath h)
      snortDBPath := kept_iff.mp hdb
      rawRulePath := kept_iff.mp (congrArg AppSettings.rawRulePath h)
      mode := hmode
      activeRunID := hrun
      needAlert := halert
      features := by
        revert hout
        cases s.needOutput <;> cases s.needProfiler <;> simp }
  · intro h
    rw [(h.saved now).merge_eq]
    have hlist := congrArg AppSettings.analysisDisabledStrategies (reread_reread s)
    exact AppSettings.ext rfl rfl rfl rfl rfl rfl rfl rfl rfl rfl rfl hrun.symm rfl halert.symm rfl
      rfl hlist rfl rfl rfl rfl

/-! ## Requests that are read back -/

/-- A `PUT` whose settings a reader leaves as they are: one of the two features stays on, and no
path of the body is an old name of a default, unless it is the default. -/
structure ReadsBack (root : String) (current incoming : AppSettings) : Prop where
  features : incoming.needOutput = true ∨ incoming.needProfiler = true
  swd : incoming.swd ≠ "" → Kept (oldSWD root) "SWD" (cleanSettingPath incoming.swd)
  awd : incoming.awd ≠ "" → Kept (oldAWD root) "AWD" (cleanSettingPath incoming.awd)
  pcapDir : incoming.pcapDir ≠ "" →
    Kept (oldPcapDir root) "real_pcap" (cleanSettingPath incoming.pcapDir)
  snortConfigPath : incoming.snortConfigPath ≠ "" →
    Kept (oldSnortConfigPath root) (join ["config", "snort.lua"])
      (cleanSettingPath incoming.snortConfigPath)
  snortDBPath : incoming.snortDBPath ≠ "" →
    Kept (oldSnortDBPath root) (join [incomingPath incoming.swd current.swd, "snort.sqlite"])
      (cleanSettingPath incoming.snortDBPath)
  rawRulePath : incoming.rawRulePath ≠ "" →
    Kept (oldRawRulePath root) (join ["config", "rules"]) (cleanSettingPath incoming.rawRulePath)

theorem kept_incomingPath {olds : List String} {default current : String} (incoming : String)
    (h : Kept olds default current) :
    Kept olds default (incomingPath incoming current) ↔
      (incoming ≠ "" → Kept olds default (cleanSettingPath incoming)) := by
  by_cases hin : incoming = ""
  · simp [incomingPath, hin, h]
  · simp [incomingPath, hin]

variable {incoming : AppSettings}

theorem mode_put (h : s.mode ≠ "") :
    (mergeIncomingSettings s.decorate incoming).decorate.mode ≠ "" := by
  show (if incoming.mode ≠ "" then incoming.mode else s.mode) ≠ ""
  split
  · assumption
  · exact h

/-- The merged settings of a `PUT`. -/
theorem settled_put_iff (h : Settled root s) :
    Settled root (mergeIncomingSettings s.decorate incoming).decorate ↔
      ReadsBack root s incoming := by
  have hdb : Kept (oldSnortDBPath root)
      (join [incomingPath incoming.swd s.swd, "snort.sqlite"])
      (if incoming.swd ≠ "" then join [incomingPath incoming.swd s.swd, "snort.sqlite"]
        else s.snortDBPath) := by
    by_cases hswd : incoming.swd = ""
    · simpa [hswd, incomingPath] using h.snortDBPath
    · rw [if_pos hswd]
      exact fun _ => rfl
  constructor
  · intro hm
    exact {
      features := hm.features
      swd := (kept_incomingPath _ h.swd).mp hm.swd
      awd := (kept_incomingPath _ h.awd).mp hm.awd
      pcapDir := (kept_incomingPath _ h.pcapDir).mp hm.pcapDir
      snortConfigPath := (kept_incomingPath _ h.snortConfigPath).mp hm.snortConfigPath
      snortDBPath := by
        intro hin
        have hkept := hm.snortDBPath
        simpa only [AppSettings.decorate, mergeIncomingSettings, if_pos hin] using hkept
      rawRulePath := (kept_incomingPath _ h.rawRulePath).mp hm.rawRulePath }
  · intro hr
    exact {
      rootDir := h.rootDir
      swd := (kept_incomingPath _ h.swd).mpr hr.swd
      awd := (kept_incomingPath _ h.awd).mpr hr.awd
      pcapDir := (kept_incomingPath _ h.pcapDir).mpr hr.pcapDir
      snortConfigPath := (kept_incomingPath _ h.snortConfigPath).mpr hr.snortConfigPath
      snortDBPath := by
        show Kept (oldSnortDBPath root) (join [incomingPath incoming.swd s.swd, "snort.sqlite"])
          (if incoming.snortDBPath ≠ "" then cleanSettingPath incoming.snortDBPath else _)
        split
        · next hin => exact hr.snortDBPath hin
        · exact hdb
      rawRulePath := (kept_incomingPath _ h.rawRulePath).mpr hr.rawRulePath
      mode := mode_put h.mode
      activeRunID := rfl
      needAlert := rfl
      features := hr.features }

theorem putSettings_eq_some {now : String} {mkdirAll : String → Option String}
    {stored : StoredSettings} {merged : AppSettings}
    (h : (putSettings root now incoming mkdirAll stored).1 = some merged) :
    merged = (mergeIncomingSettings (getSettings root now stored).decorate incoming).decorate ∧
      (putSettings root now incoming mkdirAll stored).2 = some (saveSettings now merged) := by
  cases hnext : (SettingsCall.put incoming mkdirAll).next now (getSettings root now stored) with
  | none => simp [putSettings, hnext] at h
  | some t =>
      have ht : t = merged := by simpa [putSettings, hnext] using h
      refine ⟨?_, by simp [putSettings, hnext, ht]⟩
      simp only [SettingsCall.next] at hnext
      split at hnext
      · cases hnext
      · exact ht ▸ (Option.some.inj hnext).symm

/-- A reader finds the settings it goes on with in the row it leaves. -/
theorem repaired_eq (root now : String) (stored : StoredSettings) :
    ∃ raw, (settingsUpdater root).repaired now stored = some raw ∧
      mergeSettingDefaults raw root = getSettings root now stored := by
  cases stored with
  | none => exact ⟨_, rfl, mergeSettingDefaults_default root now⟩
  | some raw => exact ⟨raw, rfl, rfl⟩

/-- The row is the one the call leaves when nothing comes between its steps. -/
theorem putSettings_row (root now : String) (incoming : AppSettings)
    (mkdirAll : String → Option String) (stored : StoredSettings) :
    (putSettings root now incoming mkdirAll stored).2 =
      (settingsUpdater root).run now (.put incoming mkdirAll) stored := by
  obtain ⟨raw, hraw, hread⟩ := repaired_eq root now stored
  rw [Updater.run, putSettings, hraw, ← hread]
  show _ = ((SettingsCall.put incoming mkdirAll).next now (mergeSettingDefaults raw root)
    |>.map fun t => some (saveSettings now t)).getD (some raw)
  cases (SettingsCall.put incoming mkdirAll).next now (mergeSettingDefaults raw root) <;> rfl

/-- A call that has read the settings and saves them with a change. -/
theorem run_eq {now : String} {call : SettingsCall} {raw t : AppSettings}
    (h : call.next now (mergeSettingDefaults raw root) = some t) :
    (settingsUpdater root).run now call (some raw) = some (saveSettings now t) := by
  show Option.getD (Option.map _ (call.next now (mergeSettingDefaults raw root))) _ = _
  rw [h]
  rfl

theorem currentSettings_eq (root now : String) (stored : StoredSettings) :
    currentSettings root now stored = (getSettings root now stored).decorate := by
  cases stored <;> rfl

/-- What a call saves is read back with nothing else moved, as what it has read is settled. -/
theorem getSettings_run {now : String} {call : SettingsCall} {stored : StoredSettings}
    {t : AppSettings} (hnext : call.next now (getSettings root now stored) = some t)
    (ht : Settled root t) (now' : String) :
    getSettings root now' ((settingsUpdater root).run now call stored) = saveSettings now t := by
  obtain ⟨raw, hraw, hread⟩ := repaired_eq root now stored
  have hrun : (settingsUpdater root).run now call stored = some (saveSettings now t) := by
    rw [← hread] at hnext
    rw [← run_eq hnext, Updater.run, hraw]
    rfl
  rw [hrun]
  exact (ht.saved now).merge_eq

/-- **A mark changes the mark only.** Whatever is stored, what `GetSettings` returns after either
mark is what it returned before, up to that mark and the time of the save. (The list of disabled
strategies is left out of the JSON when it is empty: see `reread`.) -/
theorem marks_frame (root before now later hash : String) (runID : Int)
    (stored : StoredSettings) :
    let read := getSettings root before stored
    getSettings root later ((settingsUpdater root).run now (.markSettingsApplied hash) stored) =
        reread { read with lastAppliedHash := hash, lastAppliedAt := now, updatedAt := now } ∧
      getSettings root later ((settingsUpdater root).run now (.markAppliedFinalRun runID) stored) =
        reread { read with lastAppliedFinalRun := runID, updatedAt := now } ∧
      ∀ settings, mergeSettingDefaults (mergeSettingDefaults settings root) root =
        mergeSettingDefaults settings root := by
  intro read
  have hsettled := settled_getSettings root now stored
  have hread : read = { getSettings root now stored with updatedAt := read.updatedAt } := by
    cases stored <;> rfl
  have happlied : Settled root { getSettings root now stored with
    lastAppliedHash := hash, lastAppliedAt := now } := { hsettled with }
  have hfinal : Settled root { getSettings root now stored with lastAppliedFinalRun := runID } :=
    { hsettled with }
  refine ⟨?_, ?_, fun settings => (settled_merge root settings).merge_eq⟩
  · rw [getSettings_run rfl happlied, happlied.saveSettings_eq, hread]
  · rw [getSettings_run rfl hfinal, hfinal.saveSettings_eq, hread]

/-- **When saved settings are read back.** What the next `GetSettings` returns is what a `PUT` has
answered with, and so is its hash, exactly if the body keeps one of the two features on and none of
its paths is an old name of a default. -/
theorem put_read_back_iff (digest : EffectiveConfig → String) (root now now' : String)
    (incoming : AppSettings) (mkdirAll : String → Option String) (stored : StoredSettings)
    (merged : AppSettings)
    (hput : (putSettings root now incoming mkdirAll stored).1 = some merged) :
    let row := (putSettings root now incoming mkdirAll stored).2
    ((getSettings root now' row).answered = merged.answered ∧
      configHash digest (currentSettings root now' row) = configHash digest merged) ↔
    ReadsBack root (getSettings root now stored) incoming := by
  intro row
  obtain ⟨hmerged, hrow⟩ := putSettings_eq_some hput
  have hcurrent := settled_getSettings root now stored
  have hiff : (mergeSettingDefaults (saveSettings now merged) root).answered = merged.answered ↔
      Settled root merged := by
    rw [hmerged]
    exact read_back_iff now rfl rfl hcurrent.rootDir (mode_put hcurrent.mode)
  have hread : getSettings root now' row = mergeSettingDefaults (saveSettings now merged) root := by
    show getSettings root now' (putSettings root now incoming mkdirAll stored).2 = _
    rw [hrow]
    rfl
  rw [← settled_put_iff hcurrent, ← hmerged, currentSettings_eq, hread]
  constructor
  · intro h
    exact hiff.mp h.1
  · intro h
    refine ⟨hiff.mpr h, ?_⟩
    have hdecorated : merged.decorate = merged := by rw [hmerged, decorate_decorate]
    rw [(h.saved now).merge_eq]
    show digest merged.decorate.effective = digest merged.effective
    rw [hdecorated]

theorem ensureRuntimeDirs_ok (hdirs : s.swd ≠ "" ∧ s.awd ≠ "" ∧ s.pcapDir ≠ "") :
    ensureRuntimeDirs (fun _ => none) s = .ok () := by
  obtain ⟨hswd, hawd, hpcap⟩ := hdirs
  simp only [ensureRuntimeDirs, List.forM_eq_forM, List.forM_cons, List.forM_nil, hswd, hawd, hpcap,
    if_false]
  rfl

/-- A request that finds its three directories or can make them. -/
theorem putSettings_of_dirs {now : String} {stored : StoredSettings} {merged : AppSettings}
    (hmerged : merged =
      (mergeIncomingSettings (getSettings root now stored).decorate incoming).decorate)
    (hdirs : merged.swd ≠ "" ∧ merged.awd ≠ "" ∧ merged.pcapDir ≠ "") :
    putSettings root now incoming (fun _ => none) stored =
      (some merged, some (saveSettings now merged)) := by
  have hok := ensureRuntimeDirs_ok hdirs
  rw [hmerged] at hok ⊢
  simp only [putSettings, SettingsCall.next]
  rw [hok]

theorem interfaceBody_readsBack (root : String) : ReadsBack root s interfaceBody :=
  ⟨.inl rfl, fun h => absurd rfl h, fun h => absurd rfl h, fun h => absurd rfl h,
    fun h => absurd rfl h, fun h => absurd rfl h, fun h => absurd rfl h⟩

/-- A request that changes the interface only is answered with what is read afterwards. -/
theorem interface_reads_back :
    ∃ merged, (putSettings "/srv" "" interfaceBody (fun _ => none) none).1 = some merged ∧
      let row := (putSettings "/srv" "" interfaceBody (fun _ => none) none).2
      merged.interface = "eth0" ∧ (getSettings "/srv" "" row).answered = merged.answered := by
  let merged := (mergeIncomingSettings (defaultSettings "/srv" "").decorate interfaceBody).decorate
  have hput : (putSettings "/srv" "" interfaceBody (fun _ => none) none).1 = some merged :=
    congrArg Prod.fst (putSettings_of_dirs rfl (by decide))
  refine ⟨merged, hput, rfl, ?_⟩
  have hiff := put_read_back_iff (fun c => c.interface) "/srv" "" "" interfaceBody (fun _ => none)
    none merged hput
  exact (hiff.mpr (interfaceBody_readsBack "/srv")).1

/-- A body that turns both features off. -/
def featuresOffBody : AppSettings :=
  { interfaceBody with needOutput := false, needProfiler := false }

/-- The answer says that both features are off, and the next reader finds them on. -/
theorem features_read_back_on :
    ∃ merged, (putSettings "/srv" "" featuresOffBody (fun _ => none) none).1 = some merged ∧
      let row := (putSettings "/srv" "" featuresOffBody (fun _ => none) none).2
      (merged.needOutput = false ∧ (getSettings "/srv" "" row).needOutput = true) ∧
      (getSettings "/srv" "" row).answered ≠ merged.answered ∧
      ∀ digest : EffectiveConfig → String, Function.Injective digest →
        configHash digest (currentSettings "/srv" "" row) ≠ configHash digest merged := by
  let merged :=
    (mergeIncomingSettings (defaultSettings "/srv" "").decorate featuresOffBody).decorate
  have hput : putSettings "/srv" "" featuresOffBody (fun _ => none) none =
      (some merged, some (saveSettings "" merged)) := putSettings_of_dirs rfl (by decide)
  rw [hput]
  refine ⟨merged, rfl, ⟨rfl, rfl⟩, ?_, ?_⟩
  · intro h
    exact absurd (congrArg AppSettings.needOutput h) (by decide)
  · intro digest hdigest h
    exact absurd (congrArg EffectiveConfig.needOutput (hdigest h)) (by decide)

end SnortOptimizer.Server
