import SnortOptimizer.Machine.ReadModifyWrite
import SnortOptimizer.Path.Basic
import SnortOptimizer.Text.Basic
import Mathlib.Data.List.Permutation
import Mathlib.Data.List.Sort

/-!
# The settings of the server (`server/store/store.go`, `server/api/server.go`)

All settings are one JSON value in one row. A reader fills in defaults, and writes the defaults if
there is no row yet; a writer replaces the whole value. `PUT /api/settings` merges what it is sent
into what it has read, `MarkSettingsApplied` and `MarkAppliedFinalRun` set one field of what they
have read. None of them holds a lock or a transaction from its read to its write.

The steps of such calls are those of a `ReadModifyWrite` value, compared without the two
timestamps.
-/

namespace SnortOptimizer.Server

open SnortOptimizer.Path Text

/-! ## Data -/

structure LuaOverride where
  id : String
  label : String
  value : String
  enabled : Bool
  description : String
  category : String
  deriving DecidableEq, Repr

/-- `none` stands for a nil slice. -/
@[ext]
structure AppSettings where
  rootDir : String
  swd : String
  awd : String
  pcapDir : String
  snortConfigPath : String
  snortDBPath : String
  rawRulePath : String
  rawSnortSQLite : String
  interface : String
  mode : String
  pcapFile : String
  activeRunID : Int
  needOutput : Bool
  needAlert : Bool
  needProfiler : Bool
  luaOverrides : Option (List LuaOverride)
  analysisDisabledStrategies : Option (List String)
  lastAppliedHash : String
  lastAppliedAt : String
  lastAppliedFinalRun : Int
  updatedAt : String
  deriving DecidableEq, Repr

/-! ## Lua presets (`server/configoptimize/options.go`) -/

structure LuaPreset where
  id : String
  category : String
  label : String
  value : String
  description : String
  risk : String

def presets : List LuaPreset :=
  [ { id := "search_hyperscan", category := "检测引擎", label := "Hyperscan 搜索引擎"
      value := "search_engine = \x7b search_method = \"hyperscan\" \x7d"
      description :=
        "启用 Hyperscan 多模式匹配，通常能降低规则匹配耗时；需要 Snort 构建时支持 Hyperscan。"
      risk := "medium" },
    { id := "search_ac_bnfa", category := "检测引擎", label := "AC-BNFA 搜索引擎"
      value := "search_engine = \x7b search_method = \"ac_bnfa\" \x7d"
      description := "使用内存占用较低的 AC-BNFA，适合 Hyperscan 不可用或内存紧张的机器。"
      risk := "low" },
    { id := "appid_disable", category := "协议识别", label := "关闭 AppID", value := "appid = nil"
      description :=
        "减少应用识别开销。依赖 AppID 的规则或统计会变少，应用前建议先跑总体性能测试。"
      risk := "high" },
    { id := "stream_tcp_prune", category := "会话跟踪", label := "限制 TCP 会话缓存"
      value := "stream_tcp = \x7b session_timeout = 60 \x7d"
      description := "缩短 TCP 会话保留时间，降低高连接数场景的内存压力。", risk := "medium" },
    { id := "wizard_disable", category := "协议识别", label := "关闭 Wizard 探测"
      value := "wizard = nil", description := "关闭部分协议自动探测，减少早期流量分类成本。"
      risk := "medium" },
    { id := "latency_guard", category := "延迟保护", label := "启用延迟保护"
      value :=
        "latency = \x7b packet = \x7b max_time = 1500 \x7d, rule = \x7b max_time = 1500 \x7d \x7d"
      description := "对异常慢包和慢规则设置时间上限，保护生产流量延迟。", risk := "medium" },
    { id := "inspect_file_depth", category := "文件检测", label := "限制文件检测深度"
      value := "file_id = \x7b file_rules = false \x7d"
      description := "降低文件识别和文件规则开销，适合非文件安全场景。", risk := "high" } ]

/-- An override of a preset has the preset's value, and its texts where it has none. -/
def LuaPreset.decorate (preset : LuaPreset) (override : LuaOverride) : LuaOverride :=
  { override with
    value := preset.value
    label := if override.label = "" then preset.label else override.label
    description := if override.description = "" then preset.description else override.description
    category := if override.category = "" then preset.category else override.category }

def LuaPreset.override (preset : LuaPreset) : LuaOverride :=
  { id := preset.id, label := preset.label, value := preset.value, enabled := false
    description := preset.description, category := preset.category }

def mergePresetMetadata (overrides : List LuaOverride) : List LuaOverride :=
  let decorated := overrides.map fun override =>
    match presets.find? (·.id = override.id) with
    | some preset => preset.decorate override
    | none => override
  let missing := presets.filter fun preset => !overrides.any (·.id = preset.id)
  decorated ++ missing.map LuaPreset.override

/-! ## Reading and writing -/

def defaultSettings (root now : String) : AppSettings :=
  { rootDir := root, swd := "SWD", awd := "AWD", pcapDir := "real_pcap"
    snortConfigPath := join ["config", "snort.lua"], snortDBPath := join ["SWD", "snort.sqlite"]
    rawRulePath := join ["config", "rules"], rawSnortSQLite := "", interface := ""
    mode := "interface", pcapFile := "", activeRunID := 0, needOutput := true, needAlert := true
    needProfiler := true, luaOverrides := some [], analysisDisabledStrategies := none
    lastAppliedHash := "", lastAppliedAt := "", lastAppliedFinalRun := 0, updatedAt := now }

def sameCleanPath (left right : String) : Bool := clean left = clean right

/-- The path is not set, or an old name of the default. -/
def outdated (value : String) (olds : List String) : Bool :=
  value = "" ∨ olds.any (sameCleanPath value) = true

def mergeSettingDefaults (settings : AppSettings) (root : String) : AppSettings :=
  let oldServerRoot := join [root, "server"]
  let defaults := defaultSettings root settings.updatedAt
  let swd := if outdated settings.swd [join [oldServerRoot, "SWD"], join [root, "SWD"]]
    then defaults.swd else settings.swd
  let unset := !settings.needOutput && !settings.needProfiler
  { settings with
    rootDir := if settings.rootDir = "" then defaults.rootDir else settings.rootDir
    swd := swd
    awd := if outdated settings.awd [join [oldServerRoot, "AWD"], join [root, "AWD"]]
      then defaults.awd else settings.awd
    pcapDir := if outdated settings.pcapDir [join [oldServerRoot, "pcap"], join [root, "real_pcap"]]
      then defaults.pcapDir else settings.pcapDir
    snortConfigPath :=
      if outdated settings.snortConfigPath [join [root, "config", "snort.lua"]]
      then defaults.snortConfigPath else settings.snortConfigPath
    snortDBPath :=
      if outdated settings.snortDBPath
        [join [oldServerRoot, "SWD", "snort.sqlite"], join [root, "SWD", "snort.sqlite"]]
      then join [swd, "snort.sqlite"] else settings.snortDBPath
    rawRulePath := if outdated settings.rawRulePath [join [root, "config", "rules"]]
      then defaults.rawRulePath else settings.rawRulePath
    mode := if settings.mode = "" then defaults.mode else settings.mode
    activeRunID := 0
    needAlert := true
    needOutput := if unset then defaults.needOutput else settings.needOutput
    needProfiler := if unset then defaults.needProfiler else settings.needProfiler }

/-- What `json.Unmarshal` makes of a value that `json.Marshal` has written: the one list with
`omitempty` comes back as nil when it is empty. -/
def reread (settings : AppSettings) : AppSettings :=
  { settings with
    analysisDisabledStrategies :=
      if settings.analysisDisabledStrategies = some [] then none
      else settings.analysisDisabledStrategies }

/-- The value `SaveSettings` leaves in the row, as the next reader unmarshals it. -/
def saveSettings (now : String) (settings : AppSettings) : AppSettings :=
  reread { settings with activeRunID := 0, needAlert := true, updatedAt := now }

/-! ## The calls -/

def cleanSettingPath (value : String) : String := if value = "" then "" else clean value

def cleanStrategyNames (values : List String) : List String :=
  let names := (values.map trimSpace).filter (· ≠ "")
  (names.foldl (fun out name => if name ∈ out then out else out ++ [name]) []).insertionSort
    fun a b => ¬ b < a

/-- An incoming path replaces the current one if there is one. -/
def incomingPath (incoming current : String) : String :=
  if incoming ≠ "" then cleanSettingPath incoming else current

def mergeIncomingSettings (current incoming : AppSettings) : AppSettings :=
  let swd := incomingPath incoming.swd current.swd
  { current with
    swd := swd
    awd := incomingPath incoming.awd current.awd
    pcapDir := incomingPath incoming.pcapDir current.pcapDir
    snortConfigPath := incomingPath incoming.snortConfigPath current.snortConfigPath
    snortDBPath :=
      if incoming.snortDBPath ≠ "" then cleanSettingPath incoming.snortDBPath
      else if incoming.swd ≠ "" then join [swd, "snort.sqlite"]
      else current.snortDBPath
    rawRulePath := incomingPath incoming.rawRulePath current.rawRulePath
    rawSnortSQLite := incomingPath incoming.rawSnortSQLite current.rawSnortSQLite
    interface := if incoming.interface ≠ "" ∨ current.interface ≠ "" then incoming.interface
      else current.interface
    mode := if incoming.mode ≠ "" then incoming.mode else current.mode
    pcapFile := if incoming.pcapFile ≠ "" ∨ current.pcapFile ≠ ""
      then cleanSettingPath incoming.pcapFile else current.pcapFile
    activeRunID := 0
    needOutput := incoming.needOutput
    needAlert := true
    needProfiler := incoming.needProfiler
    luaOverrides := if incoming.luaOverrides ≠ none then incoming.luaOverrides
      else current.luaOverrides
    analysisDisabledStrategies :=
      match incoming.analysisDisabledStrategies with
      | some names => some (cleanStrategyNames names)
      | none => current.analysisDisabledStrategies }

/-- `EnsureRuntimeDirs`, given what `os.MkdirAll` reports. -/
def ensureRuntimeDirs (mkdirAll : String → Option String) (settings : AppSettings) :
    Except String Unit :=
  [settings.swd, settings.awd, settings.pcapDir].forM fun path =>
    if path = "" then throw "runtime directory is empty"
    else match mkdirAll path with
      | some e => throw e
      | none => pure ()

/-- `MergePresetMetadata` on the overrides of the settings. -/
def AppSettings.decorate (settings : AppSettings) : AppSettings :=
  { settings with
    luaOverrides := some (mergePresetMetadata (settings.luaOverrides.getD [])) }

inductive SettingsCall where
  | put (incoming : AppSettings) (mkdirAll : String → Option String)
  | markSettingsApplied (hash : String)
  | markAppliedFinalRun (runID : Int)

/-- What a call saves, given what `GetSettings` has returned. -/
def SettingsCall.next (now : String) (settings : AppSettings) : SettingsCall → Option AppSettings
  | .put incoming mkdirAll =>
      let merged := (mergeIncomingSettings settings.decorate incoming).decorate
      match ensureRuntimeDirs mkdirAll merged with
      | .error _ => none
      | .ok _ => some merged
  | .markSettingsApplied hash =>
      some { settings with lastAppliedHash := hash, lastAppliedAt := now }
  | .markAppliedFinalRun runID => some { settings with lastAppliedFinalRun := runID }

/-! ## Timestamps aside -/

def AppSettings.withoutTimes (settings : AppSettings) : AppSettings :=
  { settings with updatedAt := "", lastAppliedAt := "" }

/-- Settings that differ in the timestamps only. -/
theorem eq_with_times {a b : AppSettings} (h : a.withoutTimes = b.withoutTimes) :
    b = { a with updatedAt := b.updatedAt, lastAppliedAt := b.lastAppliedAt } := by
  cases a
  cases b
  simp only [AppSettings.withoutTimes, AppSettings.mk.injEq] at h ⊢
  simp [h]

/-- What is stored: nothing at first. -/
abbrev StoredSettings := Option AppSettings

instance storedSetoid : Setoid StoredSettings where
  r a b := a.map AppSettings.withoutTimes = b.map AppSettings.withoutTimes
  iseqv := ⟨fun _ => rfl, fun h => h.symm, fun h h' => h.trans h'⟩

theorem some_equiv_some {a b : AppSettings} :
    (some a : StoredSettings) ≈ some b ↔ a.withoutTimes = b.withoutTimes :=
  Option.some_inj

theorem mergeSettingDefaults_congr {a b : AppSettings} (root : String)
    (h : a.withoutTimes = b.withoutTimes) :
    (mergeSettingDefaults a root).withoutTimes = (mergeSettingDefaults b root).withoutTimes := by
  rw [eq_with_times h]
  rfl

theorem saveSettings_congr {a b : AppSettings} (now now' : String)
    (h : a.withoutTimes = b.withoutTimes) :
    (saveSettings now a).withoutTimes = (saveSettings now' b).withoutTimes := by
  rw [eq_with_times h]
  rfl

theorem SettingsCall.next_congr {a b : AppSettings} (now now' : String) (call : SettingsCall)
    (h : a.withoutTimes = b.withoutTimes) :
    (call.next now a).map AppSettings.withoutTimes =
      (call.next now' b).map AppSettings.withoutTimes := by
  rw [eq_with_times h]
  cases call with
  | put incoming mkdirAll =>
      -- the timestamps go through the merge, and the directories do not depend on them
      let merged := (mergeIncomingSettings a.decorate incoming).decorate
      show Option.map AppSettings.withoutTimes
          (match ensureRuntimeDirs mkdirAll merged with | .error _ => none | .ok _ => some merged) =
        Option.map AppSettings.withoutTimes (match ensureRuntimeDirs mkdirAll merged with
          | .error _ => none
          | .ok _ => some { merged with
              updatedAt := b.updatedAt, lastAppliedAt := b.lastAppliedAt })
      cases ensureRuntimeDirs mkdirAll merged <;> rfl
  | markSettingsApplied hash => rfl
  | markAppliedFinalRun runID => rfl

/-- A caller that has just stored the defaults goes on with them, and a later one merges them. -/
theorem mergeSettingDefaults_default (root now : String) :
    mergeSettingDefaults (defaultSettings root now) root = defaultSettings root now := by
  have hswd : (mergeSettingDefaults (defaultSettings root now) root).swd = "SWD" := ite_self _
  have hdb : (mergeSettingDefaults (defaultSettings root now) root).snortDBPath =
      join ["SWD", "snort.sqlite"] := by
    show (if _ then join [(mergeSettingDefaults (defaultSettings root now) root).swd, _] else _) = _
    rw [hswd]
    exact ite_self _
  exact AppSettings.ext (ite_self _) hswd (ite_self _) (ite_self _) (ite_self _) hdb (ite_self _)
    rfl rfl rfl rfl rfl rfl rfl rfl rfl rfl rfl rfl rfl rfl

/-! ## Concurrent calls -/

/-- The calls on the stored settings of a server with the given root directory. -/
def settingsUpdater (root : String) : Updater StoredSettings SettingsCall String where
  repair now
    | none => some (some (saveSettings now (defaultSettings root now)))
    | some _ => none
  update call now
    | none => none
    | some raw =>
        (call.next now (mergeSettingDefaults raw root)).map fun t => some (saveSettings now t)
  repair_congr := by
    intro n m a b hab
    cases a with
    | none =>
        cases b with
        | none => exact .some (some_equiv_some.mpr rfl)
        | some b => cases hab
    | some a =>
        cases b with
        | none => cases hab
        | some b => exact .none
  update_congr := by
    intro k n m a b hab
    cases a with
    | none =>
        cases b with
        | none => exact .none
        | some b => cases hab
    | some a =>
        cases b with
        | none => cases hab
        | some b =>
            have hnext := k.next_congr n m
              (mergeSettingDefaults_congr root (some_equiv_some.mp hab))
            show Option.Rel (· ≈ ·)
              ((k.next n (mergeSettingDefaults a root)).map fun t => some (saveSettings n t))
              ((k.next m (mergeSettingDefaults b root)).map fun t => some (saveSettings m t))
            cases ha : k.next n (mergeSettingDefaults a root) with
            | none =>
                cases hb : k.next m (mergeSettingDefaults b root) with
                | none => exact .none
                | some t => simp [ha, hb] at hnext
            | some s =>
                cases hb : k.next m (mergeSettingDefaults b root) with
                | none => simp [ha, hb] at hnext
                | some t =>
                    rw [ha, hb] at hnext
                    have hst := saveSettings_congr n m (Option.some.inj hnext)
                    exact .some (some_equiv_some.mpr hst)
  repair_repair := by
    intro n m a b h
    cases a with
    | none =>
        cases h
        rfl
    | some a => cases h
  repair_update := by
    intro k n m a b h
    cases a with
    | none => cases h
    | some a =>
        obtain ⟨t, _, rfl⟩ := Option.map_eq_some_iff.mp h
        rfl

/-- The marks a `PUT` saves are the ones it has read. -/
theorem put_marks {root now : String} {raw t : AppSettings} {incoming : AppSettings}
    {mkdirAll : String → Option String}
    (h : (settingsUpdater root).update (.put incoming mkdirAll) now (some raw) = some (some t)) :
    t.lastAppliedHash = raw.lastAppliedHash ∧
      t.lastAppliedFinalRun = raw.lastAppliedFinalRun := by
  obtain ⟨s, hs, hst⟩ := Option.map_eq_some_iff.mp h
  simp only [SettingsCall.next] at hs
  split at hs
  · cases hs
  · cases hs
    cases hst
    exact ⟨rfl, rfl⟩

/-- **When no settings update is lost.** In every interleaving in which each call writes while the
stored settings still are those it has read, the stored settings are, timestamps aside, what the
calls leave one after another in the order of their writes. A `PUT` that writes later than that sets
both marks back to what it has read. -/
theorem settings_serial_of_guarded (root : String) (calls : Nat → SettingsCall)
    (stored : StoredSettings) (acts : List (Updater.Action String)) (now : String) :
    let u := settingsUpdater root
    ((u.machine calls stored).Guarded u.FindsUnchanged (.new stored) acts →
      (u.machine calls stored).Always (u.SerialSoFar calls now stored) (.new stored) acts) ∧
    ∀ s s' i raw incoming mkdirAll,
      s.phase i = .loaded (some raw) → calls i = .put incoming mkdirAll →
      (u.machine calls stored).step s (.write i now) = some s' →
      s'.value = s.value ∨ ∃ t, s'.value = some t ∧ t.lastAppliedHash = raw.lastAppliedHash ∧
        t.lastAppliedFinalRun = raw.lastAppliedFinalRun := by
  intro u
  constructor
  · exact Updater.serialSoFar_of_guarded u calls now stored
  · intro s s' i raw incoming mkdirAll hphase hcall hstep
    have hs' : s'.value = (u.update (calls i) now (some raw)).getD s.value := by
      simp only [Updater.machine, Updater.step, hphase] at hstep
      cases hstep
      rfl
    rw [hs', hcall]
    cases hupdate : u.update (.put incoming mkdirAll) now (some raw) with
    | none => exact .inl rfl
    | some b =>
        right
        obtain ⟨t, _, rfl⟩ := Option.map_eq_some_iff.mp hupdate
        exact ⟨_, rfl, put_marks hupdate⟩

/-- Settings that differ in the timestamps only have the same mark. -/
theorem hash_congr {a b : StoredSettings} (h : a ≈ b) :
    a.map AppSettings.lastAppliedHash = b.map AppSettings.lastAppliedHash := by
  have hmark := congrArg (Option.map AppSettings.lastAppliedHash) h
  rwa [Option.map_map, Option.map_map] at hmark

/-- A body that changes the interface only. -/
def interfaceBody : AppSettings :=
  { defaultSettings "" "" with
    swd := "", awd := "", pcapDir := "", snortConfigPath := "", snortDBPath := ""
    rawRulePath := "", mode := "", interface := "eth0", luaOverrides := none }

/-- The first call is a `PUT`, every other one marks the settings as applied. -/
def putAndMark : Nat → SettingsCall
  | 0 => .put interfaceBody fun _ => none
  | _ => .markSettingsApplied "applied"

/-- Both calls read before either writes, and the `PUT` writes last: the mark is lost, which no
order of the two calls explains. -/
theorem mark_lost :
    ∃ s, ((settingsUpdater "/srv").machine putAndMark (some (defaultSettings "/srv" ""))).exec
        (.new (some (defaultSettings "/srv" "")))
        [.read 0 "", .read 1 "", .write 1 "", .write 0 ""] = some s ∧
      ∀ order : List Nat, order.Perm [0, 1] →
        ¬ s.value ≈ (settingsUpdater "/srv").serial "" (order.map putAndMark)
          (some (defaultSettings "/srv" "")) := by
  have hrun : (((settingsUpdater "/srv").machine putAndMark
      (some (defaultSettings "/srv" ""))).exec (.new (some (defaultSettings "/srv" "")))
      [.read 0 "", .read 1 "", .write 1 "", .write 0 ""]).map
        (fun s => s.value.map AppSettings.lastAppliedHash) = some (some "") := by
    decide +kernel
  obtain ⟨s, hs, hhash⟩ := Option.map_eq_some_iff.mp hrun
  refine ⟨s, hs, ?_⟩
  intro order horder heq
  have hserial : ((settingsUpdater "/srv").serial "" (order.map putAndMark)
      (some (defaultSettings "/srv" ""))).map AppSettings.lastAppliedHash = some "applied" := by
    rcases List.perm_pair.mp horder with rfl | rfl
    · decide +kernel
    · decide +kernel
  rw [← hash_congr heq, hhash] at hserial
  exact absurd hserial (by decide)

end SnortOptimizer.Server
