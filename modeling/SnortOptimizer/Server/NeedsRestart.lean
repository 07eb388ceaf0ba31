import SnortOptimizer.Server.SavedSettings

/-!
# Whether the running Snort needs a restart (`server/api/server.go`)

A successful `startRunner` leaves the hash of the settings it has started Snort with in the stored
settings. `/api/overview` compares it with the hash of the current ones. Other requests replace the
stored settings as a whole, so they have to carry the mark along (`KeepsHash`).

Requests are handled one at a time here, and calls of the store and `Runner.Stop` succeed; what
happens when requests overlap is a question of `Settings` and `SnortControl`.
-/

namespace SnortOptimizer.Server

open Analyser SnortOptimizer.Path Text

/-! ## The configuration of Snort (`wrap/types/config.go`, `wrap/runner/config.go`) -/

structure WrapConfig where
  mode : String
  snortWorkingDir : String
  snortConfigPath : String
  snortDBPath : String
  rawRulePath : String
  interface : String
  pcapFile : String
  luaOverrides : List String
  runID : Int
  needOutput : Bool
  needAlert : Bool
  needProfiler : Bool
  noClean : Bool
  deriving DecidableEq, Repr

def AppSettings.buildWrapConfig (settings : AppSettings) : WrapConfig :=
  { mode := settings.mode, snortWorkingDir := settings.swd
    snortConfigPath := settings.snortConfigPath, snortDBPath := settings.snortDBPath
    rawRulePath := settings.rawRulePath, interface := settings.interface
    pcapFile := settings.pcapFile, luaOverrides := enabledLuaValues (settings.luaOverrides.getD [])
    runID := 0, needOutput := settings.needOutput, needAlert := true
    needProfiler := settings.needProfiler, noClean := false }

def validateConfig (cfg : WrapConfig) : Except String Unit :=
  if trimSpace cfg.pcapFile ≠ "" ∧ trimSpace cfg.interface ≠ "" then
    .error "only one of PcapFile or Interface may be set"
  else if cfg.mode ≠ "interface" ∧ cfg.mode ≠ "pcap" then
    .error "Mode must be \"interface\" or \"pcap\""
  else if cfg.mode = "interface" ∧ trimSpace cfg.interface = "" then
    .error "Interface is required when Mode=interface"
  else if cfg.mode = "pcap" ∧ trimSpace cfg.pcapFile = "" then
    .error "PcapFile is required when Mode=pcap"
  else if trimSpace cfg.snortConfigPath = "" then .error "SnortConfigPath is required"
  else .ok ()

def resolvePath (env : Env) (field path : String) : Except String String :=
  match env.abs path with
  | .ok path => .ok path
  | .error e => .error ("resolve " ++ field ++ ": " ++ e)

/-- A path that is not set stays so. -/
def resolveSet (env : Env) (field path : String) : Except String String :=
  if trimSpace path ≠ "" then resolvePath env field path else .ok path

def normalizeConfig (env : Env) (input : WrapConfig) : Except String WrapConfig := do
  let swd ← resolvePath env "SnortWorkingDir"
    (if trimSpace input.snortWorkingDir = "" then "." else input.snortWorkingDir)
  let snortConfigPath ← resolveSet env "SnortConfigPath" input.snortConfigPath
  let snortDBPath ← resolveSet env "SnortDBPath" input.snortDBPath
  let rawRulePath ← resolveSet env "RawRulePath" input.rawRulePath
  let mode :=
    if input.mode ≠ "" then input.mode
    else if trimSpace input.pcapFile ≠ "" then "pcap"
    else if trimSpace input.interface ≠ "" then "interface"
    else ""
  let cfg := { input with
    snortWorkingDir := swd, snortConfigPath := snortConfigPath, snortDBPath := snortDBPath
    rawRulePath := rawRulePath, mode := mode }
  validateConfig cfg
  return cfg

/-! ## The requests -/

/-- The runner in `Server.runner`, with the configuration `wrap.NewRunner` was given. -/
structure ProductionRunner where
  config : WrapConfig
  running : Bool
  deriving DecidableEq, Repr

def ProductionRunner.stop (runner : ProductionRunner) : ProductionRunner :=
  { runner with running := false }

structure ControlState where
  stored : StoredSettings
  runner : Option ProductionRunner

def ControlState.running (s : ControlState) : Bool := s.runner.any (·.running)

/-- `runner.Stop()`, where there is one. -/
def ControlState.stop (s : ControlState) : ControlState :=
  { s with runner := s.runner.map ProductionRunner.stop }

/-- A request that reads the settings. -/
def ControlState.read (root now : String) (s : ControlState) : ControlState :=
  { s with stored := (settingsUpdater root).repaired now s.stored }

/-- A request to start or restart Snort, and what it meets. -/
structure StartCall where
  forceRestart : Bool
  now : String
  mkdirAll : String → Option String
  startFault : Option String          -- what `runner.Start()` reports

def startRunner (digest : EffectiveConfig → String) (p : Process) (call : StartCall)
    (s : ControlState) : Except String Unit × ControlState :=
  let settings := currentSettings p.root call.now s.stored
  let s := s.read p.root call.now
  match ensureRuntimeDirs call.mkdirAll settings with
  | .error e => (.error e, s)
  | .ok _ =>
      let cfg := settings.buildWrapConfig
      match normalizeConfig p.env cfg with
      | .error e => (.error e, s)
      | .ok _ =>
          if s.running && !call.forceRestart then (.error "snort is already running", s)
          else
            match call.startFault with
            | some e => (.error e, s.stop)       -- the runner that was there is put back
            | none =>
                (.ok (),
                  { stored := (settingsUpdater p.root).run call.now
                      (.markSettingsApplied (configHash digest settings)) s.stored
                    runner := some { config := cfg, running := true } })

/-- `NeedsRestart` of `/api/overview`. -/
def ControlState.needsRestart (digest : EffectiveConfig → String) (root now : String)
    (s : ControlState) : Bool :=
  let settings := currentSettings root now s.stored
  s.running && configHash digest settings != settings.lastAppliedHash

inductive ControlAction where
  | put (incoming : AppSettings) (mkdirAll : String → Option String) (now : String)
  | start (call : StartCall)
  | stop
  | apply (call : ApplyCall) (disk : Disk)      -- with the files it finds
  | exit                                        -- Snort ends on its own
  | read (now : String)                         -- `/api/overview` and the like

def controlStep (digest : EffectiveConfig → String) (p : Process) (s : ControlState) :
    ControlAction → Option ControlState
  | .put incoming mkdirAll now =>
      some { s with stored := (putSettings p.root now incoming mkdirAll s.stored).2 }
  | .start call => some (startRunner digest p call s).2
  | .stop => some s.stop
  | .apply call disk =>
      some { s with stored := (handleAnalysisApply p (.new s.stored disk) call).settings }
  | .exit => if s.running then some s.stop else none
  | .read now => some (s.read p.root now)

/-- The server, started with the given settings. -/
def controlMachine (digest : EffectiveConfig → String) (p : Process) (stored : StoredSettings) :
    Machine ControlState ControlAction where
  init := { stored := stored, runner := none }
  step := controlStep digest p

/-! ## The mark -/

/-- The settings may be replaced, but not their mark. -/
def KeepsHash (stored stored' : StoredSettings) : Prop :=
  ∀ raw, stored = some raw → ∃ raw', stored' = some raw' ∧
    raw'.lastAppliedHash = raw.lastAppliedHash

variable {root now : String} {stored : StoredSettings}

theorem KeepsHash.refl (stored : StoredSettings) : KeepsHash stored stored :=
  fun raw h => ⟨raw, h, rfl⟩

theorem keepsHash_repaired (root now : String) (stored : StoredSettings) :
    KeepsHash stored ((settingsUpdater root).repaired now stored) := by
  intro raw h
  subst h
  exact ⟨raw, rfl, rfl⟩

theorem keepsHash_put (incoming : AppSettings) (mkdirAll : String → Option String) :
    KeepsHash stored (putSettings root now incoming mkdirAll stored).2 := by
  rw [putSettings_row]
  intro raw h
  subst h
  show ∃ raw', ((settingsUpdater root).update (.put incoming mkdirAll) now (some raw)).getD
    (some raw) = some raw' ∧ _
  cases hupdate : (settingsUpdater root).update (.put incoming mkdirAll) now (some raw) with
  | none => exact ⟨raw, rfl, rfl⟩
  | some row =>
      obtain ⟨t, _, rfl⟩ := Option.map_eq_some_iff.mp hupdate
      exact ⟨_, rfl, (put_marks hupdate).1⟩

theorem keepsHash_apply (p : Process) (call : ApplyCall) (disk : Disk) :
    KeepsHash stored (handleAnalysisApply p (.new stored disk) call).settings := by
  intro raw h
  subst h
  unfold handleAnalysisApply
  split
  · exact ⟨raw, rfl, rfl⟩
  · dsimp only
    split
    · exact ⟨raw, rfl, rfl⟩
    · dsimp only
      split
      · exact ⟨raw, rfl, rfl⟩
      · exact ⟨_, run_eq rfl, rfl⟩

/-! ## Steps -/

variable {digest : EffectiveConfig → String} {p : Process} {s s' : ControlState}

/-- What a successful start leaves. -/
structure Started (digest : EffectiveConfig → String) (settings : AppSettings)
    (s : ControlState) : Prop where
  runner : s.runner = some { config := settings.decorate.buildWrapConfig, running := true }
  stored : ∃ now, s.stored = some (saveSettings now { settings with
    lastAppliedHash := configHash digest settings.decorate, lastAppliedAt := now })

/-- **What a request to start Snort does**: it starts Snort and marks the settings, or it leaves the
marks alone and starts nothing. -/
theorem startRunner_cases (digest : EffectiveConfig → String) (p : Process) (call : StartCall)
    (s : ControlState) :
    (startRunner digest p call s).1 = .ok () ∧
      Started digest (getSettings p.root call.now s.stored) (startRunner digest p call s).2 ∨
    (startRunner digest p call s).1 ≠ .ok () ∧
      ((startRunner digest p call s).2 = s.read p.root call.now ∨
        (startRunner digest p call s).2 = (s.read p.root call.now).stop) := by
  simp only [startRunner]
  -- it may fail at the directories, at the configuration, because Snort is running, and at `Start`
  split
  · exact .inr ⟨nofun, .inl rfl⟩
  · split
    · exact .inr ⟨nofun, .inl rfl⟩
    · split
      · exact .inr ⟨nofun, .inl rfl⟩
      · split
        · exact .inr ⟨nofun, .inr rfl⟩
        · refine .inl ⟨rfl, ⟨?_, call.now, ?_⟩⟩
          · simp only [currentSettings_eq]
          · obtain ⟨raw, hraw, hread⟩ := repaired_eq p.root call.now s.stored
            simp only [ControlState.read, hraw, currentSettings_eq]
            rw [← hread]
            exact run_eq rfl

/-- A step that starts no runner and keeps the mark. -/
structure Unstarted (s s' : ControlState) : Prop where
  hash : KeepsHash s.stored s'.stored
  runner : ∀ r, s'.runner = some r → r.running = true → s.runner = some r

theorem unstarted_stored {stored' : StoredSettings} (h : KeepsHash s.stored stored') :
    Unstarted s { s with stored := stored' } :=
  ⟨h, fun _ hr _ => hr⟩

theorem unstarted_read (root now : String) (s : ControlState) : Unstarted s (s.read root now) :=
  unstarted_stored (keepsHash_repaired root now s.stored)

/-- A stopped runner does not run. -/
theorem Unstarted.stop (h : Unstarted s s') : Unstarted s s'.stop where
  hash := h.hash
  runner r hr hrun := by
    obtain ⟨r', _, rfl⟩ := Option.map_eq_some_iff.mp hr
    cases hrun

theorem controlStep_cases {a : ControlAction} (h : controlStep digest p s a = some s') :
    Unstarted s s' ∨ ∃ settings, Started digest settings s' := by
  cases a with
  | put incoming mkdirAll now =>
      cases h
      exact .inl (unstarted_stored (keepsHash_put incoming mkdirAll))
  | start call =>
      cases h
      rcases startRunner_cases digest p call s with ⟨_, hstarted⟩ | ⟨_, hread | hstop⟩
      · exact .inr ⟨_, hstarted⟩
      · rw [hread]
        exact .inl (unstarted_read p.root call.now s)
      · rw [hstop]
        exact .inl (unstarted_read p.root call.now s).stop
  | stop =>
      cases h
      exact .inl (unstarted_stored (.refl s.stored)).stop
  | apply call disk =>
      cases h
      exact .inl (unstarted_stored (keepsHash_apply p call disk))
  | exit =>
      simp only [controlStep, Option.ite_none_right_eq_some] at h
      cases h.2
      exact .inl (unstarted_stored (.refl s.stored)).stop
  | read now =>
      cases h
      exact .inl (unstarted_read p.root now s)

/-! ## Runs -/

/-- A running Snort was started with settings that have the hash in the stored mark. -/
def MarkedAsStarted (digest : EffectiveConfig → String) (s : ControlState) : Prop :=
  ∀ r, s.runner = some r → r.running = true →
    ∃ raw settings, s.stored = some raw ∧ raw.lastAppliedHash = configHash digest settings ∧
      r.config = settings.buildWrapConfig

theorem markedAsStarted_step {a : ControlAction} (hI : MarkedAsStarted digest s)
    (h : controlStep digest p s a = some s') : MarkedAsStarted digest s' := by
  intro r hr hrun
  rcases controlStep_cases h with hkeep | ⟨settings, hstarted⟩
  · obtain ⟨raw, settings, hraw, hhash, hconfig⟩ := hI r (hkeep.runner r hr hrun) hrun
    obtain ⟨raw', hraw', hsame⟩ := hkeep.hash raw hraw
    exact ⟨raw', settings, hraw', hsame.trans hhash, hconfig⟩
  · obtain ⟨now, hstored⟩ := hstarted.stored
    rw [hstarted.runner] at hr
    cases hr
    exact ⟨_, settings.decorate, hstored, rfl, rfl⟩

theorem markedAsStarted_reachable (hs : (controlMachine digest p stored).Reachable s) :
    MarkedAsStarted digest s :=
  hs.invariant (fun _ hr => nomatch hr) fun _ _ _ hI h => markedAsStarted_step hI h

/-- The hash covers all that the configuration of Snort depends on. -/
theorem buildWrapConfig_congr {a b : AppSettings} (h : a.effective = b.effective) :
    a.buildWrapConfig = b.buildWrapConfig := by
  simp only [AppSettings.effective, EffectiveConfig.mk.injEq] at h
  obtain ⟨hswd, hconfig, hdb, hrules, hmode, hinterface, hpcap, hout, _, hprofiler, hlua⟩ := h
  simp only [AppSettings.buildWrapConfig, hswd, hconfig, hdb, hrules, hmode, hinterface, hpcap,
    hout, hprofiler, hlua]

/-- The settings right after a successful start are those it has read. -/
theorem Started.needsRestart_eq_false {settings : AppSettings} (h : Started digest settings s)
    (hsettled : Settled root settings) (now : String) :
    s.needsRestart digest root now = false := by
  obtain ⟨time, hstored⟩ := h.stored
  let marked := { settings with
    lastAppliedHash := configHash digest settings.decorate, lastAppliedAt := time }
  have hmarked : Settled root marked := { hsettled with }
  have hcurrent : currentSettings root now s.stored = (saveSettings time marked).decorate := by
    rw [currentSettings_eq, hstored]
    show (mergeSettingDefaults (saveSettings time marked) root).decorate = _
    rw [(hmarked.saved time).merge_eq]
  simp only [ControlState.needsRestart, hcurrent]
  have hhash : configHash digest (saveSettings time marked).decorate =
      (saveSettings time marked).decorate.lastAppliedHash := rfl
  simp [hhash]

/-- **`NeedsRestart` is right.** If the hash tells configurations apart, then in every reachable
state a running Snort that needs no restart has the configuration of the current settings, and a
Snort that was started or restarted just now needs none. -/
theorem needsRestart_exact (digest : EffectiveConfig → String) (hdigest : digest.Injective)
    (p : Process) (stored : StoredSettings) (s : ControlState)
    (hs : (controlMachine digest p stored).Reachable s) :
    (∀ now r, s.runner = some r → r.running = true → s.needsRestart digest p.root now = false →
      r.config = (currentSettings p.root now s.stored).buildWrapConfig) ∧
    ∀ call now, (startRunner digest p call s).1 = .ok () →
      (startRunner digest p call s).2.running = true ∧
        (startRunner digest p call s).2.needsRestart digest p.root now = false := by
  constructor
  · intro now r hr hrun hneeds
    obtain ⟨raw, settings, hraw, hhash, hconfig⟩ := markedAsStarted_reachable hs r hr hrun
    have hrunning : s.running = true := by simp [ControlState.running, hr, hrun]
    have hsame : configHash digest (currentSettings p.root now s.stored) =
        configHash digest settings := by
      simp only [ControlState.needsRestart, hrunning, Bool.true_and, bne_eq_false_iff_eq] at hneeds
      rw [hneeds, hraw, ← hhash]
      rfl
    rw [hconfig]
    exact (buildWrapConfig_congr (hdigest hsame)).symm
  · intro call now hok
    rcases startRunner_cases digest p call s with ⟨_, hstarted⟩ | ⟨hfail, _⟩
    · refine ⟨by simp [ControlState.running, hstarted.runner], ?_⟩
      exact hstarted.needsRestart_eq_false (settled_getSettings p.root call.now s.stored) now
    · exact absurd hok hfail

/-! ## A start -/

/-- A text that shows where it ends. -/
def delimited (text : String) : List Char := text.toList.flatMap (fun c => ['=', c]) ++ ['.']

theorem delimited_append_inj {a b : String} {rest rest' : List Char}
    (h : delimited a ++ rest = delimited b ++ rest') : a = b ∧ rest = rest' := by
  have hchars : ∀ as bs : List Char,
      as.flatMap (fun c => ['=', c]) ++ '.' :: rest =
        bs.flatMap (fun c => ['=', c]) ++ '.' :: rest' →
      as = bs ∧ rest = rest' := by
    intro as
    induction as with
    | nil => intro bs hbs; cases bs <;> simp_all
    | cons c as ih =>
        intro bs hbs
        cases bs with
        | nil => simp at hbs
        | cons d bs =>
            simp only [List.flatMap_cons, List.cons_append, List.nil_append, List.cons.injEq,
              true_and] at hbs
            obtain ⟨has, hrest⟩ := ih bs hbs.2
            exact ⟨by rw [hbs.1, has], hrest⟩
  obtain ⟨hab, hrest⟩ := hchars a.toList b.toList (by simpa [delimited] using h)
  exact ⟨String.toList_inj.mp hab, hrest⟩

theorem flatMap_delimited_injective : (List.flatMap delimited).Injective := by
  intro as
  induction as with
  | nil => intro bs h; cases bs <;> simp_all [delimited]
  | cons a as ih =>
      intro bs h
      cases bs with
      | nil => simp [delimited] at h
      | cons b bs =>
          obtain ⟨rfl, hrest⟩ := delimited_append_inj h
          rw [ih hrest]

/-- The fields of a configuration, one after another. -/
def EffectiveConfig.text (c : EffectiveConfig) : String :=
  String.ofList (([c.swd, c.snortConfigPath, c.snortDBPath, c.rawRulePath, c.mode, c.interface,
    c.pcapFile, toString c.needOutput, toString c.needAlert, toString c.needProfiler] ++
      c.lua).flatMap delimited)

theorem toString_bool_inj {a b : Bool} (h : toString a = toString b) : a = b := by
  cases a <;> cases b <;> first | rfl | exact absurd h (by decide)

theorem text_injective : EffectiveConfig.text.Injective := by
  intro a b h
  have hfields := flatMap_delimited_injective (String.ofList_injective h)
  simp only [List.cons_append, List.nil_append, List.cons.injEq] at hfields
  obtain ⟨hswd, hconfig, hdb, hrules, hmode, hinterface, hpcap, hout, halert, hprofiler, hlua⟩ :=
    hfields
  cases a
  cases b
  rw [EffectiveConfig.mk.injEq]
  exact ⟨hswd, hconfig, hdb, hrules, hmode, hinterface, hpcap, toString_bool_inj hout,
    toString_bool_inj halert, toString_bool_inj hprofiler, hlua⟩

def plainStart : StartCall :=
  { forceRestart := false, now := "", mkdirAll := fun _ => none, startFault := none }

theorem plainStart_ok {settings : AppSettings}
    (hsettings : currentSettings p.root "" s.stored = settings)
    (hdirs : settings.swd ≠ "" ∧ settings.awd ≠ "" ∧ settings.pcapDir ≠ "")
    (hconfig : (normalizeConfig p.env settings.buildWrapConfig).isOk = true)
    (hidle : s.running = false) : (startRunner digest p plainStart s).1 = .ok () := by
  have hok : ensureRuntimeDirs plainStart.mkdirAll settings = .ok () := ensureRuntimeDirs_ok hdirs
  have hread : (s.read p.root plainStart.now).running = false := hidle
  have hsettings' : currentSettings p.root plainStart.now s.stored = settings := hsettings
  simp only [startRunner, hsettings', hok, hread, Bool.false_and]
  cases hcfg : normalizeConfig p.env settings.buildWrapConfig with
  | error e =>
      rw [hcfg] at hconfig
      cases hconfig
  | ok cfg => rfl

/-- The interface is set and Snort is started: it runs with the current settings and needs no
restart. -/
theorem started_needs_no_restart :
    ∃ s r, (controlMachine EffectiveConfig.text srvProcess none).exec
        { stored := none, runner := none }
        [.put interfaceBody (fun _ => none) "", .start plainStart] = some s ∧
      s.runner = some r ∧ r.running = true ∧ r.config.interface = "eth0" ∧
      s.needsRestart EffectiveConfig.text "/srv" "" = false ∧
      r.config = (currentSettings "/srv" "" s.stored).buildWrapConfig := by
  let m := controlMachine EffectiveConfig.text srvProcess none
  let merged := (mergeIncomingSettings (defaultSettings "/srv" "").decorate interfaceBody).decorate
  let s₁ : ControlState := { stored := some (saveSettings "" merged), runner := none }
  let s₂ := (startRunner EffectiveConfig.text srvProcess plainStart s₁).2
  have hput : controlStep EffectiveConfig.text srvProcess m.init
      (.put interfaceBody (fun _ => none) "") = some s₁ := by
    have hrow : putSettings "/srv" "" interfaceBody (fun _ => none) none =
        (some merged, some (saveSettings "" merged)) := putSettings_of_dirs rfl (by decide)
    exact congrArg (fun row : Option AppSettings × StoredSettings =>
      some ({ stored := row.2, runner := none } : ControlState)) hrow
  have hexec₁ : m.exec m.init [.put interfaceBody (fun _ => none) ""] = some s₁ :=
    Machine.exec_cons_eq_some.mpr ⟨s₁, hput, rfl⟩
  have hexec₂ : m.exec m.init [.put interfaceBody (fun _ => none) "", .start plainStart] =
      some s₂ := Machine.exec_cons_eq_some.mpr ⟨s₁, hput, rfl⟩
  have hsettled : Settled "/srv" merged :=
    (settled_put_iff (settled_getSettings "/srv" "" none)).mpr (interfaceBody_readsBack "/srv")
  have hcurrent : currentSettings "/srv" "" s₁.stored = (saveSettings "" merged).decorate := by
    rw [currentSettings_eq]
    show (mergeSettingDefaults (saveSettings "" merged) "/srv").decorate = _
    rw [(hsettled.saved "").merge_eq]
  have hok : (startRunner EffectiveConfig.text srvProcess plainStart s₁).1 = .ok () :=
    plainStart_ok hcurrent (by decide) (by decide +kernel) rfl
  have hneeds := (needsRestart_exact EffectiveConfig.text text_injective srvProcess none s₁
    ⟨_, hexec₁⟩).2 plainStart "" hok
  rcases startRunner_cases EffectiveConfig.text srvProcess plainStart s₁ with
    ⟨_, hstarted⟩ | ⟨hfail, _⟩
  · exact ⟨s₂, _, hexec₂, hstarted.runner, rfl, rfl, hneeds.2,
      (needsRestart_exact EffectiveConfig.text text_injective srvProcess none s₂
        ⟨_, hexec₂⟩).1 "" _ hstarted.runner rfl hneeds.2⟩
  · exact absurd hok hfail

end SnortOptimizer.Server
