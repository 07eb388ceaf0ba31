import SnortOptimizer.Analyser.WorkDir
import SnortOptimizer.Server.AnalysisResult
import SnortOptimizer.Server.ProductionRules
import SnortOptimizer.Server.Settings

/-!
# Applying an analysis (`server/api/server.go`, `server/api/jobs.go`)

`POST /api/analysis/start` runs the analyser in the directory the request names, or else in that of
the settings. `POST /api/analysis/apply` knows nothing of jobs: it reads whatever stands in the
directory of the settings at that time, works the final run out of it, and copies the rules of that
run to the production database.

Several jobs may be in flight at once (see `AnalysisJobs`). A job that has its directory for itself
ends with what `Scheduler.run` computes; of a job that has not, and of any job on the way, all that
is known is that it writes nothing outside its directory. The marks `alone` and `intact` are no part
of the server: they remember whose databases nobody else has touched.
-/

namespace SnortOptimizer.Server

open Analyser SnortOptimizer.Path

/-! ## Files -/

/-- The databases by their absolute paths: the `rules` table of each, and the tables of an
`analyser.db`. -/
structure Disk where
  rules : String → DBFile
  runs : String → Option AnalyserStore

def expPath (dir : String) : String := join [dir, "exp", "snort.sqlite"]

def storePath (dir : String) : String := join [dir, "analyser.db"]

/-- What `copyRulesBetweenDBs` finds when it attaches the file. -/
def DBFile.source : DBFile → SourceDB
  | none => .missing
  | some none => .unreadable "no such table: src.rules"
  | some (some t) => .rules t

/-- The process of the server. -/
structure Process where
  root : String
  env : Env

/-- The file a path leads to. -/
def Process.locate (p : Process) (path : String) : String :=
  match p.env.abs path with
  | .ok path => path
  | .error _ => path

def normalizePath (root value : String) : String :=
  if value = "" then "" else if isAbs value then clean value else clean (join [root, value])

/-- Parsed rules are in conflict as rows exactly if they are in the analyser's table. -/
theorem ruleRow_conflict_iff (now : String) (r s : RuleRow) :
    (ruleRow r.runID now r.rule).Conflict true (ruleRow s.runID now s.rule) ↔ r.Conflict s := by
  constructor
  · rintro ⟨hrun, hkey | ⟨_, _, hfile, htext⟩⟩
    · exact ⟨hrun, .inl hkey⟩
    · exact ⟨hrun, .inr ⟨Option.some.inj hfile, htext⟩⟩
  · rintro ⟨hrun, hkey | ⟨hfile, htext⟩⟩
    · exact ⟨hrun, .inl hkey⟩
    · exact ⟨hrun, .inr ⟨rfl, Option.some_ne_none _, congrArg some hfile, htext⟩⟩

/-- The rules of an instance, as its database holds them. -/
def rulesTable (now : String) (t : RuleTable) : RulesTable :=
  { indexed := true
    table := t.image (fun r => ruleRow r.runID now r.rule) fun r s =>
      (ruleRow_conflict_iff now r s).mp }

def dbFile (now : String) (db : SnortDB) : DBFile :=
  if db.created then some (some (rulesTable now db.rules)) else none

/-- `copyRulesBetweenDBs` on the target file. -/
def copyInto (c : CopyCall) (file : DBFile) : Except String Unit × DBFile :=
  let call := copyRulesBetweenDBs c.faults c.now c.sourceAbs c.source file.join c.sourceRunID
    c.targetRunID
  (call.1, if c.fileError ≠ none then file else some call.2)

/-! ## Jobs -/

/-- An analysis in flight. -/
structure AnalysisJob where
  dir : String
  sch : Scheduler
  ext : Externals
  alone : Bool               -- nobody else has touched the directory since the job was started

/-- The databases a job leaves, and the final run of its result. -/
structure AnalysisOutcome where
  finalRunID : Int
  exp : DBFile
  runs : Option AnalyserStore

structure CompletedJob where
  dir : String
  finalRunID : Int
  exp : DBFile               -- as it was when the job completed
  intact : Bool              -- and nobody else has touched it or `analyser.db`, before or after

/-- How a job ends, unless it fails. It clears its directory first, so what it finds there does not
matter; `mixed` is what becomes of a job that has not been alone. -/
def AnalysisJob.outcome (job : AnalysisJob) (now : String) (mixed : AnalysisOutcome) :
    Option AnalysisOutcome :=
  if job.alone then
    match job.sch.run job.ext .empty .empty with
    | .ok out =>
        some { finalRunID := out.result.finalRunID, exp := dbFile now out.dbs.exp
               runs := some out.store }
    | .error _ => none
  else some mixed

/-- A request to apply a run has been answered. -/
structure Applied where
  runID : Int                       -- of the request
  last : Option CompletedJob        -- the job that has completed last
  targetRunID : Int
  now : String
  before : Option RulesTable
  after : Option RulesTable
  result : Except String Unit

structure ApplyState where
  settings : StoredSettings
  disk : Disk
  jobs : Nat → Option AnalysisJob
  last : Option CompletedJob
  applied : List Applied

def ApplyState.new (settings : StoredSettings) (disk : Disk) : ApplyState :=
  { settings := settings, disk := disk, jobs := fun _ => none, last := none, applied := [] }

/-- One of the two directories lies below the other, or they are the same. -/
def Overlap (p d : String) : Prop := Encloses p d ∨ Encloses d p

instance (p d : String) : Decidable (Overlap p d) := inferInstanceAs (Decidable (_ ∨ _))

/-- What was written below `path` may be one of the job's two databases. -/
def CompletedJob.Touched (c : CompletedJob) (path : String) : Prop :=
  Encloses path (expPath c.dir) ∨ Encloses path (storePath c.dir)

instance (c : CompletedJob) (path : String) : Decidable (c.Touched path) :=
  inferInstanceAs (Decidable (_ ∨ _))

/-- Somebody other than `job` writes at `path` or below it. -/
def AnalysisJob.disturb (job : AnalysisJob) (path : String) : AnalysisJob :=
  if Overlap path job.dir then { job with alone := false } else job

def CompletedJob.disturb (c : CompletedJob) (path : String) : CompletedJob :=
  if c.Touched path then { c with intact := false } else c

/-- The marks after `writer` has written at `path` or below it. -/
def ApplyState.disturb (s : ApplyState) (path : String) (writer : Option Nat) : ApplyState :=
  { s with
    jobs := fun k => if writer = some k then s.jobs k else (s.jobs k).map (·.disturb path)
    last := s.last.map (·.disturb path) }

/-! ## Requests -/

/-- `currentSettings`. -/
def currentSettings (root now : String) (stored : StoredSettings) : AppSettings :=
  match stored with
  | none => (defaultSettings root now).decorate
  | some raw => (mergeSettingDefaults raw root).decorate

/-- The working directory of a request. -/
def startDir (root : String) (settings : AppSettings) (workDir : String) : String :=
  if workDir = "" then settings.awd else normalizePath root workDir

/-- A request to apply a run, and what it meets. -/
structure ApplyCall where
  runID : Int
  now : String
  settingsFault : Option String
  loadFault : Option String
  ruleFP : List RuleFPRow                     -- the `rule_FP` table `loadAnalysisResult` finds
  copyFaults : CopyFaults
  sameFile : Except String Unit × DBFile      -- where source and target are one file
  markFault : Option String

/-- The run to apply; 0 stands for the final run. -/
def ApplyCall.sourceRunID (c : ApplyCall) (awd : String) (runs : Option AnalyserStore) :
    Except String Int :=
  if c.runID < 0 then throw "run_id must be >= 0"
  else if c.runID = 0 then
    match c.loadFault with
    | some e => throw e
    | none => do
        let result ← loadAnalysisResult awd runs c.ruleFP
          { decisionLimit := 200, decisionOffset := 0, decisionWhere := fun _ => true
            fpLimit := 100 }
        return result.finalRunID
  else return c.runID

/-- The copy of a run from one file to the other. -/
def ApplyCall.copy (c : ApplyCall) (disk : Disk) (source target : String)
    (sourceRunID targetRunID : Int) : Except String Unit × DBFile :=
  if source = target then c.sameFile
  else copyInto
    { faults := c.copyFaults, now := c.now, sourceAbs := source
      source := (disk.rules source).source, sourceRunID := sourceRunID
      targetRunID := targetRunID } (disk.rules target)

/-- `MarkAppliedFinalRun` after the copy. -/
def ApplyCall.mark (c : ApplyCall) (copied : Except String Unit) : Except String Unit :=
  match copied, c.markFault with
  | .error e, _ => .error e
  | .ok _, some e => .error e
  | .ok _, none => .ok ()

/-- The answer is an error, and nothing was done. -/
def ApplyState.refuse (s : ApplyState) (c : ApplyCall) (target : Option RulesTable)
    (targetRunID : Int) (err : String) : ApplyState :=
  { s with applied := s.applied ++ [
      { runID := c.runID, last := s.last, targetRunID := targetRunID, now := c.now
        before := target, after := target, result := .error err }] }

/-- `handleAnalysisApply`. -/
def handleAnalysisApply (p : Process) (s : ApplyState) (c : ApplyCall) : ApplyState :=
  let settings := currentSettings p.root c.now s.settings
  let target := p.locate settings.snortDBPath
  let before := (s.disk.rules target).join
  match c.settingsFault with
  | some e => s.refuse c before settings.activeRunID e
  | none =>
      let s := { s with settings := (settingsUpdater p.root).repaired c.now s.settings }
      match c.sourceRunID settings.awd (s.disk.runs (p.locate (storePath settings.awd))) with
      | .error e => s.refuse c before settings.activeRunID e
      | .ok runID =>
          let copied := c.copy s.disk (p.locate (expPath settings.awd)) target runID
            settings.activeRunID
          let result := c.mark copied.1
          { s.disturb target none with
            settings := match result with
              | .error _ => s.settings
              | .ok _ => (settingsUpdater p.root).run c.now (.markAppliedFinalRun runID) s.settings
            disk := { s.disk with rules := Function.update s.disk.rules target copied.2 }
            applied := s.applied ++ [
              { runID := c.runID, last := s.last, targetRunID := settings.activeRunID
                now := c.now, before := before, after := copied.2.join, result := result }] }

/-! ## The server -/

inductive ServerAction where
  | settings (call : SettingsCall) (now : String)
  | start (job : Nat) (workDir : String) (cfg : Config) (functions : List RegisteredFunction)
      (ext : Externals) (now : String)
  | write (job : Nat) (disk : Disk)           -- what is below its directory now
  | complete (job : Nat) (now : String) (mixed : AnalysisOutcome)
  | leave (job : Nat)                         -- failed or canceled
  | apply (c : ApplyCall)

/-- `startAnalysis`, and `analyser.New` in the job. -/
def ApplyState.startAnalysis (p : Process) (s : ApplyState) (job : Nat) (workDir : String)
    (cfg : Config) (functions : List RegisteredFunction) (ext : Externals) (now : String) :
    ApplyState :=
  let settings := currentSettings p.root now s.settings
  let s := { s with settings := (settingsUpdater p.root).repaired now s.settings }
  match normalizeWorkingDir p.env (startDir p.root settings workDir) with
  | .error _ => s                             -- the job fails at once
  | .ok dir =>
      let cfg := { cfg with analyserWorkingDir := dir, preserveWorkDBs := false }
      { s with
        jobs := Function.update s.jobs job
          (some { dir := dir, sch := { cfg := cfg, functions := functions }, ext := ext
                  alone := true }) }

/-- What is below the directory is replaced. -/
def Disk.writeBelow (disk : Disk) (dir : String) (new : Disk) : Disk :=
  { rules := fun path => if Encloses dir path then new.rules path else disk.rules path
    runs := fun path => if Encloses dir path then new.runs path else disk.runs path }

/-- The job is done, and its databases stand in its directory. -/
def ApplyState.complete (s : ApplyState) (job : Nat) (j : AnalysisJob) (o : AnalysisOutcome) :
    ApplyState :=
  { s.disturb j.dir (some job) with
    jobs := Function.update (s.disturb j.dir (some job)).jobs job none
    disk :=
      { rules := Function.update s.disk.rules (expPath j.dir) o.exp
        runs := Function.update s.disk.runs (storePath j.dir) o.runs }
    last := some { dir := j.dir, finalRunID := o.finalRunID, exp := o.exp, intact := j.alone } }

def serverStep (p : Process) (s : ApplyState) : ServerAction → Option ApplyState
  | .settings call now =>
      some { s with settings := (settingsUpdater p.root).run now call s.settings }
  | .start job workDir cfg functions ext now =>
      match s.jobs job with
      | some _ => none                        -- ids are unique
      | none => some (s.startAnalysis p job workDir cfg functions ext now)
  | .write job disk =>
      match s.jobs job with
      | none => none
      | some j =>
          some { s.disturb j.dir (some job) with disk := s.disk.writeBelow j.dir disk }
  | .complete job now mixed =>
      match s.jobs job with
      | none => none
      | some j => (j.outcome now mixed).map (s.complete job j)
  | .leave job =>
      match s.jobs job with
      | none => none
      | some _ => some { s with jobs := Function.update s.jobs job none }
  | .apply c => some (handleAnalysisApply p s c)

/-- The server, started with the given settings and files. -/
def serverMachine (p : Process) (settings : StoredSettings) (disk : Disk) :
    Machine ApplyState ServerAction where
  init := .new settings disk
  step := serverStep p

/-! ## The analysis that was run -/

/-- A request for the final run that is answered with success has copied the rules of the final run
of the job that has completed last, as that job had left them. -/
def Applied.InstallsLast (a : Applied) : Prop :=
  a.runID = 0 → a.result = .ok () →
    ∃ c, a.last = some c ∧
      Copied c.exp.source a.before a.after c.finalRunID a.targetRunID a.now

/-- The final run is asked for while the directory of the settings holds no analysis, or while it is
the directory of the job that has completed last, nobody else has touched that job's databases, and
the production database is another file. -/
def AsksForLast (p : Process) (s : ApplyState) : ServerAction → Prop
  | .apply c =>
      let settings := currentSettings p.root c.now s.settings
      c.runID = 0 →
        s.disk.runs (p.locate (storePath settings.awd)) = none ∨
        ∃ j, s.last = some j ∧ j.intact = true ∧
          p.locate (storePath settings.awd) = storePath j.dir ∧
          p.locate (expPath settings.awd) = expPath j.dir ∧
          p.locate settings.snortDBPath ≠ expPath j.dir
  | _ => True

/-- As long as nobody else has touched them, the databases of the last job tell its final run and
its rules. -/
def LastOnDisk (s : ApplyState) : Prop :=
  ∀ c, s.last = some c → c.intact = true →
    s.disk.rules (expPath c.dir) = c.exp ∧
    ∃ store, s.disk.runs (storePath c.dir) = some store ∧ finalRunID store.runs = c.finalRunID

variable {p : Process} {s s' : ApplyState}

/-! ## What others touch -/

/-- A mark that is still there says that nothing was touched. -/
theorem disturb_intact {path : String} {c : CompletedJob}
    (h : (s.last.map (·.disturb path)) = some c) (hc : c.intact = true) :
    s.last = some c ∧ ¬ c.Touched path := by
  obtain ⟨b, hb, rfl⟩ := Option.map_eq_some_iff.mp h
  unfold CompletedJob.disturb at hc ⊢
  split at hc
  · cases hc
  · next htouched =>
      rw [if_neg htouched]
      exact ⟨hb, htouched⟩

/-- Where a job is not alone or done, the databases of the last one stay what they are. -/
theorem lastOnDisk_write {dir : String} {disk : Disk} {writer : Option Nat} (hI : LastOnDisk s) :
    LastOnDisk { s.disturb dir writer with disk := s.disk.writeBelow dir disk } := by
  intro c hlast hintact
  obtain ⟨hlast, htouched⟩ := disturb_intact hlast hintact
  have hexp : ¬ Encloses dir (expPath c.dir) := fun h => htouched (.inl h)
  have hstore : ¬ Encloses dir (storePath c.dir) := fun h => htouched (.inr h)
  simp only [Disk.writeBelow, if_neg hexp, if_neg hstore]
  exact hI c hlast hintact

/-- A job that was alone leaves what the scheduler says. -/
theorem outcome_booked {j : AnalysisJob} {now : String} {mixed o : AnalysisOutcome}
    (halone : j.alone = true) (h : j.outcome now mixed = some o) :
    ∃ store, o.runs = some store ∧ finalRunID store.runs = o.finalRunID := by
  rw [AnalysisJob.outcome, if_pos halone] at h
  split at h
  · next out hrun =>
      cases h
      obtain ⟨final, hfinal, hstore, hid, _⟩ := booked_run (.inr rfl) hrun
      refine ⟨out.store, rfl, ?_⟩
      rw [hid, hstore]
      exact hfinal.final
  · cases h

theorem lastOnDisk_complete {job : Nat} {j : AnalysisJob} {now : String}
    {mixed o : AnalysisOutcome} (h : j.outcome now mixed = some o) :
    LastOnDisk (s.complete job j o) := by
  intro c hlast hintact
  cases hlast
  obtain ⟨store, hstore, hfinal⟩ := outcome_booked hintact h
  refine ⟨Function.update_self _ _ _, store, ?_, hfinal⟩
  rw [← hstore]
  exact Function.update_self _ _ _

/-! ## What an answer says -/

/-- **What a request does**: it is refused and changes no file, or it copies the run it works out
from the directory of the settings to the production database. -/
theorem handleAnalysisApply_cases (p : Process) (s : ApplyState) (c : ApplyCall) :
    let settings := currentSettings p.root c.now s.settings
    let target := p.locate settings.snortDBPath
    let s' := handleAnalysisApply p s c
    (s'.disk = s.disk ∧ s'.last = s.last ∧
      ∃ a e, s'.applied = s.applied ++ [a] ∧ a.result = .error e) ∨
    ∃ runID, c.sourceRunID settings.awd (s.disk.runs (p.locate (storePath settings.awd))) =
        .ok runID ∧
      let copied := c.copy s.disk (p.locate (expPath settings.awd)) target runID
        settings.activeRunID
      s'.disk = { s.disk with rules := Function.update s.disk.rules target copied.2 } ∧
      s'.last = s.last.map (·.disturb target) ∧
      s'.applied = s.applied ++ [
        { runID := c.runID, last := s.last, targetRunID := settings.activeRunID, now := c.now
          before := (s.disk.rules target).join, after := copied.2.join
          result := c.mark copied.1 }] := by
  intro settings target s'
  have hs' : s' = handleAnalysisApply p s c := rfl
  unfold handleAnalysisApply at hs'
  cases hfault : c.settingsFault with
  | some e =>
      rw [hfault] at hs'
      rw [hs']
      exact .inl ⟨rfl, rfl, _, e, rfl, rfl⟩
  | none =>
      rw [hfault] at hs'
      dsimp only at hs'
      cases hrun : c.sourceRunID settings.awd
          (s.disk.runs (p.locate (storePath settings.awd))) with
      | error e =>
          rw [hrun] at hs'
          rw [hs']
          exact .inl ⟨rfl, rfl, _, e, rfl, rfl⟩
      | ok runID =>
          rw [hrun] at hs'
          rw [hs']
          exact .inr ⟨runID, rfl, rfl, rfl, rfl⟩

theorem mark_eq_ok {c : ApplyCall} {copied : Except String Unit} (h : c.mark copied = .ok ()) :
    copied = .ok () := by
  unfold ApplyCall.mark at h
  split at h
  · cases h
  · cases h
  · rfl

/-- A copy between two files that succeeds is complete. -/
theorem copyInto_copied {c : CopyCall} {file : DBFile} (h : (copyInto c file).1 = .ok ()) :
    Copied c.source file.join (copyInto c file).2.join c.sourceRunID c.targetRunID c.now := by
  obtain ⟨hfirst, _⟩ := copyRulesBetweenDBs_ok_iff.mp h
  have hfile : ¬ c.fileError ≠ none := by
    rw [firstError, Option.orElse_eq_orElse, Option.orElse_eq_or, Option.or_eq_none_iff] at hfirst
    exact not_not_intro hfirst.1
  have hafter : (copyInto c file).2.join = (copyRulesBetweenDBs c.faults c.now c.sourceAbs c.source
      file.join c.sourceRunID c.targetRunID).2 := by
    simp only [copyInto, if_neg hfile, Option.join_some]
  rw [hafter]
  rcases copyRulesBetweenDBs_cases c.faults c.now c.sourceAbs c.source file.join c.sourceRunID
    c.targetRunID with
    ⟨_, e, hcall⟩ | ⟨_, ⟨_, e, hcall⟩ | ⟨_, _, e, hcall⟩ |
      ⟨_, _, u, hu, ⟨_, hcall⟩ | ⟨_, e, hcall⟩⟩⟩
  · simp [copyInto, hcall] at h
  · simp [copyInto, hcall] at h
  · simp [copyInto, hcall] at h
  · rw [hcall]
    exact copied_of_rows hu
  · simp [copyInto, hcall] at h

/-- The final run, worked out from the store that was found. -/
theorem sourceRunID_eq_ok {c : ApplyCall} {awd : String} {runs : Option AnalyserStore} {runID : Int}
    (hzero : c.runID = 0) (h : c.sourceRunID awd runs = .ok runID) :
    ∃ store, runs = some store ∧ runID = finalRunID store.runs := by
  have hneg : ¬ c.runID < 0 := by omega
  rw [ApplyCall.sourceRunID, if_neg hneg, if_pos hzero] at h
  split at h
  · cases h
  · cases runs with
    | none => cases h
    | some store =>
        cases h
        exact ⟨store, rfl, rfl⟩

/-- A request for the final run has installed the run and the rules that were found in the directory
of the settings. -/
def Applied.InstallsFound (p : Process) (s : ApplyState) (a : Applied) : Prop :=
  let settings := currentSettings p.root a.now s.settings
  ∃ store, s.disk.runs (p.locate (storePath settings.awd)) = some store ∧
    (p.locate (expPath settings.awd) ≠ p.locate settings.snortDBPath →
      Copied (s.disk.rules (p.locate (expPath settings.awd))).source a.before a.after
        (finalRunID store.runs) a.targetRunID a.now)

/-- The answer is to this request. -/
structure Applied.Answers (a : Applied) (c : ApplyCall) (s : ApplyState) : Prop where
  runID : a.runID = c.runID
  last : a.last = s.last
  now : a.now = c.now

theorem apply_installsFound (p : Process) (s : ApplyState) (c : ApplyCall) :
    ∃ a, (handleAnalysisApply p s c).applied = s.applied ++ [a] ∧
      (a.result = .ok () → a.Answers c s ∧ (c.runID = 0 → a.InstallsFound p s)) := by
  rcases handleAnalysisApply_cases p s c with ⟨_, _, a, e, happlied, herror⟩ |
    ⟨runID, hrun, _, _, happlied⟩
  · refine ⟨a, happlied, fun hok => ?_⟩
    rw [herror] at hok
    cases hok
  · refine ⟨_, happlied, fun hok => ⟨⟨rfl, rfl, rfl⟩, fun hzero => ?_⟩⟩
    obtain ⟨store, hstore, rfl⟩ := sourceRunID_eq_ok hzero hrun
    refine ⟨store, hstore, fun hne => ?_⟩
    have hcopy := mark_eq_ok hok
    let settings := currentSettings p.root c.now s.settings
    have hdifferent : c.copy s.disk (p.locate (expPath settings.awd))
        (p.locate settings.snortDBPath) (finalRunID store.runs) settings.activeRunID =
          copyInto _ _ := if_neg hne
    rw [hdifferent] at hcopy
    have hcopied := copyInto_copied hcopy
    rw [← hdifferent] at hcopied
    exact hcopied

/-- A request keeps the databases of the last job, or takes the mark away. -/
theorem lastOnDisk_apply (c : ApplyCall) (hI : LastOnDisk s) :
    LastOnDisk (handleAnalysisApply p s c) := by
  rcases handleAnalysisApply_cases p s c with ⟨hdisk, hlast, _⟩ | ⟨runID, _, hdisk, hlast, _⟩
  · intro j hj
    rw [hlast] at hj
    rw [hdisk]
    exact hI j hj
  · intro j hj hintact
    rw [hlast] at hj
    obtain ⟨hj, htouched⟩ := disturb_intact hj hintact
    obtain ⟨hexp, hstore⟩ := hI j hj hintact
    rw [hdisk]
    refine ⟨?_, hstore⟩
    have hne : expPath j.dir ≠ p.locate (currentSettings p.root c.now s.settings).snortDBPath := by
      intro heq
      apply htouched
      rw [← heq]
      exact .inl List.prefix_rfl
    exact (Function.update_of_ne hne _ _).trans hexp

/-- A start touches no file. -/
theorem startAnalysis_frame {job : Nat} {workDir : String} {cfg : Config}
    {functions : List RegisteredFunction} {ext : Externals} {now : String} :
    let s' := s.startAnalysis p job workDir cfg functions ext now
    s'.disk = s.disk ∧ s'.last = s.last ∧ s'.applied = s.applied := by
  unfold ApplyState.startAnalysis
  dsimp only
  split
  · exact ⟨rfl, rfl, rfl⟩
  · exact ⟨rfl, rfl, rfl⟩

/-- **What a step can do**: nothing to the files, the last job and the answers, or a job writes or
completes, or a request to apply a run is answered. -/
theorem serverStep_cases {a : ServerAction} (h : serverStep p s a = some s') :
    (s'.disk = s.disk ∧ s'.last = s.last ∧ s'.applied = s.applied) ∨
    (∃ job disk, ∃ j : AnalysisJob, a = .write job disk ∧
      s' = { s.disturb j.dir (some job) with disk := s.disk.writeBelow j.dir disk }) ∨
    (∃ job now mixed, ∃ j : AnalysisJob, ∃ o, a = .complete job now mixed ∧
      j.outcome now mixed = some o ∧ s' = s.complete job j o) ∨
    ∃ c, a = .apply c ∧ s' = handleAnalysisApply p s c := by
  cases a with
  | settings call now =>
      rw [← Option.some.inj h]
      exact .inl ⟨rfl, rfl, rfl⟩
  | start job workDir cfg functions ext now =>
      simp only [serverStep] at h
      split at h
      · cases h
      · rw [← Option.some.inj h]
        exact .inl startAnalysis_frame
  | write job disk =>
      simp only [serverStep] at h
      split at h
      · cases h
      · next j _ => exact .inr (.inl ⟨job, disk, j, rfl, (Option.some.inj h).symm⟩)
  | complete job now mixed =>
      simp only [serverStep] at h
      split at h
      · cases h
      · next j _ =>
          obtain ⟨o, ho, hs'⟩ := Option.map_eq_some_iff.mp h
          exact .inr (.inr (.inl ⟨job, now, mixed, j, o, rfl, ho, hs'.symm⟩))
  | leave job =>
      simp only [serverStep] at h
      split at h
      · cases h
      · rw [← Option.some.inj h]
        exact .inl ⟨rfl, rfl, rfl⟩
  | apply c => exact .inr (.inr (.inr ⟨c, rfl, (Option.some.inj h).symm⟩))

theorem lastOnDisk_step {a : ServerAction} (hI : LastOnDisk s) (h : serverStep p s a = some s') :
    LastOnDisk s' := by
  rcases serverStep_cases h with ⟨hdisk, hlast, _⟩ | ⟨job, disk, j, _, rfl⟩ |
    ⟨job, now, mixed, j, o, _, ho, rfl⟩ | ⟨c, _, rfl⟩
  · intro c hc
    rw [hlast] at hc
    rw [hdisk]
    exact hI c hc
  · exact lastOnDisk_write hI
  · exact lastOnDisk_complete ho
  · exact lastOnDisk_apply c hI

/-- A request that is made at the right time installs the last analysis. -/
theorem apply_installsLast {c : ApplyCall} (hI : LastOnDisk s) (hG : AsksForLast p s (.apply c)) :
    ∃ a, (handleAnalysisApply p s c).applied = s.applied ++ [a] ∧ a.InstallsLast := by
  obtain ⟨a, happlied, hanswer⟩ := apply_installsFound p s c
  refine ⟨a, happlied, fun hzero hok => ?_⟩
  obtain ⟨⟨hrun, hlast, hnow⟩, hfound⟩ := hanswer hok
  rw [hrun] at hzero
  obtain ⟨store, hstore, hcopied⟩ := hfound hzero
  rw [hnow] at hstore hcopied ⊢
  rcases hG hzero with hnone | ⟨j, hj, hintact, hstorePath, hexpPath, hne⟩
  · -- no analysis is found, so there is no success
    rw [hnone] at hstore
    cases hstore
  · obtain ⟨hexp, store', hstore', hfinal⟩ := hI j hj hintact
    rw [hstorePath, hstore'] at hstore
    cases hstore
    rw [hexpPath, hexp, hfinal] at hcopied
    exact ⟨j, hlast.trans hj, hcopied hne.symm⟩

/-- **When applying an analysis installs the one that was run.** In every run of the server in which
the final run is only asked for while the directory of the settings is that of the job completed
last, untouched by others (or holds no analysis at all), every success has installed the final run
of that job. At any other time a success installs whatever is found in the directory. -/
theorem applies_install_last_of_guarded (p : Process) (settings : StoredSettings) (disk : Disk)
    (acts : List ServerAction) :
    ((serverMachine p settings disk).Guarded (AsksForLast p) (.new settings disk) acts →
      (serverMachine p settings disk).Always (fun s => ∀ a ∈ s.applied, a.InstallsLast)
        (.new settings disk) acts) ∧
    ∀ s s' c, (serverMachine p settings disk).step s (.apply c) = some s' →
      ∃ a, s'.applied = s.applied ++ [a] ∧
        (a.result = .ok () → a.Answers c s ∧ (c.runID = 0 → a.InstallsFound p s)) := by
  constructor
  · intro hG
    have hboth : (serverMachine p settings disk).Always
        (fun s => LastOnDisk s ∧ ∀ a ∈ s.applied, a.InstallsLast) (.new settings disk) acts := by
      refine Machine.always_of_guarded (fun s act s' hs hg h => ?_) ⟨?_, ?_⟩ hG
      · refine ⟨lastOnDisk_step hs.1 h, ?_⟩
        rcases serverStep_cases h with ⟨_, _, happlied⟩ | ⟨job, disk, j, _, rfl⟩ |
          ⟨job, now, mixed, j, o, _, _, rfl⟩ | ⟨c, rfl, rfl⟩
        · rw [happlied]
          exact hs.2
        · exact hs.2
        · exact hs.2
        · obtain ⟨a, happlied, ha⟩ := apply_installsLast hs.1 hg
          rw [happlied]
          intro b hb
          rcases List.mem_append.mp hb with hb | hb
          · exact hs.2 b hb
          · rw [List.mem_singleton.mp hb]
            exact ha
      · intro c hc
        cases hc
      · intro a ha
        cases ha
    exact hboth.imp fun s hs => hs.2
  · intro s s' c h
    rw [← Option.some.inj h]
    exact apply_installsFound p s c

/-! ## Another directory -/

def srvProcess : Process :=
  { root := "/srv"
    env :=
      { getwd := .ok "/srv", userHomeDir := .ok "/root", tempDir := "/tmp"
        isAbs_getwd := by
          intro d hd
          cases hd
          decide } }

def noDisk : Disk := { rules := fun _ => none, runs := fun _ => none }

/-- The first job works in the directory of the settings and trims the lone rule, the second one in
a directory of its own and trims nothing. Then the final run is applied. -/
def otherDirectory : List ServerAction :=
  let mixed : AnalysisOutcome := { finalRunID := 0, exp := none, runs := none }
  [ .start 1 "" lenientConfig [persistent] (lone true) "",
    .complete 1 "" mixed,
    .start 2 "other" lenientConfig [] (lone true) "",
    .complete 2 "" mixed,
    .apply
      { runID := 0, now := "", settingsFault := none, loadFault := none, ruleFP := []
        copyFaults := fun _ => none, sameFile := (.ok (), none), markFault := none } ]

/-- The production database gets the rules of the first job, with the lone rule switched off. -/
theorem other_directory_not_installed :
    ∃ s, (serverMachine srvProcess none noDisk).exec (.new none noDisk) otherDirectory = some s ∧
      ∃ a ∈ s.applied, ¬ a.InstallsLast := by
  have hrun : ((serverMachine srvProcess none noDisk).exec (.new none noDisk) otherDirectory).map
      (fun s => s.applied.map fun a => (a.runID, a.targetRunID, a.result.toOption)) =
      some [(0, 0, some ())] := by
    decide +kernel
  have hrules : ((serverMachine srvProcess none noDisk).exec (.new none noDisk) otherDirectory).map
      (fun s => s.applied.map fun a => (
        a.after.map fun t => t.rows.map fun r => (r.runID, r.enabled),
        a.last.map fun c =>
          (copies c.exp.source c.finalRunID a.targetRunID a.now).map (·.enabled))) =
      some [(some [(0, 0)], some [1])] := by
    decide +kernel
  obtain ⟨s, hs, happlied⟩ := Option.map_eq_some_iff.mp hrun
  obtain ⟨a, ha, hanswer⟩ := List.map_eq_singleton_iff.mp happlied
  rw [hs, Option.map_some, ha] at hrules
  refine ⟨s, hs, a, ha ▸ List.mem_singleton_self a, fun hinstalls => ?_⟩
  simp only [Prod.mk.injEq] at hanswer
  obtain ⟨hzero, htarget, hresult⟩ := hanswer
  obtain ⟨hafter, hlast⟩ := Prod.mk.inj (List.singleton_injective (Option.some.inj hrules))
  obtain ⟨c, hc, t, ht, hrows, _⟩ := hinstalls hzero (eq_ok_of_toOption hresult)
  rw [ht] at hafter
  rw [hc] at hlast
  obtain ⟨r, hr, hoff⟩ := List.map_eq_singleton_iff.mp (Option.some.inj hafter)
  obtain ⟨u, hu, hon⟩ := List.map_eq_singleton_iff.mp (Option.some.inj hlast)
  obtain ⟨hrunID, hoff⟩ := Prod.mk.inj hoff
  have hmem := (hrows r (by rw [hrunID, htarget])).mp (hr ▸ List.mem_singleton_self r)
  rw [hu, List.mem_singleton] at hmem
  rw [← hmem, hoff] at hon
  exact absurd hon (by decide)

end SnortOptimizer.Server
