import SnortOptimizer.Path.Basic
import SnortOptimizer.Text.Basic

/-!
# Resetting the working directory (`analyser/sql/workdir.go`)

Before a run the analyser removes its working directory with everything in it. The path comes from
the configuration, so `normalizeConfig` makes it absolute and `validateRemoveAllTarget` refuses
some targets: the root, the current directory, the home directory and the temp root.

The check compares for equality. It therefore protects these directories against being the target,
and not against lying below it; `removal_safe_iff` says exactly which paths are handled safely.
-/

namespace SnortOptimizer.Analyser

open SnortOptimizer.Path Text

/-- What the process sees of its surroundings. `os.Getwd` and `os.UserHomeDir` may fail, and a
current directory always is an absolute path. -/
structure Env where
  getwd : Except String String
  userHomeDir : Except String String
  tempDir : String
  isAbs_getwd : ∀ d, getwd = .ok d → isAbs d = true

/-- `filepath.Abs`. -/
def Env.abs (env : Env) (path : String) : Except String String :=
  if isAbs path then .ok (clean path)
  else do
    let wd ← env.getwd
    return join [wd, path]

/-- The part of `normalizeConfig` about `AnalyserWorkingDir`. -/
def normalizeWorkingDir (env : Env) (dir : String) : Except String String :=
  match env.abs (if trimSpace dir = "" then "analyser-work" else dir) with
  | .ok path => .ok path
  | .error e => .error ("resolve AnalyserWorkingDir: " ++ e)

def validateRemoveAllTarget (env : Env) (path : String) : Except String Unit :=
  if path = "" ∨ path = "." ∨ path = "/" then
    .error ("refuse to remove unsafe analyser working dir \"" ++ path ++ "\"")
  else if env.getwd.toOption.map clean = some path then
    .error ("refuse to remove current working directory " ++ path)
  else if env.userHomeDir.toOption.map clean = some path then
    .error ("refuse to remove home directory " ++ path)
  else if clean env.tempDir = path then
    .error ("refuse to remove temp root " ++ path)
  else .ok ()

/-- `ResetAnalyserWorkingDir`, up to the call of `os.RemoveAll`: the path it is called with. -/
def resetAnalyserWorkingDir (env : Env) (path : String) : Except String String := do
  validateRemoveAllTarget env (clean path)
  return clean path

/-- What a configured working directory leads to: the path `os.RemoveAll` is called with. -/
def removalTarget (env : Env) (dir : String) : Except String String := do
  let path ← normalizeWorkingDir env dir
  resetAnalyserWorkingDir env path

/-- The three directories under the names the process knows them by. -/
def Env.roots (env : Env) : List String :=
  [env.getwd, env.userHomeDir, .ok env.tempDir].filterMap Except.toOption

/-- The same directories as absolute paths. -/
def Env.protectedDirs (env : Env) : List String :=
  env.roots.filterMap fun r => (env.abs r).toOption

/-- The targets the check refuses, among absolute clean paths. -/
def Refused (env : Env) (target : String) : Prop :=
  target = "/" ∨ ∃ r ∈ env.roots, clean r = target

/-- `target` lies strictly above the directory `d`. -/
def StrictlyEncloses (target d : String) : Prop := Encloses target d ∧ parts target ≠ parts d

variable {env : Env}

/-- What `filepath.Abs` returns is absolute and clean. -/
theorem abs_eq_ok {path p : String} (h : env.abs path = .ok p) :
    isAbs p = true ∧ clean p = p := by
  rw [Env.abs] at h
  split at h
  · next habs =>
      cases h
      exact ⟨isAbs_clean habs, clean_clean habs⟩
  · cases hwd : env.getwd with
    | error e =>
        rw [hwd] at h
        cases h
    | ok wd =>
        rw [hwd] at h
        cases h
        have habs := env.isAbs_getwd wd hwd
        exact ⟨isAbs_join [path] habs, clean_join [path] habs⟩

theorem normalizeWorkingDir_eq_ok {dir target : String}
    (h : normalizeWorkingDir env dir = .ok target) :
    env.abs (if trimSpace dir = "" then "analyser-work" else dir) = .ok target := by
  unfold normalizeWorkingDir at h
  split at h
  · next p hp =>
      cases h
      exact hp
  · cases h

/-- What `validateRemoveAllTarget` accepts. -/
theorem validateRemoveAllTarget_eq_ok {path : String} :
    validateRemoveAllTarget env path = .ok () ↔
      (path ≠ "" ∧ path ≠ "." ∧ path ≠ "/") ∧ ∀ r ∈ env.roots, clean r ≠ path := by
  have hroots : (∀ r ∈ env.roots, clean r ≠ path) ↔
      env.getwd.toOption.map clean ≠ some path ∧ env.userHomeDir.toOption.map clean ≠ some path ∧
        clean env.tempDir ≠ path := by
    cases hc : env.getwd <;> cases hh : env.userHomeDir <;>
      simp [Env.roots, Except.toOption, hc, hh, or_imp, forall_and]
  rw [hroots, validateRemoveAllTarget]
  split
  · next h => simp; tauto
  · next h =>
      rw [not_or, not_or] at h
      split
      · next hc => simp [hc]
      · next hc =>
          split
          · next hh => simp [hh]
          · next hh =>
              split
              · next ht => simp [ht]
              · next ht => exact ⟨fun _ => ⟨h, hc, hh, ht⟩, fun _ => rfl⟩

/-- On a normalised path the check accepts whatever is not refused by name, and the path that is
removed is the normalised one. -/
theorem removalTarget_eq_ok {dir target : String} :
    removalTarget env dir = .ok target ↔
      normalizeWorkingDir env dir = .ok target ∧ ¬ Refused env target := by
  cases hn : normalizeWorkingDir env dir with
  | error e =>
      simp [removalTarget, hn, Bind.bind, Except.bind]
  | ok p =>
      obtain ⟨hrooted, hclean⟩ := abs_eq_ok (normalizeWorkingDir_eq_ok hn)
      have hp : p ≠ "" ∧ p ≠ "." := by
        refine ⟨?_, ?_⟩ <;> (rintro rfl; cases hrooted)
      have haccept : validateRemoveAllTarget env p = .ok () ↔ ¬ Refused env p := by
        rw [validateRemoveAllTarget_eq_ok, Refused, not_or, not_exists]
        constructor
        · rintro ⟨⟨_, _, hroot⟩, hr⟩
          exact ⟨hroot, fun r hrr => hr r hrr.1 hrr.2⟩
        · rintro ⟨hroot, hr⟩
          exact ⟨⟨hp.1, hp.2, hroot⟩, fun r hmem heq => hr r ⟨hmem, heq⟩⟩
      have hrun : removalTarget env dir =
          (validateRemoveAllTarget env p).bind fun _ => .ok p := by
        simp [removalTarget, resetAnalyserWorkingDir, hn, hclean, Bind.bind, Except.bind,
          Pure.pure, Except.pure]
      rw [hrun]
      cases hv : validateRemoveAllTarget env p with
      | error e =>
          have : Refused env p := by
            by_contra hnot
            rw [haccept.mpr hnot] at hv
            cases hv
          constructor
          · intro h
            cases h
          · rintro ⟨h, hnot⟩
            cases h
            exact absurd this hnot
      | ok u =>
          constructor
          · intro h
            cases h
            exact ⟨rfl, haccept.mp hv⟩
          · rintro ⟨h, _⟩
            cases h
            rfl

/-- **The reset spares the enclosing directories exactly as far as equality reaches.** The path
that is removed neither is nor encloses the current, home or temp directory if and only if every
normalised path that lies strictly above one of them, or is one that goes by a relative name, is
refused by name. -/
theorem removal_safe_iff (env : Env) (dir : String) :
    (∀ target, removalTarget env dir = .ok target →
      ∀ d ∈ env.protectedDirs, ¬ Encloses target d) ↔
    (∀ target, normalizeWorkingDir env dir = .ok target →
      ∀ r ∈ env.roots, ∀ d, env.abs r = .ok d →
        StrictlyEncloses target d ∨ (Encloses target d ∧ isAbs r = false) →
          Refused env target) := by
  constructor
  · intro hsafe target hn r hr d hd habove
    by_contra hnot
    have hmem : d ∈ env.protectedDirs := by
      rw [Env.protectedDirs, List.mem_filterMap]
      exact ⟨r, hr, by rw [hd]; rfl⟩
    apply hsafe target (removalTarget_eq_ok.mpr ⟨hn, hnot⟩) d hmem
    rcases habove with h | h
    · exact h.1
    · exact h.1
  · intro hcond target ht d hd henc
    obtain ⟨hn, hnot⟩ := removalTarget_eq_ok.mp ht
    rw [Env.protectedDirs, List.mem_filterMap] at hd
    obtain ⟨r, hr, hrd⟩ := hd
    have hd : env.abs r = .ok d := by
      cases h : env.abs r with
      | error e =>
          rw [h] at hrd
          cases hrd
      | ok p =>
          rw [h] at hrd
          cases hrd
          rfl
    -- the target is the directory itself, or strictly above it
    by_cases hparts : parts target = parts d
    · cases habs : isAbs r with
      | false => exact hnot (hcond target hn r hr d hd (.inr ⟨henc, habs⟩))
      | true =>
          -- an absolute name has one clean form, and that is what the check compares with
          obtain ⟨htAbs, htClean⟩ := abs_eq_ok (normalizeWorkingDir_eq_ok hn)
          obtain ⟨hdAbs, hdClean⟩ := abs_eq_ok hd
          have hdr : d = clean r := by
            rw [Env.abs, if_pos habs] at hd
            cases hd
            rfl
          have heq : clean target = clean d := clean_eq_of_parts_eq htAbs hdAbs hparts
          rw [htClean, hdClean, hdr] at heq
          exact hnot (.inr ⟨r, hr, heq.symm⟩)
    · exact hnot (hcond target hn r hr d hd (.inl ⟨henc, hparts⟩))

/-- A user working in a project below their home directory. -/
def exampleEnv : Env where
  getwd := .ok "/home/u/proj"
  userHomeDir := .ok "/home/u"
  tempDir := "/tmp"
  isAbs_getwd := by
    intro d h
    cases h
    decide

/-- The parent of the home directory passes the check, as an absolute path and as `../..`, and
both the home and the current directory are removed with it. -/
theorem parent_of_home_removed :
    removalTarget exampleEnv "/home" = .ok "/home" ∧
    removalTarget exampleEnv "../.." = .ok "/home" ∧
    (∀ d ∈ ["/home/u/proj", "/home/u"], d ∈ exampleEnv.protectedDirs ∧ Encloses "/home" d) := by
  decide

end SnortOptimizer.Analyser
