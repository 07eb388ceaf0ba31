import SnortOptimizer.Machine.Basic
import SnortOptimizer.Alerts.Import

/-!
# The alert tailer (`sql/alerts/store.go`)

`Tail` has two loops. The first waits for `alert_json.txt` to appear and tries to open it at every
tick; the second imports the complete lines at every tick, and once more, with whatever is left,
when the context is cancelled. A cancellation that finds the first loop still waiting returns
without looking at the file.

Snort and the tailer are two parties here: Snort creates the file and appends bytes until it
stops, `waitForExit` cancels the context after that, and the order of all this with the ticks is
up to the schedule. The file operations of the tailer succeed, and so do its inserts.
-/

namespace SnortOptimizer.Alerts

open Text

/-- What `NewTailer` finds. Lines it is going to read fit the scanner's buffer. -/
structure Setup where
  existing : Option Bytes
  startExistingAtEnd : Bool
  fits : ∀ content, existing = some content → startExistingAtEnd = false → Fits content

/-- The offset `NewTailer` starts from. -/
def Setup.startOffset (setup : Setup) : Nat :=
  match setup.existing with
  | some content => if setup.startExistingAtEnd then content.length else 0
  | none => 0

inductive Phase where
  | waiting                        -- first loop: `t.file == nil`
  | reading                        -- second loop
  | returned
  deriving DecidableEq, Repr

structure State (Alert : Type) where
  file : Option Bytes              -- `alert_json.txt`
  writerStopped : Bool
  canceled : Bool                  -- the context of `Tail`
  phase : Phase
  offset : Nat
  inserted : List Alert

inductive Action where
  | create                         -- Snort creates the file
  | append (data : Bytes)          -- Snort writes to it
  | stop                           -- Snort has exited
  | cancel                         -- `alertStop()`
  | tick                           -- `select` takes `ticker.C`
  | done                           -- `select` takes `ctx.Done()`
  deriving DecidableEq, Repr

section

variable {Alert : Type} (parseLine : Bytes → Option Alert)

/-- The part of the unread bytes that is imported: up to the last newline, or all of them when
this is the final read. -/
def completePart (final : Bool) (buf : Bytes) : Option Bytes :=
  match lastIndexOf newline buf with
  | none => if final then some buf else none
  | some i => some (if final then buf else buf.take (i + 1))

/-- `readAvailable`: the rows it stores and the offset it leaves. -/
def readAvailable (insertOk : Nat → Bool) (final : Bool) (content : Bytes) (offset : Nat) :
    List Alert × Nat :=
  let offset := if content.length < offset then 0 else offset
  if content.length ≤ offset then ([], offset)
  else
    match completePart final (content.drop offset) with
    | none => ([], offset)
    | some complete =>
        let (stored, _, ok) := importLines parseLine insertOk complete
        (stored, if ok then offset + complete.length else offset)

def State.content (s : State Alert) : Bytes := s.file.getD []

/-- One call of `readAvailable` by the tailer. -/
def State.read (s : State Alert) (final : Bool) : State Alert :=
  let (stored, offset) := readAvailable parseLine neverFails final s.content s.offset
  { s with inserted := s.inserted ++ stored, offset := offset }

def tailStep (setup : Setup) (s : State Alert) : Action → Option (State Alert)
  | .create =>
      if s.file = none ∧ s.writerStopped = false then some { s with file := some [] } else none
  | .append data =>
      match s.file with
      | none => none
      | some content =>
          if s.writerStopped = false ∧ Fits ((content ++ data).drop setup.startOffset) then
            some { s with file := some (content ++ data) }
          else none
  | .stop => some { s with writerStopped := true }
  | .cancel => if s.writerStopped then some { s with canceled := true } else none
  | .tick =>
      match s.phase with
      | .waiting => some (if s.file = none then s else { s with phase := .reading })
      | .reading => some (s.read parseLine false)
      | .returned => none
  | .done =>
      if s.canceled then
        match s.phase with
        | .waiting => some { s with phase := .returned }
        | .reading => some { s.read parseLine true with phase := .returned }
        | .returned => none
      else none

/-- The tailer `NewTailer` makes, before `Tail`. -/
def State.new (setup : Setup) : State Alert :=
  { file := setup.existing, writerStopped := false, canceled := false
    phase := if setup.existing = none then .waiting else .reading
    offset := setup.startOffset, inserted := [] }

def tailer (setup : Setup) : Machine (State Alert) Action where
  init := State.new setup
  step := tailStep parseLine setup

/-- The well-formed alert lines of the file past the start offset. -/
def alertsPast (setup : Setup) (s : State Alert) : List Alert :=
  alertsOf parseLine (s.content.drop setup.startOffset)

/-- When `Tail` has returned, every alert of the file has been inserted. -/
def NoneLost (setup : Setup) (s : State Alert) : Prop :=
  s.phase = .returned → ∀ a ∈ alertsPast parseLine setup s, a ∈ s.inserted

/-- When `Tail` has returned, the rows inserted are the alerts of the file, in order. -/
def AllInserted (setup : Setup) (s : State Alert) : Prop :=
  s.phase = .returned → s.inserted = alertsPast parseLine setup s

/-- The cancellation is not taken in the first loop while the file has something to import. -/
def DoneWhenOpenOrEmpty (setup : Setup) (s : State Alert) : Action → Prop
  | .done => s.phase = .waiting → alertsPast parseLine setup s = []
  | _ => True

/-! ## One read -/

/-- The tailer's position in the file: what lies past the start offset splits into lines it has
imported and a rest it has not. -/
structure Position (start : Nat) (content : Bytes) (offset : Nat) (inserted : List Alert)
    (seen rest : Bytes) : Prop where
  start_le : start ≤ content.length
  split : content.drop start = seen ++ rest
  offset_eq : offset = start + seen.length
  endsLine : EndsLine newline seen
  inserted_eq : inserted = alertsOf parseLine seen

variable {parseLine} {start offset : Nat} {content seen rest : Bytes} {inserted : List Alert}

theorem Position.drop_offset (h : Position parseLine start content offset inserted seen rest) :
    content.drop offset = rest := by
  rw [h.offset_eq, ← List.drop_drop, h.split, List.drop_left]

theorem Position.length_eq (h : Position parseLine start content offset inserted seen rest) :
    content.length = offset + rest.length := by
  have hdrop : content.length - start = seen.length + rest.length := by
    rw [← List.length_drop, h.split, List.length_append]
  have hle := h.start_le
  have hoff := h.offset_eq
  omega

/-- `readAvailable` imports the part of the rest that `completePart` gives it. -/
theorem Position.readAvailable_eq
    (h : Position parseLine start content offset inserted seen rest) (final : Bool) :
    readAvailable parseLine neverFails final content offset =
      if rest = [] then ([], offset)
      else
        match completePart final rest with
        | none => ([], offset)
        | some complete =>
            let (stored, _, ok) := importLines parseLine neverFails complete
            (stored, if ok then offset + complete.length else offset) := by
  have hlen := h.length_eq
  have hge : ¬ content.length < offset := by omega
  rw [readAvailable, if_neg hge, h.drop_offset]
  by_cases hrest : rest = []
  · rw [if_pos hrest, if_pos]
    rw [hlen, hrest]
    exact Nat.le_refl _
  · have hpos : 0 < rest.length := List.length_pos_iff.mpr hrest
    rw [if_neg hrest, if_neg]
    omega

/-- A read at a tick moves the position on by some complete lines. -/
theorem Position.tick (h : Position parseLine start content offset inserted seen rest)
    (hfit : Fits (seen ++ rest)) :
    ∃ seen' rest', Position parseLine start content
      (readAvailable parseLine neverFails false content offset).2
      (inserted ++ (readAvailable parseLine neverFails false content offset).1) seen' rest' := by
  rw [h.readAvailable_eq]
  have hstay : Position parseLine start content offset (inserted ++ []) seen rest := by
    rw [List.append_nil]
    exact h
  split
  · exact ⟨seen, rest, hstay⟩
  · -- without a newline in the rest no line is complete, and the position stays
    rw [completePart]
    cases hidx : lastIndexOf newline rest with
    | none => exact ⟨seen, rest, hstay⟩
    | some i =>
        -- the complete lines are the rest up to its last newline
        have hends := endsLine_take_lastIndexOf hidx
        have hsplit : rest = rest.take (i + 1) ++ rest.drop (i + 1) :=
          (List.take_append_drop _ _).symm
        have hrest : Fits rest := (fits_append h.endsLine hfit).2
        have hpart : Fits (rest.take (i + 1)) := by
          rw [hsplit] at hrest
          exact (fits_append hends hrest).1
        have himport := importLines_eq parseLine hpart
        dsimp only
        simp only [Bool.false_eq_true, if_false, himport, if_true]
        refine ⟨seen ++ rest.take (i + 1), rest.drop (i + 1), ⟨h.start_le, ?_, ?_, ?_, ?_⟩⟩
        · rw [List.append_assoc, List.take_append_drop]
          exact h.split
        · rw [h.offset_eq, List.length_append, Nat.add_assoc]
        · exact h.endsLine.append hends
        · rw [h.inserted_eq, alertsOf_append parseLine h.endsLine]

/-- The final read imports all that is left. -/
theorem Position.final (h : Position parseLine start content offset inserted seen rest)
    (hfit : Fits (seen ++ rest)) :
    inserted ++ (readAvailable parseLine neverFails true content offset).1 =
      alertsOf parseLine (content.drop start) := by
  have hall : alertsOf parseLine (content.drop start) = inserted ++ alertsOf parseLine rest := by
    rw [h.split, alertsOf_append parseLine h.endsLine, h.inserted_eq]
  rw [h.readAvailable_eq, hall]
  split
  · next hnil =>
      rw [hnil]
      rfl
  · -- the final read takes a last line without a newline as well
    have hpart : completePart true rest = some rest := by
      rw [completePart]
      split <;> rfl
    have himport := importLines_eq parseLine (fits_append h.endsLine hfit).2
    rw [hpart]
    simp only [himport]

/-- Snort writing moves the end of the file. -/
theorem Position.append (h : Position parseLine start content offset inserted seen rest)
    (data : Bytes) :
    Position parseLine start (content ++ data) offset inserted seen (rest ++ data) := by
  refine ⟨?_, ?_, h.offset_eq, h.endsLine, h.inserted_eq⟩
  · rw [List.length_append]
    exact Nat.le_add_right_of_le h.start_le
  · rw [List.drop_append_of_le_length h.start_le, h.split, List.append_assoc]

/-! ## Every reachable state -/

variable {setup : Setup} {s s' : State Alert}

/-- The tailer follows the file: before it has opened it nothing is imported, and from then on it
has a position in it. Snort has stopped before the context is cancelled, and the context is
cancelled before `Tail` returns. -/
structure Follows (parseLine : Bytes → Option Alert) (setup : Setup) (s : State Alert) : Prop where
  stopped : s.canceled = true → s.writerStopped = true
  returned : s.phase = .returned → s.canceled = true
  waiting : s.phase = .waiting → setup.startOffset = 0 ∧ s.offset = 0 ∧ s.inserted = []
  reading : s.phase = .reading → s.file ≠ none ∧ ∃ seen rest,
    Position parseLine setup.startOffset s.content s.offset s.inserted seen rest
  fits : Fits (s.content.drop setup.startOffset)

theorem fits_nil : Fits [] := by
  intro line hline
  cases hline

theorem follows_new : Follows parseLine setup (State.new setup) := by
  refine ⟨by simp [State.new], ?_, ?_, ?_, ?_⟩
  · intro h
    simp only [State.new] at h
    split at h <;> cases h
  · intro h
    cases hex : setup.existing with
    | none => simp [State.new, Setup.startOffset, hex]
    | some content => simp [State.new, hex] at h
  · intro h
    cases hex : setup.existing with
    | none => simp [State.new, hex] at h
    | some content =>
        refine ⟨by simp [State.new, hex], [], content.drop setup.startOffset, ?_⟩
        refine ⟨?_, ?_, rfl, .inl rfl, rfl⟩
        · simp only [State.new, State.content, Setup.startOffset, hex, Option.getD_some]
          split
          · exact Nat.le_refl _
          · exact Nat.zero_le _
        · simp [State.new, State.content, hex]
  · cases hex : setup.existing with
    | none => simpa [State.new, State.content, hex] using fits_nil
    | some content =>
        simp only [State.new, State.content, Setup.startOffset, hex, Option.getD_some]
        split
        · rw [List.drop_length]
          exact fits_nil
        · next h => exact setup.fits content hex (by simpa using h)

theorem Follows.fits_position (h : Follows parseLine setup s)
    (hp : Position parseLine setup.startOffset s.content s.offset s.inserted seen rest) :
    Fits (seen ++ rest) := by
  rw [← hp.split]
  exact h.fits

theorem follows_step {a : Action} (hI : Follows parseLine setup s)
    (h : tailStep parseLine setup s a = some s') : Follows parseLine setup s' := by
  cases a with
  | create =>
      simp only [tailStep, Option.ite_none_right_eq_some, Option.some.injEq] at h
      obtain ⟨⟨hfile, _⟩, rfl⟩ := h
      refine ⟨hI.stopped, hI.returned, hI.waiting, fun hr => absurd hfile (hI.reading hr).1, ?_⟩
      simpa [State.content] using fits_nil
  | append data =>
      simp only [tailStep] at h
      split at h
      · cases h
      · next content hfile =>
          simp only [Option.ite_none_right_eq_some, Option.some.injEq] at h
          obtain ⟨⟨_, hfit⟩, rfl⟩ := h
          refine ⟨hI.stopped, hI.returned, hI.waiting, fun hr => ?_, hfit⟩
          obtain ⟨_, seen, rest, hp⟩ := hI.reading hr
          have hcontent : s.content = content := by rw [State.content, hfile, Option.getD_some]
          rw [hcontent] at hp
          exact ⟨by simp, seen, rest ++ data, hp.append data⟩
  | stop =>
      cases h
      exact ⟨fun _ => rfl, hI.returned, hI.waiting, hI.reading, hI.fits⟩
  | cancel =>
      simp only [tailStep, Option.ite_none_right_eq_some, Option.some.injEq] at h
      obtain ⟨hst, rfl⟩ := h
      exact ⟨fun _ => hst, fun _ => rfl, hI.waiting, hI.reading, hI.fits⟩
  | tick =>
      simp only [tailStep] at h
      split at h
      · next hph =>
          cases h
          split
          · exact hI
          · next hfile =>
              -- the file has just been opened: nothing of it is read yet
              obtain ⟨hstart, hoff, hins⟩ := hI.waiting hph
              refine ⟨hI.stopped, by simp, by simp, fun _ => ⟨hfile, [], s.content, ?_⟩, hI.fits⟩
              exact ⟨by rw [hstart]; exact Nat.zero_le _, by rw [hstart]; rfl,
                by rw [hstart]; exact hoff, .inl rfl, hins⟩
      · next hph =>
          cases h
          obtain ⟨hfile, seen, rest, hp⟩ := hI.reading hph
          have hread := hp.tick (hI.fits_position hp)
          refine ⟨hI.stopped, hI.returned, fun hw => ?_, fun _ => ⟨hfile, hread⟩, hI.fits⟩
          rw [show (s.read parseLine false).phase = s.phase from rfl, hph] at hw
          cases hw
      · cases h
  | done =>
      simp only [tailStep, Option.ite_none_right_eq_some] at h
      obtain ⟨hc, h⟩ := h
      split at h
      · cases h
        exact ⟨hI.stopped, fun _ => hc, by simp, by simp, hI.fits⟩
      · cases h
        exact ⟨hI.stopped, fun _ => hc, by simp, by simp, hI.fits⟩
      · cases h

/-! ## Shutdown -/

theorem AllInserted.noneLost (h : AllInserted parseLine setup s) : NoneLost parseLine setup s := by
  intro hr a ha
  rw [h hr]
  exact ha

/-- What a step says about a `Tail` that has returned after it: it had returned before and nothing
has changed, or this step took the cancellation. -/
theorem returned_cases {a : Action} (hI : Follows parseLine setup s)
    (h : tailStep parseLine setup s a = some s') (hr : s'.phase = .returned) :
    (a ≠ .done ∧ s.phase = .returned ∧ s'.inserted = s.inserted ∧ s'.content = s.content) ∨
    (a = .done ∧ s.phase = .waiting ∧ s'.inserted = [] ∧ s'.content = s.content) ∨
    (a = .done ∧ s.phase = .reading ∧
      s'.inserted = alertsPast parseLine setup s ∧ s'.content = s.content) := by
  cases a with
  | create =>
      simp only [tailStep, Option.ite_none_right_eq_some, Option.some.injEq] at h
      obtain ⟨⟨_, hrun⟩, rfl⟩ := h
      -- Snort stops writing before `Tail` can return
      rw [hI.stopped (hI.returned hr)] at hrun
      cases hrun
  | append data =>
      simp only [tailStep] at h
      split at h
      · cases h
      · simp only [Option.ite_none_right_eq_some, Option.some.injEq] at h
        obtain ⟨⟨hrun, _⟩, rfl⟩ := h
        rw [hI.stopped (hI.returned hr)] at hrun
        cases hrun
  | stop =>
      cases h
      exact .inl ⟨by simp, hr, rfl, rfl⟩
  | cancel =>
      simp only [tailStep, Option.ite_none_right_eq_some, Option.some.injEq] at h
      obtain ⟨_, rfl⟩ := h
      exact .inl ⟨by simp, hr, rfl, rfl⟩
  | tick =>
      simp only [tailStep] at h
      split at h
      · next hph =>
          cases h
          split at hr
          · rw [hph] at hr
            cases hr
          · cases hr
      · next hph =>
          cases h
          rw [show (s.read parseLine false).phase = s.phase from rfl, hph] at hr
          cases hr
      · cases h
  | done =>
      simp only [tailStep, Option.ite_none_right_eq_some] at h
      obtain ⟨_, h⟩ := h
      split at h
      · next hph =>
          cases h
          exact .inr (.inl ⟨rfl, hph, (hI.waiting hph).2.2, rfl⟩)
      · next hph =>
          cases h
          obtain ⟨_, seen, rest, hp⟩ := hI.reading hph
          exact .inr (.inr ⟨rfl, hph, hp.final (hI.fits_position hp), rfl⟩)
      · cases h

theorem alertsPast_congr (h : s'.content = s.content) :
    alertsPast parseLine setup s' = alertsPast parseLine setup s := by
  rw [alertsPast, h, alertsPast]

theorem allInserted_step {a : Action} (hI : Follows parseLine setup s)
    (hP : AllInserted parseLine setup s) (h : tailStep parseLine setup s a = some s')
    (hg : DoneWhenOpenOrEmpty parseLine setup s a) : AllInserted parseLine setup s' := by
  intro hr
  obtain ⟨_, hph, hins, hc⟩ | ⟨rfl, hph, hins, hc⟩ | ⟨rfl, _, hins, hc⟩ := returned_cases hI h hr
  · rw [hins, hP hph, alertsPast_congr hc]
  · rw [hins, alertsPast_congr hc, hg hph]
  · rw [hins, alertsPast_congr hc]

theorem guard_of_noneLost {a : Action} (hI : Follows parseLine setup s)
    (h : tailStep parseLine setup s a = some s') (hP : NoneLost parseLine setup s') :
    DoneWhenOpenOrEmpty parseLine setup s a := by
  cases a with
  | done =>
      intro hph
      have hr : s'.phase = .returned := by
        simp only [tailStep, Option.ite_none_right_eq_some, hph, Option.some.injEq] at h
        rw [← h.2]
      obtain ⟨hne, _⟩ | ⟨_, _, hins, hc⟩ | ⟨_, hph', _⟩ := returned_cases hI h hr
      · exact absurd rfl hne
      · -- nothing was inserted, so there was nothing to insert
        have hlost := hP hr
        rw [alertsPast_congr hc, hins] at hlost
        exact List.eq_nil_iff_forall_not_mem.mpr fun a ha => List.not_mem_nil (hlost a ha)
      · rw [hph] at hph'
        cases hph'
  | create | append _ | stop | cancel | tick => trivial

/-- If the cancellation is never taken too early, `Tail` has inserted the alerts of the file when it
returns. -/
theorem always_allInserted (parseLine : Bytes → Option Alert) (setup : Setup) (acts : List Action)
    (hg : (tailer parseLine setup).Guarded (DoneWhenOpenOrEmpty parseLine setup)
      (State.new setup) acts) :
    (tailer parseLine setup).Always (AllInserted parseLine setup) (State.new setup) acts := by
  have hnew : AllInserted parseLine setup (State.new setup) := by
    intro hr
    have hI : Follows parseLine setup (State.new setup) := follows_new
    have hc := hI.returned hr
    cases hc
  have hboth := Machine.always_of_guarded
    (P := fun s => Follows parseLine setup s ∧ AllInserted parseLine setup s)
    (fun s a s' hs hg h => ⟨follows_step hs.1 h, allInserted_step hs.1 hs.2 h hg⟩)
    ⟨follows_new, hnew⟩ hg
  exact hboth.imp fun s hs => hs.2

/-- **Alerts are lost at shutdown exactly when the first loop takes the cancellation.** For every
parser, every start and every schedule: no alert of the file is ever lost if and only if the
cancellation is never taken before the file is opened while the file has an alert in it; and then
the rows inserted are the alerts of the file, in order and each once. -/
theorem noneLost_iff_done_guarded (parseLine : Bytes → Option Alert) (setup : Setup)
    (acts : List Action) :
    ((tailer parseLine setup).Always (NoneLost parseLine setup) (State.new setup) acts ↔
      (tailer parseLine setup).Guarded (DoneWhenOpenOrEmpty parseLine setup)
        (State.new setup) acts) ∧
    ((tailer parseLine setup).Guarded (DoneWhenOpenOrEmpty parseLine setup)
        (State.new setup) acts →
      (tailer parseLine setup).Always (AllInserted parseLine setup) (State.new setup) acts) := by
  have hexact := always_allInserted parseLine setup acts
  refine ⟨⟨fun hnone => ?_, fun hg => ?_⟩, hexact⟩
  · exact Machine.guarded_of_always (fun s a s' hI h => follows_step hI h)
      (fun s a s' hI _ h hP' => guard_of_noneLost hI h hP') follows_new hnone
  · exact (hexact hg).imp fun s hs => hs.noneLost

end

/-- The file does not exist yet when `NewTailer` looks for it. -/
def noFile : Setup where
  existing := none
  startExistingAtEnd := true
  fits := by
    intro content h
    cases h

/-- The line `{}`, which is a JSON object and so parses as an alert. -/
def emptyObject : Bytes := [0x7b, 0x7d]

/-- A parser that, like `ParseLine`, accepts the line `{}`. -/
def acceptsEmptyObject (line : Bytes) : Option Unit :=
  if line = emptyObject then some () else none

/-- Snort creates the file, writes one alert and exits between two ticks; the cancellation is then
taken in the first loop, and the alert is never inserted. -/
theorem alert_lost_before_first_tick :
    ∃ s, (tailer acceptsEmptyObject noFile).exec (State.new noFile)
        [.tick, .create, .append (emptyObject ++ [newline]), .stop, .cancel, .done] = some s ∧
      s.phase = .returned ∧ s.inserted = [] ∧ alertsPast acceptsEmptyObject noFile s = [()] ∧
      ¬ NoneLost acceptsEmptyObject noFile s := by
  have hlost : ∀ s : State Unit, s.phase = .returned → s.inserted = [] →
      alertsPast acceptsEmptyObject noFile s = [()] → ¬ NoneLost acceptsEmptyObject noFile s := by
    intro s hr hins hpast hnone
    have hmem := hnone hr () (by rw [hpast]; exact List.mem_cons_self)
    rw [hins] at hmem
    cases hmem
  have hrun : (tailer acceptsEmptyObject noFile).exec (State.new noFile)
      [.tick, .create, .append (emptyObject ++ [newline]), .stop, .cancel, .done] =
      some { file := some (emptyObject ++ [newline]), writerStopped := true, canceled := true
             phase := .returned, offset := 0, inserted := [] } := by
    rfl
  exact ⟨_, hrun, rfl, rfl, by decide, hlost _ rfl rfl (by decide)⟩

end SnortOptimizer.Alerts
