import SnortOptimizer.Alerts.JsonLine
import SnortOptimizer.Alerts.Tailer
import SnortOptimizer.Analyser.AlertMatching
import SnortOptimizer.Analyser.Scheduler

/-!
# Alerts from Snort to the analyser (`sql/alerts/store.go`, `analyser/sql/alerts.go`)

The file Snort writes in a run goes into the `alerts` table under the run's id, by the runner's
tailer or by `ImportFile`, and `loadEvalAlerts` takes the alerts of a run from there to match them
to flows. Both ways can lose alerts: the tailer that is cancelled before it has opened the file, and
the import whose last batch is refused. `loggedAlerts_loaded` follows the alerts of the runs to
which this has not happened: what is loaded for one of them is what Snort has logged in it, in order
and with nothing in between, and an alert of a packet is the `Packet.alert` whose flow is looked
for.
-/

namespace SnortOptimizer.Alerts

open Analyser Json Text Time

/-! ## The file of a run -/

/-- A packet that raised an alert, with the ids of the rule. -/
abbrev Logged := LoggedPacket × SigIds

def Logged.line (zone : Int) (l : Logged) : Bytes :=
  asciiBytes (alertLine jsonDeflt zone l.1 l.2)

/-- `alert_json.txt` after the calls of `JsonLogger::alert` in a run. -/
def alertFile (zone : Int) (logged : List Logged) : Bytes :=
  logged.flatMap fun l => l.line zone ++ [newline]

/-- The number of the packet can be read. -/
def Logged.Numbered (l : Logged) : Prop := l.1.packetNumber.toNat < 2 ^ 63

instance (l : Logged) : Decidable l.Numbered := inferInstanceAs (Decidable (_ < _))

/-! ## The table -/

structure AlertRow where
  id : Int
  runID : Int
  alert : Sql.Alert

/-- The `alerts` table, with the last id that was given away. Ids only grow, so the rows are in the
order of their ids. -/
structure AlertTable where
  rows : List AlertRow
  sequence : Int
  ordered : rows.Pairwise fun r s => r.id < s.id
  le_sequence : ∀ r ∈ rows, r.id ≤ sequence

namespace AlertTable

def empty : AlertTable :=
  { rows := [], sequence := 0, ordered := .nil
    le_sequence := fun _ h => absurd h List.not_mem_nil }

/-- `INSERT` of an alert. -/
def insert (t : AlertTable) (runID : Int) (alert : Sql.Alert) : AlertTable where
  rows := t.rows ++ [{ id := t.sequence + 1, runID := runID, alert := alert }]
  sequence := t.sequence + 1
  ordered := by
    rw [List.pairwise_append]
    refine ⟨t.ordered, List.pairwise_singleton _ _, fun r hr s hs => ?_⟩
    rw [List.mem_singleton.mp hs]
    exact Int.lt_add_one_of_le (t.le_sequence r hr)
  le_sequence := by
    intro r hr
    rcases List.mem_append.mp hr with hr | hr
    · exact (t.le_sequence r hr).trans (Int.le_of_lt (Int.lt_succ _))
    · rw [List.mem_singleton.mp hr]

/-- A row as `loadEvalAlerts` reads it. -/
def evalAlert (r : AlertRow) : AlertForEval :=
  { id := r.id, timestamp := r.alert.timestamp, proto := r.alert.proto, srcAP := r.alert.srcAP
    dstAP := r.alert.dstAP, gid := r.alert.gid, sid := r.alert.sid, rev := r.alert.rev }

/-- The rows in the order of their ids, as the analyser's database has them. -/
def evalAlerts (t : AlertTable) : List (Int × AlertForEval) :=
  t.rows.map fun r => (r.runID, evalAlert r)

/-- A database of the analyser with this `alerts` table. -/
def into (t : AlertTable) (db : SnortDB) : SnortDB := { db with alerts := t.evalAlerts }

end AlertTable

/-! ## The runs -/

/-- What was stored of a file that has been followed or imported to its end. -/
inductive Recorded (zone : Int) (logged : List Logged) : List Sql.Alert → Prop where
  -- `Tail` under any schedule in which the cancellation does not come before the file is open;
  -- what the file holds at the start offset and after it was written in this run
  | tailed {setup : Setup} {acts : List Action} {s : State Sql.Alert}
      (hrun : (tailer parseLine setup).exec (State.new setup) acts = some s)
      (hreturned : s.phase = .returned)
      (hguarded : (tailer parseLine setup).Guarded (DoneWhenOpenOrEmpty parseLine setup)
        (State.new setup) acts)
      (hfile : s.content.drop setup.startOffset = alertFile zone logged) :
      Recorded zone logged s.inserted
  -- `ImportFile`; batches may be refused as long as the last call is not
  | imported (insertOk : Nat → Bool)
      (hlast : LastCallOk insertOk (alertsOf parseLine (alertFile zone logged)).length) :
      Recorded zone logged (importLines parseLine insertOk (alertFile zone logged)).1

/-- A run of Snort: what it has logged, and what was stored of that. -/
structure SnortRun (zone : Int) where
  runID : Int
  logged : List Logged
  stored : List Sql.Alert
  recorded : Recorded zone logged stored

/-- The inserts of a run, after those of the runs before it. -/
def AlertTable.storeRun {zone : Int} (t : AlertTable) (run : SnortRun zone) : AlertTable :=
  run.stored.foldl (fun t alert => t.insert run.runID alert) t

/-- The table after the runs. -/
def afterRuns {zone : Int} (runs : List (SnortRun zone)) : AlertTable :=
  runs.foldl AlertTable.storeRun .empty

/-! ## What is loaded -/

/-- The packet of a flow that Snort has logged: as it came, or with its data put together. -/
structure LoggedPacket.Of (l : LoggedPacket) (p : Packet) : Prop where
  src : l.src = p.src
  dst : l.dst = p.dst
  sp : l.sp = p.sp
  dp : l.dp = p.dp
  sec : (l.sec : Int) = p.sec
  usec : l.usec = p.usec
  tcp : l.tcp = decide (p.protocol = 6)
  udp : l.udp = decide (p.protocol = 17)
  addressed : l.hasIp = true ∨ l.isData = true
  type : l.type = .tcp ∧ p.protocol = 6 ∨ l.type = .udp ∧ p.protocol = 17 ∨
    l.type = .icmp ∧ (p.protocol = 1 ∨ p.protocol = 58) ∨
    l.type = .ip ∧ p.protocol ∉ ([6, 17, 1, 58] : List UInt8) ∨
    l.isData = true ∧ p.protocol ∈ ([6, 17] : List UInt8)

/-- The alert of a packet as it is evaluated. -/
def Logged.evalAlert (zone : Int) (l : Logged) (id : Int) : AlertForEval :=
  { id := id, timestamp := tsPrint zone l.1.sec l.1.usec, proto := l.1.getType
    srcAP := l.1.addrPort l.1.src l.1.sp, dstAP := l.1.addrPort l.1.dst l.1.dp
    gid := l.2.gid.toNat, sid := l.2.sid.toNat, rev := l.2.rev.toNat }

theorem LoggedPacket.Of.getType {l : LoggedPacket} {p : Packet} (h : l.Of p) :
    l.getType = p.type := by
  rcases h.type with ⟨htype, hp⟩ | ⟨htype, hp⟩ | ⟨htype, hp⟩ | ⟨htype, hp⟩ | ⟨hdata, hp⟩
  · rw [LoggedPacket.getType, htype, Packet.type, if_pos hp]
  · rw [LoggedPacket.getType, htype, Packet.type, hp]
    rfl
  · rw [LoggedPacket.getType, htype, Packet.type]
    rcases hp with hp | hp <;> rw [hp] <;> rfl
  · simp only [List.mem_cons, List.not_mem_nil, or_false, not_or] at hp
    rw [LoggedPacket.getType, htype, Packet.type, if_neg hp.1, if_neg hp.2.1,
      if_neg (not_or.mpr hp.2.2)]
  · have hname : (if l.tcp then "TCP" else if l.udp then "UDP" else "Error") = p.type := by
      rw [h.tcp, h.udp, Packet.type]
      simp only [List.mem_cons, List.not_mem_nil, or_false] at hp
      rcases hp with hp | hp <;> rw [hp] <;> rfl
    rw [← hname]
    rcases of_decide_eq_true hdata with htype | htype | htype <;>
      rw [LoggedPacket.getType, htype]

theorem LoggedPacket.Of.addrPort {l : LoggedPacket} {p : Packet} (h : l.Of p) (addr : Address)
    (port : UInt16) :
    l.addrPort addr port = Analyser.addrPort addr (if p.hasPorts then port.toNat else 0) := by
  have haddressed : (l.hasIp || l.isData) = true := Bool.or_eq_true_iff.mpr h.addressed
  have hports : (l.tcp || l.udp) = p.hasPorts := by
    rw [h.tcp, h.udp, Packet.hasPorts, Bool.decide_or]
  rw [LoggedPacket.addrPort, haddressed, hports, Analyser.addrPort, if_pos rfl]
  cases p.hasPorts <;> rfl

/-- The alert of a packet says of it what `Packet.alert` does. -/
theorem LoggedPacket.Of.evalAlert {l : Logged} {p : Packet} (h : l.1.Of p) (zone id : Int) :
    l.evalAlert zone id =
      p.alert zone { id := id, gid := l.2.gid.toNat, sid := l.2.sid.toNat
                     rev := l.2.rev.toNat } := by
  rw [Logged.evalAlert, Packet.alert, h.getType, h.addrPort, h.addrPort, h.src, h.dst, h.sp, h.dp,
    h.sec, h.usec, Packet.srcPort, Packet.dstPort]

/-! ## What an import stores -/

theorem Logged.newline_notMem (zone : Int) (l : Logged) : newline ∉ l.line zone := by
  intro hmem
  obtain ⟨c, hc, hbyte⟩ := List.mem_map.mp hmem
  have hvisible := of_decide_eq_true (visible_alertLine zone l.1 l.2 c hc)
  have hnat := congrArg UInt8.toNat hbyte
  rw [UInt8.toNat_ofNat', Nat.mod_eq_of_lt (by omega)] at hnat
  have hnewline : newline.toNat = 10 := rfl
  omega

theorem splitLines_alertFile (zone : Int) (logged : List Logged) :
    splitLines newline (alertFile zone logged) = logged.map (Logged.line zone) := by
  have hmap : alertFile zone logged =
      (logged.map (Logged.line zone)).flatMap (· ++ [newline]) := by
    rw [alertFile, List.flatMap_map]
  rw [hmap]
  apply splitLines_flatMap
  intro line hline
  obtain ⟨l, _, rfl⟩ := List.mem_map.mp hline
  exact l.newline_notMem zone

theorem fits_alertFile {zone : Int} (hzone : -86400 < zone) (logged : List Logged) :
    Fits (alertFile zone logged) := by
  rw [Fits, splitLines_alertFile]
  intro line hline
  obtain ⟨l, _, rfl⟩ := List.mem_map.mp hline
  rw [Logged.line, asciiBytes, List.length_map]
  exact length_alertLine_lt hzone l.1 l.2

theorem alertOf_line (zone : Int) (l : Logged) :
    alertOf parseLine (l.line zone) =
      if l.Numbered then some (loggedAlert zone l.1 l.2) else none := by
  obtain ⟨text, htext⟩ := asciiBytes_alertLine zone l.1 l.2
  have hline : l.line zone = 0x7b :: (text ++ [0x7d]) := htext
  have hlast : (l.line zone).getLast? = some 0x7d := by
    rw [hline, ← List.cons_append, List.getLast?_concat]
  have hdrop : dropCR (l.line zone) = l.line zone := by
    rw [dropCR, hlast, if_neg (by decide)]
  have htrim : trimSpaceBytes (l.line zone) = l.line zone := by
    rw [hline, trimSpaceBytes_braces]
  have hne : l.line zone ≠ [] := by
    rw [hline]
    exact List.cons_ne_nil _ _
  rw [alertOf, hdrop, htrim, if_neg hne]
  exact parseLine_alertLine zone l.1 l.2

/-- The file of a run stands for the alerts that were logged in it. -/
theorem alertsOf_alertFile (zone : Int) (logged : List Logged) :
    alertsOf parseLine (alertFile zone logged) =
      (logged.filter Logged.Numbered).map fun l => loggedAlert zone l.1 l.2 := by
  rw [alertsOf, splitLines_alertFile, List.filterMap_map]
  induction logged with
  | nil => rfl
  | cons l ls ih =>
      have hl : (alertOf parseLine ∘ Logged.line zone) l =
          if l.Numbered then some (loggedAlert zone l.1 l.2) else none := by
        rw [Function.comp_apply]
        exact alertOf_line zone l
      by_cases hnum : l.Numbered
      · rw [if_pos hnum] at hl
        rw [List.filterMap_cons_some hl, ih, List.filter_cons, if_pos (decide_eq_true hnum)]
        rfl
      · rw [if_neg hnum] at hl
        rw [List.filterMap_cons_none hl, ih, List.filter_cons,
          if_neg fun h => hnum (of_decide_eq_true h)]

/-- What is stored of a run is what its file stands for. -/
theorem Recorded.eq {zone : Int} (hzone : -86400 < zone) {logged : List Logged}
    {stored : List Sql.Alert} (h : Recorded zone logged stored) :
    stored = (logged.filter Logged.Numbered).map fun l => loggedAlert zone l.1 l.2 := by
  rw [← alertsOf_alertFile]
  cases h with
  | tailed hrun hreturned hguarded hfile =>
      have hall := (always_allInserted parseLine _ _ hguarded).last hrun hreturned
      rw [hall, alertsPast, hfile]
  | imported insertOk hlast =>
      rw [← scannedAlerts_of_fits parseLine (fits_alertFile hzone logged)] at hlast ⊢
      exact (importLines_spec parseLine _ _).2.2.1 hlast

/-! ## The alerts of a run -/

/-- The alert reports the packet, under whatever id it was stored. -/
def Reports (zone : Int) (l : Logged) (a : AlertForEval) : Prop := a = l.evalAlert zone a.id

theorem AlertTable.loadEvalAlerts_insert (t : AlertTable) (db : SnortDB) (runID id : Int)
    (alert : Sql.Alert) :
    loadEvalAlerts ((t.insert runID alert).into db) id =
      loadEvalAlerts (t.into db) id ++
        if runID = id then
          [AlertTable.evalAlert { id := t.sequence + 1, runID := runID, alert := alert }]
        else [] := by
  simp only [loadEvalAlerts, into, evalAlerts, insert, List.map_append, List.filter_append]
  congr 1
  by_cases h : runID = id
  · rw [if_pos h, List.map_singleton, List.filter_cons, if_pos (decide_eq_true h)]
    rfl
  · rw [if_neg h, List.map_singleton, List.filter_cons,
      if_neg fun hd => h (of_decide_eq_true hd)]
    rfl

/-- Alerts that are stored one after the other are loaded for their run, and for no other one. -/
theorem forall₂_foldl_insert {zone id : Int} {db : SnortDB} (runID : Int) (ls kept : List Logged)
    (t : AlertTable) (h : List.Forall₂ (Reports zone) kept (loadEvalAlerts (t.into db) id)) :
    List.Forall₂ (Reports zone) (kept ++ if runID = id then ls else [])
      (loadEvalAlerts (((ls.map fun l => loggedAlert zone l.1 l.2).foldl
        (fun t alert => t.insert runID alert) t).into db) id) := by
  induction ls generalizing kept t with
  | nil =>
      rw [ite_self, List.append_nil]
      exact h
  | cons l ls ih =>
      rw [List.map_cons, List.foldl_cons]
      have hinsert := t.loadEvalAlerts_insert db runID id (loggedAlert zone l.1 l.2)
      by_cases hid : runID = id
      · rw [if_pos hid] at hinsert
        have hnew : List.Forall₂ (Reports zone) (kept ++ [l])
            (loadEvalAlerts ((t.insert runID (loggedAlert zone l.1 l.2)).into db) id) := by
          rw [hinsert]
          exact List.rel_append h (.cons rfl .nil)
        have hrest := ih _ _ hnew
        rw [if_pos hid, List.append_assoc] at hrest
        rw [if_pos hid]
        exact hrest
      · rw [if_neg hid, List.append_nil] at hinsert
        have hrest := ih kept (t.insert runID (loggedAlert zone l.1 l.2)) (hinsert ▸ h)
        rw [if_neg hid] at hrest ⊢
        exact hrest

theorem forall₂_runs {zone id : Int} {db : SnortDB} (hzone : -86400 < zone)
    (runs : List (SnortRun zone)) {kept : List Logged} {t : AlertTable}
    (h : List.Forall₂ (Reports zone) kept (loadEvalAlerts (t.into db) id)) :
    List.Forall₂ (Reports zone)
      (kept ++ ((runs.filter (·.runID = id)).flatMap SnortRun.logged).filter Logged.Numbered)
      (loadEvalAlerts ((runs.foldl AlertTable.storeRun t).into db) id) := by
  induction runs generalizing kept t with
  | nil =>
      rw [List.filter_nil, List.flatMap_nil, List.filter_nil, List.append_nil]
      exact h
  | cons run runs ih =>
      have hrun : List.Forall₂ (Reports zone)
          (kept ++ if run.runID = id then run.logged.filter Logged.Numbered else [])
          (loadEvalAlerts ((t.storeRun run).into db) id) := by
        rw [AlertTable.storeRun, run.recorded.eq hzone]
        exact forall₂_foldl_insert run.runID _ kept t h
      have hrest := ih hrun
      rw [List.foldl_cons]
      by_cases hid : run.runID = id
      · rw [if_pos hid, List.append_assoc] at hrest
        rw [List.filter_cons, if_pos (decide_eq_true hid), List.flatMap_cons, List.filter_append]
        exact hrest
      · rw [if_neg hid, List.append_nil] at hrest
        rw [List.filter_cons, if_neg fun h => hid (of_decide_eq_true h)]
        exact hrest

theorem exists_of_forall₂ {α β : Type} {R : α → β → Prop} {xs : List α} {ys : List β}
    (h : List.Forall₂ R xs ys) {x : α} (hx : x ∈ xs) : ∃ y ∈ ys, R x y := by
  induction h with
  | nil => cases hx
  | cons hab _ ih =>
      rcases List.mem_cons.mp hx with rfl | hx
      · exact ⟨_, List.mem_cons_self, hab⟩
      · obtain ⟨y, hy, hxy⟩ := ih hx
        exact ⟨y, List.mem_cons_of_mem _ hy, hxy⟩

theorem AlertTable.ids_increase (t : AlertTable) (db : SnortDB) (runID : Int) :
    (loadEvalAlerts (t.into db) runID).Pairwise fun a b => a.id < b.id := by
  rw [loadEvalAlerts, List.pairwise_map]
  apply List.Pairwise.filter
  rw [into, evalAlerts, List.pairwise_map]
  exact t.ordered

/-- An alert that shows its packet's tuple and time is matched to a flow of the tuple. -/
theorem finds_of_shows {rt : Runtime} {zone : Int} (hlocal : ∀ w, rt.local_ w = w - zone)
    {rows : List FlowRow} {fs : FlowSet} (hfs : Loaded rt zone rows fs)
    (hbar : ∀ g ∈ fs.flows, g.NoBar) {i : Nat} {f : FlowRecord} (hf : fs.flows[i]? = some f)
    {p : Packet} (hp : p.OfFlow rt f) (hin : f.Contains p.instant) (htuple : p.ShowsTuple rt f)
    (htime : p.ShowsTime zone fs.year) (e : Event) :
    Finds rt fs f p.instant (p.alert zone e) := by
  obtain ⟨year, hyear, hle⟩ := hfs.year_le hlocal
  rw [hyear] at htime
  have hts := parseAlertTime_tsPrint hlocal hle htime
  rw [← hyear] at hts
  have hshows := hp.shows htuple
  obtain ⟨j, hj⟩ := hfs.matchAlertToFlow_isSome hbar e hts hf hshows hin
  obtain ⟨ts, g, hread, hg, hgshows, hgin⟩ := hfs.matchAlertToFlow_eq_some hbar hj
  rw [hts] at hread
  cases hread
  exact ⟨j, g, hj, hg, hgshows.sameTuple hshows, hgin⟩

/-- **From the packet to the flow.** Whatever Snort logs in whatever runs, if the file of each was
followed or imported to its end, the analyser loads for a run the alerts that were logged in it, in
order, each with the texts Snort has printed; only packets whose number does not fit are missing.
The alert of a packet inside a flow, if it shows the tuple and the time, is among them and is
matched to a flow of the tuple around that time. -/
theorem loggedAlerts_loaded (upper : Char → Char) {zone : Int} (hzone : -86400 < zone)
    (runs : List (SnortRun zone)) (db : SnortDB) (runID : Int) :
    let rt : Runtime := { upper := upper, local_ := fun w => w - zone }
    let loaded := loadEvalAlerts ((afterRuns runs).into db) runID
    let logged :=
      ((runs.filter (·.runID = runID)).flatMap SnortRun.logged).filter Logged.Numbered
    List.Forall₂ (Reports zone) logged loaded ∧
    (loaded.Pairwise fun a b => a.id < b.id) ∧
    ∀ dbPath rows fs, loadFlowSet rt zone dbPath rows = .ok fs → (∀ g ∈ fs.flows, g.NoBar) →
      ∀ (i : Nat) f, fs.flows[i]? = some f → ∀ l ∈ logged, ∀ p : Packet, l.1.Of p →
        p.OfFlow rt f → f.Contains p.instant → p.ShowsTuple rt f → p.ShowsTime zone fs.year →
        ∃ a ∈ loaded, Reports zone l a ∧ Finds rt fs f p.instant a := by
  intro rt loaded logged
  have hreports : List.Forall₂ (Reports zone) logged loaded := by
    have hnone : List.Forall₂ (Reports zone) [] (loadEvalAlerts (AlertTable.empty.into db) runID) :=
      .nil
    exact forall₂_runs hzone runs hnone
  refine ⟨hreports, AlertTable.ids_increase _ db runID, ?_⟩
  intro dbPath rows fs hload hbar i f hf l hl p hof hp hin htuple htime
  obtain ⟨table, _, hfs⟩ := loadFlowSet_eq_ok hload
  obtain ⟨a, ha, hla⟩ := exists_of_forall₂ hreports hl
  refine ⟨a, ha, hla, ?_⟩
  rw [hla, hof.evalAlert]
  exact finds_of_shows (fun w => rfl) hfs hbar hf hp hin htuple htime _

/-- A request, and the flow it belongs to. -/
def requestRow : FlowRow :=
  { id := "1", srcIP := "10.0.0.7", srcPort := 4000, dstIP := "10.0.0.9", dstPort := 80
    protocol := "6", timestamp := "2017-07-03 23:59:00", duration := 1000000000
    label := "Attack" }

def requestFlow : FlowRecord :=
  { id := "1", srcIP := "10.0.0.7", srcPort := 4000, dstIP := "10.0.0.9", dstPort := 80
    protocol := "TCP", start := 1499126340000000000, duration := 1000000000, label := "ATTACK"
    isBenign := false, isMalicious := true }

def requestPacket : Packet :=
  { src := ⟨"10.0.0.7", by decide, List.all_eq_true.mp (by decide)⟩
    dst := ⟨"10.0.0.9", by decide, List.all_eq_true.mp (by decide)⟩
    protocol := 6, sp := 4000, dp := 80, sec := 1499126340, usec := 31415, usec_lt := by decide }

/-- Its data as Snort has put it together. -/
def request : Logged :=
  ({ type := .pdu, tcp := true, udp := false, arp := false, hasIp := false, layer := none
     src := requestPacket.src, dst := requestPacket.dst, sp := 4000, dp := 80, sec := 1499126340
     usec := 31415, packetNumber := 12, dgramLen := 0, dsize := 310, pseudo := some .tcp
     fromClient := true, fromServer := false, swapped := false, action := .allow, status := .allow
     usec_lt := by decide, src_fits := by decide, dst_fits := by decide
     layer_plain := fun _ h => nomatch h },
    { gid := 1, sid := 2000419, rev := 3 })

theorem request_of : request.1.Of requestPacket :=
  ⟨rfl, rfl, rfl, rfl, rfl, rfl, rfl, rfl, .inr rfl, .inr (.inr (.inr (.inr ⟨rfl, by decide⟩)))⟩

/-- Snort creates the file, the next tick opens it, and what is written after that is read when the
context is cancelled. -/
def followedActs (data : Bytes) : List Action :=
  [.create, .tick, .append data, .stop, .cancel, .done]

theorem recorded_followed {zone : Int} (hzone : -86400 < zone) (logged : List Logged) :
    Recorded zone logged
      (readAvailable parseLine neverFails true (alertFile zone logged) 0).1 := by
  have hfits := fits_alertFile hzone logged
  have hrun : (tailer parseLine noFile).exec (State.new noFile)
      (followedActs (alertFile zone logged)) =
        some { State.read parseLine
                 { file := some (alertFile zone logged), writerStopped := true, canceled := true
                   phase := .reading, offset := 0, inserted := [] } true with
               phase := .returned } := by
    simp [followedActs, Machine.exec, tailer, State.new, noFile, tailStep, Setup.startOffset,
      hfits]
  refine .tailed hrun rfl ?_ ?_
  · simp [followedActs, Machine.Guarded, tailer, State.new, noFile, tailStep, Setup.startOffset,
      hfits, DoneWhenOpenOrEmpty]
  · rfl

/-- A run whose file was imported afterwards, and one that was followed. -/
def requestRuns : List (SnortRun 0) :=
  [{ runID := 6, logged := [request, request], stored := _
     recorded := .imported neverFails (lastCallOk_neverFails _) },
   { runID := 7, logged := [request], stored := _
     recorded := recorded_followed (by decide) [request] }]

/-- The alert is all that is loaded for its run, and it finds the flow. -/
theorem request_detected :
    let rt : Runtime := { upper := Char.toUpper, local_ := fun w => w - 0 }
    (loadEvalAlerts ((afterRuns requestRuns).into .empty) 6).length = 2 ∧
    (loadEvalAlerts ((afterRuns requestRuns).into .empty) 7).length = 1 ∧
    ∃ fs, loadFlowSet rt 0 "flows.db" (.ok [requestRow]) = .ok fs ∧
      ∃ a ∈ loadEvalAlerts ((afterRuns requestRuns).into .empty) 7,
        Reports 0 request a ∧ Finds rt fs requestFlow requestPacket.instant a := by
  intro rt
  have hrun : (loadFlowSet rt 0 "flows.db" (.ok [requestRow])).toOption.map (fun fs =>
      (decide (∀ g ∈ fs.flows, g.NoBar), fs.flows[0]?, fs.year)) =
      some (true, some requestFlow, 2017) := by
    decide +kernel
  obtain ⟨fs, hfs, hrun⟩ := Option.map_eq_some_iff.mp hrun
  simp only [Prod.mk.injEq, decide_eq_true_eq] at hrun
  obtain ⟨hbar, hflow, hyear⟩ := hrun
  have hload := eq_ok_of_toOption hfs
  have hzone : (-86400 : Int) < 0 := by decide
  obtain ⟨himported, -, -⟩ := loggedAlerts_loaded Char.toUpper hzone requestRuns .empty 6
  obtain ⟨hfollowed, -, hfinds⟩ := loggedAlerts_loaded Char.toUpper hzone requestRuns .empty 7
  refine ⟨himported.length_eq.symm, hfollowed.length_eq.symm, ?_⟩
  refine ⟨fs, hload, hfinds _ _ fs hload hbar 0 requestFlow hflow request List.mem_cons_self
    requestPacket request_of ?_ ?_ ?_ ?_⟩
  · exact ⟨.inl (by decide +kernel), .inl ⟨rfl, rfl, fun _ => by decide +kernel⟩⟩
  · exact ⟨by decide, by decide⟩
  · exact ⟨by decide +kernel, .inl (by decide)⟩
  · rw [hyear]
    exact ⟨by decide +kernel, by decide, .inl (by decide)⟩

end SnortOptimizer.Alerts
