import SnortOptimizer.Analyser.FlowLoad

/-!
# The flow of an alert (`analyser/sql/flow_match.go`)

`matchAlertToFlow` looks the tuple of an alert up in the index and keeps the nearest flow that
contains the time of the alert. Its result is described without the index here: the flows between
the two endpoints, in either direction, and among those that contain the instant the one that
started last, the first in the table among several.

The keys of the index are texts, with the parts of a tuple between bars; an address without a bar
can be read back from them.
-/

namespace SnortOptimizer.Analyser

open Text Time

/-! ## Tuples -/

/-- The flow is between these endpoints, in either direction. -/
def FlowRecord.Between (rt : Runtime) (f : FlowRecord) (ip : String) (port : Int) (ip' : String)
    (port' : Int) (proto : String) : Prop :=
  mapUpper rt.upper f.protocol = mapUpper rt.upper proto ∧
    ((f.srcIP = ip ∧ f.srcPort = port ∧ f.dstIP = ip' ∧ f.dstPort = port') ∨
      (f.srcIP = ip' ∧ f.srcPort = port' ∧ f.dstIP = ip ∧ f.dstPort = port))

/-- The same tuple up to direction. -/
def FlowRecord.SameTuple (rt : Runtime) (f g : FlowRecord) : Prop :=
  f.Between rt g.srcIP g.srcPort g.dstIP g.dstPort g.protocol

def FlowRecord.Contains (f : FlowRecord) (t : Int) : Prop :=
  f.start ≤ t ∧ t ≤ f.start + f.duration

/-- Addresses without the separator of the keys. -/
def FlowRecord.NoBar (f : FlowRecord) : Prop :=
  '|' ∉ f.srcIP.toList ∧ '|' ∉ f.dstIP.toList

instance (f : FlowRecord) : Decidable f.NoBar := inferInstanceAs (Decidable (_ ∧ _))

variable {rt : Runtime} {fs : FlowSet} {zone : Int}

/-- Two flows between the same endpoints. -/
theorem FlowRecord.Between.sameTuple {f g : FlowRecord} {ip ip' proto : String} {port port' : Int}
    (hg : g.Between rt ip port ip' port' proto) (hf : f.Between rt ip port ip' port' proto) :
    g.SameTuple rt f := by
  obtain ⟨hgp, hg⟩ := hg
  obtain ⟨hfp, hf⟩ := hf
  refine ⟨hgp.trans hfp.symm, ?_⟩
  rcases hf with ⟨rfl, rfl, rfl, rfl⟩ | ⟨rfl, rfl, rfl, rfl⟩
  · exact hg
  · exact hg.symm

/-- The direction does not matter. -/
theorem FlowRecord.between_comm {f : FlowRecord} {ip ip' proto : String} {port port' : Int} :
    f.Between rt ip port ip' port' proto ↔ f.Between rt ip' port' ip port proto :=
  and_congr_right fun _ => or_comm

/-! ## Keys -/

theorem tupleKey_inj {ip ip' jp jp' proto proto' : String} {port port' qort qort' : Int}
    (hip : '|' ∉ ip.toList) (hjp : '|' ∉ jp.toList) (hip' : '|' ∉ ip'.toList)
    (hjp' : '|' ∉ jp'.toList) :
    tupleKey rt ip port ip' port' proto = tupleKey rt jp qort jp' qort' proto' ↔
      (ip = jp ∧ port = qort ∧ ip' = jp' ∧ port' = qort') ∧
        mapUpper rt.upper proto = mapUpper rt.upper proto' := by
  have hlist : ∀ (a b proto : String) (m n : Int), (tupleKey rt a m b n proto).toList =
      a.toList ++ '|' :: ((toString m).toList ++ '|' :: (b.toList ++ '|' ::
        ((toString n).toList ++ '|' :: (mapUpper rt.upper proto).toList))) := by
    intro a b proto m n
    simp [tupleKey, String.toList_append]
  have hbar (n : Int) : '|' ∉ (toString n).toList := notMem_toString_int n (by decide) (by decide)
  constructor
  · intro h
    have h := congrArg String.toList h
    rw [hlist, hlist] at h
    obtain ⟨h1, h⟩ := append_sep_inj hip hjp h
    obtain ⟨h2, h⟩ := append_sep_inj (hbar port) (hbar qort) h
    obtain ⟨h3, h⟩ := append_sep_inj hip' hjp' h
    obtain ⟨h4, h5⟩ := append_sep_inj (hbar port') (hbar qort') h
    exact ⟨⟨String.toList_inj.mp h1, toString_int_inj (String.toList_inj.mp h2),
      String.toList_inj.mp h3, toString_int_inj (String.toList_inj.mp h4)⟩,
      String.toList_inj.mp h5⟩
  · rintro ⟨⟨rfl, rfl, rfl, rfl⟩, hproto⟩
    rw [tupleKey, hproto]
    rfl

/-- A flow is indexed under a key exactly if it is between the endpoints of the key. -/
theorem FlowRecord.NoBar.key_iff {f : FlowRecord} (hf : f.NoBar) {ip ip' proto : String}
    {port port' : Int} (hip : '|' ∉ ip.toList) (hip' : '|' ∉ ip'.toList) :
    (tupleKey rt ip port ip' port' proto = f.forward rt ∨
      tupleKey rt ip port ip' port' proto = f.reverse rt) ↔
      f.Between rt ip port ip' port' proto := by
  rw [FlowRecord.forward, FlowRecord.reverse, tupleKey_inj hip hf.1 hip' hf.2,
    tupleKey_inj hip hf.2 hip' hf.1, FlowRecord.Between]
  constructor
  · rintro (⟨⟨h1, h2, h3, h4⟩, hp⟩ | ⟨⟨h1, h2, h3, h4⟩, hp⟩)
    · exact ⟨hp.symm, .inl ⟨h1.symm, h2.symm, h3.symm, h4.symm⟩⟩
    · exact ⟨hp.symm, .inr ⟨h3.symm, h4.symm, h1.symm, h2.symm⟩⟩
  · rintro ⟨hp, ⟨h1, h2, h3, h4⟩ | ⟨h1, h2, h3, h4⟩⟩
    · exact .inl ⟨⟨h1.symm, h2.symm, h3.symm, h4.symm⟩, hp.symm⟩
    · exact .inr ⟨⟨h3.symm, h4.symm, h1.symm, h2.symm⟩, hp.symm⟩

/-- The host of an address is a part of it. -/
theorem mem_of_mem_host {raw ip : String} {port : Int} (h : parseAddrPort raw = some (ip, port))
    {c : Char} (hc : c ∈ ip.toList) : c ∈ raw.toList := by
  unfold parseAddrPort at h
  split at h
  · cases h
  · next host digits hsplit =>
      split at h
      · cases h
      · obtain ⟨n, _, hn⟩ := Option.map_eq_some_iff.mp h
        cases hn
        rw [String.toList_ofList, trim, List.mem_reverse] at hc
        have hc := (List.dropWhile_suffix _).subset hc
        have hhost : c ∈ host :=
          (List.dropWhile_suffix _).subset (List.mem_reverse.mp hc)
        apply (trimSpace_sublist raw).subset
        unfold splitLast at hsplit
        dsimp only at hsplit
        split at hsplit
        · cases hsplit
        · next rest hrest =>
            cases hsplit
            have hmem : c ∈ (trimSpace raw).toList.reverse.dropWhile (· ≠ ':') := by
              rw [hrest]
              exact List.mem_cons_of_mem _ (List.mem_reverse.mp hhost)
            exact List.mem_reverse.mp ((List.dropWhile_suffix _).subset hmem)

/-- The addresses of the table have no bar, and so the flows have none. -/
theorem Loaded.noBar {rows : List FlowRow} (hfs : Loaded rt zone rows fs)
    (hrows : ∀ row ∈ rows, '|' ∉ row.srcIP.toList ∧ '|' ∉ row.dstIP.toList) :
    ∀ f ∈ fs.flows, f.NoBar := by
  intro f hf
  rw [hfs.flows] at hf
  obtain ⟨row, hrow, hrecord⟩ := List.mem_filterMap.mp hf
  obtain ⟨start, _, rfl⟩ := Option.map_eq_some_iff.mp hrecord
  obtain ⟨hsrc, hdst⟩ := hrows row hrow
  exact ⟨fun h => hsrc ((trimSpace_sublist _).subset h),
    fun h => hdst ((trimSpace_sublist _).subset h)⟩

/-- **What the index holds**: the flows between the endpoints of a key. -/
theorem Loaded.mem_index {rows : List FlowRow} (hfs : Loaded rt zone rows fs)
    (hbar : ∀ f ∈ fs.flows, f.NoBar) {ip ip' proto : String} {port port' : Int}
    (hip : '|' ∉ ip.toList) (hip' : '|' ∉ ip'.toList) {i : Nat} :
    i ∈ fs.index (tupleKey rt ip port ip' port' proto) ↔
      ∃ f, fs.flows[i]? = some f ∧ f.Between rt ip port ip' port' proto := by
  rw [hfs.index, mem_flowIndex]
  refine exists_congr fun f => and_congr_right fun hf => ?_
  exact (hbar f (List.mem_of_getElem? hf)).key_iff hip hip'

theorem Loaded.index_increasing {rows : List FlowRow} (hfs : Loaded rt zone rows fs)
    (key : String) : (fs.index key).Pairwise (· < ·) := by
  rw [hfs.index]
  exact flowIndex_increasing fs.flows key

/-! ## The nearest flow -/

/-- The position holds a flow that contains the instant. -/
def FlowSet.Holds (fs : FlowSet) (ts : Int) (i : Nat) (f : FlowRecord) : Prop :=
  fs.flows[i]? = some f ∧ f.Contains ts

/-- Started later, or at the same time and before the other one in the table. -/
def Precedes (i : Nat) (f : FlowRecord) (j : Nat) (g : FlowRecord) : Prop :=
  g.start < f.start ∨ (g.start = f.start ∧ i ≤ j)

/-- What the search knows after some candidates. -/
def Nearest (fs : FlowSet) (ts : Int) (seen : List Nat) : Option (Nat × Int) → Prop
  | none => ∀ j ∈ seen, ∀ g, ¬ fs.Holds ts j g
  | some (i, distance) => i ∈ seen ∧ ∃ f, fs.Holds ts i f ∧ distance = ts - f.start ∧
      ∀ j ∈ seen, ∀ g, fs.Holds ts j g → Precedes i f j g

/-- **What one candidate does**, if it comes after those seen. -/
theorem Nearest.step {ts : Int} {seen : List Nat} {best : Option (Nat × Int)} {idx : Nat}
    (h : Nearest fs ts seen best) (hseen : ∀ i ∈ seen, i < idx) :
    Nearest fs ts (seen ++ [idx]) (nearer fs ts best idx) := by
  -- a candidate that does not contain the instant says nothing
  have hskip (hout : ∀ g, ¬ fs.Holds ts idx g) : Nearest fs ts (seen ++ [idx]) best := by
    cases best with
    | none =>
        intro j hj g hg
        rcases List.mem_append.mp hj with hj | hj
        · exact h j hj g hg
        · exact hout g (List.mem_singleton.mp hj ▸ hg)
    | some b =>
        obtain ⟨hi, f, hf, hd, hfirst⟩ := h
        refine ⟨List.mem_append_left _ hi, f, hf, hd, ?_⟩
        intro j hj g hg
        rcases List.mem_append.mp hj with hj | hj
        · exact hfirst j hj g hg
        · exact absurd (List.mem_singleton.mp hj ▸ hg) (hout g)
  unfold nearer
  cases hflow : fs.flows[idx]? with
  | none =>
      apply hskip
      intro g hg
      rw [hg.1] at hflow
      cases hflow
  | some f =>
      dsimp only
      split
      · next hout =>
          apply hskip
          intro g hg
          have hgf : g = f := Option.some.inj (hg.1.symm.trans hflow)
          have hin := hgf ▸ hg.2
          unfold FlowRecord.Contains at hin
          omega
      · next hin =>
          rw [not_or, Int.not_lt, Int.not_lt] at hin
          have hhere : fs.Holds ts idx f := ⟨hflow, hin⟩
          have hself : ∀ g, fs.Holds ts idx g → g = f := fun g hg =>
            Option.some.inj (hg.1.symm.trans hflow)
          have hdist : absDuration (ts - f.start) = ts - f.start := if_neg (by omega)
          have hmem : idx ∈ seen ++ [idx] := List.mem_append_right _ (List.mem_singleton.mpr rfl)
          rw [hdist]
          cases best with
          | none =>
              refine ⟨hmem, f, hhere, rfl, ?_⟩
              intro j hj g hg
              rcases List.mem_append.mp hj with hj | hj
              · exact absurd hg (h j hj g)
              · rw [List.mem_singleton] at hj
                subst hj
                rw [hself g hg]
                exact .inr ⟨rfl, le_refl j⟩
          | some b =>
              obtain ⟨b, d⟩ := b
              obtain ⟨hb, e, he, rfl, hfirst⟩ := h
              dsimp only
              split
              · next hcloser =>
                  refine ⟨hmem, f, hhere, rfl, ?_⟩
                  intro j hj g hg
                  rcases List.mem_append.mp hj with hj | hj
                  · have hge := hfirst j hj g hg
                    unfold Precedes at hge ⊢
                    omega
                  · rw [List.mem_singleton] at hj
                    subst hj
                    rw [hself g hg]
                    exact .inr ⟨rfl, le_refl j⟩
              · next hfarther =>
                  refine ⟨List.mem_append_left _ hb, e, he, rfl, ?_⟩
                  intro j hj g hg
                  rcases List.mem_append.mp hj with hj | hj
                  · exact hfirst j hj g hg
                  · rw [List.mem_singleton] at hj
                    subst hj
                    rw [hself g hg]
                    have hlt := hseen b hb
                    unfold Precedes
                    omega

/-- The search over an increasing list of candidates. -/
theorem foldl_nearer_nearest {ts : Int} (idxs seen : List Nat) {best : Option (Nat × Int)}
    (h : Nearest fs ts seen best) (hinc : (seen ++ idxs).Pairwise (· < ·)) :
    Nearest fs ts (seen ++ idxs) (idxs.foldl (nearer fs ts) best) := by
  induction idxs generalizing seen best with
  | nil =>
      rw [List.append_nil]
      exact h
  | cons idx idxs ih =>
      have hseen : ∀ i ∈ seen, i < idx := fun i hi =>
        (List.pairwise_append.mp hinc).2.2 i hi idx List.mem_cons_self
      have happ : seen ++ idx :: idxs = (seen ++ [idx]) ++ idxs := by simp
      rw [happ] at hinc ⊢
      exact ih (seen ++ [idx]) (h.step hseen) hinc

/-! ## Alerts -/

/-- What is read of an alert. -/
structure Reads (rt : Runtime) (year : Int) (alert : AlertForEval) (ip : String) (port : Int)
    (ip' : String) (port' : Int) (ts : Int) : Prop where
  src : parseAddrPort alert.srcAP = some (ip, port)
  dst : parseAddrPort alert.dstAP = some (ip', port')
  time : parseAlertTime rt alert.timestamp year = some ts

theorem Reads.matchAlertToFlow {alert : AlertForEval} {ip ip' : String} {port port' ts : Int}
    (h : Reads rt fs.year alert ip port ip' port' ts) :
    matchAlertToFlow rt fs alert =
      ((fs.index (tupleKey rt ip port ip' port' (normalizeProtocol rt alert.proto))).foldl
        (nearer fs ts) none).map Prod.fst := by
  simp only [Analyser.matchAlertToFlow, h.src, h.dst, h.time, Option.bind_eq_bind,
    Option.bind_some]
  generalize List.foldl (nearer fs ts) none _ = best
  cases best <;> rfl

/-- The flow at a position is one that the alert can belong to. -/
def Candidate (rt : Runtime) (fs : FlowSet) (alert : AlertForEval) (ip : String) (port : Int)
    (ip' : String) (port' : Int) (ts : Int) (i : Nat) (f : FlowRecord) : Prop :=
  fs.flows[i]? = some f ∧ f.Between rt ip port ip' port' (normalizeProtocol rt alert.proto) ∧
    f.Contains ts

/-- **The match is the nearest candidate.** -/
theorem Loaded.matchAlertToFlow_spec {rows : List FlowRow} (hfs : Loaded rt zone rows fs)
    (hbar : ∀ f ∈ fs.flows, f.NoBar) {alert : AlertForEval} {ip ip' : String} {port port' ts : Int}
    (h : Reads rt fs.year alert ip port ip' port' ts) (hip : '|' ∉ ip.toList)
    (hip' : '|' ∉ ip'.toList) :
    (matchAlertToFlow rt fs alert = none ∧
      ∀ j g, ¬ Candidate rt fs alert ip port ip' port' ts j g) ∨
    ∃ i f, matchAlertToFlow rt fs alert = some i ∧
      Candidate rt fs alert ip port ip' port' ts i f ∧
      ∀ j g, Candidate rt fs alert ip port ip' port' ts j g → Precedes i f j g := by
  generalize hkey : tupleKey rt ip port ip' port' (normalizeProtocol rt alert.proto) = key
  have hmem : ∀ {i f}, Candidate rt fs alert ip port ip' port' ts i f ↔
      i ∈ fs.index key ∧ fs.Holds ts i f := by
    intro i f
    rw [← hkey, hfs.mem_index hbar hip hip']
    constructor
    · rintro ⟨hf, hbetween, hin⟩
      exact ⟨⟨f, hf, hbetween⟩, hf, hin⟩
    · rintro ⟨⟨g, hg, hbetween⟩, hf, hin⟩
      rw [hf] at hg
      cases hg
      exact ⟨hf, hbetween, hin⟩
  have hnone : Nearest fs ts [] none := fun j hj => by cases hj
  have hnearest := foldl_nearer_nearest (fs.index key) [] hnone (hfs.index_increasing key)
  rw [List.nil_append] at hnearest
  rw [h.matchAlertToFlow, hkey]
  cases hbest : (fs.index key).foldl (nearer fs ts) none with
  | none =>
      rw [hbest] at hnearest
      refine .inl ⟨rfl, fun j g hg => ?_⟩
      exact hnearest j (hmem.mp hg).1 g (hmem.mp hg).2
  | some b =>
      rw [hbest] at hnearest
      obtain ⟨hi, f, hf, _, hfirst⟩ := hnearest
      refine .inr ⟨b.1, f, rfl, hmem.mpr ⟨hi, hf⟩, fun j g hg => ?_⟩
      exact hfirst j (hmem.mp hg).1 g (hmem.mp hg).2

/-- Of two flows that precede each other there is only one. -/
theorem Precedes.antisymm {i j : Nat} {f g : FlowRecord} (h : Precedes i f j g)
    (h' : Precedes j g i f) : i = j := by
  unfold Precedes at h h'
  omega

/-- The alert with source and destination swapped. -/
def AlertForEval.swap (alert : AlertForEval) : AlertForEval :=
  { alert with srcAP := alert.dstAP, dstAP := alert.srcAP }

theorem Reads.swap {year : Int} {alert : AlertForEval} {ip ip' : String} {port port' ts : Int}
    (h : Reads rt year alert ip port ip' port' ts) :
    Reads rt year alert.swap ip' port' ip port ts := ⟨h.dst, h.src, h.time⟩

/-- An alert that is matched could be read. -/
theorem reads_of_matchAlertToFlow {alert : AlertForEval} {i : Nat}
    (h : matchAlertToFlow rt fs alert = some i) :
    ∃ ip port ip' port' ts, Reads rt fs.year alert ip port ip' port' ts := by
  simp only [matchAlertToFlow, Option.bind_eq_bind, Option.bind_eq_some_iff, Prod.exists] at h
  obtain ⟨ip, port, hsrc, ip', port', hdst, ts, htime, _⟩ := h
  exact ⟨ip, port, ip', port', ts, hsrc, hdst, htime⟩

/-- What is matched does not depend on which end is called the source. -/
theorem Loaded.matchAlertToFlow_swap {rows : List FlowRow} (hfs : Loaded rt zone rows fs)
    (hbar : ∀ f ∈ fs.flows, f.NoBar) {alert : AlertForEval} (hsrc : '|' ∉ alert.srcAP.toList)
    (hdst : '|' ∉ alert.dstAP.toList) {i : Nat} (h : matchAlertToFlow rt fs alert = some i) :
    matchAlertToFlow rt fs alert.swap = some i := by
  obtain ⟨ip, port, ip', port', ts, hreads⟩ := reads_of_matchAlertToFlow h
  have hip : '|' ∉ ip.toList := fun hc => hsrc (mem_of_mem_host hreads.src hc)
  have hip' : '|' ∉ ip'.toList := fun hc => hdst (mem_of_mem_host hreads.dst hc)
  have hswap : ∀ {j g}, Candidate rt fs alert.swap ip' port' ip port ts j g ↔
      Candidate rt fs alert ip port ip' port' ts j g := by
    intro j g
    refine and_congr_right fun _ => and_congr_left fun _ => ?_
    exact FlowRecord.between_comm
  rcases hfs.matchAlertToFlow_spec hbar hreads hip hip' with ⟨hno, _⟩ | ⟨k, f, hk, hf, hfirst⟩
  · rw [hno] at h
    cases h
  · rw [hk] at h
    cases h
    rcases hfs.matchAlertToFlow_spec hbar hreads.swap hip' hip with
      ⟨_, hempty⟩ | ⟨j, g, hj, hg, hfirst'⟩
    · exact absurd (hswap.mpr hf) (hempty i f)
    · rw [hj, (hfirst' i f (hswap.mpr hf)).antisymm (hfirst j g (hswap.mp hg))]

/-- **The right flow.** The index lists the flows of a tuple, in either direction, in their order
and each once. An alert that can be read matches no flow exactly if none of its tuple contains the
time, and otherwise the containing flow that started last, the first in the table among several;
which end of the alert is the source does not matter. -/
theorem matchAlertToFlow_nearest (rt : Runtime) (zone : Int) (dbPath : String)
    (rows : List FlowRow) (fs : FlowSet) (hload : loadFlowSet rt zone dbPath (.ok rows) = .ok fs)
    (hrows : ∀ row ∈ rows, '|' ∉ row.srcIP.toList ∧ '|' ∉ row.dstIP.toList) :
    (∀ ip port ip' port' proto, '|' ∉ ip.toList → '|' ∉ ip'.toList →
      (fs.index (tupleKey rt ip port ip' port' proto)).Pairwise (· < ·) ∧
      ∀ i, i ∈ fs.index (tupleKey rt ip port ip' port' proto) ↔
        ∃ f, fs.flows[i]? = some f ∧ f.Between rt ip port ip' port' proto) ∧
    ∀ alert : AlertForEval, '|' ∉ alert.srcAP.toList → '|' ∉ alert.dstAP.toList →
      (∀ ip port ip' port' ts, Reads rt fs.year alert ip port ip' port' ts →
        (matchAlertToFlow rt fs alert = none ↔
          ∀ j g, ¬ Candidate rt fs alert ip port ip' port' ts j g) ∧
        ∀ i, matchAlertToFlow rt fs alert = some i ↔
          ∃ f, Candidate rt fs alert ip port ip' port' ts i f ∧
            ∀ j g, Candidate rt fs alert ip port ip' port' ts j g →
              g.start < f.start ∨ (g.start = f.start ∧ i ≤ j)) ∧
      matchAlertToFlow rt fs alert.swap = matchAlertToFlow rt fs alert := by
  obtain ⟨_, hok, hfs⟩ := loadFlowSet_eq_ok hload
  cases hok
  have hbar := hfs.noBar hrows
  refine ⟨fun ip port ip' port' proto hip hip' => ⟨hfs.index_increasing _, fun i =>
    hfs.mem_index hbar hip hip'⟩, fun alert hsrc hdst => ⟨?_, ?_⟩⟩
  · intro ip port ip' port' ts hreads
    have hip : '|' ∉ ip.toList := fun hc => hsrc (mem_of_mem_host hreads.src hc)
    have hip' : '|' ∉ ip'.toList := fun hc => hdst (mem_of_mem_host hreads.dst hc)
    rcases hfs.matchAlertToFlow_spec hbar hreads hip hip' with
      ⟨hno, hempty⟩ | ⟨k, f, hk, hf, hfirst⟩
    · rw [hno]
      refine ⟨iff_of_true rfl hempty, fun i => iff_of_false (by simp) ?_⟩
      rintro ⟨g, hg, _⟩
      exact hempty i g hg
    · rw [hk]
      refine ⟨iff_of_false (by simp) fun hempty => hempty k f hf, fun i => ?_⟩
      constructor
      · intro hi
        cases hi
        exact ⟨f, hf, hfirst⟩
      · rintro ⟨g, hg, hfirst'⟩
        rw [(hfirst i g hg).antisymm (hfirst' k f hf)]
  · cases hmatch : matchAlertToFlow rt fs alert with
    | some i => exact hfs.matchAlertToFlow_swap hbar hsrc hdst hmatch
    | none =>
        -- swapping twice gives the alert back
        cases hother : matchAlertToFlow rt fs alert.swap with
        | none => rfl
        | some i =>
            have hback := hfs.matchAlertToFlow_swap hbar hdst hsrc hother
            rw [AlertForEval.swap, AlertForEval.swap] at hback
            rw [hmatch] at hback
            cases hback

/-- Two flows of one tuple, one inside the other. -/
def nestedRows : List FlowRow :=
  [ { id := "1", srcIP := "10.0.0.1", srcPort := 4000, dstIP := "10.0.0.2", dstPort := 80
      protocol := "6", timestamp := "2017-07-04 10:00:00", duration := 600000000000
      label := "BENIGN" },
    { id := "2", srcIP := "10.0.0.2", srcPort := 80, dstIP := "10.0.0.1", dstPort := 4000
      protocol := "TCP", timestamp := "2017-07-04 10:05:00", duration := 1000000000
      label := "Attack" } ]

/-- An alert at the end of the inner flow. -/
def nestedAlert : AlertForEval :=
  { id := 1, timestamp := "07/04-10:05:01.000000", proto := "TCP", srcAP := "10.0.0.1:4000"
    dstAP := "10.0.0.2:80", gid := 1, sid := 1000001, rev := 1 }

/-- The inner flow is matched, from either end. -/
theorem nested_alert_nearest :
    let rt : Runtime := { upper := Char.toUpper, local_ := fun w => w - 0 }
    ∃ fs, loadFlowSet rt 0 "flows.db" (.ok nestedRows) = .ok fs ∧
      matchAlertToFlow rt fs nestedAlert = some 1 ∧
      matchAlertToFlow rt fs nestedAlert.swap = some 1 := by
  intro rt
  have hrun : (loadFlowSet rt 0 "flows.db" (.ok nestedRows)).toOption.map (fun fs =>
      matchAlertToFlow rt fs nestedAlert) = some (some 1) := by
    decide +kernel
  obtain ⟨fs, hfs, hmatch⟩ := Option.map_eq_some_iff.mp hrun
  have hload := eq_ok_of_toOption hfs
  obtain ⟨_, halerts⟩ := matchAlertToFlow_nearest rt 0 "flows.db" nestedRows fs hload (by decide)
  refine ⟨fs, hload, hmatch, ?_⟩
  rw [(halerts nestedAlert (by decide) (by decide)).2, hmatch]

end SnortOptimizer.Analyser
