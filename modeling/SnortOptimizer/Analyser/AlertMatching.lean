import SnortOptimizer.Analyser.Packet

/-!
# Alerts find their flows

What becomes of a time stamp that Snort has printed when `parseAlertTime` reads it: which of the
candidates and layouts it fits, and when the instant it was made from comes back
(`parseAlertTime_tsPrint`, `showsTime_of_parseAlertTime`). Together with the tuples this decides
whether an alert finds the flow its packet belongs to.
-/

namespace SnortOptimizer.Analyser

open Text Time

variable {rt : Runtime} {fs : FlowSet} {zone : Int}

/-! ## Time stamps -/

/-- Every layout is a date, a space and a clock. -/
theorem mem_alertLayouts {layout : List Chunk} (h : layout ∈ alertLayouts) :
    ∃ sep padded rest, layout = dateChunks sep padded ++ .literal ' ' :: clockChunks rest ∧
      (sep = '/' ∨ sep = '-') ∧ (rest = [] ∨ rest = [.fracSecond9]) := by
  simp only [alertLayouts, List.mem_cons, List.not_mem_nil, or_false] at h
  rcases h with rfl | rfl | rfl | rfl | rfl | rfl
  · exact ⟨'/', true, [.fracSecond9], rfl, .inl rfl, .inr rfl⟩
  · exact ⟨'/', true, [], rfl, .inl rfl, .inl rfl⟩
  · exact ⟨'/', false, [.fracSecond9], rfl, .inl rfl, .inr rfl⟩
  · exact ⟨'/', false, [], rfl, .inl rfl, .inl rfl⟩
  · exact ⟨'-', true, [.fracSecond9], rfl, .inr rfl, .inr rfl⟩
  · exact ⟨'-', true, [], rfl, .inr rfl, .inl rfl⟩

/-- Every layout begins with the year and has no other one. -/
theorem alertLayout_year {layout : List Chunk} (h : layout ∈ alertLayouts) :
    ∃ rest, layout = .longYear :: rest ∧ .longYear ∉ rest := by
  simp only [alertLayouts, List.mem_cons, List.not_mem_nil, or_false] at h
  rcases h with rfl | rfl | rfl | rfl | rfl | rfl <;> exact ⟨_, rfl, by decide⟩

theorem parseFirst_eq_some {layouts : List (List Chunk)} {text : String} {loc : Location} {ts : Int}
    (h : parseFirst layouts text loc = some ts) :
    ∃ layout ∈ layouts, ∃ c, parse layout text = some c ∧
      ts = loc c.wallSeconds * 1000000000 + c.nano := by
  obtain ⟨layout, hlayout, hts⟩ := List.exists_of_findSome?_eq_some h
  obtain ⟨c, hc, rfl⟩ := Option.map_eq_some_iff.mp hts
  exact ⟨layout, hlayout, c, hc, rfl⟩

/-- A text that does not begin with four digits. -/
theorem parse_of_short {layout : List Chunk} (hlayout : layout ∈ alertLayouts) {cs : List Char}
    (h : '/' ∈ cs.take 4) : parse layout (String.ofList cs) = none := by
  obtain ⟨rest, rfl, _⟩ := alertLayout_year hlayout
  apply parse_eq_none
  rw [String.toList_ofList]
  exact readLayout_cons_none (readChunk_longYear_none h (by decide))

/-- The text of a stamp without a year. -/
def stampText (month day : Nat) (clock : List Char) : List Char :=
  dateText '/' month day ++ '-' :: clock

theorem isSpace_of_mem_stampText {month day : Nat} {h m s : Int} {u : Nat} {c : Char}
    (hc : c ∈ stampText month day (clockText h m s u)) : isSpace c = false := by
  have hpad : ∀ {w n}, c ∈ zeroPad w n → isSpace c = false := by
    intro w n hmem
    rcases mem_zeroPad hmem with hdigit | ⟨rfl, _⟩
    · exact isSpace_of_isDigit hdigit
    · decide
  simp only [stampText, dateText, clockText, List.append_assoc, List.cons_append, List.mem_append,
    List.mem_cons] at hc
  rcases hc with hc | rfl | hc | rfl | hc | rfl | hc | rfl | hc | rfl | hc
  all_goals first | exact hpad hc | decide

/-- The candidates of a stamp: the stamp alone, and with the year in front of it. -/
theorem parseAlertTime_stamp {month day : Nat} {h m s : Int} {u year : Nat} (hmonth : month < 100) :
    parseAlertTime rt (String.ofList (stampText month day (clockText h m s u))) year =
      if 0 < year then
        (parseFirst alertLayouts (String.ofList ((toString year).toList ++ '/' ::
          (dateText '/' month day ++ ' ' :: clockText h m s u))) rt.local_).or
        (parseFirst alertLayouts (String.ofList ((toString year).toList ++ '/' ::
          (dateText '/' month day ++ '-' :: clockText h m s u))) rt.local_)
      else none := by
  have hraw : parseFirst alertLayouts
      (String.ofList (stampText month day (clockText h m s u))) rt.local_ = none := by
    rw [parseFirst, List.findSome?_eq_none_iff]
    intro layout hlayout
    have htwo : Numeral (zeroPad 2 month) 2 month := numeral_zeroPad (by decide) (by omega)
    obtain ⟨c, d, hcs, _⟩ := htwo.exists_pair
    have hslash : '/' ∈ (stampText month day (clockText h m s u)).take 4 := by
      rw [stampText, dateText, hcs]
      simp
    rw [parseInLocation, parse_of_short hlayout hslash]
    rfl
  have hdash : '-' ∉ dateText '/' month day := by
    rw [dateText, List.mem_append, List.mem_cons]
    rintro (h | h | h)
    · have hneg := (mem_zeroPad h).resolve_left (by decide)
      omega
    · exact absurd h (by decide)
    · have hneg := (mem_zeroPad h).resolve_left (by decide)
      omega
  have hfront : ∀ cs : List Char, toString (year : Int) ++ "/" ++ String.ofList cs =
      String.ofList ((toString year).toList ++ '/' :: cs) := by
    intro cs
    have hyear : toString (year : Int) = toString year := rfl
    apply String.toList_inj.mp
    simp only [String.toList_append, String.toList_ofList, List.append_assoc, hyear]
    exact congrArg _ (List.singleton_append)
  have htrim : trimSpace (String.ofList (stampText month day (clockText h m s u))) =
      String.ofList (stampText month day (clockText h m s u)) := by
    apply trimSpace_of_forall
    intro c hc
    rw [String.toList_ofList] at hc
    exact isSpace_of_mem_stampText hc
  have hreplace : replaceFirst '-' ' ' (stampText month day (clockText h m s u)) =
      dateText '/' month day ++ ' ' :: clockText h m s u := replaceFirst_append hdash
  rw [parseAlertTime, htrim, List.findSome?_cons, hraw, String.toList_ofList, hreplace]
  by_cases hyear : 0 < year
  · have hpos : 0 < (year : Int) := by omega
    rw [if_pos hpos, if_pos hyear, hfront, hfront]
    simp only [List.findSome?_cons, List.findSome?_nil]
    rw [stampText]
    generalize parseFirst alertLayouts (String.ofList ((toString year).toList ++ '/' ::
      (dateText '/' month day ++ ' ' :: clockText h m s u))) rt.local_ = first
    generalize parseFirst alertLayouts (String.ofList ((toString year).toList ++ '/' ::
      (dateText '/' month day ++ '-' :: clockText h m s u))) rt.local_ = second
    cases first <;> cases second <;> rfl
  · have hpos : ¬ 0 < (year : Int) := by omega
    rw [if_neg hpos, if_neg hyear]
    rfl

/-- Snort's stamp of a time whose clock shows no negative numbers. -/
theorem tsPrint_forward {sec : Int} {usec : Nat}
    (hclock : 0 ≤ sec + zone ∨ (86400 : Int) ∣ sec + zone) :
    let c := civilOfSeconds (sec + zone) (usec * 1000)
    tsPrint zone sec usec =
      String.ofList (stampText c.month c.day (clockText c.hour c.minute c.second usec)) := by
  dsimp only
  have hs : (sec + zone).tmod 86400 = (sec + zone) % 86400 := by
    rcases hclock with hpos | hdvd
    · exact Int.tmod_eq_emod_of_nonneg hpos
    · rw [Int.tmod_eq_zero_of_dvd hdvd, Int.emod_eq_zero_of_dvd hdvd]
  generalize hw : sec + zone = w at hs
  have hc : civilOfSeconds w (usec * 1000) =
      { year := (dateOfDay (w / 86400)).year, month := (dateOfDay (w / 86400)).month
        day := (dateOfDay (w / 86400)).day, hour := (w % 86400).toNat / 3600
        minute := (w % 86400).toNat % 3600 / 60, second := (w % 86400).toNat % 60
        nano := usec * 1000 } := rfl
  have hday : (w - w % 86400) / 86400 = w / 86400 := by omega
  have hpos : 0 ≤ w % 86400 := by omega
  have hhour : (w % 86400).tdiv 3600 = ((w % 86400).toNat / 3600 : Nat) := by
    rw [Int.tdiv_eq_ediv_of_nonneg hpos]
    omega
  have hminute : ((w % 86400).tmod 3600).tdiv 60 = ((w % 86400).toNat % 3600 / 60 : Nat) := by
    rw [Int.tmod_eq_emod_of_nonneg hpos, Int.tdiv_eq_ediv_of_nonneg (by omega)]
    omega
  have hsecond : (w % 86400).tmod 60 = ((w % 86400).toNat % 60 : Nat) := by
    rw [Int.tmod_eq_emod_of_nonneg hpos]
    omega
  rw [hc, tsPrint, hw, hs, hday, hhour, hminute, hsecond, stampText]

theorem Packet.instant_div (p : Packet) : p.instant / 1000000000 = p.sec := by
  have hlt := p.usec_lt
  unfold Packet.instant
  omega

theorem Packet.yearAt_instant (p : Packet) (zone : Int) :
    yearAt zone p.instant = yearOfDay ((p.sec + zone) / 86400) := by
  rw [yearAt, p.instant_div]

theorem numeral_year {year : Nat} (hge : 1000 ≤ year) (hle : year ≤ 9999) :
    Numeral (toString year).toList 4 year := by
  have hfour : Numeral (toString year).toList (3 + 1) year :=
    numeral_toString (by omega) (by omega)
  exact hfour

/-- A time that can be read back is read back. -/
theorem parseAlertTime_tsPrint (hlocal : ∀ w, rt.local_ w = w - zone) {p : Packet} {year : Nat}
    (hle : year ≤ 9999) (hp : p.ShowsTime zone year) :
    parseAlertTime rt (tsPrint zone p.sec p.usec) year = some p.instant := by
  obtain ⟨hyear, hge, hclock⟩ := hp
  have hyear : yearOfDay ((p.sec + zone) / 86400) = year := by
    rw [p.yearAt_instant] at hyear
    exact_mod_cast hyear
  have hge : 1000 ≤ year := by omega
  have hday : -719528 ≤ (p.sec + zone) / 86400 := le_of_yearOfDay_pos (by omega)
  have hlt := p.usec_lt
  have hnano : p.usec * 1000 < 1000000000 := by omega
  obtain ⟨hvalid, hseconds⟩ := civilOfSeconds_valid hday hnano
  have hmonth : (civilOfSeconds (p.sec + zone) (p.usec * 1000)).month ≤ 12 := hvalid.date.month_le
  have hnumeral : Numeral (toString year).toList 4
      (civilOfSeconds (p.sec + zone) (p.usec * 1000)).year := by
    show Numeral (toString year).toList 4 (yearOfDay ((p.sec + zone) / 86400))
    rw [hyear]
    exact numeral_year hge hle
  have hread := parse_text (by decide : '/' ≠ ' ') hvalid (by
    show p.usec * 1000 % 1000 = 0
    omega) hnumeral
  have hmicro : (civilOfSeconds (p.sec + zone) (p.usec * 1000)).nano / 1000 = p.usec := by
    show p.usec * 1000 / 1000 = p.usec
    omega
  rw [hmicro] at hread
  have hlayouts : alertLayouts = stampLayout '/' :: alertLayouts.tail := rfl
  rw [tsPrint_forward hclock, parseAlertTime_stamp (by omega), if_pos (by omega), parseFirst,
    hlayouts, List.findSome?_cons, parseInLocation, hread]
  simp only [Option.map_some, Option.some_or, hseconds, hlocal]
  show some ((p.sec + zone - zone) * 1000000000 + ((p.usec * 1000 : Nat) : Int)) = some p.instant
  rw [Packet.instant, Int.add_sub_cancel]
  push_cast
  rfl

/-! ## Times that are not read back -/

/-- Nothing is read behind a year of less than four digits, and the year that is read is the one in
front. -/
theorem parse_behind_year {layout : List Chunk} (hlayout : layout ∈ alertLayouts) {year : Nat}
    (hle : year ≤ 9999) {rest : List Char} {c : Civil}
    (h : parse layout (String.ofList ((toString year).toList ++ '/' :: rest)) = some c) :
    1000 ≤ year ∧ c.year = year := by
  have hge : 1000 ≤ year := by
    by_contra hlt
    have hlength : (toString year).toList.length ≤ 3 := by
      rw [Nat.toString_eq_ofList_toDigits, String.toList_ofList]
      exact (Nat.length_toDigits_le_iff (by decide) (by decide)).mpr (by omega)
    have hslash : '/' ∈ ((toString year).toList ++ '/' :: rest).take 4 := by
      rw [List.take_append, List.mem_append]
      right
      obtain ⟨k, hk⟩ : ∃ k, 4 - (toString year).toList.length = k + 1 :=
        ⟨3 - (toString year).toList.length, by omega⟩
      rw [hk]
      exact List.mem_cons_self
    rw [parse_of_short hlayout hslash] at h
    cases h
  obtain ⟨chunks, rfl, hchunks⟩ := alertLayout_year hlayout
  exact ⟨hge, parse_year (numeral_year hge hle) hchunks h⟩

/-- Of the candidates with a year only the one with a space in front of its clock is read, and its
clock is read with it. -/
theorem parse_candidate {layout : List Chunk} (hlayout : layout ∈ alertLayouts)
    {year month day : Nat} (hge : 1000 ≤ year) (hle : year ≤ 9999) (hmonth : 1 ≤ month)
    (hmonth' : month ≤ 12) (hday : day < 100) {gap : Char} {clock : List Char} {c : Civil}
    (h : parse layout (String.ofList ((toString year).toList ++ '/' ::
      (dateText '/' month day ++ gap :: clock))) = some c) :
    gap = ' ' ∧
      ∃ rest t, readLayout (.literal ' ' :: clockChunks rest) t (gap :: clock) ≠ none := by
  obtain ⟨t, ht, _⟩ := parse_eq_some h
  obtain ⟨sep, padded, rest, rfl, hsep, _⟩ := mem_alertLayouts hlayout
  rw [String.toList_ofList] at ht
  rcases hsep with rfl | rfl
  · rw [readLayout_date (by decide) padded (numeral_year hge hle) hmonth hmonth' hday] at ht
    refine ⟨?_, rest, _, ht ▸ Option.some_ne_none t⟩
    by_contra hgap
    rw [readLayout_cons_none (readChunk_literal_none hgap clock)] at ht
    cases ht
  · have hchunks : dateChunks '-' padded ++ .literal ' ' :: clockChunks rest = .longYear ::
        .literal '-' :: _ := rfl
    rw [hchunks, readLayout_cons_some (readChunk_longYear (numeral_year hge hle) _),
      readLayout_cons_none (readChunk_literal_none (by decide) _)] at ht
    cases ht

/-- The parts of a negative time of day, divided as C divides. -/
theorem clock_neg {s : Int} (hneg : s < 0) :
    s.tdiv 3600 < 0 ∨ (s.tdiv 3600 = 0 ∧
      ((s.tmod 3600).tdiv 60 < 0 ∨ ((s.tmod 3600).tdiv 60 = 0 ∧ s.tmod 60 < 0))) := by
  obtain ⟨n, rfl⟩ : ∃ n : Nat, s = -n := ⟨s.natAbs, by omega⟩
  have hpos : 0 ≤ (n : Int) := by omega
  rw [Int.neg_tdiv, Int.neg_tmod, Int.neg_tdiv, Int.neg_tmod, Int.tdiv_eq_ediv_of_nonneg hpos,
    Int.tmod_eq_emod_of_nonneg hpos, Int.tmod_eq_emod_of_nonneg hpos,
    Int.tdiv_eq_ediv_of_nonneg (by omega)]
  omega

theorem tmod_neg {w n : Int} (hneg : w < 0) (hdvd : ¬ n ∣ w) : w.tmod n < 0 := by
  have hne : w.tmod n ≠ 0 := fun h => hdvd (Int.dvd_of_tmod_eq_zero h)
  have hnonneg : 0 ≤ (-w).tmod n := Int.tmod_nonneg n (by omega)
  rw [Int.neg_tmod] at hnonneg
  omega

/-- What Snort prints, whatever the time. -/
theorem tsPrint_eq {sec : Int} (usec : Nat) (hday : -719528 ≤ (sec + zone) / 86400) :
    ∃ month day, 1 ≤ month ∧ month ≤ 12 ∧ day < 100 ∧
      let s := (sec + zone).tmod 86400
      tsPrint zone sec usec = String.ofList (stampText month day
        (clockText (s.tdiv 3600) ((s.tmod 3600).tdiv 60) (s.tmod 60) usec)) := by
  have hsplit := Int.mul_tdiv_add_tmod (sec + zone) 86400
  have hlt := Int.tmod_lt_of_pos (sec + zone) (by decide : (0 : Int) < 86400)
  have hlow : -719528 ≤ (sec + zone - (sec + zone).tmod 86400) / 86400 := by omega
  obtain ⟨hvalid, _⟩ := dateOfDay_valid hlow
  have hle := hvalid.day_le
  have hdays := daysIn_le (dateOfDay ((sec + zone - (sec + zone).tmod 86400) / 86400)).month
    (dateOfDay ((sec + zone - (sec + zone).tmod 86400) / 86400)).year
  exact ⟨_, _, hvalid.month_pos, hvalid.month_le, by omega, rfl⟩

/-- **Exactly these times are read back**, in a year that a flow can have. -/
theorem showsTime_of_parseAlertTime (hlocal : ∀ w, rt.local_ w = w - zone) {p : Packet}
    {year : Nat} (hle : year ≤ 9999) (hday : -719528 ≤ (p.sec + zone) / 86400)
    (h : parseAlertTime rt (tsPrint zone p.sec p.usec) year = some p.instant) :
    p.ShowsTime zone year := by
  obtain ⟨month, day, hmonth, hmonth', hday', htext⟩ := tsPrint_eq p.usec hday
  rw [htext, parseAlertTime_stamp (by omega)] at h
  split at h
  · obtain ⟨gap, hfirst⟩ : ∃ gap, parseFirst alertLayouts (String.ofList
        ((toString year).toList ++ '/' ::
          (dateText '/' month day ++ gap :: clockText _ _ _ p.usec))) rt.local_ =
        some p.instant := by
      rcases Option.or_eq_some_iff.mp h with h | ⟨_, h⟩
      · exact ⟨_, h⟩
      · exact ⟨_, h⟩
    obtain ⟨layout, hlayout, c, hparse, hinstant⟩ := parseFirst_eq_some hfirst
    obtain ⟨hge, hyear⟩ := parse_behind_year hlayout hle hparse
    obtain ⟨hvalid, _⟩ := parse_valid hparse
    have hnano := hvalid.nano_lt
    have husec := p.usec_lt
    have hwall : c.wallSeconds = p.sec + zone := by
      rw [hlocal, Packet.instant] at hinstant
      omega
    refine ⟨?_, by omega, ?_⟩
    · rw [p.yearAt_instant, ← hwall, hvalid.yearOfDay, hyear]
    · by_contra hclock
      rw [not_or] at hclock
      have hneg := tmod_neg (by omega) hclock.2
      obtain ⟨rfl, rest, t, hread⟩ := parse_candidate hlayout hge hle hmonth hmonth' hday' hparse
      rw [readLayout_space, readLayout_clock_neg (clock_neg hneg)] at hread
      exact hread rfl
  · cases h

/-! ## Flows that are not found -/

/-- The start of a flow is a time of the calendar, in a year of four digits. -/
theorem record_start {row : FlowRow} {f : FlowRecord} (h : row.record rt = some f) :
    ∃ c : Civil, c.Valid ∧ c.year ≤ 9999 ∧
      f.start = rt.local_ c.wallSeconds * 1000000000 + c.nano := by
  obtain ⟨start, hstart, rfl⟩ := Option.map_eq_some_iff.mp h
  obtain ⟨_, _, c, hparse, rfl⟩ := parseFirst_eq_some hstart
  obtain ⟨hvalid, hyear⟩ := parse_valid hparse
  exact ⟨c, hvalid, hyear, rfl⟩

/-- The year of an instant that was read is the year read. -/
theorem yearAt_read (hlocal : ∀ w, rt.local_ w = w - zone) {c : Civil} (hc : c.Valid) :
    yearAt zone (rt.local_ c.wallSeconds * 1000000000 + c.nano) = c.year := by
  have hnano := hc.nano_lt
  have hseconds : (rt.local_ c.wallSeconds * 1000000000 + c.nano) / 1000000000 + zone =
      c.wallSeconds := by
    rw [hlocal]
    omega
  rw [yearAt, hseconds, hc.yearOfDay]

theorem Loaded.year_le (hlocal : ∀ w, rt.local_ w = w - zone) {rows : List FlowRow}
    (hfs : Loaded rt zone rows fs) : ∃ year : Nat, fs.year = year ∧ year ≤ 9999 := by
  obtain ⟨first, hfirst, hyear⟩ := hfs.year
  rw [hfs.flows] at hfirst
  obtain ⟨row, _, hrow⟩ := List.mem_filterMap.mp hfirst
  obtain ⟨c, hc, hle, hstart⟩ := record_start hrow
  rw [hstart, yearAt_read hlocal hc] at hyear
  exact ⟨c.year, hyear, hle⟩

/-- A flow table can have any time of the calendar in it. -/
theorem parseFlowTime_stamp {c : Civil} (hc : c.Valid) (hyear : c.year ≤ 9999)
    (hmicro : c.nano % 1000 = 0) :
    parseFlowTime rt (String.ofList (stamp '-' c)) =
      some (rt.local_ c.wallSeconds * 1000000000 + c.nano) := by
  apply parseFlowTime_of_parse
  · exact trimSpace_stamp hyear hc.nano_lt
  · exact parse_stamp (by decide) hc hyear hmicro

/-- A row that lasts no time, between the addresses of a packet. -/
def Packet.row (p : Packet) (srcPort dstPort : Int) (c : Civil) : FlowRow :=
  { id := "1", srcIP := p.src.text, srcPort := srcPort, dstIP := p.dst.text, dstPort := dstPort
    protocol := p.type, timestamp := String.ofList (stamp '-' c), duration := 0
    label := "BENIGN" }

theorem Address.trimSpace_text (a : Address) : trimSpace a.text = a.text :=
  trimSpace_of_forall fun c hc => isSpace_of_isAddressChar (a.chars c hc)

theorem Packet.row_noBar {p : Packet} {srcPort dstPort start : Int} {c : Civil} {f : FlowRecord}
    (h : (p.row srcPort dstPort c).IsRecord rt start f) : f.NoBar := by
  have hsrc : f.srcIP = p.src.text := h.srcIP.trans p.src.trimSpace_text
  have hdst : f.dstIP = p.dst.text := h.dstIP.trans p.dst.trimSpace_text
  rw [FlowRecord.NoBar, hsrc, hdst]
  exact ⟨p.src.not_mem (by decide), p.dst.not_mem (by decide)⟩

/-- Two rows that can be read. -/
theorem loadFlowSet_pair (zone : Int) {row row' : FlowRow} {r f : FlowRecord}
    (hr : row.record rt = some r) (hf : row'.record rt = some f) (dbPath : String) :
    ∃ fs, loadFlowSet rt zone dbPath (.ok [row, row']) = .ok fs ∧ fs.flows = [r, f] ∧
      fs.year = yearAt zone r.start := by
  have hflows : [row, row'].filterMap (FlowRow.record rt) = [r, f] := by
    rw [List.filterMap_cons_some hr, List.filterMap_cons_some hf, List.filterMap_nil]
  rw [loadFlowSet]
  simp only [hflows, List.head?_cons]
  exact ⟨_, rfl, rfl, rfl⟩

/-- The first moment of a year. -/
def newYear (year : Nat) : Civil :=
  { year := year, month := 1, day := 1, hour := 0, minute := 0, second := 0, nano := 0 }

theorem newYear_valid (year : Nat) : (newYear year).Valid := by
  have hday : 1 ≤ 31 := by decide
  refine ⟨⟨Nat.le_refl 1, ?_, Nat.le_refl 1, hday⟩, Nat.zero_le _, Nat.zero_le _, Nat.zero_le _, ?_⟩
  · show 1 ≤ 12
    decide
  · show 0 < 1000000000
    decide

/-- Two rows, of which the first gives the year and the second is the flow of the packet. -/
theorem exists_two_flows {p : Packet} {year : Nat} (hlocal : ∀ w, rt.local_ w = w - zone)
    (hle : year ≤ 9999) (hday : -719528 ≤ (p.sec + zone) / 86400)
    (hyear : yearAt zone p.instant ≤ 9999) :
    ∃ rows fs r f, loadFlowSet rt zone "flows.db" (.ok rows) = .ok fs ∧ fs.flows = [r, f] ∧
      fs.year = year ∧ r.NoBar ∧ ¬ p.Shows rt r ∧
      f.NoBar ∧ p.OfFlow rt f ∧ p.ShowsTuple rt f ∧ f.start = p.instant ∧ f.duration = 0 := by
  let c := civilOfSeconds (p.sec + zone) (p.usec * 1000)
  have husec := p.usec_lt
  have hnano : p.usec * 1000 < 1000000000 := by omega
  obtain ⟨hvalid, hseconds⟩ : c.Valid ∧ c.wallSeconds = p.sec + zone :=
    civilOfSeconds_valid hday hnano
  have hyear : c.year ≤ 9999 := by
    rw [p.yearAt_instant] at hyear
    exact hyear
  have hmicro : c.nano % 1000 = 0 := Nat.mul_mod_left _ _
  -- a port that the packet does not have
  obtain ⟨port, hport⟩ : ∃ port, port ≠ p.srcPort := ⟨p.srcPort + 1, by omega⟩
  obtain ⟨r, hrow, hr⟩ := FlowRow.exists_record rt (p.row port port (newYear year))
    (parseFlowTime_stamp (newYear_valid year) hle rfl)
  obtain ⟨f, hrow', hf⟩ := FlowRow.exists_record rt (p.row p.srcPort p.dstPort c)
    (parseFlowTime_stamp hvalid hyear hmicro)
  obtain ⟨fs, hload, hflows, hfs⟩ := loadFlowSet_pair zone hrow hrow' "flows.db"
  have hsrc : f.srcIP = p.src.text := hf.srcIP.trans p.src.trimSpace_text
  have hdst : f.dstIP = p.dst.text := hf.dstIP.trans p.dst.trimSpace_text
  have hstart : f.start = p.instant := by
    rw [hf.start_eq, hseconds, hlocal, Int.add_sub_cancel, Packet.instant]
    show p.sec * 1000000000 + ((p.usec * 1000 : Nat) : Int) = _
    push_cast
    rfl
  refine ⟨_, fs, r, f, hload, hflows, ?_, Packet.row_noBar hr, ?_, Packet.row_noBar hf, ?_, ?_,
    hstart, hf.duration⟩
  · rw [hfs, hr.start_eq, yearAt_read hlocal (newYear_valid year)]
    rfl
  · rintro ⟨_, ⟨_, h, _⟩ | ⟨_, _, _, h⟩⟩
    · exact hport (hr.srcPort.symm.trans h)
    · exact hport (hr.dstPort.symm.trans h)
  · exact ⟨.inr hf.protocol, .inl ⟨hsrc.symm, hdst.symm, fun _ =>
      ⟨hf.srcPort.symm, hf.dstPort.symm⟩⟩⟩
  · refine ⟨by rw [hf.protocol]; rfl, ?_⟩
    by_cases hhas : p.hasPorts = true
    · exact .inl hhas
    · right
      exact ⟨hf.srcPort.trans (p.srcPort_of_not_hasPorts hhas),
        hf.dstPort.trans (p.dstPort_of_not_hasPorts hhas)⟩

/-- An alert whose time is not read back does not find a flow that lasts for that time only. -/
theorem not_finds_of_not_showsTime (hlocal : ∀ w, rt.local_ w = w - zone) {rows : List FlowRow}
    (hfs : Loaded rt zone rows fs) {r f : FlowRecord} (hflows : fs.flows = [r, f])
    (hbar : ∀ g ∈ fs.flows, g.NoBar) {p : Packet} {year : Nat} (hyear : fs.year = year)
    (hle : year ≤ 9999) (hday : -719528 ≤ (p.sec + zone) / 86400) (hr : ¬ p.Shows rt r)
    (hstart : f.start = p.instant) (hduration : f.duration = 0)
    (htime : ¬ p.ShowsTime zone year) (e : Event) :
    ¬ Finds rt fs f p.instant (p.alert zone e) := by
  rintro ⟨j, _, hmatch, _⟩
  obtain ⟨ts, g, hts, hg, hshows, hin⟩ := hfs.matchAlertToFlow_eq_some hbar hmatch
  have hmem : g ∈ [r, f] := hflows ▸ List.mem_of_getElem? hg
  simp only [List.mem_cons, List.not_mem_nil, or_false] at hmem
  rcases hmem with rfl | rfl
  · exact hr hshows
  · have heq : ts = p.instant := by
      obtain ⟨hfrom, hto⟩ := hin
      omega
    rw [hyear, heq] at hts
    exact htime (showsTime_of_parseAlertTime hlocal hle hday hts)

/-- **When an alert finds the flow it was raised in.** In every set of flows that can be loaded, the
alert of a packet inside a flow is matched to a flow with the same tuple that contains it, provided
that Snort prints the protocol and the ports as they stand in the flow, and that the time falls into
the year of the first flow. Where the tuple is not printed it never is, and for every time that is
not read back there are flows among which it is not. -/
theorem alert_finds_flow (upper : Char → Char) (zone : Int) :
    let rt : Runtime := { upper := upper, local_ := fun w => w - zone }
    (∀ dbPath rows fs, loadFlowSet rt zone dbPath rows = .ok fs → (∀ g ∈ fs.flows, g.NoBar) →
      ∀ (i : Nat) f, fs.flows[i]? = some f →
      ∀ p : Packet, p.OfFlow rt f → f.Contains p.instant → ∀ e,
        (p.ShowsTuple rt f ∧ p.ShowsTime zone fs.year →
          Finds rt fs f p.instant (p.alert zone e)) ∧
        (Finds rt fs f p.instant (p.alert zone e) → p.ShowsTuple rt f)) ∧
    ∀ (year : Nat) (p : Packet), year ≤ 9999 → -719528 ≤ (p.sec + zone) / 86400 →
      yearAt zone p.instant ≤ 9999 → ¬ p.ShowsTime zone year →
      ∃ dbPath rows fs, ∃ i : Nat, ∃ f, loadFlowSet rt zone dbPath rows = .ok fs ∧
        (∀ g ∈ fs.flows, g.NoBar) ∧ fs.year = year ∧ fs.flows[i]? = some f ∧ p.OfFlow rt f ∧
        p.ShowsTuple rt f ∧ f.Contains p.instant ∧
        ∀ e, ¬ Finds rt fs f p.instant (p.alert zone e) := by
  intro rt
  have hlocal : ∀ w, rt.local_ w = w - zone := fun w => rfl
  constructor
  · intro dbPath rows fs hload hbar i f hf p hp hin e
    obtain ⟨table, _, hfs⟩ := loadFlowSet_eq_ok hload
    constructor
    · rintro ⟨htuple, htime⟩
      obtain ⟨year, hyear, hle⟩ := hfs.year_le hlocal
      rw [hyear] at htime
      have hts := parseAlertTime_tsPrint hlocal hle htime
      rw [← hyear] at hts
      have hshows := hp.shows htuple
      obtain ⟨j, hj⟩ := hfs.matchAlertToFlow_isSome hbar e hts hf hshows hin
      obtain ⟨ts, g, hread, hg, hgshows, hgin⟩ := hfs.matchAlertToFlow_eq_some hbar hj
      rw [hts] at hread
      cases hread
      exact ⟨j, g, hj, hg, hgshows.sameTuple hshows, hgin⟩
    · rintro ⟨j, g, hj, hg, hsame, _⟩
      obtain ⟨_, g', _, hg', hshows, _⟩ := hfs.matchAlertToFlow_eq_some hbar hj
      rw [hg] at hg'
      cases hg'
      exact hshows.showsTuple hsame
  · intro year p hle hday hyear htime
    obtain ⟨rows, fs, r, f, hload, hflows, hfsYear, hrbar, hr, hfbar, hp, htuple, hstart,
      hduration⟩ := exists_two_flows hlocal hle hday hyear
    obtain ⟨table, _, hfs⟩ := loadFlowSet_eq_ok hload
    have hbar : ∀ g ∈ fs.flows, g.NoBar := by
      rw [hflows]
      simp [hrbar, hfbar]
    have hin : f.Contains p.instant := by
      unfold FlowRecord.Contains
      omega
    refine ⟨_, _, fs, 1, f, hload, hbar, hfsYear, by rw [hflows]; rfl, hp, htuple, hin, ?_⟩
    exact not_finds_of_not_showsTime hlocal hfs hflows hbar hfsYear hle hday hr hstart hduration
      htime

/-! ## New Year -/

/-- The last flow of a year, and the first one of the next. -/
def newYearRows : List FlowRow :=
  [ { id := "1", srcIP := "10.0.0.1", srcPort := 4000, dstIP := "10.0.0.2", dstPort := 80
      protocol := "6", timestamp := "2017-12-31 23:59:00", duration := 1000000000
      label := "BENIGN" },
    { id := "2", srcIP := "10.0.0.1", srcPort := 4001, dstIP := "10.0.0.2", dstPort := 80
      protocol := "6", timestamp := "2018-01-01 00:01:00", duration := 1000000000
      label := "Attack" } ]

/-- A packet of the second flow, at its start. -/
def newYearPacket : Packet :=
  { src := ⟨"10.0.0.1", by decide, List.all_eq_true.mp (by decide)⟩
    dst := ⟨"10.0.0.2", by decide, List.all_eq_true.mp (by decide)⟩
    protocol := 6, sp := 4001, dp := 80, sec := 1514764860, usec := 0, usec_lt := by decide }

/-- The second flow as it is loaded. -/
def newYearFlow : FlowRecord :=
  { id := "2", srcIP := "10.0.0.1", srcPort := 4001, dstIP := "10.0.0.2", dstPort := 80
    protocol := "TCP", start := 1514764860000000000, duration := 1000000000, label := "ATTACK"
    isBenign := false, isMalicious := true }

/-- The year of the first flow is put in front of the stamp, and the alert finds no flow. -/
theorem new_year_alert_unmatched :
    let rt : Runtime := { upper := Char.toUpper, local_ := fun w => w - 0 }
    ∃ fs, loadFlowSet rt 0 "flows.db" (.ok newYearRows) = .ok fs ∧ (∀ g ∈ fs.flows, g.NoBar) ∧
      fs.flows[1]? = some newYearFlow ∧ newYearPacket.OfFlow rt newYearFlow ∧
      newYearFlow.Contains newYearPacket.instant ∧
      ∀ e, ¬ Finds rt fs newYearFlow newYearPacket.instant (newYearPacket.alert 0 e) := by
  intro rt
  have hrun : (loadFlowSet rt 0 "flows.db" (.ok newYearRows)).toOption.map (fun fs =>
      (decide (∀ g ∈ fs.flows, g.NoBar), fs.flows[1]?,
        matchAlertToFlow rt fs (newYearPacket.alert 0 ⟨0, 0, 0, 0⟩))) =
      some (true, some newYearFlow, none) := by
    decide +kernel
  obtain ⟨fs, hfs, hrun⟩ := Option.map_eq_some_iff.mp hrun
  simp only [Prod.mk.injEq, decide_eq_true_eq] at hrun
  obtain ⟨hbar, hflow, hmatch⟩ := hrun
  refine ⟨fs, eq_ok_of_toOption hfs, hbar, hflow, ?_, ?_, ?_⟩
  · exact ⟨.inl (by decide +kernel), .inl ⟨rfl, rfl, fun _ => by decide +kernel⟩⟩
  · exact ⟨by decide, by decide⟩
  · rintro e ⟨j, _, hfound, _⟩
    rw [matchAlertToFlow_alert] at hfound hmatch
    rw [hmatch] at hfound
    cases hfound

end SnortOptimizer.Analyser
