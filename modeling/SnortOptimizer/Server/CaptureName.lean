import SnortOptimizer.Path.Names
import SnortOptimizer.Text.Basic
import Mathlib.Data.List.Sort
import Mathlib.Data.List.TakeWhile

/-!
# The names of captures (`server/api`)

A request for a capture may name the file it goes to. `cleanCaptureFilename` takes the last
component of what the request says, sees to its extension, replaces every character that is not
a plain one and trims punctuation at both ends. What comes out is the name of a file in the
directory of captures, which the listing of captures goes by the extension of.

The trimming comes last and undoes the extension where nothing before it is left: then the dot of
the extension is itself punctuation at the front. `cleanCaptureFilename_good_iff` says when.
-/

namespace SnortOptimizer.Server

open Text

/-- What is known of `unicode.ToLower`: on ASCII it lowers the capital letters, and of the other
characters only a dotted capital I and the Kelvin sign become ASCII. -/
structure LowersToAscii (lower : Char → Char) : Prop where
  ascii : ∀ c, c.toNat < 128 → lower c = c.toLower
  others : ∀ c, (lower c).toNat < 128 → c.toNat < 128 ∨ lower c = 'i' ∨ lower c = 'k'

/-! ## Cleaning a name -/

/-- An ASCII letter or digit. -/
def isPlainWordChar (c : Char) : Bool :=
  (decide ('a' ≤ c) && decide (c ≤ 'z')) || (decide ('A' ≤ c) && decide (c ≤ 'Z'))
    || (decide ('0' ≤ c) && decide (c ≤ '9'))

def punctuation : List Char := ['.', '_', '-']

def isFilenameChar (c : Char) : Bool := isPlainWordChar c || decide (c ∈ punctuation)

def sanitizeFilenamePart (value : String) : String :=
  let value := trimSpace value
  if value = "" then "capture"
  else
    let cleaned := trim punctuation (value.toList.map fun c => if isFilenameChar c then c else '_')
    if cleaned = [] then "capture" else String.ofList cleaned

def captureExts : List (List Char) := [".pcap".toList, ".pcapng".toList]

def cleanCaptureFilename (lower : Char → Char) (value : String) : String :=
  let value := trimSpace value
  if value = "" then ""
  else
    let name := Path.base value.toList
    let ext := (Path.ext name).map lower
    let name := if ext ∉ captureExts then name ++ ".pcap".toList else name
    sanitizeFilenamePart (String.ofList name)

/-! ## Listing captures -/

/-- What reading a directory tells of an entry. Its size and the text of its modification time can
be missing. -/
structure ListedEntry where
  name : String
  isDir : Bool
  info : Option (Nat × String)
  deriving DecidableEq, Repr

structure FileItem where
  path : String
  name : String
  size : Nat
  modTime : String
  deriving DecidableEq, Repr

/-- The item of an entry, unless it is passed over. -/
def fileItem (lower : Char → Char) (dir : String) (exts : List (List Char)) (entry : ListedEntry) :
    Option FileItem :=
  if entry.isDir then none
  else
    let path := Path.join [dir, entry.name]
    let allowed := exts.map (·.map lower)
    if allowed ≠ [] ∧ (Path.ext path.toList).map lower ∉ allowed then none
    else entry.info.map fun info => { path, name := entry.name, size := info.1, modTime := info.2 }

/-- `listFiles`, given what reading the directory yields. The order of files with the same time is
open; here they stay in the order of the directory. -/
def listFiles (lower : Char → Char) (entries : Option (List ListedEntry)) (dir : String)
    (exts : List (List Char)) : List FileItem :=
  match entries with
  | none => []
  | some entries =>
      (entries.filterMap (fileItem lower dir exts)).insertionSort fun a b => b.modTime ≤ a.modTime

/-! ## Good names -/

/-- A name that is safe and keeps its type: the capture stays in the directory of captures, as an
entry of its own, and is listed there. -/
structure GoodCapture (lower : Char → Char) (name : String) : Prop where
  chars : ∀ c ∈ name.toList, isFilenameChar c = true
  no_separator : '/' ∉ name.toList
  no_dot : name.toList.head? ≠ some '.'
  typed : ∃ front ext, name.toList = front ++ ext ∧ ext.map Char.toLower ∈ captureExts
  inside : ∀ dir, Path.join [dir, name] =
    Path.render (Path.isAbs dir) (Path.parts dir ++ [name.toList])
  listed : ∀ dir entries, ∀ entry ∈ entries, entry.name = name → entry.isDir = false →
    entry.info.isSome → ∃ item ∈ listFiles lower (some entries) dir captureExts, item.name = name

/-- The last component of the request, without an extension of captures. -/
def captureStem (lower : Char → Char) (value : String) : List Char :=
  let name := Path.base (trimSpace value).toList
  if (Path.ext name).map lower ∈ captureExts then name.take (name.length - (Path.ext name).length)
  else name

/-! ## Characters -/

theorem isPlainWordChar_iff {c : Char} : isPlainWordChar c = true ↔
    (97 ≤ c.toNat ∧ c.toNat ≤ 122) ∨ (65 ≤ c.toNat ∧ c.toNat ≤ 90) ∨
      (48 ≤ c.toNat ∧ c.toNat ≤ 57) := by
  simp [isPlainWordChar, Char.le_def, UInt32.le_iff_toNat_le, or_assoc]

theorem notMem_punctuation {c : Char} (h : isPlainWordChar c = true) : c ∉ punctuation := by
  intro hmem
  simp only [punctuation, List.mem_cons, List.not_mem_nil, or_false] at hmem
  rcases hmem with rfl | rfl | rfl <;> cases h

theorem isSpace_of_isPlainWordChar {c : Char} (h : isPlainWordChar c = true) :
    isSpace c = false := by
  rw [isPlainWordChar_iff] at h
  simp only [isSpace, Bool.or_eq_false_iff, Bool.and_eq_false_iff, decide_eq_false_iff_not,
    beq_eq_false_iff_ne]
  omega

/-- What lowering does to an ASCII letter or digit, and to nothing else. -/
theorem isPlainWordChar_toLower (c : Char) :
    isPlainWordChar c.toLower = isPlainWordChar c := by
  by_cases hcapital : 'A' ≤ c ∧ c ≤ 'Z'
  · have hge : 65 ≤ c.val.toNat := UInt32.le_iff_toNat_le.mp hcapital.1
    have hle : c.val.toNat ≤ 90 := UInt32.le_iff_toNat_le.mp hcapital.2
    have hval : c.toLower.val = c.val + ('a'.val - 'A'.val) :=
      congrArg Char.val (dif_pos ⟨hcapital.1, hcapital.2⟩)
    have hnat : c.toLower.toNat = c.toNat + 32 := by
      show c.toLower.val.toNat = c.val.toNat + 32
      rw [hval, UInt32.toNat_add]
      exact Nat.mod_eq_of_lt (by show c.val.toNat + 32 < 2 ^ 32; omega)
    have hc : 65 ≤ c.toNat ∧ c.toNat ≤ 90 := ⟨hge, hle⟩
    rw [Bool.eq_iff_iff, isPlainWordChar_iff, isPlainWordChar_iff, hnat]
    omega
  · have hsame : c.toLower = c := dif_neg fun h => hcapital ⟨h.1, h.2⟩
    rw [hsame]

/-- The character written for one of the name. -/
theorem isFilenameChar_clean (c : Char) :
    isFilenameChar (if isFilenameChar c then c else '_') = true := by
  split
  · assumption
  · decide

theorem clean_mem_punctuation_iff (c : Char) :
    (if isFilenameChar c then c else '_') ∈ punctuation ↔ isPlainWordChar c = false := by
  split
  · next h =>
      rw [isFilenameChar, Bool.or_eq_true, decide_eq_true_eq] at h
      rcases h with h | h
      · exact iff_of_false (notMem_punctuation h) (by simp [h])
      · refine iff_of_true h ?_
        rw [Bool.eq_false_iff]
        exact fun hplain => notMem_punctuation hplain h
  · next h =>
      refine iff_of_true (by decide) ?_
      rw [isFilenameChar, Bool.or_eq_true, not_or] at h
      exact Bool.eq_false_iff.mpr h.1

/-! ## Extensions -/

/-- The letters of an extension of captures, small or capital. -/
structure IsCaptureWord (word : List Char) : Prop where
  lowers : ('.' :: word).map Char.toLower ∈ captureExts
  plain : ∀ c ∈ word, isPlainWordChar c = true
  ne_nil : word ≠ []

theorem isCaptureWord_of_lowers {word : List Char}
    (h : ('.' :: word).map Char.toLower ∈ captureExts) : IsCaptureWord word := by
  refine ⟨h, ?_, ?_⟩
  · intro c hc
    have hall : captureExts.all (fun ext => ext.tail.all isPlainWordChar) = true := by decide
    rw [← isPlainWordChar_toLower]
    exact List.all_eq_true.mp (List.all_eq_true.mp hall _ h) _ (List.mem_map_of_mem hc)
  · rintro rfl
    revert h
    decide

theorem IsCaptureWord.notMem {word : List Char} (h : IsCaptureWord word) {c : Char}
    (hc : isPlainWordChar c = false) : c ∉ word := by
  intro hmem
  rw [h.plain c hmem] at hc
  cases hc

-- checked through `List.all`: characters are finitely many, and `decide` would go over all of them
theorem captureExts_chars {ext : List Char} (hext : ext ∈ captureExts) {c : Char} (hc : c ∈ ext) :
    c.toNat < 128 ∧ c ≠ 'i' ∧ c ≠ 'k' := by
  have hall : captureExts.all (fun ext => ext.all fun c =>
      decide (c.toNat < 128 ∧ c ≠ 'i' ∧ c ≠ 'k')) = true := by decide
  exact of_decide_eq_true (List.all_eq_true.mp (List.all_eq_true.mp hall _ hext) _ hc)

/-- What is lowered to an extension of captures is one in capital or small letters. -/
theorem map_toLower_of_map_lower {lower : Char → Char} (hlower : LowersToAscii lower)
    {ext : List Char} (h : ext.map lower ∈ captureExts) :
    ext.map Char.toLower ∈ captureExts := by
  have hsame : ext.map Char.toLower = ext.map lower := by
    apply List.map_congr_left
    intro c hc
    obtain ⟨hascii, hi, hk⟩ := captureExts_chars h (List.mem_map_of_mem hc)
    rcases hlower.others c hascii with hc | heq | heq
    · exact (hlower.ascii c hc).symm
    · exact absurd heq hi
    · exact absurd heq hk
  rw [hsame]
  exact h

theorem ext_eq_dot {name : List Char} (h : Path.ext name ≠ []) :
    ∃ word, Path.ext name = '.' :: word := by
  rw [Path.ext] at *
  split at h
  · next hdot =>
      rw [if_pos hdot]
      exact ⟨_, rfl⟩
  · exact absurd rfl h

/-- **What is cleaned**: the stem and an extension of captures. -/
theorem cleanCaptureFilename_eq {lower : Char → Char} (hlower : LowersToAscii lower)
    {value : String} (hvalue : trimSpace value ≠ "") :
    ∃ word, IsCaptureWord word ∧ cleanCaptureFilename lower value =
      sanitizeFilenamePart (String.ofList (captureStem lower value ++ '.' :: word)) := by
  rw [cleanCaptureFilename, captureStem]
  simp only [if_neg hvalue]
  generalize Path.base (trimSpace value).toList = name
  by_cases hext : (Path.ext name).map lower ∈ captureExts
  · rw [if_neg (not_not.mpr hext), if_pos hext]
    have hne : Path.ext name ≠ [] := by
      intro hnil
      rw [hnil, List.map_nil] at hext
      exact absurd hext (by decide)
    obtain ⟨word, hword⟩ := ext_eq_dot hne
    obtain ⟨front, hfront⟩ := Path.ext_suffix name
    have hstem : name.take (name.length - (Path.ext name).length) = front := by
      have hlength := congrArg List.length hfront
      rw [List.length_append] at hlength
      have hcut : name.length - (Path.ext name).length = front.length := by omega
      rw [hcut]
      nth_rewrite 1 [hfront]
      exact List.take_left
    have hlowers := map_toLower_of_map_lower hlower hext
    rw [hword] at hlowers
    refine ⟨word, isCaptureWord_of_lowers hlowers, ?_⟩
    rw [hstem, ← hword, ← hfront]
  · rw [if_pos hext, if_neg hext]
    exact ⟨"pcap".toList, isCaptureWord_of_lowers (by decide), rfl⟩

/-! ## Trimming -/

theorem dropWhile_append_cons {p : Char → Bool} {c : Char} (hc : p c = false)
    (front rest : List Char) :
    (front ++ c :: rest).dropWhile p = front.dropWhile p ++ c :: rest := by
  rw [List.dropWhile_append]
  split
  · next hnil =>
      rw [List.isEmpty_iff.mp hnil]
      exact List.dropWhile_cons_of_neg (by simp [hc])
  · rfl

/-- Nothing is trimmed behind the letters of an extension. -/
theorem reverse_dropWhile_word {p : Char → Bool} {word : List Char} (hword : IsCaptureWord word)
    (hp : ∀ c, isPlainWordChar c = true → p c = false) (front : List Char) :
    ((front ++ word).reverse.dropWhile p).reverse = front ++ word := by
  rw [dropWhile_of_head, List.reverse_reverse]
  intro c hc
  rw [List.head?_reverse, List.getLast?_append_of_ne_nil _ hword.ne_nil] at hc
  exact hp c (hword.plain c (List.mem_of_getLast? hc))

theorem trimSpace_stem {word : List Char} (hword : IsCaptureWord word) (stem : List Char) :
    trimSpace (String.ofList (stem ++ '.' :: word)) =
      String.ofList (stem.dropWhile isSpace ++ '.' :: word) := by
  have hback := reverse_dropWhile_word (p := isSpace) hword
    (fun c => isSpace_of_isPlainWordChar) (stem.dropWhile isSpace ++ ['.'])
  rw [trimSpace, String.toList_ofList, dropWhile_append_cons (by decide)]
  simp only [List.append_assoc, List.singleton_append] at hback
  rw [hback]

theorem trim_stem {word : List Char} (hword : IsCaptureWord word) (stem : List Char) :
    trim punctuation (stem ++ '.' :: word) =
      if stem.dropWhile (· ∈ punctuation) = [] then word
      else stem.dropWhile (· ∈ punctuation) ++ '.' :: word := by
  have hkeep : ∀ c, isPlainWordChar c = true → decide (c ∈ punctuation) = false := fun c hc =>
    decide_eq_false (notMem_punctuation hc)
  rw [trim, List.dropWhile_append]
  by_cases hstem : stem.dropWhile (· ∈ punctuation) = []
  · have hfront : ('.' :: word).dropWhile (· ∈ punctuation) = word := by
      rw [List.dropWhile_cons_of_pos (by decide), dropWhile_of_head]
      intro c hc
      exact hkeep c (hword.plain c (List.mem_of_head? hc))
    rw [if_pos (List.isEmpty_iff.mpr hstem), if_pos hstem, hfront]
    exact reverse_dropWhile_word hword hkeep []
  · have hback := reverse_dropWhile_word hword hkeep (stem.dropWhile (· ∈ punctuation) ++ ['.'])
    simp only [List.append_assoc, List.singleton_append] at hback
    rw [if_neg (by simpa using hstem), if_neg hstem, hback]

/-- What is left of the stem. -/
def cleanedStem (stem : List Char) : List Char :=
  ((stem.dropWhile isSpace).map fun c => if isFilenameChar c then c else '_').dropWhile
    (· ∈ punctuation)

/-- Something is left of the stem exactly if it holds a letter or a digit. -/
theorem cleanedStem_eq_nil_iff (stem : List Char) :
    cleanedStem stem = [] ↔ ∀ c ∈ stem, isPlainWordChar c = false := by
  have hspace : (∀ c ∈ stem.dropWhile isSpace, isPlainWordChar c = false) ↔
      ∀ c ∈ stem, isPlainWordChar c = false := by
    constructor
    · intro h c hc
      rw [← List.takeWhile_append_dropWhile (p := isSpace) (l := stem)] at hc
      rcases List.mem_append.mp hc with hc | hc
      · rw [Bool.eq_false_iff]
        intro hplain
        have hspace := List.mem_takeWhile_imp hc
        rw [isSpace_of_isPlainWordChar hplain] at hspace
        cases hspace
      · exact h c hc
    · exact fun h c hc => h c ((List.dropWhile_sublist _).subset hc)
  rw [cleanedStem, List.dropWhile_eq_nil_iff, ← hspace]
  simp only [List.mem_map, forall_exists_index, and_imp, forall_apply_eq_imp_iff₂,
    decide_eq_true_eq, clean_mem_punctuation_iff]

/-- **The cleaned name**: where nothing is left of the stem, the dot goes too. -/
theorem sanitizeFilenamePart_stem {word : List Char} (hword : IsCaptureWord word)
    (stem : List Char) :
    sanitizeFilenamePart (String.ofList (stem ++ '.' :: word)) =
      String.ofList (if cleanedStem stem = [] then word else cleanedStem stem ++ '.' :: word) := by
  have hclean : ('.' :: word).map (fun c => if isFilenameChar c then c else '_') = '.' :: word := by
    rw [List.map_congr_left (g := id), List.map_id]
    intro c hc
    have hc : isFilenameChar c = true := by
      rcases List.mem_cons.mp hc with rfl | hc
      · decide
      · rw [isFilenameChar, hword.plain c hc, Bool.true_or]
    exact if_pos hc
  rw [sanitizeFilenamePart, trimSpace_stem hword]
  simp only [String.toList_ofList, List.map_append, hclean, trim_stem hword]
  rw [if_neg (by simp [String.ofList_eq_empty_iff])]
  rw [if_neg]
  · rfl
  · split
    · exact hword.ne_nil
    · simp

/-! ## When names are good -/

/-- A file with the extension is listed. -/
theorem mem_listFiles {lower : Char → Char} {dir : String} {exts : List (List Char)}
    {entries : List ListedEntry} {entry : ListedEntry} (hentry : entry ∈ entries)
    (hfile : entry.isDir = false) (hinfo : entry.info.isSome)
    (hext : (Path.ext (Path.join [dir, entry.name]).toList).map lower ∈ exts.map (·.map lower)) :
    ∃ item ∈ listFiles lower (some entries) dir exts, item.name = entry.name := by
  obtain ⟨info, hinfo⟩ := Option.isSome_iff_exists.mp hinfo
  let item : FileItem :=
    { path := Path.join [dir, entry.name], name := entry.name, size := info.1, modTime := info.2 }
  have hitem : fileItem lower dir exts entry = some item := by
    rw [fileItem, if_neg (by simp [hfile])]
    simp only [hinfo, Option.map_some]
    rw [if_neg fun h => h.2 hext]
  refine ⟨item, ?_, rfl⟩
  rw [listFiles, (List.perm_insertionSort _ _).mem_iff]
  exact List.mem_filterMap.mpr ⟨entry, hentry, hitem⟩

theorem goodCapture_stem {lower : Char → Char} (hlower : LowersToAscii lower) {word : List Char}
    (hword : IsCaptureWord word) {stem : List Char} (hstem : cleanedStem stem ≠ []) :
    GoodCapture lower (String.ofList (cleanedStem stem ++ '.' :: word)) := by
  let name := String.ofList (cleanedStem stem ++ '.' :: word)
  have hname : name.toList = cleanedStem stem ++ '.' :: word := String.toList_ofList
  have hchars : ∀ c ∈ name.toList, isFilenameChar c = true := by
    intro c hc
    rw [hname] at hc
    rcases List.mem_append.mp hc with hc | hc
    · obtain ⟨d, _, rfl⟩ := List.mem_map.mp ((List.dropWhile_sublist _).subset hc)
      exact isFilenameChar_clean d
    · rcases List.mem_cons.mp hc with rfl | hc
      · decide
      · rw [isFilenameChar, hword.plain c hc, Bool.true_or]
  have hslash : '/' ∉ name.toList := fun hmem => absurd (hchars _ hmem) (by decide)
  have hdot : name.toList.head? ≠ some '.' := by
    obtain ⟨c, cs, hcons⟩ := List.exists_cons_of_ne_nil hstem
    have hhead := List.head?_dropWhile_not (fun c => decide (c ∈ punctuation))
      ((stem.dropWhile isSpace).map fun c => if isFilenameChar c then c else '_')
    rw [← cleanedStem, hcons] at hhead
    rw [hname, hcons]
    intro heq
    have hc : c = '.' := Option.some.inj heq
    have hcut : decide ('.' ∈ punctuation) = false := hc ▸ hhead
    exact absurd hcut (by decide)
  have hplain : Path.Plain name.toList := by
    refine ⟨by simp [hname], ?_, hslash⟩
    intro heq
    exact hdot (by rw [heq]; rfl)
  have hdd : name.toList ≠ ['.', '.'] := by
    intro heq
    exact hdot (by rw [heq]; rfl)
  refine ⟨hchars, hslash, hdot, ⟨_, _, hname, hword.lowers⟩, Path.join_name hplain hdd, ?_⟩
  -- the extension of the path is that of the name, and it is lowered like one of the list
  intro dir entries entry hentry hentryname hfile hinfo
  have hext : Path.ext (Path.join [dir, name]).toList = '.' :: word :=
    Path.ext_join_name hplain hdd dir hname (hword.notMem (by decide))
  have hlowered : ∀ cs : List Char, (∀ c ∈ cs, c.toNat < 128) →
      cs.map lower = cs.map Char.toLower := fun cs hcs =>
    List.map_congr_left fun c hc => hlower.ascii c (hcs c hc)
  have hsame : ∀ e ∈ captureExts, e.map Char.toLower = e := by decide
  have hword128 : ∀ c ∈ '.' :: word, c.toNat < 128 := by
    intro c hc
    rcases List.mem_cons.mp hc with rfl | hc
    · decide
    · have hc := isPlainWordChar_iff.mp (hword.plain c hc)
      omega
  have hallowed : ('.' :: word).map lower ∈ captureExts.map (·.map lower) := by
    rw [hlowered _ hword128]
    refine List.mem_map.mpr ⟨_, hword.lowers, ?_⟩
    rw [hlowered _ fun c hc => (captureExts_chars hword.lowers hc).1, hsame _ hword.lowers]
  rw [← hentryname]
  apply mem_listFiles hentry hfile hinfo
  rw [hentryname]
  show (Path.ext (Path.join [dir, name]).toList).map lower ∈ _
  rw [hext]
  exact hallowed

/-- **A cleaned name is good**, or there is none, exactly if the request is blank or what it says
before the extension holds an ASCII letter or digit. -/
theorem cleanCaptureFilename_good_iff {lower : Char → Char} (hlower : LowersToAscii lower)
    (value : String) :
    (cleanCaptureFilename lower value = "" ∨
        GoodCapture lower (cleanCaptureFilename lower value)) ↔
      trimSpace value = "" ∨ ∃ c ∈ captureStem lower value, isPlainWordChar c = true := by
  by_cases hvalue : trimSpace value = ""
  · have hempty : cleanCaptureFilename lower value = "" := by
      rw [cleanCaptureFilename]
      exact if_pos hvalue
    exact iff_of_true (.inl hempty) (.inl hvalue)
  · obtain ⟨word, hword, heq⟩ := cleanCaptureFilename_eq hlower hvalue
    rw [heq, sanitizeFilenamePart_stem hword, or_iff_right hvalue]
    have hstem : (∃ c ∈ captureStem lower value, isPlainWordChar c = true) ↔
        cleanedStem (captureStem lower value) ≠ [] := by
      rw [ne_eq, cleanedStem_eq_nil_iff]
      simp
    rw [hstem]
    constructor
    · intro hgood hnil
      rw [if_pos hnil, String.ofList_eq_empty_iff, or_iff_right hword.ne_nil] at hgood
      -- only letters are left, without the dot
      obtain ⟨front, ext, hname, hext⟩ := hgood.typed
      rw [String.toList_ofList] at hname
      have hdot : ∀ e ∈ captureExts, '.' ∈ e := by decide
      obtain ⟨c, hc, hlow⟩ := List.mem_map.mp (hdot _ hext)
      have hplain := hword.plain c (by rw [hname]; exact List.mem_append_right _ hc)
      rw [← isPlainWordChar_toLower, hlow] at hplain
      cases hplain
    · intro hne
      rw [if_neg hne]
      exact .inr (goodCapture_stem hlower hword hne)

theorem lowersToAscii_toLower : LowersToAscii Char.toLower := by
  refine ⟨fun c _ => rfl, ?_⟩
  intro c hc
  by_cases hcapital : 'A' ≤ c ∧ c ≤ 'Z'
  · have hle : c.val.toNat ≤ 90 := UInt32.le_iff_toNat_le.mp hcapital.2
    exact .inl (Nat.lt_of_le_of_lt hle (by decide))
  · have hsame : c.toLower = c := dif_neg fun h => hcapital ⟨h.1, h.2⟩
    rw [hsame] at hc
    exact .inl hc

/-- A name with an extension in capitals, and spaces. -/
theorem scan_capture_good :
    LowersToAscii Char.toLower ∧
      cleanCaptureFilename Char.toLower " my scan.PCAP" = "my_scan.PCAP" ∧
      GoodCapture Char.toLower (cleanCaptureFilename Char.toLower " my scan.PCAP") := by
  have hclean : cleanCaptureFilename Char.toLower " my scan.PCAP" = "my_scan.PCAP" := by
    decide +kernel
  refine ⟨lowersToAscii_toLower, hclean, ?_⟩
  have hgood := (cleanCaptureFilename_good_iff lowersToAscii_toLower " my scan.PCAP").mpr
    (.inr ⟨'m', by decide +kernel, by decide⟩)
  rcases hgood with hempty | hgood
  · rw [hclean] at hempty
    exact absurd hempty (by decide)
  · exact hgood

/-- **A name without ASCII letters** is cleaned away together with the dot of its extension. -/
theorem japanese_capture_untyped :
    LowersToAscii Char.toLower ∧ cleanCaptureFilename Char.toLower "日本語.pcap" = "pcap" ∧
      ¬ (cleanCaptureFilename Char.toLower "日本語.pcap" = "" ∨
        GoodCapture Char.toLower (cleanCaptureFilename Char.toLower "日本語.pcap")) := by
  have hclean : cleanCaptureFilename Char.toLower "日本語.pcap" = "pcap" := by decide +kernel
  refine ⟨lowersToAscii_toLower, hclean, ?_⟩
  rw [hclean]
  rintro (hempty | hgood)
  · exact absurd hempty (by decide)
  · obtain ⟨front, ext, hname, hext⟩ := hgood.typed
    have hlength : ∀ e ∈ captureExts, 5 ≤ e.length := by decide
    have hlong := hlength _ hext
    have hshort := congrArg List.length hname
    rw [List.length_append] at hshort
    rw [List.length_map] at hlong
    have hfour : "pcap".toList.length = 4 := by decide
    omega

end SnortOptimizer.Server
