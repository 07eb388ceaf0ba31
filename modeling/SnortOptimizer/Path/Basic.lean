import Mathlib.Data.List.Basic

/-!
# Lexical paths

Slash-separated paths, treated as text: nothing here looks at a file system. `clean` is the
lexical normal form (no empty component, no `.`, `..` only at the front of a relative path), and
`parts` is the list of components that form is made of. An absolute path *encloses* another when
its components are an initial segment of the other's.

The main facts are that cleaning a path keeps its components (`parts_clean`), and that on absolute
paths the components determine the clean form (`clean_eq_of_parts_eq`).
-/

namespace SnortOptimizer.Path

abbrev Part := List Char

/-- A path is absolute when it starts with a slash. -/
def isAbs (p : String) : Bool := p.toList.head? == some '/'

/-- One component goes onto the stack of components seen so far (top first). `..` takes the top
off again; above the root it is dropped, and in front of a relative path it stays. -/
def pushPart (rooted : Bool) (stack : List Part) (part : Part) : List Part :=
  if part = [] ∨ part = ['.'] then stack
  else if part = ['.', '.'] then
    match stack with
    | [] => if rooted then [] else [part]
    | top :: rest => if top = ['.', '.'] then part :: stack else rest
  else part :: stack

def normalize (rooted : Bool) (ps : List Part) : List Part :=
  (ps.foldl (pushPart rooted) []).reverse

/-- The components of the normal form of a path. -/
def parts (p : String) : List Part := normalize (isAbs p) (p.toList.splitOn '/')

/-- The text of a list of components; the empty relative path is `.`. -/
def render (rooted : Bool) (ps : List Part) : String :=
  if rooted then String.ofList ('/' :: ['/'].intercalate ps)
  else if ps = [] then "." else String.ofList (['/'].intercalate ps)

/-- Lexical normal form. -/
def clean (p : String) : String := render (isAbs p) (parts p)

/-- Empty elements in front are skipped, the rest is joined by slashes and cleaned. -/
def join (elems : List String) : String :=
  match elems.dropWhile (· = "") with
  | [] => ""
  | es => clean (String.ofList (['/'].intercalate (es.map String.toList)))

/-- The last component, as it is written. -/
def base (p : List Char) : List Char :=
  if p = [] then ['.']
  else
    let q := (p.reverse.dropWhile (· = '/'))
    if q = [] then ['/'] else (q.takeWhile (· ≠ '/')).reverse

/-- `p` is `d` or one of its ancestors (for absolute paths). -/
def Encloses (p d : String) : Prop := parts p <+: parts d

instance (p d : String) : Decidable (Encloses p d) := inferInstanceAs (Decidable (_ <+: _))

/-! ## Components -/

theorem not_slash_mem_of_mem_splitOn {cs : List Char} {part : Part}
    (h : part ∈ cs.splitOn '/') : '/' ∉ part := by
  induction cs generalizing part with
  | nil =>
      rw [List.splitOn_nil, List.mem_singleton] at h
      simp [h]
  | cons c cs ih =>
      rw [List.splitOn_cons_eq_if_modifyHead] at h
      split at h
      · rcases List.mem_cons.mp h with rfl | h'
        · simp
        · exact ih h'
      · next hc =>
          -- the character joins the first part of the rest
          obtain ⟨q, qs, hq⟩ := List.exists_cons_of_ne_nil (List.splitOn_ne_nil '/' cs)
          rw [hq, List.modifyHead_cons] at h
          rcases List.mem_cons.mp h with rfl | h'
          · have hrest : '/' ∉ q := ih (hq ▸ List.mem_cons_self)
            intro hmem
            rcases List.mem_cons.mp hmem with rfl | hmem'
            · exact hc (beq_self_eq_true '/')
            · exact hrest hmem'
          · exact ih (hq ▸ List.mem_cons_of_mem q h')

/-- A component that survives normalisation as it is. -/
structure Plain (part : Part) : Prop where
  ne_nil : part ≠ []
  ne_dot : part ≠ ['.']
  no_slash : '/' ∉ part

/-- Only plain components are pushed; on a rooted path `..` never is. -/
structure WellFormed (rooted : Bool) (ps : List Part) : Prop where
  plain : ∀ part ∈ ps, Plain part
  no_dotdot : rooted = true → ['.', '.'] ∉ ps

theorem pushPart_skip {rooted : Bool} {part : Part} {stack : List Part}
    (h : part = [] ∨ part = ['.']) : pushPart rooted stack part = stack := by
  simp [pushPart, h]

theorem pushPart_plain {rooted : Bool} {part : Part} {stack : List Part} (hp : Plain part)
    (hdd : part ≠ ['.', '.']) : pushPart rooted stack part = part :: stack := by
  simp [pushPart, hp.ne_nil, hp.ne_dot, hdd]

theorem WellFormed.cons {rooted : Bool} {stack : List Part} {part : Part}
    (h : WellFormed rooted stack) (hp : Plain part) (hdd : rooted = true → part ≠ ['.', '.']) :
    WellFormed rooted (part :: stack) := by
  refine ⟨fun q hq => ?_, fun hr hmem => ?_⟩
  · rcases List.mem_cons.mp hq with rfl | hq'
    · exact hp
    · exact h.plain q hq'
  · rcases List.mem_cons.mp hmem with heq | hmem'
    · exact hdd hr heq.symm
    · exact h.no_dotdot hr hmem'

theorem WellFormed.tail {rooted : Bool} {stack : List Part} {part : Part}
    (h : WellFormed rooted (part :: stack)) : WellFormed rooted stack :=
  ⟨fun q hq => h.plain q (List.mem_cons_of_mem _ hq),
    fun hr hmem => h.no_dotdot hr (List.mem_cons_of_mem _ hmem)⟩

theorem pushPart_wellFormed {rooted : Bool} {stack : List Part} {part : Part}
    (h : WellFormed rooted stack) (hslash : '/' ∉ part) :
    WellFormed rooted (pushPart rooted stack part) := by
  by_cases hskip : part = [] ∨ part = ['.']
  · rw [pushPart_skip hskip]
    exact h
  rw [not_or] at hskip
  have hplain : Plain part := ⟨hskip.1, hskip.2, hslash⟩
  by_cases hdd : part = ['.', '.']
  · subst hdd
    cases stack with
    | nil =>
        cases rooted with
        | true => exact h
        | false => exact h.cons hplain (by simp)
    | cons top rest =>
        show WellFormed rooted (if top = ['.', '.'] then ['.', '.'] :: top :: rest else rest)
        split
        · next htop =>
            -- a `..` on the stack can only be there when the path is relative
            refine h.cons hplain fun hr => absurd ?_ (h.no_dotdot hr)
            rw [htop]
            exact List.mem_cons_self
        · exact h.tail
  · rw [pushPart_plain hplain hdd]
    exact h.cons hplain fun _ => hdd

theorem foldl_pushPart_wellFormed {rooted : Bool} {ps stack : List Part}
    (hs : ∀ part ∈ ps, '/' ∉ part) (h : WellFormed rooted stack) :
    WellFormed rooted (ps.foldl (pushPart rooted) stack) := by
  induction ps generalizing stack with
  | nil => exact h
  | cons part ps ih =>
      rw [List.foldl_cons]
      apply ih
      · exact fun q hq => hs q (List.mem_cons_of_mem _ hq)
      · exact pushPart_wellFormed h (hs part List.mem_cons_self)

/-- The components of a path are well formed. -/
theorem parts_wellFormed (p : String) : WellFormed (isAbs p) (parts p) := by
  have h : WellFormed (isAbs p) ((p.toList.splitOn '/').foldl (pushPart (isAbs p)) []) :=
    foldl_pushPart_wellFormed (fun _ => not_slash_mem_of_mem_splitOn) ⟨by simp, by simp⟩
  refine ⟨fun part hpart => h.plain part ?_, fun hr hmem => h.no_dotdot hr ?_⟩
  · exact List.mem_reverse.mp hpart
  · exact List.mem_reverse.mp hmem

/-! ## Absolute paths -/

/-- Well-formed components are only stacked up. -/
theorem foldl_pushPart_eq_append {ps stack : List Part} (h : WellFormed true ps) :
    ps.foldl (pushPart true) stack = ps.reverse ++ stack := by
  induction ps generalizing stack with
  | nil => rfl
  | cons part ps ih =>
      have hdd : part ≠ ['.', '.'] := by
        rintro rfl
        exact h.no_dotdot rfl List.mem_cons_self
      rw [List.foldl_cons, pushPart_plain (h.plain part List.mem_cons_self) hdd,
        ih h.tail, List.reverse_cons, List.append_assoc]
      rfl

theorem isAbs_render_true (ps : List Part) : isAbs (render true ps) = true := by
  simp [isAbs, render]

/-- Rendering well-formed components of an absolute path and reading them back. -/
theorem parts_render_true {ps : List Part} (h : WellFormed true ps) :
    parts (render true ps) = ps := by
  have hsplit : ('/' :: ['/'].intercalate ps).splitOn '/' =
      [] :: (['/'].intercalate ps).splitOn '/' := by
    rw [List.splitOn_cons_eq_if_modifyHead, if_pos (beq_self_eq_true '/')]
  have hnorm : parts (render true ps) =
      normalize true ([] :: (['/'].intercalate ps).splitOn '/') := by
    rw [parts, isAbs_render_true, render, if_pos rfl, String.toList_ofList, hsplit]
  rw [hnorm, normalize, List.foldl_cons]
  show (List.foldl (pushPart true) [] ((['/'].intercalate ps).splitOn '/')).reverse = ps
  by_cases hnil : ps = []
  · subst hnil
    rfl
  · rw [List.splitOn_intercalate _ (fun part hpart => (h.plain part hpart).no_slash) hnil,
      foldl_pushPart_eq_append h, List.append_nil, List.reverse_reverse]

variable {p d : String}

theorem isAbs_clean (h : isAbs p = true) : isAbs (clean p) = true := by
  rw [clean, h]
  exact isAbs_render_true _

/-- **Cleaning keeps the components** of an absolute path. -/
theorem parts_clean (h : isAbs p = true) : parts (clean p) = parts p := by
  rw [clean, h]
  exact parts_render_true (h ▸ parts_wellFormed p)

/-- **The components determine the clean form** of an absolute path. -/
theorem clean_eq_of_parts_eq (hp : isAbs p = true) (hd : isAbs d = true)
    (h : parts p = parts d) : clean p = clean d := by
  rw [clean, clean, hp, hd, h]

theorem clean_clean (h : isAbs p = true) : clean (clean p) = clean p :=
  clean_eq_of_parts_eq (isAbs_clean h) h (parts_clean h)

theorem isAbs_ofList_append {cs rest : List Char} (h : isAbs (String.ofList cs) = true) :
    isAbs (String.ofList (cs ++ rest)) = true := by
  cases cs with
  | nil => simp [isAbs] at h
  | cons c cs => simpa [isAbs] using h

theorem join_cons {es : List String} (h : p ≠ "") :
    join (p :: es) = clean (String.ofList (['/'].intercalate ((p :: es).map String.toList))) := by
  rw [join, List.dropWhile_cons_of_neg (by simpa using h)]

theorem ne_empty_of_isAbs (h : isAbs p = true) : p ≠ "" := by
  rintro rfl
  cases h

theorem isAbs_joined (es : List String) (h : isAbs p = true) :
    isAbs (String.ofList (['/'].intercalate ((p :: es).map String.toList))) = true := by
  cases es with
  | nil => simpa [String.ofList_toList] using h
  | cons e es =>
      rw [List.map_cons, List.map_cons, List.intercalate_cons_cons, List.append_assoc]
      exact isAbs_ofList_append (by simpa [String.ofList_toList] using h)

/-- Joining onto an absolute path gives an absolute path. -/
theorem isAbs_join (es : List String) (h : isAbs p = true) : isAbs (join (p :: es)) = true := by
  rw [join_cons (ne_empty_of_isAbs h)]
  exact isAbs_clean (isAbs_joined es h)

/-- Joining onto an absolute path gives a clean path. -/
theorem clean_join (es : List String) (h : isAbs p = true) :
    clean (join (p :: es)) = join (p :: es) := by
  rw [join_cons (ne_empty_of_isAbs h)]
  exact clean_clean (isAbs_joined es h)

end SnortOptimizer.Path
