import SnortOptimizer.Path.Basic

/-!
# File names in paths

The extension of a path, and what becomes of a directory when a file name is joined onto it. A name
that is an ordinary component is put at the end and changes nothing before it (`join_name`), and the
extension of the path is then that of the name (`ext_join_name`).
-/

namespace SnortOptimizer.Path

/-- `filepath.Ext`: what follows the last dot of the last component, with the dot. -/
def ext (p : List Char) : List Char :=
  let name := p.reverse.takeWhile (· ≠ '/')
  if '.' ∈ name then '.' :: (name.takeWhile (· ≠ '.')).reverse else []

theorem ext_append_dot {front word : List Char} (hslash : '/' ∉ word) (hdot : '.' ∉ word) :
    ext (front ++ '.' :: word) = '.' :: word := by
  have hword : ∀ sep : Char, sep ∉ word → ∀ c ∈ word.reverse, decide (c ≠ sep) = true := by
    intro sep hsep c hc
    apply decide_eq_true
    rintro rfl
    exact hsep (List.mem_reverse.mp hc)
  have hname : (front ++ '.' :: word).reverse.takeWhile (· ≠ '/') =
      word.reverse ++ '.' :: front.reverse.takeWhile (· ≠ '/') := by
    rw [List.reverse_append, List.reverse_cons, List.append_assoc,
      List.takeWhile_append_of_pos (hword '/' hslash)]
    rfl
  have htake : (word.reverse ++ '.' :: front.reverse.takeWhile (· ≠ '/')).takeWhile (· ≠ '.') =
      word.reverse := by
    rw [List.takeWhile_append_of_pos (hword '.' hdot), List.takeWhile_cons_of_neg (by decide),
      List.append_nil]
  rw [ext, hname, if_pos (by simp), htake, List.reverse_reverse]

/-- The extension stands at the end. -/
theorem ext_suffix (p : List Char) : ∃ front, p = front ++ ext p := by
  rw [ext]
  split
  · next hmem =>
      obtain ⟨word, rest, hname, hword⟩ := List.eq_append_cons_of_mem hmem
      have htake : (p.reverse.takeWhile (· ≠ '/')).takeWhile (· ≠ '.') = word := by
        rw [hname, List.takeWhile_append_of_pos, List.takeWhile_cons_of_neg (by decide),
          List.append_nil]
        intro c hc
        apply decide_eq_true
        rintro rfl
        exact hword hc
      refine ⟨(rest ++ p.reverse.dropWhile (· ≠ '/')).reverse, ?_⟩
      calc p = (p.reverse.takeWhile (· ≠ '/') ++ p.reverse.dropWhile (· ≠ '/')).reverse := by
            rw [List.takeWhile_append_dropWhile, List.reverse_reverse]
        _ = _ := by
            rw [htake, hname]
            simp
  · exact ⟨p, (List.append_nil p).symm⟩

/-- The path of a component in a directory. -/
theorem render_concat (rooted : Bool) (ps : List Part) (name : Part) :
    ∃ front, (render rooted (ps ++ [name])).toList = front ++ name := by
  have hjoined : ∃ front, ['/'].intercalate (ps ++ [name]) = front ++ name := by
    induction ps with
    | nil => exact ⟨[], by simp⟩
    | cons p ps ih =>
        obtain ⟨front, hfront⟩ := ih
        obtain ⟨q, qs, hq⟩ := List.exists_cons_of_ne_nil (List.concat_ne_nil name ps)
        refine ⟨p ++ '/' :: front, ?_⟩
        rw [List.cons_append, hq, List.intercalate_cons_cons, ← hq, hfront]
        simp
  obtain ⟨front, hfront⟩ := hjoined
  rw [render]
  split
  · exact ⟨'/' :: front, by rw [String.toList_ofList, hfront, List.cons_append]⟩
  · rw [if_neg (by simp), String.toList_ofList]
    exact ⟨front, hfront⟩

section JoinName

variable {name : String} (hplain : Plain name.toList) (hdd : name.toList ≠ ['.', '.'])
include hplain hdd

/-- **A plain name goes to the end** of whatever directory it is joined onto. -/
theorem join_name (dir : String) :
    join [dir, name] = render (isAbs dir) (parts dir ++ [name.toList]) := by
  have hsplit : name.toList.splitOn '/' = [name.toList] :=
    List.splitOn_eq_singleton hplain.no_slash
  by_cases hdir : dir = ""
  · subst hdir
    have hne : name ≠ "" := by
      rintro rfl
      exact hplain.ne_nil rfl
    have habs : isAbs name = false := by
      cases hlist : name.toList with
      | nil => exact absurd hlist hplain.ne_nil
      | cons c cs =>
          have hc : c ≠ '/' := by
            rintro rfl
            exact hplain.no_slash (hlist ▸ List.mem_cons_self)
          simp [isAbs, hlist, hc]
    have hskip : join ["", name] = join [name] := by
      simp [join]
    have hparts : parts name = [name.toList] := by
      rw [parts, hsplit, habs, normalize]
      simp [pushPart_plain hplain hdd]
    rw [hskip, join_cons hne, clean]
    simp only [List.map_cons, List.map_nil, List.intercalate_singleton, String.ofList_toList, habs,
      hparts]
    rfl
  · have habs : isAbs (String.ofList (dir.toList ++ '/' :: name.toList)) = isAbs dir := by
      cases hlist : dir.toList with
      | nil => exact absurd (String.toList_eq_nil_iff.mp hlist) hdir
      | cons c cs => simp [isAbs, hlist]
    have hparts : parts (String.ofList (dir.toList ++ '/' :: name.toList)) =
        parts dir ++ [name.toList] := by
      rw [parts, habs, String.toList_ofList, List.splitOn_append_cons_self, hsplit, normalize,
        List.foldl_append, parts, normalize]
      simp [pushPart_plain hplain hdd]
    have hjoined : ['/'].intercalate ([dir, name].map String.toList) =
        dir.toList ++ '/' :: name.toList := by
      simp [List.intercalate_cons_cons]
    rw [join_cons hdir, hjoined, clean, habs, hparts]

theorem ext_join_name (dir : String) {front word : List Char}
    (hname : name.toList = front ++ '.' :: word) (hdot : '.' ∉ word) :
    ext (join [dir, name]).toList = '.' :: word := by
  obtain ⟨lead, hlead⟩ := render_concat (isAbs dir) (parts dir) name.toList
  have hslash : '/' ∉ word := fun h => hplain.no_slash (by simp [hname, h])
  rw [join_name hplain hdd, hlead, hname, ← List.append_assoc]
  exact ext_append_dot hslash hdot

end JoinName

end SnortOptimizer.Path
