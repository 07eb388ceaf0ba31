import Mathlib.Data.List.Perm.Basic
import SnortOptimizer.Text.Columns

/-!
# The tree of modules (`profiler/profiler_tree_builder.h`, `profiler/profiler_printer.h`)

Snort keeps the time its modules take in a tree. It is printed without the modules that have not
been active: each entry above its children, with its layer and its place among its siblings, which
are sorted and cut off as the configuration says.

With the defaults of the configuration every active module has one row (`rows_perm`). In general
the rows below an entry are those of its first children, each with its own below it
(`rows_children`).
-/

namespace SnortOptimizer.Profiler

open Text

/-! ## The tree -/

/-- The name of a module. -/
structure ModuleName where
  text : String
  word : IsWord text.toList

/-- `TimeProfilerStats`, with the time in ticks of `std::chrono`. -/
structure TimeStats where
  elapsed : Int64
  checks : UInt64

def TimeStats.zero : TimeStats := { elapsed := 0, checks := 0 }

def TimeStats.isActive (s : TimeStats) : Bool := 0 < s.elapsed || s.checks ≠ 0

inductive ProfilerNode
  | node (name : ModuleName) (stats : TimeStats) (children : List ProfilerNode)

def ProfilerNode.name : ProfilerNode → ModuleName
  | .node name _ _ => name

def ProfilerNode.stats : ProfilerNode → TimeStats
  | .node _ stats _ => stats

structure View where
  name : ModuleName
  stats : TimeStats
  callerStats : TimeStats

/-- The ticks are divided by an unsigned number, and so as unsigned ones. -/
def View.avgCheck (v : View) : Int64 :=
  if v.stats.checks = 0 then 0 else (v.stats.elapsed.toUInt64 / v.stats.checks).toInt64

/-- `ProfilerBuilder::Entry`. -/
inductive TreeEntry
  | entry (view : View) (children : List TreeEntry)

def TreeEntry.view : TreeEntry → View
  | .entry view _ => view

def TreeEntry.children : TreeEntry → List TreeEntry
  | .entry _ children => children

/-! `ProfilerBuilder::build`: inactive nodes are left out, with everything below them. -/

mutual

def ProfilerNode.entry (caller : TimeStats) : ProfilerNode → TreeEntry
  | .node name stats children =>
      .entry { name := name, stats := stats, callerStats := caller } (activeEntries stats children)

def activeEntries (caller : TimeStats) : List ProfilerNode → List TreeEntry
  | [] => []
  | n :: ns =>
      if n.stats.isActive then n.entry caller :: activeEntries caller ns
      else activeEntries caller ns

end

def ProfilerNode.build (root : ProfilerNode) : TreeEntry := root.entry .zero

/-! ## The rows of the table -/

/-- What the entries can be sorted by, `sorters`. -/
inductive SortKey
  | checks
  | avgCheck
  | totalTime

def SortKey.name : SortKey → String
  | .checks => "checks"
  | .avgCheck => "avg_check"
  | .totalTime => "total_time"

/-- An entry with a larger value comes before one with a smaller. -/
def SortKey.value : SortKey → View → Int
  | .checks, v => v.stats.checks.toNat
  | .avgCheck, v => v.avgCheck.toInt
  | .totalTime, v => v.stats.elapsed.toInt

theorem sorted_mergeSort {α : Type} (value : α → Int) (xs : List α) :
    (xs.mergeSort fun x y => value y ≤ value x).Pairwise fun x y => value y ≤ value x := by
  have h : (xs.mergeSort fun x y => value y ≤ value x).Pairwise
      fun x y => decide (value y ≤ value x) = true := by
    apply List.pairwise_mergeSort
    · intro x y z hxy hyz
      exact decide_eq_true (Int.le_trans (of_decide_eq_true hyz) (of_decide_eq_true hxy))
    · intro x y
      simpa using Int.le_total (value y) (value x)
  exact h.imp fun hle => of_decide_eq_true hle

/-- `std::partial_sort` by falling values: the first entries are sorted, none of the others comes
before them, and nothing else is known of the order. -/
structure PartialSort where
  run : {α : Type} → (α → Int) → Nat → List α → List α
  perm : ∀ {α : Type} (value : α → Int) (n : Nat) (xs : List α), (run value n xs).Perm xs
  sorted : ∀ {α : Type} (value : α → Int) (n : Nat) (xs : List α),
    ((run value n xs).take n).Pairwise fun x y => value y ≤ value x
  least : ∀ {α : Type} (value : α → Int) (n : Nat) (xs : List α),
    ∀ x ∈ (run value n xs).take n, ∀ y ∈ (run value n xs).drop n, value y ≤ value x

/-- Sorting all of the entries is one way to do it. -/
instance : Inhabited PartialSort where
  default := {
    run := fun value _ xs => xs.mergeSort fun x y => value y ≤ value x
    perm := fun value _ xs => List.mergeSort_perm xs _
    sorted := fun value n xs => (sorted_mergeSort value xs).sublist (List.take_sublist n _)
    least := by
      intro α value n xs
      have h := sorted_mergeSort value xs
      rw [← List.take_append_drop n (xs.mergeSort _)] at h
      exact (List.pairwise_append.mp h).2.2 }

/-- `TimeProfilerConfig`; a count of 0 is no limit, and so is a negative depth. -/
structure TimeConfig where
  sort : Option SortKey
  count : Nat
  maxDepth : Int

/-- A row: where the entry stands in the tree, and which of its siblings it is. -/
structure ModuleRow where
  layer : Nat
  num : Nat
  view : View

section Rows

variable (std : PartialSort) (cfg : TimeConfig)

/-- How many of so many siblings are printed. -/
def TimeConfig.numEntries (size : Nat) : Nat :=
  if cfg.count = 0 ∨ size < cfg.count then size else cfg.count

/-- Siblings in the order that sorting leaves them in; the first of them are printed. -/
def TimeConfig.arrange {α : Type} (view : α → View) (xs : List α) : List α :=
  match cfg.sort with
  | some key => std.run (key.value ∘ view) (cfg.numEntries xs.length) xs
  | none => xs

/-- The rows of siblings, each with the rows below it. -/
def siblingRows (layer : Nat) (num : Nat) : List (View × List ModuleRow) → List ModuleRow
  | [] => []
  | x :: xs =>
      { layer := layer, num := num, view := x.1 } :: (x.2 ++ siblingRows layer (num + 1) xs)

/-! `print_recursive` and `print_children`. What is below an entry does not depend on where it
stands among its siblings, so that its rows can be collected before these are sorted. -/

mutual

def TreeEntry.rows (layer : Nat) : TreeEntry → List ModuleRow
  | .entry _ children =>
      if 0 ≤ cfg.maxDepth ∧ cfg.maxDepth < layer then []
      else
        siblingRows layer 1 ((cfg.arrange std Prod.fst (rowsBelow (layer + 1) children)).take
          (cfg.numEntries children.length))

def rowsBelow (layer : Nat) : List TreeEntry → List (View × List ModuleRow)
  | [] => []
  | e :: es => (e.view, e.rows layer) :: rowsBelow layer es

end

end Rows

/-! ## The rows and the tree -/

/-! The active modules, each with its layer and above those it calls. What an inactive module calls
is left out with it. -/

mutual

def ProfilerNode.activeBelow (layer : Nat) : ProfilerNode → List (Nat × View)
  | .node _ stats children => activeModules stats layer children

def activeModules (caller : TimeStats) (layer : Nat) : List ProfilerNode → List (Nat × View)
  | [] => []
  | n :: ns =>
      if n.stats.isActive then
        (layer, { name := n.name, stats := n.stats, callerStats := caller }) ::
          (n.activeBelow (layer + 1) ++ activeModules caller layer ns)
      else activeModules caller layer ns

end

def ModuleRow.place (r : ModuleRow) : Nat × View := (r.layer, r.view)

section Tree

variable (std : PartialSort) (cfg : TimeConfig)

theorem siblingRows_place (layer num : Nat) (xs : List (View × List ModuleRow)) :
    (siblingRows layer num xs).map ModuleRow.place =
      xs.flatMap fun x => (layer, x.1) :: x.2.map ModuleRow.place := by
  induction xs generalizing num with
  | nil => rfl
  | cons x xs ih =>
      rw [siblingRows, List.map_cons, List.map_append, ih, List.flatMap_cons]
      rfl

theorem mem_siblingRows {layer num : Nat} {xs : List (View × List ModuleRow)} {r : ModuleRow}
    (h : r ∈ siblingRows layer num xs) : r.layer = layer ∨ ∃ x ∈ xs, r ∈ x.2 := by
  induction xs generalizing num with
  | nil => cases h
  | cons x xs ih =>
      rw [siblingRows, List.mem_cons, List.mem_append] at h
      rcases h with rfl | h | h
      · exact Or.inl rfl
      · exact Or.inr ⟨x, List.mem_cons_self, h⟩
      · obtain hlayer | ⟨y, hy, hr⟩ := ih h
        · exact Or.inl hlayer
        · exact Or.inr ⟨y, List.mem_cons_of_mem x hy, hr⟩

theorem siblingRows_map {α : Type} (layer num : Nat) (f : α → View × List ModuleRow)
    (xs : List α) :
    siblingRows layer num (xs.map f) = (xs.zipIdx num).flatMap fun x =>
      { layer := layer, num := x.2, view := (f x.1).1 } :: (f x.1).2 := by
  induction xs generalizing num with
  | nil => rfl
  | cons x xs ih =>
      rw [List.map_cons, siblingRows, ih, List.zipIdx_cons, List.flatMap_cons, List.cons_append]

theorem rowsBelow_eq_map (layer : Nat) (es : List TreeEntry) :
    rowsBelow std cfg layer es = es.map fun e => (e.view, e.rows std cfg layer) := by
  induction es with
  | nil => rw [rowsBelow, List.map_nil]
  | cons e es ih => rw [rowsBelow, ih, List.map_cons]

theorem arrange_perm {α : Type} (view : α → View) (xs : List α) :
    (cfg.arrange std view xs).Perm xs := by
  unfold TimeConfig.arrange
  split
  · exact std.perm _ _ xs
  · exact List.Perm.refl xs

theorem view_entry (caller : TimeStats) (n : ProfilerNode) :
    (n.entry caller).view = { name := n.name, stats := n.stats, callerStats := caller } := by
  cases n with
  | node name stats children => rw [ProfilerNode.entry]; rfl

/-! Without a limit each of them has a row, and only one. -/

mutual

theorem rows_perm (hcount : cfg.count = 0) (hdepth : cfg.maxDepth < 0) (caller : TimeStats)
    (layer : Nat) (n : ProfilerNode) :
    (((n.entry caller).rows std cfg layer).map ModuleRow.place).Perm (n.activeBelow layer) := by
  cases n with
  | node name stats children =>
      have hshown : ¬ (0 ≤ cfg.maxDepth ∧ cfg.maxDepth < layer) := by omega
      have harranged := arrange_perm std cfg Prod.fst
        (rowsBelow std cfg (layer + 1) (activeEntries stats children))
      have hall : cfg.numEntries (activeEntries stats children).length =
          (cfg.arrange std Prod.fst
            (rowsBelow std cfg (layer + 1) (activeEntries stats children))).length := by
        rw [harranged.length_eq, rowsBelow_eq_map, List.length_map]
        exact if_pos (Or.inl hcount)
      rw [ProfilerNode.entry, TreeEntry.rows, if_neg hshown, siblingRows_place, hall,
        List.take_length, ProfilerNode.activeBelow]
      exact (harranged.flatMap_right _).trans (rowsBelow_perm hcount hdepth stats layer children)

theorem rowsBelow_perm (hcount : cfg.count = 0) (hdepth : cfg.maxDepth < 0) (caller : TimeStats)
    (layer : Nat) (ns : List ProfilerNode) :
    ((rowsBelow std cfg (layer + 1) (activeEntries caller ns)).flatMap fun x =>
        (layer, x.1) :: x.2.map ModuleRow.place).Perm (activeModules caller layer ns) := by
  cases ns with
  | nil =>
      rw [activeEntries, rowsBelow, activeModules]
      exact List.Perm.nil
  | cons n ns =>
      rw [activeEntries, activeModules]
      split
      · rw [rowsBelow, List.flatMap_cons, view_entry, List.cons_append]
        exact ((rows_perm hcount hdepth caller (layer + 1) n).append
          (rowsBelow_perm hcount hdepth caller layer ns)).cons _
      · exact rowsBelow_perm hcount hdepth caller layer ns

end

/-! No row is below the depth. -/

mutual

theorem layer_of_mem_rows (layer : Nat) (e : TreeEntry) :
    ∀ r ∈ e.rows std cfg layer, layer ≤ r.layer ∧ (0 ≤ cfg.maxDepth → r.layer ≤ cfg.maxDepth) := by
  cases e with
  | entry view children =>
      rw [TreeEntry.rows]
      split
      · intro r hr
        cases hr
      · next hshown =>
          intro r hr
          obtain hlayer | ⟨x, hx, hmem⟩ := mem_siblingRows hr
          · omega
          · have hbelow := (arrange_perm std cfg Prod.fst _).subset (List.mem_of_mem_take hx)
            have hr := layer_of_mem_rowsBelow (layer + 1) children x hbelow r hmem
            exact ⟨Nat.le_of_succ_le hr.1, hr.2⟩

theorem layer_of_mem_rowsBelow (layer : Nat) (es : List TreeEntry) :
    ∀ x ∈ rowsBelow std cfg layer es, ∀ r ∈ x.2,
      layer ≤ r.layer ∧ (0 ≤ cfg.maxDepth → r.layer ≤ cfg.maxDepth) := by
  cases es with
  | nil =>
      rw [rowsBelow]
      intro x hx
      cases hx
  | cons e es =>
      rw [rowsBelow, List.forall_mem_cons]
      exact ⟨layer_of_mem_rows layer e, layer_of_mem_rowsBelow layer es⟩

end

/-- How the rows below an entry are laid out: those of its children that are listed are numbered,
and each has its own rows after it. As many are listed as there may be, and if they are sorted then
none of the others comes before them. -/
def ChildRows (e : TreeEntry) (layer : Nat) (listed omitted : List TreeEntry) : Prop :=
  e.rows std cfg layer = (listed.zipIdx 1).flatMap (fun x =>
      { layer := layer, num := x.2, view := x.1.view } :: x.1.rows std cfg (layer + 1)) ∧
    listed.length = cfg.numEntries e.children.length ∧
    (listed ++ omitted).Perm e.children ∧
    ∀ key, cfg.sort = some key →
      listed.Pairwise (fun x y => key.value y.view ≤ key.value x.view) ∧
        ∀ x ∈ listed, ∀ y ∈ omitted, key.value y.view ≤ key.value x.view

theorem numEntries_le (size : Nat) : cfg.numEntries size ≤ size := by
  unfold TimeConfig.numEntries
  split
  · exact Nat.le_refl size
  · next h => exact Nat.not_lt.mp fun hlt => h (Or.inr hlt)

theorem rows_children (e : TreeEntry) {layer : Nat}
    (hdepth : 0 ≤ cfg.maxDepth → layer ≤ cfg.maxDepth) :
    ∃ listed omitted, ChildRows std cfg e layer listed omitted := by
  cases e with
  | entry view children =>
      have hshown : ¬ (0 ≤ cfg.maxDepth ∧ cfg.maxDepth < layer) := fun h =>
        absurd (hdepth h.1) (Int.not_le.mpr h.2)
      let below : TreeEntry → View × List ModuleRow := fun e => (e.view, e.rows std cfg (layer + 1))
      let n := cfg.numEntries children.length
      -- the entries in the order that sorting has left them in
      obtain ⟨sorted, harranged, hperm⟩ : ∃ sorted : List TreeEntry,
          cfg.arrange std Prod.fst (children.map below) = sorted.map below ∧
            sorted.Perm children := by
        have h : Relation.Comp (· = List.map below ·) List.Perm
            (cfg.arrange std Prod.fst (children.map below)) children := by
          rw [List.eq_map_comp_perm]
          exact arrange_perm std cfg Prod.fst (children.map below)
        exact h
      refine ⟨sorted.take n, sorted.drop n, ?_, ?_, ?_, ?_⟩
      · rw [TreeEntry.rows, if_neg hshown, rowsBelow_eq_map, harranged, ← List.map_take,
          siblingRows_map]
      · apply List.length_take_of_le
        rw [hperm.length_eq]
        exact numEntries_le cfg children.length
      · rw [List.take_append_drop]
        exact hperm
      · intro key hkey
        have hsort : sorted.map below =
            std.run (key.value ∘ Prod.fst) n (children.map below) := by
          rw [← harranged, TimeConfig.arrange, hkey, List.length_map]
        have hsorted := std.sorted (key.value ∘ Prod.fst) n (children.map below)
        have hleast := std.least (key.value ∘ Prod.fst) n (children.map below)
        rw [← hsort, ← List.map_take] at hsorted hleast
        rw [← List.map_drop] at hleast
        refine ⟨List.pairwise_map.mp hsorted, ?_⟩
        intro x hx y hy
        exact hleast _ (List.mem_map_of_mem hx) _ (List.mem_map_of_mem hy)

theorem rows_of_children_nil {e : TreeEntry} (h : e.children = []) (layer : Nat) :
    e.rows std cfg layer = [] := by
  by_cases hdepth : 0 ≤ cfg.maxDepth → layer ≤ cfg.maxDepth
  · obtain ⟨listed, omitted, hrows, -, hperm, -⟩ := rows_children std cfg e hdepth
    rw [h] at hperm
    have hlisted : listed = [] := (List.append_eq_nil_iff.mp hperm.eq_nil).1
    rw [hrows, hlisted]
    rfl
  · obtain ⟨hpos, hcut⟩ := Classical.not_imp.mp hdepth
    cases e with
    | entry view children => rw [TreeEntry.rows, if_pos ⟨hpos, Int.not_le.mp hcut⟩]

end Tree

end SnortOptimizer.Profiler
