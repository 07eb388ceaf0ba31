import SnortOptimizer.Extractor.Index
import SnortOptimizer.Time.InvertedWindows

/-!
# Looking a packet up in the extractor's index

Merging the windows of a key and looking an instant up by bisection should say the same as asking
window by window. It does where no flow has a negative duration. The table may hold such flows, and
`parseWindow` lets them through: their windows end before they start, and one of them behind a flow
can hide the flow from the bisection.
-/

namespace SnortOptimizer.Extractor

open Text Time Number

/-- The bisection in the merged windows of a key says whether one of the windows of the key contains
the instant. -/
def LookedUpRight (lib : Library) (index : Index) (key : FlowKey) (nano : Int) : Prop :=
  inAnyWindow nano (mergeIndexWindows lib index key) = true ↔ ∃ w ∈ index key, w.Contains nano

/-- **The lookup is right** except at the instants that lie in a window and that the bisection loses
on its way, to a window that opens behind the instant and ends before it. -/
theorem lookedUpRight_iff (lib : Library) (index : Index) (key : FlowKey) (nano : Int) :
    LookedUpRight lib index key nano ↔
      ((∃ w ∈ index key, w.Contains nano) → Straight (lib.sort (index key)) nano) := by
  have hmem : ∀ w, w ∈ lib.sort (index key) ↔ w ∈ index key := fun w =>
    (lib.sort_perm (index key)).mem_iff
  have hfound := inAnyWindow_mergeWindows (lib.sort_sorted (index key)) nano
  simp only [hmem] at hfound
  rw [LookedUpRight, mergeIndexWindows, hfound]
  exact and_iff_left_iff_imp

/-! ## A flow behind which another ends before it starts -/

/-- A scan of eight milliseconds, and one five milliseconds after its end that took -24. -/
def scans : List (Option (List String)) :=
  [some ["10.0.0.1", "40000", "10.0.0.2", "80", "6", "2024-01-01 00:00:00", "8", "PortScan"],
    some ["10.0.0.1", "40000", "10.0.0.2", "80", "6", "2024-01-01 00:00:00.013", "-24", "PortScan"]]

def scanKey : FlowKey :=
  { srcIP := { a := 10, b := 0, c := 0, d := 1 }, dstIP := { a := 10, b := 0, c := 0, d := 2 }
    srcPort := 40000, dstPort := 80, protocol := 6 }

/-- **The second scan hides the first**: three milliseconds into the first one, the lookup says
no. -/
theorem negative_duration_hides_scan :
    ∃ built, buildMaliciousIndex plainLibrary false (.ok (neededColumns, scans)) = .ok built ∧
      ¬ ∀ nano, LookedUpRight plainLibrary built.1 scanKey nano := by
  have hbuild : ∃ built,
      buildMaliciousIndex plainLibrary false (.ok (neededColumns, scans)) = .ok built ∧
        built.1 scanKey =
          [⟨1704067200000000000, 1704067200008000000⟩,
            ⟨1704067200013000000, 1704067199989000000⟩] := by
    refine ⟨_, rfl, ?_⟩
    decide +kernel
  obtain ⟨built, hbuilt, hwindows⟩ := hbuild
  refine ⟨built, hbuilt, ?_⟩
  intro hright
  have hmiss := (hright 1704067200003000000).mpr
  rw [mergeIndexWindows, hwindows] at hmiss
  have hfound := hmiss ⟨_, List.mem_cons_self, by decide, by decide⟩
  revert hfound
  decide +kernel

end SnortOptimizer.Extractor
