import Phux.PaneTiling

/-! The minimum pane size, whatever the ratios. -/

namespace Phux

open Rectangles RatioCut

namespace LayoutNode

def leaves : LayoutNode → List ResourceId
  | .leaf pane => [pane]
  | .split _ _ left right => left.leaves ++ right.leaves

/-- `set_ratio_at`: a path that names no split changes nothing. -/
def setRatioAt : LayoutNode → NodePath → F32 → Option LayoutNode
  | .leaf _, _, _ => none
  | .split dir _ left right, [], ratio => some (.split dir ratio left right)
  | .split dir r left right, .left :: rest, ratio =>
    (left.setRatioAt rest ratio).map fun left => .split dir r left right
  | .split dir r left right, .right :: rest, ratio =>
    (right.setRatioAt rest ratio).map fun right => .split dir r left right

def drag (tree : LayoutNode) (drags : List (NodePath × F32)) : LayoutNode :=
  drags.foldl (fun tree d => (tree.setRatioAt d.1 d.2).getD tree) tree

/-- The minimum dimensions before `min_dims` saturates them. -/
def fullDims : LayoutNode → Nat × Nat
  | .leaf _ => (minLeafCols, minLeafRows)
  | .split .horizontal _ left right =>
    (left.fullDims.1 + right.fullDims.1 + 1, max left.fullDims.2 right.fullDims.2)
  | .split .vertical _ left right =>
    (max left.fullDims.1 right.fullDims.1, left.fullDims.2 + right.fullDims.2 + 1)

theorem minDims_eq (node : LayoutNode) :
    minDims node = (min node.fullDims.1 maxCell, min node.fullDims.2 maxCell) := by
  induction node with
  | leaf pane => rfl
  | split dir ratio left right ihl ihr =>
    cases dir <;> simp only [minDims, fullDims, saturatingAdd, ihl, ihr, Prod.mk.injEq] <;> omega

theorem setRatioAt_same {tree tree' : LayoutNode} {path : NodePath} {ratio : F32}
    (h : tree.setRatioAt path ratio = some tree') :
    tree'.fullDims = tree.fullDims ∧ tree'.leaves = tree.leaves := by
  induction tree generalizing tree' path with
  | leaf pane => cases h
  | split dir r left right ihl ihr =>
    rcases path with _ | ⟨_ | _, rest⟩
    · cases h
      cases dir <;> exact ⟨rfl, rfl⟩
    · obtain ⟨new, hnew, rfl⟩ := Option.map_eq_some_iff.mp h
      cases dir <;> simp [fullDims, leaves, ihl hnew]
    · obtain ⟨new, hnew, rfl⟩ := Option.map_eq_some_iff.mp h
      cases dir <;> simp [fullDims, leaves, ihr hnew]

theorem drag_same (drags : List (NodePath × F32)) (tree : LayoutNode) :
    (tree.drag drags).fullDims = tree.fullDims ∧ (tree.drag drags).leaves = tree.leaves := by
  induction drags generalizing tree with
  | nil => exact ⟨rfl, rfl⟩
  | cons d drags ih =>
    cases hset : tree.setRatioAt d.1 d.2 with
    | none => simpa [drag, hset] using ih tree
    | some tree' => simpa [drag, hset, setRatioAt_same hset] using ih tree'

end LayoutNode

namespace RatioCut

variable (cut : RatioCut)

/-- The freeze stays in the content, and where both sides have room it leaves each of them its
minimum. -/
theorem lowShare_keeps (content : Nat) (ratio : F32) (low high : Nat) :
    ∃ share, cut.lowShare true content ratio (min low maxCell) (min high maxCell) = share ∧
      share ≤ content ∧
      (content ≤ maxCell → low + high ≤ content → low ≤ share ∧ share + high ≤ content) := by
  refine ⟨_, rfl, cut.lowShare_le true content ratio _ _, fun hcontent hroom => ?_⟩
  have hfits : min low maxCell + min high maxCell ≤ maxCell ∧
      min low maxCell + min high maxCell ≤ content := by omega
  rw [lowShare, if_pos rfl, freezeSplitDim, if_pos hfits]
  omega

/-- A leaf's rectangle is in the bounds, and has the minimum size where the bounds have room
for the subtree. -/
structure Seats (node : LayoutNode) (bounds r : Rect) : Prop where
  within : r.Within bounds
  cols : bounds.w ≤ maxCell → node.fullDims.1 ≤ bounds.w → minLeafCols ≤ r.w
  rows : bounds.h ≤ maxCell → node.fullDims.2 ≤ bounds.h → minLeafRows ≤ r.h

theorem Seats.lift {node child : LayoutNode} {outer inner r : Rect} (h : Seats child inner r)
    (hwithin : inner.Within outer)
    (hcols : outer.w ≤ maxCell → node.fullDims.1 ≤ outer.w → child.fullDims.1 ≤ inner.w)
    (hrows : outer.h ≤ maxCell → node.fullDims.2 ≤ outer.h → child.fullDims.2 ≤ inner.h) :
    Seats node outer r := by
  have hright := hwithin.right
  have hbottom := hwithin.bottom
  have hleft := hwithin.left
  have htop := hwithin.top
  refine ⟨h.within.trans hwithin, fun hw hfull => ?_, fun hh hfull => ?_⟩
  · exact h.cols (by omega) (hcols hw hfull)
  · exact h.rows (by omega) (hrows hh hfull)

theorem walk_seats {node : LayoutNode} (bounds : Rect) (path : NodePath) :
    (cut.walkLayoutAt true node bounds path).2.map Prod.fst = node.leaves ∧
      ∀ entry ∈ (cut.walkLayoutAt true node bounds path).2, Seats node bounds entry.2 := by
  induction node generalizing bounds path with
  | leaf pane => simpa [walkLayoutAt, LayoutNode.leaves] using ⟨.refl bounds, fun _ => id, fun _ => id⟩
  | split dir ratio left right ihl ihr =>
    -- one of the two extents is cut, the other one is handed down whole
    obtain ⟨width, hwidth, hw, hcols⟩ :=
      cut.lowShare_keeps (bounds.w - 1) ratio left.fullDims.1 right.fullDims.1
    obtain ⟨height, hheight, hh, hrows⟩ :=
      cut.lowShare_keeps (bounds.h - 1) ratio left.fullDims.2 right.fullDims.2
    cases dir
    all_goals
      simp only [walkLayoutAt, left.minDims_eq, right.minDims_eq, hwidth, hheight, List.map_append,
        ihl, ihr, List.forall_mem_append, LayoutNode.leaves, true_and]
      refine ⟨fun entry hentry => ((ihl _ _).2 entry hentry).lift ?_ ?_ ?_,
        fun entry hentry => ((ihr _ _).2 entry hentry).lift ?_ ?_ ?_⟩
      all_goals first | constructor | skip
      all_goals
        simp only [LayoutNode.fullDims]
        try split_ifs
        all_goals omega

end RatioCut

/-- Whatever the ratios and however the dividers were dragged, every leaf of the tree has a
rectangle inside the content, and one of at least the minimum size if the content has room for
the tree. -/
theorem leaves_keep_minimum (cut : RatioCut) (tree : LayoutNode) (drags : List (NodePath × F32))
    (content : Rect) (hw : content.w ≤ maxCell) (hh : content.h ≤ maxCell) :
    let rects := (cut.walkLayout (tree.drag drags) content).2
    rects.map Prod.fst = tree.leaves ∧ (∀ entry ∈ rects, entry.2.Within content) ∧
      (tree.fullDims.1 ≤ content.w → tree.fullDims.2 ≤ content.h →
        ∀ entry ∈ rects, minLeafCols ≤ entry.2.w ∧ minLeafRows ≤ entry.2.h) := by
  intro rects
  obtain ⟨hdims, hleaves⟩ := tree.drag_same drags
  obtain ⟨hnames, hseats⟩ := cut.walk_seats content []
  refine ⟨hnames.trans hleaves, fun entry hentry => (hseats entry hentry).within,
    fun hcols hrows entry hentry => ?_⟩
  rw [← hdims] at hcols hrows
  exact ⟨(hseats entry hentry).cols hw hcols, (hseats entry hentry).rows hh hrows⟩

theorem stacked_pair_keeps_minimum :
    let rects := (halves.walkLayout (stackedPair.drag [([.right], .half)]) ⟨0, 0, 5, 3⟩).2
    rects.map Prod.fst = stackedPair.leaves ∧
      ∀ entry ∈ rects, minLeafCols ≤ entry.2.w ∧ minLeafRows ≤ entry.2.h := by
  have hkeeps := leaves_keep_minimum .halves stackedPair [([.right], .half)] ⟨0, 0, 5, 3⟩
    (by decide) (by decide)
  exact ⟨hkeeps.1, hkeeps.2.2 (by decide) (by decide)⟩

end Phux
