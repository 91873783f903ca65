import Phux.Rectangles
import Phux.Snapshot

/-! The client's pane tiling: the walk that gives every leaf of a split tree its rectangle, the
rasteriser of the dividers between them, and the hit test of a mouse event against both. -/

namespace Phux

open Rectangles

inductive NodeStep where
  | left | right
deriving DecidableEq

abbrev NodePath := List NodeStep

structure LayoutState where
  tree : Option LayoutNode
  focus : Option ResourceId

structure DividerSegment where
  split : SplitDir
  a0 : Nat
  a1 : Nat
  cross : Nat
  nodePath : NodePath
deriving DecidableEq

def maxCell : Nat := 65535

def minLeafCols : Nat := 2

def minLeafRows : Nat := 1

def saturatingAdd (a b : Nat) : Nat := min (a + b) maxCell

def minDims : LayoutNode → Nat × Nat
  | .leaf _ => (minLeafCols, minLeafRows)
  | .split dir _ left right =>
    let (lw, lh) := minDims left
    let (rw, rh) := minDims right
    match dir with
    | .horizontal => (saturatingAdd (saturatingAdd lw rw) 1, max lh rh)
    | .vertical => (max lw rw, saturatingAdd (saturatingAdd lh rh) 1)

/-- Where a ratio cuts an extent: `split_dim`, whose rounding is left open. -/
structure RatioCut where
  splitDim : Nat → F32 → Nat
  le : ∀ total ratio, splitDim total ratio ≤ total

namespace RatioCut

variable (cut : RatioCut)

def freezeSplitDim (content : Nat) (ratio : F32) (minLow minHigh : Nat) : Nat :=
  let low := cut.splitDim content ratio
  if minLow + minHigh ≤ maxCell ∧ minLow + minHigh ≤ content then
    max minLow (min low (content - minHigh))
  else low

def lowShare (freeze : Bool) (content : Nat) (ratio : F32) (minLow minHigh : Nat) : Nat :=
  if freeze then cut.freezeSplitDim content ratio minLow minHigh
  else cut.splitDim content ratio

/-- The divider segments of a subtree under `bounds`, and the rectangles of its leaves, in the
order the walk comes by them. -/
def walkLayoutAt (freeze : Bool) :
    LayoutNode → Rect → NodePath → List DividerSegment × List (ResourceId × Rect)
  | .leaf pane, bounds, _ => ([], [(pane, bounds)])
  | .split .horizontal ratio left right, bounds, path =>
    let contentW := bounds.w - 1
    let leftW := cut.lowShare freeze contentW ratio (minDims left).1 (minDims right).1
    let rightW := contentW - leftW
    let dividerX := bounds.x + leftW
    -- at zero width the subtree is invisible and has no divider
    let segment := if 1 ≤ bounds.w then
        [⟨.horizontal, bounds.y, bounds.y + (bounds.h - 1), dividerX, path⟩]
      else []
    let lefts := walkLayoutAt freeze left ⟨bounds.x, bounds.y, leftW, bounds.h⟩ (path ++ [.left])
    let rights := walkLayoutAt freeze right
      ⟨if 1 ≤ bounds.w then dividerX + 1 else bounds.x, bounds.y, rightW, bounds.h⟩
      (path ++ [.right])
    (segment ++ lefts.1 ++ rights.1, lefts.2 ++ rights.2)
  | .split .vertical ratio left right, bounds, path =>
    let contentH := bounds.h - 1
    let topH := cut.lowShare freeze contentH ratio (minDims left).2 (minDims right).2
    let botH := contentH - topH
    let dividerY := bounds.y + topH
    let segment := if 1 ≤ bounds.h then
        [⟨.vertical, bounds.x, bounds.x + (bounds.w - 1), dividerY, path⟩]
      else []
    let lefts := walkLayoutAt freeze left ⟨bounds.x, bounds.y, bounds.w, topH⟩ (path ++ [.left])
    let rights := walkLayoutAt freeze right
      ⟨bounds.x, if 1 ≤ bounds.h then dividerY + 1 else bounds.y, bounds.w, botH⟩
      (path ++ [.right])
    (segment ++ lefts.1 ++ rights.1, lefts.2 ++ rights.2)

def walkLayout (node : LayoutNode) (bounds : Rect) :
    List DividerSegment × List (ResourceId × Rect) :=
  cut.walkLayoutAt true node bounds []

end RatioCut

/-- What a run of inserts leaves in the map of rectangles: the last one of each pane. -/
def rectMap : List (ResourceId × Rect) → List (ResourceId × Rect)
  | [] => []
  | entry :: rest =>
    if (rest.map Prod.fst).contains entry.1 then rectMap rest else entry :: rectMap rest

structure DividerEdges where
  north : Bool
  east : Bool
  south : Bool
  west : Bool
deriving DecidableEq

def DividerEdges.none : DividerEdges := ⟨false, false, false, false⟩

abbrev DividerGrid := List (Cell × DividerEdges)

namespace DividerGrid

def edit (cell : Cell) (change : DividerEdges → DividerEdges) : DividerGrid → DividerGrid
  | [] => [(cell, change .none)]
  | (c, edges) :: rest =>
    if c = cell then (c, change edges) :: rest else (c, edges) :: edit cell change rest

def has (grid : DividerGrid) (cell : Cell) : Bool := grid.any fun entry => entry.1 = cell

end DividerGrid

def inclusive (first last : Nat) : List Nat := List.range' first (last + 1 - first)

namespace DividerSegment

def layDownVerticalLine (seg : DividerSegment) (vcols vrows : Nat) (grid : DividerGrid) :
    DividerGrid :=
  if vcols ≤ seg.cross then grid
  else
    (inclusive seg.a0 (min seg.a1 (vrows - 1))).foldl (fun grid y =>
      grid.edit (seg.cross, y) fun edges =>
        { edges with
          north := edges.north || decide (seg.a0 < y)
          south := edges.south || decide (y < seg.a1) }) grid

def layDownHorizontalLine (seg : DividerSegment) (vcols vrows : Nat) (grid : DividerGrid) :
    DividerGrid :=
  if vrows ≤ seg.cross then grid
  else
    (inclusive seg.a0 (min seg.a1 (vcols - 1))).foldl (fun grid x =>
      grid.edit (x, seg.cross) fun edges =>
        { edges with
          west := edges.west || decide (seg.a0 < x)
          east := edges.east || decide (x < seg.a1) }) grid

def layDown (seg : DividerSegment) (viewport : Nat × Nat) (grid : DividerGrid) : DividerGrid :=
  match seg.split with
  | .horizontal => seg.layDownVerticalLine viewport.1 viewport.2 grid
  | .vertical => seg.layDownHorizontalLine viewport.1 viewport.2 grid

def cells (seg : DividerSegment) (viewport : Nat × Nat) : List Cell :=
  match seg.split with
  | .horizontal =>
    if seg.cross < viewport.1 then
      (inclusive seg.a0 (min seg.a1 (viewport.2 - 1))).map fun y => (seg.cross, y)
    else []
  | .vertical =>
    if seg.cross < viewport.2 then
      (inclusive seg.a0 (min seg.a1 (viewport.1 - 1))).map fun x => (x, seg.cross)
    else []

end DividerSegment

/-- An edge towards each neighbour that is a divider cell itself. Only the presence of a
neighbour matters, so the order in which the cells are visited does not. -/
def DividerEdges.inheritJunctions (grid : DividerGrid) (cell : Cell) (edges : DividerEdges) :
    DividerEdges where
  north := edges.north || (decide (0 < cell.2) && grid.has (cell.1, cell.2 - 1))
  south := edges.south || grid.has (cell.1, cell.2 + 1)
  east := edges.east || grid.has (cell.1 + 1, cell.2)
  west := edges.west || (decide (0 < cell.1) && grid.has (cell.1 - 1, cell.2))

def inheritJunctionEdges (grid : DividerGrid) : DividerGrid :=
  grid.map fun entry => (entry.1, entry.2.inheritJunctions grid entry.1)

def pickBoxChar (edges : DividerEdges) : Char :=
  match edges.north, edges.east, edges.south, edges.west with
  | false, false, false, false => ' '
  | true, true, true, true => '┼'
  | true, false, true, true => '┤'
  | true, true, true, false => '├'
  | true, true, false, true => '┴'
  | false, true, true, true => '┬'
  | false, true, true, false => '┌'
  | false, false, true, true => '┐'
  | true, true, false, false => '└'
  | true, false, false, true => '┘'
  | _, false, _, false => '│'
  | false, _, false, _ => '─'

structure DividerCell where
  x : Nat
  y : Nat
  ch : Char
deriving DecidableEq

def DividerCell.cell (divider : DividerCell) : Cell := (divider.x, divider.y)

def rowMajor (a b : Cell × DividerEdges) : Prop :=
  a.1.2 < b.1.2 ∨ a.1.2 = b.1.2 ∧ a.1.1 ≤ b.1.1

instance : DecidableRel rowMajor := fun a b =>
  inferInstanceAs (Decidable (a.1.2 < b.1.2 ∨ a.1.2 = b.1.2 ∧ a.1.1 ≤ b.1.1))

def intoDividerCells (grid : DividerGrid) : List DividerCell :=
  (grid.insertionSort rowMajor).map fun entry => ⟨entry.1.1, entry.1.2, pickBoxChar entry.2⟩

def rasterize (segments : List DividerSegment) (viewport : Nat × Nat) : List DividerCell :=
  intoDividerCells (inheritJunctionEdges
    (segments.foldl (fun grid seg => seg.layDown viewport grid) []))

structure DividerHit where
  nodePath : NodePath
  axis : SplitDir
  cells : List Cell
deriving DecidableEq

def dividerHits (segments : List DividerSegment) (viewport : Nat × Nat) : List DividerHit :=
  segments.map fun seg => ⟨seg.nodePath, seg.split, seg.cells viewport⟩

structure PaneLayout where
  viewport : Nat × Nat
  rects : List (ResourceId × Rect)
  dividers : List DividerCell
  dividerHits : List DividerHit

namespace RatioCut

variable (cut : RatioCut)

def computeLayoutIn (layout : LayoutState) (content : Rect) (viewport : Nat × Nat) : PaneLayout :=
  match layout.tree with
  | none => ⟨viewport, [], [], []⟩
  | some tree =>
    if content.w = 0 ∨ content.h = 0 then ⟨viewport, [], [], []⟩
    else
      let (segments, inserts) := cut.walkLayout tree content
      ⟨viewport, rectMap inserts, rasterize segments viewport, dividerHits segments viewport⟩

/-- The start and length, along its axis, of what the ratio of the split at `path` divides. -/
def splitContentSpanAt : LayoutNode → Rect → NodePath → Option (Nat × Nat)
  | .leaf _, _, _ => none
  | .split .horizontal ratio left right, bounds, path =>
    let contentLen := bounds.w - 1
    let low := cut.freezeSplitDim contentLen ratio (minDims left).1 (minDims right).1
    match path with
    | [] => if contentLen = 0 then none else some (bounds.x, contentLen)
    | .left :: rest => splitContentSpanAt left ⟨bounds.x, bounds.y, low, bounds.h⟩ rest
    | .right :: rest =>
      splitContentSpanAt right
        ⟨if 1 ≤ bounds.w then bounds.x + low + 1 else bounds.x, bounds.y, contentLen - low,
          bounds.h⟩ rest
  | .split .vertical ratio left right, bounds, path =>
    let contentLen := bounds.h - 1
    let low := cut.freezeSplitDim contentLen ratio (minDims left).2 (minDims right).2
    match path with
    | [] => if contentLen = 0 then none else some (bounds.y, contentLen)
    | .left :: rest => splitContentSpanAt left ⟨bounds.x, bounds.y, bounds.w, low⟩ rest
    | .right :: rest =>
      splitContentSpanAt right
        ⟨bounds.x, if 1 ≤ bounds.h then bounds.y + low + 1 else bounds.y, bounds.w,
          contentLen - low⟩ rest

def paneRectsIn (tree : LayoutNode) (content : Rect) : List (ResourceId × Rect) :=
  rectMap (cut.walkLayout tree content).2

end RatioCut

inductive RouteDecision where
  | pane (target : ResourceId) (paneX paneY : Nat) (focusChanged : Bool)
  | divider (nodePath : NodePath) (axis : SplitDir)
  | miss
  | noFocus
deriving DecidableEq

def RatioCut.routeMouseEvent (cut : RatioCut) (layout : LayoutState) (content : Rect)
    (viewport : Nat × Nat) (mouse : Cell) : RouteDecision :=
  if layout.tree.isNone then .noFocus
  else
    let multi := cut.computeLayoutIn layout content viewport
    if multi.rects.isEmpty then .noFocus
    else
      let cell := (min mouse.1 (viewport.1 - 1), min mouse.2 (viewport.2 - 1))
      match multi.rects.find? fun entry => entry.2.covers cell with
      | some (target, rect) =>
        .pane target (cell.1 - rect.x) (cell.2 - rect.y) (layout.focus ≠ some target)
      | none =>
        match multi.dividerHits.find? fun hit => hit.cells.contains cell with
        | some hit => .divider hit.nodePath hit.axis
        | none => .miss

end Phux
