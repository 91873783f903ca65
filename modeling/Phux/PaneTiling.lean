import Phux.PaneLayout

/-! The pane tiling is exact: which cells the leaves and the dividers of a split tree take. -/

namespace Phux

open Rectangles Rect DividerCell RatioCut List Prod

/-- Where the walk puts a split: its bounds, and the share of its low side. -/
structure SplitPlace where
  dir : SplitDir
  bounds : Rect
  low : Nat
  path : NodePath

namespace SplitPlace

def line (s : SplitPlace) : List Rect :=
  match s.dir with
  | .horizontal =>
    if 1 ≤ s.bounds.w then [⟨s.bounds.x + s.low, s.bounds.y, 1, s.bounds.h⟩] else []
  | .vertical =>
    if 1 ≤ s.bounds.h then [⟨s.bounds.x, s.bounds.y + s.low, s.bounds.w, 1⟩] else []

def segment (s : SplitPlace) : List DividerSegment :=
  match s.dir with
  | .horizontal =>
    if 1 ≤ s.bounds.w then
      [⟨.horizontal, s.bounds.y, s.bounds.y + (s.bounds.h - 1), s.bounds.x + s.low, s.path⟩]
    else []
  | .vertical =>
    if 1 ≤ s.bounds.h then
      [⟨.vertical, s.bounds.x, s.bounds.x + (s.bounds.w - 1), s.bounds.y + s.low, s.path⟩]
    else []

/-- The split has a divider but no extent across its axis, so that its line has no cell. -/
def flat (s : SplitPlace) : Bool :=
  match s.dir with
  | .horizontal => decide (1 ≤ s.bounds.w ∧ s.bounds.h = 0)
  | .vertical => decide (1 ≤ s.bounds.h ∧ s.bounds.w = 0)

def origin (s : SplitPlace) : Cell :=
  match s.dir with
  | .horizontal => (s.bounds.x + s.low, s.bounds.y)
  | .vertical => (s.bounds.x, s.bounds.y + s.low)

end SplitPlace

namespace RatioCut

variable (cut : RatioCut)

def places (freeze : Bool) : LayoutNode → Rect → NodePath → List SplitPlace
  | .leaf _, _, _ => []
  | .split .horizontal ratio left right, bounds, path =>
    let low := cut.lowShare freeze (bounds.w - 1) ratio (minDims left).1 (minDims right).1
    ⟨.horizontal, bounds, low, path⟩ ::
      (places freeze left ⟨bounds.x, bounds.y, low, bounds.h⟩ (path ++ [.left]) ++
        places freeze right
          ⟨if 1 ≤ bounds.w then bounds.x + low + 1 else bounds.x, bounds.y, bounds.w - 1 - low,
            bounds.h⟩ (path ++ [.right]))
  | .split .vertical ratio left right, bounds, path =>
    let low := cut.lowShare freeze (bounds.h - 1) ratio (minDims left).2 (minDims right).2
    ⟨.vertical, bounds, low, path⟩ ::
      (places freeze left ⟨bounds.x, bounds.y, bounds.w, low⟩ (path ++ [.left]) ++
        places freeze right
          ⟨bounds.x, if 1 ≤ bounds.h then bounds.y + low + 1 else bounds.y, bounds.w,
            bounds.h - 1 - low⟩ (path ++ [.right]))

theorem lowShare_le (freeze : Bool) (area : Nat) (ratio : F32) (minLow minHigh : Nat) :
    cut.lowShare freeze area ratio minLow minHigh ≤ area := by
  unfold lowShare
  split_ifs with hfreeze
  · have hcut := cut.le area ratio
    unfold freezeSplitDim
    dsimp only
    split_ifs with hfits
    · omega
    · exact hcut
  · exact cut.le area ratio

variable {cut} {freeze : Bool} {bounds : Rect} {path : NodePath} (node : LayoutNode)

theorem segments_eq_places (bounds : Rect) (path : NodePath) :
    (cut.walkLayoutAt freeze node bounds path).1 =
      (cut.places freeze node bounds path).flatMap SplitPlace.segment := by
  induction node generalizing bounds path with
  | leaf pane => rfl
  | split dir ratio left right ihl ihr =>
    cases dir <;>
      simp only [walkLayoutAt, places, flatMap_cons, flatMap_append, ihl, ihr,
        SplitPlace.segment, append_assoc]

variable {node}

/-- The leaves of a subtree and the lines of its dividers lie over each cell of its bounds
once, and over no other. -/
theorem walk_layers {c : Cell} :
    layers ((cut.walkLayoutAt freeze node bounds path).2.map snd) c +
        layers ((cut.places freeze node bounds path).flatMap SplitPlace.line) c =
      if bounds.covers c = true then 1 else 0 := by
  induction node generalizing bounds path with
  | leaf pane => simp [walkLayoutAt, places]
  | split dir ratio left right ihl ihr =>
    have hgroup : ∀ a b line p q : Nat, a + b + (line + (p + q)) = (a + p) + line + (b + q) := by
      omega
    have hw := cut.lowShare_le freeze (bounds.w - 1) ratio (minDims left).1 (minDims right).1
    have hh := cut.lowShare_le freeze (bounds.h - 1) ratio (minDims left).2 (minDims right).2
    cases dir
    all_goals
      simp only [walkLayoutAt, places, map_append, flatMap_cons, flatMap_append,
        layers_append, SplitPlace.line]
      rw [hgroup, ihl, ihr]
      simp only [apply_ite (layers · c), layers_cons, layers_nil, covers_iff]
      split_ifs <;> omega

/-- What the walk says of every split: it lies in the bounds, its share leaves room for the
divider, and if it is flat its divider's cell is on another divider's line or on the far edge
of the bounds. -/
structure Placed (bounds : Rect) (lines : List Rect) (s : SplitPlace) : Prop where
  within : s.bounds.Within bounds
  low : match s.dir with
    | .horizontal => s.low ≤ s.bounds.w - 1
    | .vertical => s.low ≤ s.bounds.h - 1
  flat : s.flat = true → 0 < layers lines s.origin ∨
    (s.origin.2 = bounds.y + bounds.h ∧ bounds.x ≤ s.origin.1 ∧ s.origin.1 < bounds.x + bounds.w) ∨
    (s.origin.1 = bounds.x + bounds.w ∧ bounds.y ≤ s.origin.2 ∧ s.origin.2 < bounds.y + bounds.h)

/-- A subtree's splits are placed in the whole when the far edges of its bounds are lines, or
far edges, of the whole. -/
theorem Placed.lift {inner outer : Rect} {lines lines' : List Rect} {s : SplitPlace}
    (h : Placed inner lines s) (hwithin : inner.Within outer)
    (hlines : ∀ c, layers lines c ≤ layers lines' c)
    (hbottom : ∀ x, inner.x ≤ x → x < inner.x + inner.w →
      0 < layers lines' (x, inner.y + inner.h) ∨ inner.y + inner.h = outer.y + outer.h)
    (hright : ∀ y, inner.y ≤ y → y < inner.y + inner.h →
      0 < layers lines' (inner.x + inner.w, y) ∨ inner.x + inner.w = outer.x + outer.w) :
    Placed outer lines' s := by
  refine ⟨h.within.trans hwithin, h.low, fun hflat => ?_⟩
  have hleft := hwithin.left
  have hright' := hwithin.right
  have htop := hwithin.top
  have hbottom' := hwithin.bottom
  rcases h.flat hflat with hline | ⟨hy, hx, hx'⟩ | ⟨hx, hy, hy'⟩
  · have hmore := hlines s.origin
    exact .inl (by omega)
  · have hcell : s.origin = (s.origin.1, inner.y + inner.h) := Prod.ext rfl hy
    rcases hbottom s.origin.1 hx hx' with hline | hedge
    · rw [hcell]
      exact .inl hline
    · exact .inr (.inl (by omega))
  · have hcell : s.origin = (inner.x + inner.w, s.origin.2) := Prod.ext hx rfl
    rcases hright s.origin.2 hy hy' with hline | hedge
    · rw [hcell]
      exact .inl hline
    · exact .inr (.inr (by omega))

theorem places_placed (bounds : Rect) (path : NodePath) : ∀ s ∈ cut.places freeze node bounds path,
      Placed bounds ((cut.places freeze node bounds path).flatMap SplitPlace.line) s := by
  induction node generalizing bounds path with
  | leaf pane => exact fun _ h => absurd h not_mem_nil
  | split dir ratio left right ihl ihr =>
    have hw := cut.lowShare_le freeze (bounds.w - 1) ratio (minDims left).1 (minDims right).1
    have hh := cut.lowShare_le freeze (bounds.h - 1) ratio (minDims left).2 (minDims right).2
    cases dir
    all_goals
      simp only [places, flatMap_cons, flatMap_append, mem_cons, mem_append, SplitPlace.line]
      rintro s (rfl | hs | hs)
      · refine ⟨.refl bounds, ‹_›, fun hflat => .inr ?_⟩
        simp only [SplitPlace.flat, decide_eq_true_eq] at hflat
        simp only [SplitPlace.origin]
        omega
      · refine (ihl _ _ s hs).lift (by constructor <;> dsimp only <;> omega)
          (fun c => by simp only [layers_append]; omega) (fun x hfirst hlast => ?_)
          fun y hfirst hlast => ?_
        all_goals
          dsimp only at hfirst hlast ⊢
          split_ifs <;> simp only [layers_append, layers_cons, layers_nil, covers_iff, or_true] <;>
            (try split_ifs) <;> omega
      · refine (ihr _ _ s hs).lift (by constructor <;> dsimp only <;> (try split_ifs) <;> omega)
          (fun c => by simp only [layers_append]; omega) (fun x _ _ => ?_) fun y _ _ => ?_
        all_goals
          dsimp only
          (try split_ifs) <;> omega

theorem walkLayoutAt_span (bounds : Rect) (path : NodePath) :
    ∀ seg ∈ (cut.walkLayoutAt true node bounds path).1, ∃ rest start len,
      seg.nodePath = path ++ rest ∧ start ≤ seg.cross ∧ seg.cross ≤ start + len ∧
      cut.splitContentSpanAt node bounds rest = if len = 0 then none else some (start, len) := by
  induction node generalizing bounds path with
  | leaf pane => exact fun _ h => absurd h not_mem_nil
  | split dir ratio left right ihl ihr =>
    cases dir
    all_goals
      simp only [walkLayoutAt, mem_append]
      rintro seg ((hseg | hseg) | hseg)
      · split at hseg
        · rw [mem_singleton.mp hseg]
          exact ⟨[], _, _, (append_nil _).symm, Nat.le_add_right ..,
            Nat.add_le_add_left (cut.lowShare_le true _ ratio _ _) _, rfl⟩
        · cases hseg
      · obtain ⟨rest, start, len, hpath, hspan⟩ := ihl _ _ seg hseg
        exact ⟨.left :: rest, start, len, by simp [hpath], hspan⟩
      · obtain ⟨rest, start, len, hpath, hspan⟩ := ihr _ _ seg hseg
        exact ⟨.right :: rest, start, len, by simp [hpath], hspan⟩

end RatioCut

theorem mem_inclusive {first last n : Nat} : n ∈ inclusive first last ↔ first ≤ n ∧ n ≤ last := by
  simp only [inclusive, mem_range'_1]
  omega

namespace SplitPlace

/-- What is painted of a split's divider: the cells of its line that are on the screen, and one
cell more if it is flat. -/
theorem mem_segment_cells {bounds : Rect} {lines : List Rect} {s : SplitPlace} {vcols vrows : Nat}
    (hs : RatioCut.Placed bounds lines s) (hcols : bounds.x + bounds.w ≤ vcols)
    (hrows : bounds.y + bounds.h ≤ vrows) (hpos : 0 < vcols ∧ 0 < vrows) (c : Cell) :
    (∃ seg ∈ s.segment, c ∈ seg.cells (vcols, vrows)) ↔
      0 < layers s.line c ∨ (s.flat = true ∧ c = s.origin ∧ c.1 < vcols ∧ c.2 < vrows) := by
  have hleft := hs.within.left
  have hright := hs.within.right
  have htop := hs.within.top
  have hbottom := hs.within.bottom
  have hlow := hs.low
  obtain ⟨dir, place, low, path⟩ := s
  obtain ⟨cx, cy⟩ := c
  cases dir
  all_goals
    dsimp only at hleft hright htop hbottom hlow
    simp only [segment, line, flat, origin]
  case horizontal =>
    by_cases hw : 1 ≤ place.w
    · simp only [hw, ↓reduceIte, mem_singleton, exists_eq_left, DividerSegment.cells,
        layers_cons, layers_nil, covers_iff, true_and, decide_eq_true_eq, Prod.mk.injEq]
      have hcross : place.x + low < vcols := by omega
      simp only [hcross, ↓reduceIte, mem_map, mem_inclusive, Prod.mk.injEq]
      constructor
      · rintro ⟨y, ⟨hy, hy'⟩, rfl, rfl⟩
        by_cases hh : place.h = 0
        · omega
        · left
          split_ifs <;> omega
      · intro h
        refine ⟨cy, ?_, ?_, rfl⟩
        all_goals
          split_ifs at h <;> omega
    · simp [hw]
  case vertical =>
    by_cases hh : 1 ≤ place.h
    · simp only [hh, ↓reduceIte, mem_singleton, exists_eq_left, DividerSegment.cells,
        layers_cons, layers_nil, covers_iff, true_and, decide_eq_true_eq, Prod.mk.injEq]
      have hcross : place.y + low < vrows := by omega
      simp only [hcross, ↓reduceIte, mem_map, mem_inclusive, Prod.mk.injEq]
      constructor
      · rintro ⟨x, ⟨hx, hx'⟩, rfl, rfl⟩
        by_cases hw : place.w = 0
        · omega
        · left
          split_ifs <;> omega
      · intro h
        refine ⟨cx, ?_, rfl, ?_⟩
        all_goals
          split_ifs at h <;> omega
    · simp [hh]

end SplitPlace

namespace DividerGrid

def keys (grid : DividerGrid) : List Cell := grid.map Prod.fst

theorem keys_edit (cell : Cell) (change : DividerEdges → DividerEdges) (grid : DividerGrid) :
    (grid.edit cell change).keys = if cell ∈ grid.keys then grid.keys else grid.keys ++ [cell] := by
  induction grid with
  | nil => simp [edit, keys]
  | cons entry rest ih =>
    obtain ⟨c, edges⟩ := entry
    by_cases hc : c = cell
    · simp [edit, keys, hc]
    · have hc' : cell ≠ c := fun h => hc h.symm
      unfold keys at ih
      simp only [edit, hc, keys, ↓reduceIte, map_cons, mem_cons, hc', false_or, ih]
      split_ifs <;> rfl

theorem keys_foldl_edit {cells : List Cell} (change : Cell → DividerEdges → DividerEdges)
    (grid : DividerGrid) (hgrid : grid.keys.Nodup) :
    (cells.foldl (fun grid c => grid.edit c (change c)) grid).keys.Nodup ∧
      ∀ c, c ∈ (cells.foldl (fun grid c => grid.edit c (change c)) grid).keys ↔
        c ∈ grid.keys ∨ c ∈ cells := by
  induction cells generalizing grid with
  | nil => simp [hgrid]
  | cons cell cells ih =>
    have hkeys := keys_edit cell (change cell) grid
    have hnodup : (grid.edit cell (change cell)).keys.Nodup := by
      rw [hkeys]
      split_ifs with hin
      · exact hgrid
      · exact nodup_append.mpr ⟨hgrid, nodup_singleton cell, by
          intro a ha b hb
          rw [mem_singleton] at hb
          rintro rfl
          exact hin (hb ▸ ha)⟩
    have hmem : ∀ c, c ∈ (grid.edit cell (change cell)).keys ↔ c ∈ grid.keys ∨ c = cell := by
      intro c
      rw [hkeys]
      split_ifs with hin
      · exact ⟨.inl, fun h => h.elim id fun heq => heq ▸ hin⟩
      · simp
    obtain ⟨hdone, hall⟩ := ih (grid.edit cell (change cell)) hnodup
    refine ⟨hdone, fun c => (hall c).trans ?_⟩
    rw [hmem, mem_cons, or_assoc]

end DividerGrid

namespace DividerSegment

theorem layDown_eq {seg : DividerSegment} {vp : Nat × Nat} {grid : DividerGrid} :
    ∃ change : Cell → DividerEdges → DividerEdges, seg.layDown vp grid =
      (seg.cells vp).foldl (fun grid c => grid.edit c (change c)) grid := by
  unfold layDown cells
  cases seg.split with
  | horizontal =>
    refine ⟨fun c edges => { edges with
      north := edges.north || decide (seg.a0 < c.2)
      south := edges.south || decide (c.2 < seg.a1) }, ?_⟩
    by_cases hcross : seg.cross < vp.1
    · simp only [layDownVerticalLine, hcross, Nat.not_le.mpr hcross, ↓reduceIte, foldl_map]
    · simp only [layDownVerticalLine, hcross, Nat.not_lt.mp hcross, ↓reduceIte, foldl_nil]
  | vertical =>
    refine ⟨fun c edges => { edges with
      west := edges.west || decide (seg.a0 < c.1)
      east := edges.east || decide (c.1 < seg.a1) }, ?_⟩
    by_cases hcross : seg.cross < vp.2
    · simp only [layDownHorizontalLine, hcross, Nat.not_le.mpr hcross, ↓reduceIte, foldl_map]
    · simp only [layDownHorizontalLine, hcross, Nat.not_lt.mp hcross, ↓reduceIte, foldl_nil]

theorem keys_layDown (gs : List DividerSegment) (vp : Nat × Nat) (grid : DividerGrid)
    (hgrid : grid.keys.Nodup) : (gs.foldl (fun grid seg => seg.layDown vp grid) grid).keys.Nodup ∧
      ∀ c, c ∈ (gs.foldl (fun grid seg => seg.layDown vp grid) grid).keys ↔
        c ∈ grid.keys ∨ ∃ seg ∈ gs, c ∈ seg.cells vp := by
  induction gs generalizing grid with
  | nil => simp [hgrid]
  | cons seg gs ih =>
    obtain ⟨change, heq⟩ := seg.layDown_eq
    obtain ⟨hnodup, hmem⟩ := DividerGrid.keys_foldl_edit change grid hgrid
    rw [← heq] at hnodup hmem
    obtain ⟨hdone, hall⟩ := ih _ hnodup
    refine ⟨hdone, fun c => (hall c).trans ?_⟩
    rw [hmem, or_assoc, exists_mem_cons_iff]

end DividerSegment

theorem rasterize_cells (gs : List DividerSegment) (vp : Nat × Nat) :
    ((rasterize gs vp).map cell).Nodup ∧ ∀ c, c ∈ (rasterize gs vp).map cell ↔
        ∃ seg ∈ gs, c ∈ seg.cells vp := by
  obtain ⟨hnodup, hmem⟩ := DividerSegment.keys_layDown gs vp [] nodup_nil
  have hperm : ((rasterize gs vp).map cell).Perm
      (DividerGrid.keys (gs.foldl (fun grid seg => seg.layDown vp grid) [])) := by
    have hsort := (perm_insertionSort rowMajor (inheritJunctionEdges
      (gs.foldl (fun grid seg => seg.layDown vp grid) []))).map fst
    simpa [rasterize, intoDividerCells, inheritJunctionEdges, DividerGrid.keys, cell,
      Function.comp_def] using hsort
  refine ⟨hperm.nodup_iff.mpr hnodup, fun c => ?_⟩
  rw [hperm.mem_iff, hmem]
  simp [DividerGrid.keys]

def shadowed : List (ResourceId × Rect) → List Rect
  | [] => []
  | entry :: rest =>
    if (rest.map Prod.fst).contains entry.1 then entry.2 :: shadowed rest else shadowed rest

theorem layers_rectMap {inserts : List (ResourceId × Rect)} {c : Cell} :
    layers ((rectMap inserts).map snd) c + layers (shadowed inserts) c =
      layers (inserts.map snd) c := by
  induction inserts with
  | nil => rfl
  | cons entry rest ih =>
    by_cases hlater : (rest.map fst).contains entry.1 = true
    · simp only [rectMap, shadowed, hlater, ↓reduceIte, layers_cons, map_cons]
      omega
    · simp only [rectMap, shadowed, hlater, ↓reduceIte, layers_cons, map_cons, Bool.false_eq_true]
      omega

/-- Where a painted cell of a layout belongs: under one pane, or on a divider. -/
def PaneLayout.layersAt (layout : PaneLayout) (c : Cell) : Nat :=
  layers (layout.rects.map Prod.snd) c + (layout.dividers.map cell).count c

/-- The panes and the painted dividers take each cell of the content once and no other cell. -/
def PaneLayout.TilesExactly (layout : PaneLayout) (content : Rect) : Prop :=
  ∀ c, layout.layersAt c = if content.covers c = true then 1 else 0

/-- The split is squeezed to nothing across its axis at the far edge of the content, short of
the edge of the screen: the divider it is left with is painted outside. -/
def SplitPlace.spills (content : Rect) (viewport : Nat × Nat) (s : SplitPlace) : Bool :=
  s.flat && !content.covers s.origin && decide (s.origin.1 < viewport.1 ∧ s.origin.2 < viewport.2)

/-- No split spills, and no pane is listed twice with room in a place that is not its last. -/
def RatioCut.Fits (cut : RatioCut) (tree : LayoutNode) (content : Rect) (viewport : Nat × Nat) :
    Prop :=
  (∀ s ∈ cut.places true tree content [], s.spills content viewport = false) ∧
    ∀ c, layers (shadowed (cut.walkLayout tree content).2) c = 0

section

variable {cut : RatioCut} {tree : LayoutNode} {area : Rect} {vcols vrows : Nat}

theorem paneRectsIn_layers (cut : RatioCut) (tree : LayoutNode) (area : Rect) (c : Cell) :
    layers ((cut.paneRectsIn tree area).map snd) c +
        layers (shadowed (cut.walkLayout tree area).2) c +
        layers ((cut.places true tree area []).flatMap SplitPlace.line) c =
      if area.covers c = true then 1 else 0 := by
  have hmap : layers ((cut.paneRectsIn tree area).map snd) c + _ = _ := layers_rectMap
  rw [hmap]
  exact walk_layers

variable (hcols : area.x + area.w ≤ vcols) (hrows : area.y + area.h ≤ vrows)
  (hw : area.w ≠ 0) (hh : area.h ≠ 0)

include hcols hrows hw hh in
theorem mem_dividers (c : Cell) :
    c ∈ (rasterize (cut.walkLayout tree area).1 (vcols, vrows)).map cell ↔
      0 < layers ((cut.places true tree area []).flatMap SplitPlace.line) c ∨
        ∃ s ∈ cut.places true tree area [], s.flat = true ∧ c = s.origin ∧
          c.1 < vcols ∧ c.2 < vrows := by
  have hcells : ∀ s ∈ cut.places true tree area [], (∃ seg ∈ s.segment,
      c ∈ seg.cells (vcols, vrows)) ↔ 0 < layers s.line c ∨
        (s.flat = true ∧ c = s.origin ∧ c.1 < vcols ∧ c.2 < vrows) := fun s hs =>
    SplitPlace.mem_segment_cells (places_placed area [] s hs) hcols hrows ⟨by omega, by omega⟩ c
  rw [(rasterize_cells _ _).2, walkLayout, segments_eq_places]
  simp only [layers_pos, mem_flatMap]
  constructor
  · rintro ⟨seg, ⟨s, hs, hseg⟩, hc⟩
    rcases (hcells s hs).mp ⟨seg, hseg, hc⟩ with hline | hflat
    · obtain ⟨r, hr, hrc⟩ := layers_pos.mp hline
      exact .inl ⟨r, ⟨s, hs, hr⟩, hrc⟩
    · exact .inr ⟨s, hs, hflat⟩
  · rintro (⟨r, ⟨s, hs, hr⟩, hrc⟩ | ⟨s, hs, hflat⟩)
    · obtain ⟨seg, hseg, hc⟩ := (hcells s hs).mpr (.inl (layers_pos.mpr ⟨r, hr, hrc⟩))
      exact ⟨seg, ⟨s, hs, hseg⟩, hc⟩
    · obtain ⟨seg, hseg, hc⟩ := (hcells s hs).mpr (.inr hflat)
      exact ⟨seg, ⟨s, hs, hseg⟩, hc⟩

theorem flat_on_line {s : SplitPlace} (hs : s ∈ cut.places true tree area [])
    (hflat : s.flat = true) (hspills : s.spills area (vcols, vrows) = false)
    (hon : s.origin.1 < vcols ∧ s.origin.2 < vrows) :
    0 < layers ((cut.places true tree area []).flatMap SplitPlace.line) s.origin := by
  have hin : area.covers s.origin = true := by simpa [SplitPlace.spills, hflat, hon] using hspills
  rw [covers_iff] at hin
  rcases (places_placed area [] s hs).flat hflat with hline | hedge | hedge
  · exact hline
  · omega
  · omega

include hcols hrows hw hh

theorem tilesExactly_of_fits (hfits : cut.Fits tree area (vcols, vrows)) (c : Cell) :
    layers ((cut.paneRectsIn tree area).map snd) c +
        ((rasterize (cut.walkLayout tree area).1 (vcols, vrows)).map cell).count c =
      if area.covers c = true then 1 else 0 := by
  have hwalk := paneRectsIn_layers cut tree area c
  have hshadow := hfits.2 c
  have hone : layers ((cut.places true tree area []).flatMap SplitPlace.line) c ≤ 1 := by
    split_ifs at hwalk <;> omega
  have hcount := nodup_iff_count_le_one.mp
    (rasterize_cells (cut.walkLayout tree area).1 (vcols, vrows)).1 c
  have hpos := count_pos_iff.trans (@mem_dividers cut tree _ _ _ hcols hrows hw hh c)
  rw [or_iff_left_of_imp] at hpos
  · omega
  · rintro ⟨s, hs, hflat, rfl, hon⟩
    exact flat_on_line hs hflat (hfits.1 s hs) hon

theorem fits_of_tilesExactly (hexact : ∀ c, layers ((cut.paneRectsIn tree area).map snd) c +
        ((rasterize (cut.walkLayout tree area).1 (vcols, vrows)).map cell).count c =
      if area.covers c = true then 1 else 0) : cut.Fits tree area (vcols, vrows) := by
  have hspills : ∀ s ∈ cut.places true tree area [], s.spills area (vcols, vrows) = false := by
    intro s hs
    by_contra hspill
    simp only [SplitPlace.spills, Bool.not_eq_false, Bool.and_eq_true, Bool.not_eq_true',
      decide_eq_true_eq] at hspill
    obtain ⟨⟨hflat, hout⟩, hon⟩ := hspill
    have hpainted := count_pos_iff.mpr
      ((mem_dividers hcols hrows hw hh s.origin).mpr (.inr ⟨s, hs, hflat, rfl, hon⟩))
    have hnone := hexact s.origin
    rw [hout] at hnone
    simp only [Bool.false_eq_true, ↓reduceIte] at hnone
    omega
  refine ⟨hspills, fun c => ?_⟩
  have hwalk := paneRectsIn_layers cut tree area c
  have hone := hexact c
  have hline : 0 < ((rasterize (cut.walkLayout tree area).1 (vcols, vrows)).map cell).count c →
      0 < layers ((cut.places true tree area []).flatMap SplitPlace.line) c := by
    rw [count_pos_iff, mem_dividers hcols hrows hw hh c]
    rintro (hline | ⟨s, hs, hflat, rfl, hon⟩)
    · exact hline
    · exact flat_on_line hs hflat (hspills s hs) hon
  split_ifs at hwalk hone <;> omega

end

def RatioCut.halves : RatioCut := ⟨fun total _ => total / 2, fun total _ => Nat.div_le_self total 2⟩

def stackedPair : LayoutNode :=
  .split .vertical .half (.leaf (.local 1))
    (.split .horizontal .half (.leaf (.local 2)) (.leaf (.local 3)))

end Phux
