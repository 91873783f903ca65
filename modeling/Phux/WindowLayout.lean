import Phux.Registry

/-! A window's split tree tiles its slots: what placing and vacating a pane do to both. -/

namespace Phux.Core

open List

variable {α : Type} {active : Option α} {items : List α}

/-- The focus is on one of the items, and on none only when there are none. -/
def Focused {α : Type} (active : Option α) (items : List α) : Prop :=
  (active = none ∧ items = []) ∨ ∃ a ∈ items, active = some a

theorem Focused.append (h : Focused active items) (id : α) :
    Focused (active.or (some id)) (items ++ [id]) := by
  rcases h with ⟨rfl, rfl⟩ | ⟨a, hmem, rfl⟩
  · exact .inr ⟨id, by simp, rfl⟩
  · exact .inr ⟨a, by simp [hmem], rfl⟩

theorem Focused.filter [DecidableEq α] (h : Focused active items) (id : α) :
    Focused (if active = some id then (items.filter (· ≠ id)).head? else active)
      (items.filter (· ≠ id)) := by
  rcases h with ⟨rfl, rfl⟩ | ⟨a, hmem, rfl⟩
  · exact .inl ⟨rfl, rfl⟩
  · by_cases ha : a = id
    · rw [if_pos (by rw [ha])]
      cases hrest : items.filter (· ≠ id) with
      | nil => exact .inl ⟨rfl, rfl⟩
      | cons b rest => exact .inr ⟨b, by simp, rfl⟩
    · rw [if_neg (by simpa using ha)]
      exact .inr ⟨a, by simp [hmem, ha], rfl⟩

def ChosenFrom {α : Type} (active : Option α) (items : List α) : Prop :=
  ∀ a, active = some a → a ∈ items

theorem ChosenFrom.append (h : ChosenFrom active items) (id : α) :
    ChosenFrom (active.or (some id)) (items ++ [id]) := by
  intro a ha
  cases hactive : active with
  | none =>
    rw [hactive] at ha
    cases ha
    simp
  | some b =>
    rw [hactive] at ha
    cases ha
    simp [h a hactive]

theorem ChosenFrom.filter [DecidableEq α] (h : ChosenFrom active items) (id : α) :
    ChosenFrom (if active = some id then (items.filter (· ≠ id)).head? else active)
      (items.filter (· ≠ id)) := by
  intro a ha
  split at ha
  · exact mem_of_head? ha
  · rename_i hid
    have hne : a ≠ id := by
      rintro rfl
      exact hid ha
    simp [h a ha, hne]

namespace LayoutNode

variable {target newPane pane : ResourceId} {dir : SplitDir} {ratio : F32} {l : LayoutNode}

theorem contains_iff : l.contains pane = true ↔ pane ∈ l.leaves := by
  induction l with
  | leaf p => simp [contains, leaves, eq_comm]
  | split d r left right ihl ihr => simp [contains, leaves, ihl, ihr]

theorem leaves_ne_nil (l : LayoutNode) : l.leaves ≠ [] := by
  induction l with
  | leaf p => simp [leaves]
  | split d r left right ihl ihr => simp [leaves, ihl]

theorem splitAt_of_mem (h : target ∈ l.leaves) :
    ∃ l', l.splitAt target newPane dir ratio = .ok l' ∧ l'.leaves.Perm (newPane :: l.leaves) := by
  induction l with
  | leaf p =>
    have hp : p = target := by simpa [leaves, eq_comm] using h
    refine ⟨.split dir ratio (.leaf target) (.leaf newPane), by simp [splitAt, hp], ?_⟩
    simpa [leaves, hp] using .swap newPane target []
  | split d r left right ihl ihr =>
    by_cases hl : target ∈ left.leaves
    · obtain ⟨left', hsplit, hperm⟩ := ihl hl
      refine ⟨.split d r left' right, by simp [splitAt, contains_iff, hl, hsplit, Except.map], ?_⟩
      simpa [leaves] using hperm.append_right right.leaves
    · have hr : target ∈ right.leaves := by simpa [leaves, hl] using h
      obtain ⟨right', hsplit, hperm⟩ := ihr hr
      refine ⟨.split d r left right', by simp [splitAt, contains_iff, hl, hr, hsplit, Except.map], ?_⟩
      exact (hperm.append_left left.leaves).trans perm_middle

theorem collapse_of_not_found (h : (collapse target l).2 = false) : (collapse target l).1 = l := by
  induction l with
  | leaf p => rfl
  | split d r left right ihl ihr =>
    by_cases hl : left = .leaf target
    · simp [collapse, hl] at h
    · by_cases hr : right = .leaf target
      · simp [collapse, hl, hr] at h
      · cases hfound : (collapse target left).2 with
        | true => simp [collapse, hl, hr, hfound] at h
        | false =>
          have hright : (collapse target right).2 = false := by
            simpa [collapse, hl, hr, hfound] using h
          simp [collapse, hl, hr, hfound, ihl hfound, ihr hright]

/-- Below a split, collapsing filters the one leaf out and finds it exactly when it is
there. -/
theorem collapse_leaves (hne : l ≠ .leaf target) (hnodup : l.leaves.Nodup) :
    (collapse target l).1.leaves = l.leaves.filter (· ≠ target) ∧
      ((collapse target l).2 = true ↔ target ∈ l.leaves) := by
  induction l with
  | leaf p =>
    have hp : p ≠ target := fun he => hne (by rw [he])
    simp [collapse, leaves, hp, Ne.symm hp]
  | split d r left right ihl ihr =>
    obtain ⟨hleft, hright, hdisj⟩ := nodup_append.mp hnodup
    have hkeep : ∀ xs : List ResourceId, target ∉ xs → xs.filter (fun a => !decide (a = target)) = xs := by
      intro xs hxs
      refine filter_eq_self.mpr fun a ha => ?_
      have hne : a ≠ target := fun he => hxs (he ▸ ha)
      simp [hne]
    by_cases hl : left = .leaf target
    · subst hl
      have hnot : target ∉ right.leaves := fun hr => hdisj target (by simp [leaves]) target hr rfl
      simp [collapse, leaves, hkeep right.leaves hnot]
    · by_cases hr : right = .leaf target
      · subst hr
        have hnot : target ∉ left.leaves := fun hm => hdisj target hm target (by simp [leaves]) rfl
        simp [collapse, hl, leaves, hkeep left.leaves hnot]
      · obtain ⟨hleaves, hfound⟩ := ihl hl hleft
        obtain ⟨hleaves', hfound'⟩ := ihr hr hright
        by_cases hm : target ∈ left.leaves
        · have hnot : target ∉ right.leaves := fun hm' => hdisj target hm target hm' rfl
          simp [collapse, hl, hr, hfound.mpr hm, leaves, hleaves, hkeep right.leaves hnot, hm]
        · have hlost : (collapse target left).2 = false := by simpa [hm] using hfound
          simp [collapse, hl, hr, hlost, leaves, hleaves, hleaves', hm, hfound']

theorem collapse_splitAt (hmem : target ∈ l.leaves) (hnew : newPane ∉ l.leaves)
    (hnodup : l.leaves.Nodup) : ∃ d r a b, l.splitAt target newPane dir ratio =
      .ok (.split d r a b) ∧ collapse newPane (.split d r a b) = (l, true) := by
  induction l with
  | leaf p =>
    obtain rfl : target = p := by simpa [leaves] using hmem
    have hne : target ≠ newPane := by simpa [leaves, eq_comm] using hnew
    exact ⟨_, _, _, _, if_pos rfl, by simp [collapse, hne]⟩
  | split d r left right ihl ihr =>
    simp only [leaves, mem_append, not_or, nodup_append] at hmem hnew hnodup
    have hleaf {l : LayoutNode} (h : newPane ∉ l.leaves) : l ≠ .leaf newPane := by
      rintro rfl
      simp [leaves] at h
    by_cases hl : target ∈ left.leaves
    · obtain ⟨_, _, a, b, hsplit, hback⟩ := ihl hl hnew.1 hnodup.1
      refine ⟨d, r, _, right, by simp [splitAt, contains_iff, hl, hsplit, Except.map]; rfl, ?_⟩
      rw [collapse, if_neg (by simp), if_neg (hleaf hnew.2), hback]
      rfl
    · have hr := hmem.resolve_left hl
      obtain ⟨_, _, a, b, hsplit, hback⟩ := ihr hr hnew.2 hnodup.2.1
      have hlost : (collapse newPane left).2 = false := by
        simpa [hnew.1] using (collapse_leaves (hleaf hnew.1) hnodup.1).2
      refine ⟨d, r, left, _, by simp [splitAt, contains_iff, hl, hr, hsplit, Except.map]; rfl, ?_⟩
      rw [collapse, if_neg (hleaf hnew.1), if_neg (by simp)]
      simp [hlost, collapse_of_not_found hlost, hback]

end LayoutNode

namespace Window

variable {w : Window} {id : ResourceId}

structure Tiled (w : Window) : Prop where
  absent : w.layout = none ↔ w.slots = []
  leaves : ∀ l, w.layout = some l → l.leaves.Perm w.slots

structure SameSlots (w w' : Window) : Prop where
  id : w'.id = w.id
  session : w'.session = w.session
  slots : w'.slots = w.slots
  active : w'.active = w.active

theorem split_sameSlots (w : Window) (target newPane : ResourceId) (dir : SplitDir) (ratio : F32) :
    SameSlots w (w.split target newPane dir ratio).1 := by
  unfold split
  repeat' split
  all_goals exact ⟨rfl, rfl, rfl, rfl⟩

theorem killPane_sameSlots (w : Window) (target : ResourceId) :
    SameSlots w (w.killPane target).1 := by
  unfold killPane
  repeat' split
  all_goals exact ⟨rfl, rfl, rfl, rfl⟩

theorem place_spec (w : Window) (id : ResourceId) :
    (w.place id).session = w.session ∧ (w.place id).slots = w.slots ++ [id] ∧
      (w.place id).active = w.active.or (some id) := by
  obtain ⟨wid, session, slots, layout, active⟩ := w
  cases active with
  | none => cases layout <;> simp [place, seedLayout]
  | some t =>
    have hsame := split_sameSlots ⟨wid, session, slots ++ [id], layout, some t⟩ t id .horizontal .half
    exact ⟨hsame.session, hsame.slots, hsame.active⟩

theorem vacate_spec (w : Window) (id : ResourceId) :
    (w.vacate id).session = w.session ∧ (w.vacate id).slots = w.slots.filter (· ≠ id) ∧
      (w.vacate id).active =
        if w.active = some id then (w.slots.filter (· ≠ id)).head? else w.active := by
  have hsame := killPane_sameSlots { w with slots := w.slots.filter (· ≠ id) } id
  unfold vacate
  dsimp only
  by_cases hactive : w.active = some id
  · rw [if_pos (hsame.active.trans hactive), if_pos hactive]
    exact ⟨hsame.session, hsame.slots, by rw [hsame.slots]⟩
  · rw [if_neg fun h => hactive (hsame.active.symm.trans h), if_neg hactive]
    exact ⟨hsame.session, hsame.slots, hsame.active⟩

theorem vacate_focused (h : Focused w.active w.slots) (id : ResourceId) :
    Focused (w.vacate id).active (w.vacate id).slots := by
  obtain ⟨-, hslots, hactive⟩ := vacate_spec w id
  rw [hslots, hactive]
  exact h.filter id

theorem place_tiled (hf : Focused w.active w.slots) (ht : w.Tiled) (id : ResourceId) :
    (w.place id).Tiled := by
  obtain ⟨-, hslots, -⟩ := place_spec w id
  suffices h : ∃ l, (w.place id).layout = some l ∧ l.leaves.Perm (id :: w.slots) by
    obtain ⟨l, hl, hperm⟩ := h
    refine ⟨by simp [hl, hslots], ?_⟩
    intro l' hl'
    rw [hl] at hl'
    cases hl'
    rw [hslots]
    exact hperm.trans (perm_append_singleton id w.slots).symm
  rcases hf with ⟨hactive, hnil⟩ | ⟨a, hmem, hactive⟩
  · have hnone : w.layout = none := ht.absent.mpr hnil
    exact ⟨.leaf id, by simp [place, hactive, seedLayout, hnone], by simp [LayoutNode.leaves, hnil]⟩
  · have hsome : w.layout ≠ none := fun hn => ne_nil_of_mem hmem (ht.absent.mp hn)
    obtain ⟨l, hl⟩ := Option.ne_none_iff_exists'.mp hsome
    have hperm := ht.leaves l hl
    obtain ⟨l', hsplit, hperm'⟩ := @LayoutNode.splitAt_of_mem a id .horizontal .half l
      (hperm.mem_iff.mpr hmem)
    have hratio : validateRatio .half = .ok () := by decide
    exact ⟨l', by simp [place, hactive, split, hratio, hl, hsplit], hperm'.trans (hperm.cons id)⟩

theorem vacate_tiled (hnodup : w.slots.Nodup) (ht : w.Tiled) (id : ResourceId) :
    (w.vacate id).Tiled := by
  obtain ⟨-, hslots, -⟩ := vacate_spec w id
  have hlayout : (w.vacate id).layout =
      (({ w with slots := w.slots.filter (· ≠ id) } : Window).killPane id).1.layout := by
    unfold vacate
    simp only
    split
    all_goals rfl
  cases hl : w.layout with
  | none =>
    have hnil := ht.absent.mp hl
    have hnone : (w.vacate id).layout = none := by rw [hlayout]; simp [killPane, hl]
    exact ⟨by simp [hnone, hslots, hnil], by simp [hnone]⟩
  | some l =>
    have hperm := ht.leaves l hl
    cases l with
    | leaf p =>
      have hone : w.slots = [p] := perm_singleton.mp hperm.symm
      by_cases hp : p = id
      · have hnone : (w.vacate id).layout = none := by rw [hlayout]; simp [killPane, hl, hp]
        exact ⟨by simp [hnone, hslots, hone, hp], by simp [hnone]⟩
      · have hsame : (w.vacate id).layout = some (.leaf p) := by
          rw [hlayout]; simp [killPane, hl, hp]
        refine ⟨by simp [hsame, hslots, hone, hp], ?_⟩
        simp [hsame, hslots, hone, hp, LayoutNode.leaves]
    | split d r left right =>
      have hnode := hperm.nodup_iff.mpr hnodup
      obtain ⟨hleaves, -⟩ := @LayoutNode.collapse_leaves id (.split d r left right) (by simp) hnode
      have hroot : (w.vacate id).layout =
          some (LayoutNode.collapse id (.split d r left right)).1 := by
        rw [hlayout]; simp [killPane, hl]
      have hfilter := hperm.filter (· ≠ id)
      rw [← hleaves, ← hslots] at hfilter
      refine ⟨?_, ?_⟩
      · rw [hroot]
        refine ⟨by simp, fun hnil => ?_⟩
        rw [hnil] at hfilter
        exact absurd hfilter.eq_nil (LayoutNode.leaves_ne_nil _)
      · intro l hl'
        rw [hroot] at hl'
        cases hl'
        exact hfilter

/-- A pane that is placed and vacated again leaves the window as it was, focus included. -/
theorem vacate_place (hf : Focused w.active w.slots) (ht : w.Tiled) (hnodup : w.slots.Nodup)
    (hid : id ∉ w.slots) : (w.place id).vacate id = w := by
  obtain ⟨wid, session, slots, layout, active⟩ := w
  have hkept : slots.filter (fun a => !decide (a = id)) = slots :=
    filter_eq_self.mpr fun a ha => by simpa using ne_of_mem_of_not_mem ha hid
  rcases hf with ⟨rfl, rfl⟩ | ⟨a, ha, rfl⟩
  · obtain rfl : layout = none := ht.absent.mpr rfl
    simp [place, seedLayout, vacate, killPane]
  · have hne : a ≠ id := ne_of_mem_of_not_mem ha hid
    cases layout with
    | none => exact absurd (ht.absent.mp rfl) (ne_nil_of_mem ha)
    | some l =>
      have hperm : l.leaves.Perm slots := ht.leaves l rfl
      obtain ⟨_, _, _, _, hsplit, hback⟩ := @LayoutNode.collapse_splitAt a id .horizontal .half l
        (hperm.mem_iff.mpr ha) (mt hperm.mem_iff.mp hid) (hperm.nodup_iff.mpr hnodup)
      have hratio : validateRatio .half = .ok () := by decide
      simp [place, split, hratio, hsplit, vacate, killPane, hback, hne, hkept]

theorem vacate_place_seeded :
    let w : Window := ⟨⟨0, 1⟩, ⟨0, 1⟩, [⟨0, 1⟩], some (.leaf ⟨0, 1⟩), some ⟨0, 1⟩⟩
    (w.place ⟨1, 1⟩).vacate ⟨1, 1⟩ = w :=
  vacate_place (.inr ⟨_, by decide, rfl⟩) ⟨by decide, by simp [LayoutNode.leaves]⟩ (by decide)
    (by decide)

end Window

end Phux.Core
