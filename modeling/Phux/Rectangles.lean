import Mathlib.Data.List.Count

/-! Rectangles of cells, and how many of them lie over a cell. -/

namespace Rectangles

abbrev Cell := Nat × Nat

structure Rect where
  x : Nat
  y : Nat
  w : Nat
  h : Nat
deriving DecidableEq

namespace Rect

def covers (r : Rect) (c : Cell) : Bool :=
  decide (r.x ≤ c.1 ∧ c.1 < r.x + r.w ∧ r.y ≤ c.2 ∧ c.2 < r.y + r.h)

structure Within (r s : Rect) : Prop where
  left : s.x ≤ r.x
  right : r.x + r.w ≤ s.x + s.w
  top : s.y ≤ r.y
  bottom : r.y + r.h ≤ s.y + s.h

theorem Within.refl (r : Rect) : Within r r :=
  ⟨Nat.le_refl _, Nat.le_refl _, Nat.le_refl _, Nat.le_refl _⟩

theorem Within.trans {r s t : Rect} (h : Within r s) (h' : Within s t) : Within r t :=
  ⟨Nat.le_trans h'.left h.left, Nat.le_trans h.right h'.right, Nat.le_trans h'.top h.top,
    Nat.le_trans h.bottom h'.bottom⟩

theorem covers_iff {r : Rect} {c : Cell} :
    r.covers c = true ↔ r.x ≤ c.1 ∧ c.1 < r.x + r.w ∧ r.y ≤ c.2 ∧ c.2 < r.y + r.h := by
  simp [covers]

end Rect

def layers (rs : List Rect) (c : Cell) : Nat := rs.countP fun r => r.covers c

@[simp] theorem layers_nil (c : Cell) : layers [] c = 0 := rfl

@[simp] theorem layers_append (rs ss : List Rect) (c : Cell) :
    layers (rs ++ ss) c = layers rs c + layers ss c := List.countP_append

@[simp] theorem layers_cons (r : Rect) (rs : List Rect) (c : Cell) :
    layers (r :: rs) c = layers rs c + if r.covers c = true then 1 else 0 := List.countP_cons

theorem layers_pos {rs : List Rect} {c : Cell} :
    0 < layers rs c ↔ ∃ r ∈ rs, r.covers c = true := List.countP_pos_iff

end Rectangles
