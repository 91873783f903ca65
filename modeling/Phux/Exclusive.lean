import Mathlib.Data.List.Nodup
import Mathlib.Data.List.Perm.Basic

/-! Exclusive holdings: a gate that lists what its holders hold, each thing once. -/

namespace Exclusive

variable {α : Type}

/-- The gate lists exactly what is held, and nothing is held twice. -/
structure Holds (gate held : List α) : Prop where
  perm : gate.Perm held
  nodup : gate.Nodup

variable {gate held held' : List α} {x : α}

theorem Holds.held_nodup (h : Holds gate held) : held.Nodup := h.perm.nodup_iff.mp h.nodup

theorem Holds.of_perm (h : Holds gate held) (hp : held.Perm held') : Holds gate held' :=
  ⟨h.perm.trans hp, h.nodup⟩

theorem Holds.acquire (h : Holds gate held) (hx : x ∉ gate) : Holds (x :: gate) (x :: held) :=
  ⟨h.perm.cons x, List.nodup_cons.mpr ⟨hx, h.nodup⟩⟩

theorem diff_append_self [BEq α] [LawfulBEq α] {dropped kept : List α} :
    ((dropped ++ kept).diff dropped).Perm kept := by
  induction dropped with
  | nil => simp
  | cons a dropped ih => simpa using ih

theorem Holds.release [BEq α] [LawfulBEq α] {dropped : List α} (h : Holds gate held)
    (hp : held.Perm (dropped ++ held')) : Holds (gate.diff dropped) held' := by
  have hdiff : (gate.diff dropped).Perm ((dropped ++ held').diff dropped) :=
    (h.perm.trans hp).diff_right dropped
  exact ⟨hdiff.trans diff_append_self, h.nodup.diff⟩

theorem Holds.apart {here there : List α} (h : Holds gate (here ++ there)) (hx : x ∈ here) :
    x ∉ there := by
  intro hy
  exact (List.nodup_append.mp h.held_nodup).2.2 x hx x hy rfl

theorem perm_eraseP {p : α → Bool} {l : List α} (h : l.find? p = some x) :
    l.Perm (x :: l.eraseP p) := by
  induction l with
  | nil => simp at h
  | cons a l ih =>
    by_cases ha : p a = true
    · have hx : a = x := by simpa [ha] using h
      rw [List.eraseP_cons_of_pos ha, hx]
    · have hl : l.find? p = some x := by simpa [ha] using h
      rw [List.eraseP_cons_of_neg (by simpa using ha)]
      exact ((ih hl).cons a).trans (.swap x a _)

end Exclusive
