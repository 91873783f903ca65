import Mathlib.Data.List.Basic

/-! Gates: machines that let some of their inputs through. What a gate admits,
offered again, is admitted in full, so laws of the admitted inputs are invariants
of the gate's state. -/

namespace Gate

variable {σ ι : Type}

def admitted (step : σ → ι → σ × Bool) : σ → List ι → List ι
  | _, [] => []
  | s, i :: is =>
    if (step s i).2 then i :: admitted step (step s i).1 is else admitted step (step s i).1 is

/-- From the first state, every input is let through and the last state is reached. -/
inductive Admits (step : σ → ι → σ × Bool) : σ → List ι → σ → Prop
  | nil (s : σ) : Admits step s [] s
  | cons {s s' s'' : σ} {i : ι} {is : List ι} (hi : step s i = (s', true))
      (his : Admits step s' is s'') : Admits step s (i :: is) s''

variable {step : σ → ι → σ × Bool}

theorem admits_admitted (hrefuse : ∀ s i, (step s i).2 = false → (step s i).1 = s) (s : σ)
    (is : List ι) : ∃ s', Admits step s (admitted step s is) s' := by
  induction is generalizing s with
  | nil => exact ⟨s, .nil s⟩
  | cons i is ih =>
    by_cases hi : (step s i).2 = true
    · obtain ⟨s', hs'⟩ := ih (step s i).1
      have hstep : step s i = ((step s i).1, true) := by rw [← hi]
      rw [admitted, if_pos hi]
      exact ⟨s', .cons hstep hs'⟩
    · have hs := hrefuse s i (by simpa using hi)
      rw [admitted, if_neg hi, hs]
      exact ih s

theorem Admits.split {s s'' : σ} {xs ys : List ι} (h : Admits step s (xs ++ ys) s'') :
    ∃ s', Admits step s xs s' ∧ Admits step s' ys s'' := by
  induction xs generalizing s with
  | nil => exact ⟨s, .nil s, h⟩
  | cons x xs ih =>
    cases h with
    | cons hx hxs =>
      obtain ⟨s', h1, h2⟩ := ih hxs
      exact ⟨s', .cons hx h1, h2⟩

theorem Admits.middle {s s'' : σ} {xs ys : List ι} {y : ι} (h : Admits step s (xs ++ y :: ys) s'') :
    ∃ s' t, Admits step s xs s' ∧ step s' y = (t, true) ∧ Admits step t ys s'' := by
  obtain ⟨s', h1, h2⟩ := h.split
  cases h2 with
  | cons hy hys => exact ⟨s', _, h1, hy, hys⟩

theorem Admits.invariant {s s' : σ} {is : List ι} (p : σ → Prop) (q : ι → Prop)
    (hstep : ∀ s i t, p s → q i → step s i = (t, true) → p t) (h : Admits step s is s')
    (hq : ∀ i ∈ is, q i) (hp : p s) : p s' := by
  induction h with
  | nil s => exact hp
  | cons hi _ ih =>
    refine ih (fun j hj => hq j (List.mem_cons_of_mem _ hj)) ?_
    exact hstep _ _ _ hp (hq _ List.mem_cons_self) hi

end Gate
