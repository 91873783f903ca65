import Mathlib.Data.List.Basic

/-! Loops that take one input a turn and may stop early. -/

namespace Loop

variable {ι σ ω : Type}

def run (turn : ι → σ → σ × Option ω) : List ι → σ → σ × Option ω
  | [], s => (s, none)
  | i :: is, s =>
    match turn i s with
    | (s', none) => run turn is s'
    | (s', some w) => (s', some w)

def Always (turn : ι → σ → σ × Option ω) (p : σ → Prop) : List ι → σ → Prop
  | [], _ => True
  | i :: is, s => p s ∧ ∀ s', turn i s = (s', none) → Always turn p is s'

variable {turn : ι → σ → σ × Option ω} {s s' : σ} {i : ι} {is : List ι} {w : ω}

theorem run_cons_next (h : turn i s = (s', none)) : run turn (i :: is) s = run turn is s' := by
  simp [run, h]

theorem run_cons_stop (h : turn i s = (s', some w)) : run turn (i :: is) s = (s', some w) := by
  simp [run, h]

theorem run_ensures (keeps leaves : σ → Prop) (hleave : ∀ s, keeps s → leaves s)
    (hnext : ∀ i ∈ is, ∀ s s', keeps s → turn i s = (s', none) → keeps s')
    (hstop : ∀ i ∈ is, ∀ s s' w, keeps s → turn i s = (s', some w) → leaves s') (hs : keeps s) :
    leaves (run turn is s).1 := by
  induction is generalizing s with
  | nil => exact hleave s hs
  | cons i is ih =>
    rcases ht : turn i s with ⟨s', _ | w⟩
    · rw [run_cons_next ht]
      refine ih (fun j hj => hnext j (List.mem_cons_of_mem _ hj))
        (fun j hj => hstop j (List.mem_cons_of_mem _ hj)) ?_
      exact hnext i List.mem_cons_self s s' hs ht
    · rw [run_cons_stop ht]
      exact hstop i List.mem_cons_self s s' w hs ht

variable {α ε : Type} {P : List α → σ → Prop} {l : List α}

theorem foldl_prefix {f : σ → α → σ} (hs : P [] s)
    (hstep : ∀ done a rest s, l = done ++ a :: rest → P done s → P (done ++ [a]) (f s a)) :
    P l (l.foldl f s) := by
  have hgo : ∀ rest done s, l = done ++ rest → P done s → P l (rest.foldl f s) := by
    intro rest
    induction rest with
    | nil =>
      intro done s hl hs
      simpa [hl] using hs
    | cons a rest ih =>
      intro done s hl hs
      exact ih (done ++ [a]) (f s a) (by simp [hl]) (hstep done a rest s hl hs)
  exact hgo l [] s rfl hs

variable {f : σ → α → Except ε σ}

theorem foldlM_prefix (hs : P [] s) (hstep : ∀ done a rest s, l = done ++ a :: rest → P done s →
      ∃ s', f s a = .ok s' ∧ P (done ++ [a]) s') : ∃ s', l.foldlM f s = .ok s' ∧ P l s' := by
  have hgo : ∀ rest done s, l = done ++ rest → P done s →
      ∃ s', rest.foldlM f s = .ok s' ∧ P l s' := by
    intro rest
    induction rest with
    | nil =>
      intro done s hl hs
      exact ⟨s, rfl, by simpa [hl] using hs⟩
    | cons a rest ih =>
      intro done s hl hs
      obtain ⟨s₁, hf, hs₁⟩ := hstep done a rest s hl hs
      obtain ⟨s₂, hrest, hs₂⟩ := ih (done ++ [a]) s₁ (by simp [hl]) hs₁
      refine ⟨s₂, ?_, hs₂⟩
      rw [List.foldlM_cons, hf]
      exact hrest
  exact hgo l [] s rfl hs

/-- A step that may fail as a turn: a failure stops the loop and leaves `left`. -/
def stopping (f : σ → α → Except ε σ) (left : σ → α → σ) (a : α) (s : σ) : σ × Option ε :=
  match f s a with
  | .ok s' => (s', none)
  | .error e => (left s a, some e)

variable {left : σ → α → σ}

theorem run_stopping_none : run (stopping f left) l s = (s', none) ↔ l.foldlM f s = .ok s' := by
  induction l generalizing s with
  | nil => simp [run, pure, Except.pure]
  | cons a l ih =>
    rw [List.foldlM_cons]
    cases hf : f s a with
    | error e => simp [run, stopping, hf, bind, Except.bind]
    | ok s₁ => simpa [run, stopping, hf, bind, Except.bind] using ih

theorem run_stopping_some {e : ε} (h : run (stopping f left) l s = (s', some e)) :
    ∃ done a rest s₁, l = done ++ a :: rest ∧ done.foldlM f s = .ok s₁ ∧ f s₁ a = .error e ∧
      s' = left s₁ a := by
  induction l generalizing s with
  | nil => cases h
  | cons a l ih =>
    cases hf : f s a with
    | error e' =>
      simp only [run, stopping, hf] at h
      cases h
      exact ⟨[], a, l, s, rfl, rfl, hf, rfl⟩
    | ok s₁ =>
      simp only [run, stopping, hf] at h
      obtain ⟨done, b, rest, s₂, rfl, hdone, hstop, hleft⟩ := ih h
      refine ⟨a :: done, b, rest, s₂, rfl, ?_, hstop, hleft⟩
      rw [List.foldlM_cons, hf]
      exact hdone

end Loop
