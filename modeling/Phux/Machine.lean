import Mathlib.Data.List.Basic

/-! Machines that take one input a step, and what holds along their runs. -/

namespace Machine

variable {σ ι : Type}

def run (next : σ → ι → σ) (s : σ) (is : List ι) : σ := is.foldl next s

def EveryStep (next : σ → ι → σ) (q : σ → ι → Prop) : σ → List ι → Prop
  | _, [] => True
  | s, i :: is => q s i ∧ EveryStep next q (next s i) is

instance EveryStep.decidable {next : σ → ι → σ} {q : σ → ι → Prop} [∀ s i, Decidable (q s i)] :
    ∀ s is, Decidable (EveryStep next q s is)
  | _, [] => isTrue trivial
  | s, i :: is => @instDecidableAnd _ _ _ (EveryStep.decidable (next s i) is)

/-- A property of every state of a run, the first and the last included. -/
def EveryState (next : σ → ι → σ) (p : σ → Prop) : σ → List ι → Prop
  | s, [] => p s
  | s, i :: is => p s ∧ EveryState next p (next s i) is

variable {next : σ → ι → σ} {s : σ} {is : List ι}

theorem run_concat (next : σ → ι → σ) (s : σ) (is : List ι) (i : ι) :
    run next s (is ++ [i]) = next (run next s is) i := by
  simp [run]

variable {inv : σ → Prop}

theorem run_invariant (hstep : ∀ s i, inv s → inv (next s i)) (hs : inv s) :
    inv (run next s is) := by
  induction is generalizing s with
  | nil => exact hs
  | cons i is ih => exact ih (hstep s i hs)

variable {q : σ → ι → Prop}

theorem EveryStep.invariant {P : σ → Prop}
    (hstep : ∀ s i, P s → q s i → P (next s i)) (hs : P s) (h : EveryStep next q s is) :
    P (run next s is) := by
  induction is generalizing s with
  | nil => exact hs
  | cons i is ih => exact ih (hstep s i hs h.1) h.2

theorem EveryStep.mono {q' : σ → ι → Prop} (hq : ∀ s i, q s i → q' s i)
    (h : EveryStep next q s is) : EveryStep next q' s is := by
  induction is generalizing s with
  | nil => trivial
  | cons i is ih => exact ⟨hq s i h.1, ih h.2⟩

theorem EveryStep.and {q' : σ → ι → Prop} (h : EveryStep next q s is)
    (h' : EveryStep next q' s is) : EveryStep next (fun s i => q s i ∧ q' s i) s is := by
  induction is generalizing s with
  | nil => trivial
  | cons i is ih => exact ⟨⟨h.1, h'.1⟩, ih h.2 h'.2⟩

theorem everyStep_append (more : List ι) : EveryStep next q s (is ++ more) ↔
      EveryStep next q s is ∧ EveryStep next q (run next s is) more := by
  induction is generalizing s with
  | nil => simp [EveryStep, run]
  | cons i is ih =>
    simp only [List.cons_append, EveryStep, ih, and_assoc]
    rfl

theorem EveryState.head {p : σ → Prop} (h : EveryState next p s is) : p s := by
  cases is with
  | nil => exact h
  | cons i is => exact h.1

variable {ω : Type}

/-- What a machine that answers each input with an output says along a run. -/
def outputs (step : σ → ι → σ × ω) : σ → List ι → List ω
  | _, [] => []
  | s, i :: is => (step s i).2 :: outputs step (step s i).1 is

theorem outputs_eq {step : σ → ι → σ × ω} {r : σ → σ → Prop}
    (hstep : ∀ s s' i, r s s' → (step s i).2 = (step s' i).2 ∧ r (step s i).1 (step s' i).1)
    {s' : σ} (hr : r s s') (is : List ι) : outputs step s is = outputs step s' is := by
  induction is generalizing s s' with
  | nil => rfl
  | cons i is ih =>
    obtain ⟨hout, hnext⟩ := hstep s s' i hr
    rw [outputs, outputs, hout, ih hnext]

/-- A run that leads from one state to another and says nothing but what is allowed. -/
def Passes (step : σ → ι → σ × ω) (ok : ω → Prop) (s : σ) (is : List ι) (s' : σ) : Prop :=
  run (fun s i => (step s i).1) s is = s' ∧ ∀ w ∈ outputs step s is, ok w

variable {step : σ → ι → σ × ω} {ok : ω → Prop} {s' : σ}

theorem passes_nil : Passes step ok s [] s := ⟨rfl, by simp [outputs]⟩

theorem Passes.cons {i : ι} (hi : ok (step s i).2) (h : Passes step ok (step s i).1 is s') :
    Passes step ok s (i :: is) s' := by
  refine ⟨h.1, ?_⟩
  intro w hw
  rcases List.mem_cons.mp hw with rfl | hw
  · exact hi
  · exact h.2 w hw

theorem Passes.append {more : List ι} {s'' : σ} (h : Passes step ok s is s')
    (hmore : Passes step ok s' more s'') : Passes step ok s (is ++ more) s'' := by
  induction is generalizing s with
  | nil =>
    have hs : s = s' := h.1
    rw [hs]
    exact hmore
  | cons i is ih =>
    have hi : ok (step s i).2 := h.2 _ List.mem_cons_self
    exact .cons hi (ih ⟨h.1, fun w hw => h.2 w (List.mem_cons_of_mem _ hw)⟩)

theorem passes_of_invariant {q : ι → Prop}
    (hstep : ∀ s i, inv s → q i → inv (step s i).1 ∧ ok (step s i).2) (hs : inv s)
    (hq : ∀ i ∈ is, q i) : ∃ s', Passes step ok s is s' ∧ inv s' := by
  induction is generalizing s with
  | nil => exact ⟨s, passes_nil, hs⟩
  | cons i is ih =>
    obtain ⟨hnext, hi⟩ := hstep s i hs (hq i List.mem_cons_self)
    obtain ⟨s', hpass, hs'⟩ := ih hnext fun j hj => hq j (List.mem_cons_of_mem _ hj)
    exact ⟨s', .cons hi hpass, hs'⟩

end Machine
