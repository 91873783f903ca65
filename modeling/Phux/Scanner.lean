import Mathlib.Data.List.Basic
import Mathlib.Algebra.Order.Ring.Nat

/-! Scans that take one token after another off the front of their input, and
when the scan of a whole is the scan of its parts. -/

namespace Scanner

open List

variable {α ω : Type}

abbrev Turn (α ω : Type) := List α → Option (ω × List α)

def scanWith (turn : Turn α ω) : Nat → List α → List ω
  | 0, _ => []
  | fuel + 1, input =>
    match turn input with
    | none => []
    | some (token, rest) => token :: scanWith turn fuel rest

def scan (turn : Turn α ω) (input : List α) : List ω := scanWith turn input.length input

/-- The same turns, with the input each one starts on for its token. -/
def starts (turn : Turn α ω) : Turn α (List α) := fun input =>
  (turn input).map fun next => (input, next.2)

def every (turn : Turn α ω) (p : List α → Bool) (input : List α) : Bool :=
  (scan (starts turn) input).all p

/-- Turns that consume something and stop at the end of the input only. -/
structure Advances (turn : Turn α ω) : Prop where
  shorter : ∀ {input token rest}, turn input = some (token, rest) → rest.length < input.length
  stops : ∀ {input}, turn input = none → input = []
  ends : turn [] = none

variable {turn : Turn α ω} {p : List α → Bool} {input rest : List α} {token : ω}

theorem Advances.induction (h : Advances turn) {motive : List α → Prop} (nil : motive [])
    (next : ∀ input token rest, turn input = some (token, rest) → motive rest → motive input)
    (input : List α) : motive input := by
  obtain ⟨n, hn⟩ : ∃ n, input.length = n := ⟨_, rfl⟩
  induction n using Nat.strongRecOn generalizing input with
  | _ n ih =>
    rcases ht : turn input with _ | ⟨token, rest⟩
    · rw [h.stops ht]
      exact nil
    · have hlt := h.shorter ht
      exact next input token rest ht (ih rest.length (by omega) rest rfl)

theorem scanWith_enough (h : Advances turn) {fuel : Nat} (hfuel : input.length ≤ fuel) :
    scanWith turn fuel input = scan turn input := by
  have hgo : ∀ n m input, input.length ≤ n → input.length ≤ m →
      scanWith turn n input = scanWith turn m input := by
    intro n
    induction n with
    | zero =>
      intro m input hn _
      obtain rfl : input = [] := eq_nil_of_length_eq_zero (by omega)
      cases m <;> simp [scanWith, h.ends]
    | succ n ih =>
      intro m input hn hm
      cases m with
      | zero =>
        obtain rfl : input = [] := eq_nil_of_length_eq_zero (by omega)
        simp [scanWith, h.ends]
      | succ m =>
        rcases ht : turn input with _ | ⟨token, rest⟩
        · simp [scanWith, ht]
        · have hlt := h.shorter ht
          simp only [scanWith, ht, ih m rest (by omega) (by omega)]
  exact hgo fuel input.length input hfuel (Nat.le_refl _)

theorem Advances.starts (h : Advances turn) : Advances (starts turn) where
  shorter := by
    intro input token rest ht
    obtain ⟨next, hnext, heq⟩ := Option.map_eq_some_iff.mp ht
    cases heq
    exact h.shorter hnext
  stops := by
    intro input ht
    exact h.stops (Option.map_eq_none_iff.mp ht)
  ends := by rw [Scanner.starts, h.ends, Option.map_none]

@[simp] theorem scan_nil : scan turn [] = [] := rfl

@[simp] theorem every_nil : every turn p [] = true := rfl

variable (h : Advances turn)

include h

theorem scan_next (ht : turn input = some (token, rest)) :
    scan turn input = token :: scan turn rest := by
  have hlt := h.shorter ht
  obtain ⟨n, hn⟩ : ∃ n, input.length = n + 1 := ⟨input.length - 1, by omega⟩
  have hrest : scanWith turn n rest = scan turn rest := scanWith_enough h (by omega)
  simp only [scan, hn, scanWith, ht] at hrest ⊢
  rw [hrest]

/-- What holds of every token if an invariant of the input gives it turn by turn. -/
theorem forall_scan {P : List α → Prop} {Q : ω → Prop}
    (hturn : ∀ {input token rest}, turn input = some (token, rest) → P input → Q token ∧ P rest)
    (hP : P input) : ∀ token ∈ scan turn input, Q token := by
  induction input using h.induction with
  | nil => simp
  | next input token rest ht ih =>
    obtain ⟨htoken, hrest⟩ := hturn ht hP
    rw [scan_next h ht, forall_mem_cons]
    exact ⟨htoken, ih hrest⟩

/-- The tokens weigh no more than the input if every turn takes what its token weighs. -/
theorem sum_scan_le {cost : ω → Nat} {worth : List α → Nat}
    (hturn : ∀ {input token rest}, turn input = some (token, rest) →
      cost token + worth rest ≤ worth input) (input : List α) :
    ((scan turn input).map cost).sum ≤ worth input := by
  induction input using h.induction with
  | nil => exact Nat.zero_le _
  | next input token rest ht ih =>
    have hpaid := hturn ht
    rw [scan_next h ht, map_cons, sum_cons]
    omega

theorem scan_ne_nil (hne : input ≠ []) : scan turn input ≠ [] := by
  rcases ht : turn input with _ | ⟨token, rest⟩
  · exact absurd (h.stops ht) hne
  · rw [scan_next h ht]
    exact cons_ne_nil _ _

theorem every_next (ht : turn input = some (token, rest)) :
    every turn p input = (p input && every turn p rest) := by
  have hstart : starts turn input = some (input, rest) := by rw [starts, ht, Option.map_some]
  rw [every, scan_next h.starts hstart, all_cons, every]

omit h

/-- A turn on an input with the property does not look at what follows it. -/
def Local (turn : Turn α ω) (closed : List α → Bool) : Prop :=
  ∀ {input token rest} (more : List α), closed input = true → turn input = some (token, rest) →
    turn (input ++ more) = some (token, rest ++ more)

variable {a : List α}

theorem scan_append (h : Advances turn) (hlocal : Local turn p) (b : List α)
    (ha : every turn p a = true) : scan turn (a ++ b) = scan turn a ++ scan turn b := by
  induction a using h.induction with
  | nil => rfl
  | next input token rest ht ih =>
    rw [every_next h ht, Bool.and_eq_true] at ha
    rw [scan_next h (hlocal b ha.1 ht), scan_next h ht, ih ha.2, cons_append]

theorem exists_open (h : Advances turn) (hlocal : Local turn p)
    (ha : every turn p a = false) : ∃ tokens s, s ≠ [] ∧ p s = false ∧
      ∀ b, scan turn (a ++ b) = tokens ++ scan turn (s ++ b) := by
  induction a using h.induction with
  | nil => simp at ha
  | next input token rest ht ih =>
    rw [every_next h ht] at ha
    by_cases hp : p input = true
    · rw [hp, Bool.true_and] at ha
      obtain ⟨tokens, s, hs, hopen, hscan⟩ := ih ha
      refine ⟨token :: tokens, s, hs, hopen, ?_⟩
      intro b
      rw [scan_next h (hlocal b hp ht), hscan b, cons_append]
    · refine ⟨[], input, ?_, by simpa using hp, fun b => rfl⟩
      rintro rfl
      rw [h.ends] at ht
      cases ht

end Scanner
