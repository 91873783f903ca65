import Mathlib.Data.List.Basic

/-! Splitters that take pieces off the front of a buffer while its content arrives,
and what they make of any cutting of it into reads. -/

namespace Splitter

open List

variable {α ε : Type}

/-- A piece and what is behind it, or `none` while the piece is incomplete. -/
abbrev Split (α ε : Type) := List α → Except ε (Option (List α × List α))

@[ext] structure Drained (α ε : Type) where
  pieces : List (List α)
  rest : List α
  failed : Option ε
deriving DecidableEq

def drainWithin (split : Split α ε) : Nat → List α → Drained α ε
  | 0, b => ⟨[], b, none⟩
  | fuel + 1, b =>
    match split b with
    | .ok (some (p, r)) =>
      let d := drainWithin split fuel r
      { d with pieces := p :: d.pieces }
    | .ok none => ⟨[], b, none⟩
    | .error e => ⟨[], b, some e⟩

/-- The greedy loop. No piece is empty, so the buffer's length bounds its turns. -/
def drain (split : Split α ε) (b : List α) : Drained α ε := drainWithin split (b.length + 1) b

/-- A reader of one buffer that stops at the first failure. -/
def reassemble (split : Split α ε) : List α → List (List α) → Drained α ε
  | buf, [] => ⟨[], buf, none⟩
  | buf, read :: reads =>
    let d := drain split (buf ++ read)
    if d.failed.isSome then d
    else
      let d' := reassemble split d.rest reads
      { d' with pieces := d.pieces ++ d'.pieces }

/-- More input changes neither a piece that was complete nor a failure. -/
structure Lawful (split : Split α ε) : Prop where
  taken : ∀ {b p r}, split b = .ok (some (p, r)) →
    p ≠ [] ∧ b = p ++ r ∧ ∀ m, split (b ++ m) = .ok (some (p, r ++ m))
  failed : ∀ {b e}, split b = .error e → ∀ m, split (b ++ m) = .error e

variable {split : Split α ε} {b p r : List α} {e : ε}

theorem drain_waits (h : split b = .ok none) : drain split b = ⟨[], b, none⟩ := by
  simp [drain, drainWithin, h]

theorem drain_fails (h : split b = .error e) : drain split b = ⟨[], b, some e⟩ := by
  simp [drain, drainWithin, h]

variable (hl : Lawful split)

include hl

theorem Lawful.shorter (h : split b = .ok (some (p, r))) : r.length < b.length := by
  obtain ⟨hp, rfl, -⟩ := hl.taken h
  have hpos := length_pos_iff.mpr hp
  rw [length_append]
  omega

theorem drainWithin_enough {n m : Nat} (hn : b.length < n)
    (hm : b.length < m) : drainWithin split n b = drainWithin split m b := by
  induction n generalizing m b with
  | zero => omega
  | succ n ih =>
    obtain ⟨m, rfl⟩ : ∃ k, m = k + 1 := ⟨m - 1, by omega⟩
    rcases hs : split b with e | _ | ⟨p, r⟩
    · simp [drainWithin, hs]
    · simp [drainWithin, hs]
    · have hr := hl.shorter hs
      have heq : drainWithin split n r = drainWithin split m r := ih (by omega) (by omega)
      simp [drainWithin, hs, heq]

theorem Lawful.drain_taken (h : split b = .ok (some (p, r))) :
    drain split b = { drain split r with pieces := p :: (drain split r).pieces } := by
  have heq : drainWithin split b.length r = drain split r :=
    drainWithin_enough hl (hl.shorter h) (Nat.lt_succ_self _)
  rw [← heq, drain, drainWithin, h]

theorem Lawful.induction {motive : List α → Prop}
    (waits : ∀ b, split b = .ok none → motive b) (fails : ∀ b e, split b = .error e → motive b)
    (takes : ∀ b p r, split b = .ok (some (p, r)) → motive r → motive b) (b : List α) :
    motive b := by
  obtain ⟨n, hn⟩ : ∃ n, b.length = n := ⟨_, rfl⟩
  induction n using Nat.strongRecOn generalizing b with
  | _ n ih =>
    rcases hs : split b with e | _ | ⟨p, r⟩
    · exact fails b e hs
    · exact waits b hs
    · have hlt := hl.shorter hs
      exact takes b p r hs (ih r.length (by omega) r rfl)

theorem Lawful.drain_append (b m : List α) :
    drain split (b ++ m) = { drain split ((drain split b).rest ++ m) with
      pieces := (drain split b).pieces ++ (drain split ((drain split b).rest ++ m)).pieces } := by
  induction b using hl.induction with
  | waits b hs => simp [drain_waits hs]
  | fails b e hs => simp [drain_fails hs]
  | takes b p r hs ih =>
    have hm := (hl.taken hs).2.2 m
    simp [hl.drain_taken hm, hl.drain_taken hs, ih]

/-- What is left behind waits for input, or fails with the failure that was met. -/
theorem Lawful.split_rest (b : List α) :
    split (drain split b).rest = (drain split b).failed.elim (.ok none) .error := by
  induction b using hl.induction with
  | waits b hs => simp [drain_waits hs, hs]
  | fails b e hs => simp [drain_fails hs, hs]
  | takes b p r hs ih => simpa [hl.drain_taken hs] using ih

theorem Lawful.failed_append (h : (drain split b).failed = some e)
    (m : List α) : drain split (b ++ m) =
      ⟨(drain split b).pieces, (drain split b).rest ++ m, some e⟩ := by
  have hrest := hl.split_rest b
  rw [h] at hrest
  rw [hl.drain_append, drain_fails (hl.failed hrest m), append_nil]

theorem Lawful.drain_pieces {ps : List (List α)} {tail : List α}
    (hps : ∀ p ∈ ps, ∀ m, split (p ++ m) = .ok (some (p, m))) :
    drain split (ps.flatten ++ tail) =
      { drain split tail with pieces := ps ++ (drain split tail).pieces } := by
  induction ps with
  | nil => rfl
  | cons p ps ih =>
    have hp := hps p mem_cons_self (ps.flatten ++ tail)
    rw [flatten_cons, append_assoc, hl.drain_taken hp, ih fun q hq => hps q (mem_cons_of_mem _ hq)]
    rfl

/-- A reader that stops at a failure may leave some of the later reads unread; apart
from these it ends as if it had been given everything at once. -/
theorem Lawful.reassemble_eq {buf : List α} (hbuf : split buf = .ok none)
    (reads : List (List α)) : ∃ unread, drain split (buf ++ reads.flatten) =
      { reassemble split buf reads with rest := (reassemble split buf reads).rest ++ unread } := by
  induction reads generalizing buf with
  | nil => exact ⟨[], by simp [reassemble, drain_waits hbuf]⟩
  | cons read reads ih =>
    rw [flatten_cons, ← append_assoc]
    cases hf : (drain split (buf ++ read)).failed with
    | some e =>
      rw [hl.failed_append hf]
      exact ⟨reads.flatten, by simp [reassemble, hf]⟩
    | none =>
      have hrest := hl.split_rest (buf ++ read)
      rw [hf] at hrest
      obtain ⟨unread, heq⟩ := ih hrest
      rw [hl.drain_append, heq]
      exact ⟨unread, by simp [reassemble, hf]⟩

end Splitter
