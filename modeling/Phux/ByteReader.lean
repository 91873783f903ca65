import Mathlib.Data.List.Basic
import Mathlib.Algebra.Group.Nat.Defs

/-! Readers over a byte cursor, and the calculus relating a reader to the bytes
it accepts. A cursor may carry the end of an enclosing body, which readers of
optional trailing data consult. -/

namespace ByteReader

open List

abbrev Bytes := List UInt8

/-- The unread bytes, the offset already consumed and the declared end. -/
structure Cursor where
  rest : Bytes
  pos : Nat := 0
  bodyEnd : Option Nat := none
deriving DecidableEq, Repr

namespace Cursor

def left (c : Cursor) : Nat := c.bodyEnd.getD (c.pos + c.rest.length) - c.pos

def atBodyEnd (c : Cursor) : Bool := decide (c.bodyEnd.getD (c.pos + c.rest.length) ≤ c.pos)

def advance (c : Cursor) (n : Nat) : Cursor :=
  { c with rest := c.rest.drop n, pos := c.pos + n }

variable {c : Cursor}

@[simp] theorem advance_zero : c.advance 0 = c := by simp [advance]

@[simp] theorem advance_advance {m n : Nat} : (c.advance m).advance n = c.advance (m + n) := by
  simp [advance, Nat.add_assoc]

theorem advance_rest {bs r : Bytes} (h : c.rest = bs ++ r) : (c.advance bs.length).rest = r := by
  simp [advance, h]

theorem atBodyEnd_iff (c : Cursor) : c.atBodyEnd = true ↔ c.left = 0 := by
  simp only [atBodyEnd, left, decide_eq_true_eq]
  omega

theorem left_advance {bs r : Bytes} (h : c.rest = bs ++ r) :
    (c.advance bs.length).left = c.left - bs.length := by
  cases he : c.bodyEnd with
  | none => simp [left, advance, he, h]
  | some e =>
    simp only [left, advance, he, Option.getD_some]
    omega

end Cursor

/-- A reader fails with an error or returns a value and the moved cursor. -/
abbrev Reader (ε : Type) := StateT Cursor (Except ε)

variable {ε α β : Type} {limit : Nat}

/-- `p` consumes exactly `bs`, whatever follows, and returns `a`. The bytes stay
within `limit`, the size up to which length fields are accepted. -/
def Reads (limit : Nat) (p : Reader ε α) (bs : Bytes) (a : α) : Prop :=
  bs.length ≤ limit → ∀ (c : Cursor) (r : Bytes), c.rest = bs ++ r →
    p c = .ok (a, c.advance bs.length)

def ReadsToEnd (limit : Nat) (p : Reader ε α) (bs : Bytes) (a : α) : Prop :=
  bs.length ≤ limit → ∀ (c : Cursor) (r : Bytes), c.rest = bs ++ r → c.left = bs.length →
    p c = .ok (a, c.advance bs.length)

variable {a : α} {p : Reader ε α} {bs : Bytes} {b : β} {f : α → Reader ε β} {e : ε}

theorem Reads.toEnd (h : Reads limit p bs a) : ReadsToEnd limit p bs a := fun hb c r hr _ => h hb c r hr

theorem reads_pure (a : α) : Reads limit (pure a : Reader ε α) [] a := by
  intro _ c r _
  simp only [length_nil, Cursor.advance_zero]
  rfl

theorem bind_ok {c d : Cursor} (h : p c = .ok (a, d)) : (p >>= f) c = f a d := by
  calc (p >>= f) c = (p c >>= fun x => f x.1 x.2) := rfl
    _ = f a d := by rw [h]; rfl

theorem Reads.bind {bs' : Bytes} (h : Reads limit p bs a) (h' : Reads limit (f a) bs' b) :
    Reads limit (p >>= f) (bs ++ bs') b := by
  intro hb c r hr
  rw [length_append] at hb
  rw [append_assoc] at hr
  have hf := h' (by omega) _ r (Cursor.advance_rest hr)
  rw [bind_ok (h (by omega) c _ hr), hf, Cursor.advance_advance, length_append]

theorem Reads.bindToEnd {bs' : Bytes} (h : Reads limit p bs a)
    (h' : ReadsToEnd limit (f a) bs' b) : ReadsToEnd limit (p >>= f) (bs ++ bs') b := by
  intro hb c r hr hl
  rw [length_append] at hb hl
  rw [append_assoc] at hr
  have hleft : (c.advance bs.length).left = bs'.length := by
    rw [Cursor.left_advance hr, hl]
    omega
  have hf := h' (by omega) _ r (Cursor.advance_rest hr) hleft
  rw [bind_ok (h (by omega) c _ hr), hf, Cursor.advance_advance, length_append]

theorem Reads.thenPure (h : Reads limit p bs a) (hf : f a = pure b) :
    Reads limit (p >>= f) bs b := by
  have hp : Reads limit (f a) [] b := by
    rw [hf]
    exact reads_pure b
  have hb := h.bind hp
  rwa [append_nil] at hb

theorem Reads.map (g : α → β) (h : Reads limit p bs a) :
    Reads limit (p >>= fun x => pure (g x)) bs (g a) := h.thenPure rfl

theorem ReadsToEnd.bind (h : ReadsToEnd limit p bs a) (h' : ∀ c, f a c = .ok (b, c)) :
    ReadsToEnd limit (p >>= f) bs b := by
  intro hb c r hr hl
  rw [bind_ok (h hb c r hr hl), h']

def failIf {m : Type → Type} [Monad m] [MonadExceptOf ε m] (failed : Prop) [Decidable failed]
    (e : ε) : m Unit :=
  if failed then throw e else pure ()

def okOr {m : Type → Type} [Monad m] [MonadExceptOf ε m] (o : Option α) (e : ε) : m α :=
  match o with
  | some a => pure a
  | none => throw e

variable {m : Type → Type}

@[simp] theorem okOr_some [Monad m] [MonadExceptOf ε m] (a : α) (e : ε) :
    (okOr (some a) e : m α) = pure a := rfl

variable {failed : Prop}

theorem failIf_of_not [Monad m] [MonadExceptOf ε m]
    [Decidable failed] (h : ¬ failed) : (failIf failed e : m Unit) = pure () := by
  simp [failIf, h]

theorem Reads.failIf [Decidable failed] {f : Unit → Reader ε β} (h : ¬ failed)
    (h' : Reads limit (f ()) bs b) : Reads limit (failIf failed e >>= f) bs b := by
  rw [failIf_of_not h, pure_bind]
  exact h'

theorem Reads.okOr {o : Option α} (h : o = some a) (h' : Reads limit (f a) bs b) :
    Reads limit (okOr o e >>= f) bs b := by
  rw [h, okOr_some, pure_bind]
  exact h'

theorem Reads.translate {g : α → Option β} {e : α → ε} (h : Reads limit p bs a)
    (hg : g a = some b) : Reads limit (p >>= fun x => ByteReader.okOr (g x) (e x)) bs b :=
  h.thenPure (by rw [hg, okOr_some])

/-- Run a reader over just the bytes of one field, ignoring what it leaves. -/
def sub (p : Reader ε α) (value : Bytes) : Except ε α := (p { rest := value }).map Prod.fst

theorem ReadsToEnd.sub (h : ReadsToEnd limit p bs a) (hb : bs.length ≤ limit) :
    sub p bs = .ok a := by
  have hc := h hb { rest := bs } [] (by simp) (by simp [Cursor.left])
  rw [ByteReader.sub, hc]
  rfl

theorem Reads.sub (h : Reads limit p bs a) (hb : bs.length ≤ limit) :
    sub p bs = .ok a := h.toEnd.sub hb

def take (eof : ε) (n : Nat) : Reader ε Bytes := fun c =>
  if c.rest.length < n then .error eof else .ok (c.rest.take n, c.advance n)

theorem reads_take (eof : ε) (bs : Bytes) : Reads limit (take eof bs.length) bs bs := by
  intro _ c r hr
  have hn : ¬ c.rest.length < bs.length := by simp [hr]
  simp only [take, if_neg hn]
  rw [hr, take_left]

def replicate (n : Nat) (p : Reader ε α) : Reader ε (List α) :=
  match n with
  | 0 => pure []
  | n + 1 => do
    let x ← p
    let xs ← replicate n p
    pure (x :: xs)

theorem reads_replicate {p : Reader ε β} {enc : α → Bytes} {g : α → β} (xs : List α)
    (h : ∀ x ∈ xs, Reads limit p (enc x) (g x)) :
    Reads limit (replicate xs.length p) (xs.flatMap enc) (xs.map g) := by
  induction xs with
  | nil => exact reads_pure []
  | cons x xs ih =>
    have htail := ih fun y hy => h y (mem_cons_of_mem x hy)
    exact (h x mem_cons_self).bind (htail.map (g x :: ·))

end ByteReader
