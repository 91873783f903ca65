import Phux.Postcondition

/-! Readers with a meter. The meter counts what a reader sets aside while it runs, also when it
fails in the end, and is compared with the bytes it had to read. -/

namespace ByteReader
open Cursor Nat

variable {ε α β σ : Type}

/-- A success moves the cursor on by at least `k` of the unread bytes. -/
def Forward (k : Nat) (p : Reader ε α) : Prop :=
  ∀ c a d, p c = .ok (a, d) → ∃ n, k ≤ n ∧ n ≤ c.rest.length ∧ d = c.advance n

theorem forward_pure (a : α) : Forward 0 (pure a : Reader ε α) := by
  intro c b d h
  obtain ⟨-, rfl⟩ := pure_eq_ok.mp h
  exact ⟨0, Nat.le_refl 0, Nat.zero_le _, advance_zero.symm⟩

theorem forward_throw (k : Nat) (e : ε) : Forward k (throw e : Reader ε α) := by
  intro c a d h
  cases h

theorem forward_lift (x : Except ε α) : Forward 0 (StateT.lift x : Reader ε α) := by
  intro c a d h
  obtain ⟨-, rfl⟩ := lift_eq_ok.mp h
  exact ⟨0, Nat.le_refl 0, Nat.zero_le _, advance_zero.symm⟩

theorem forward_failIf {failed : Prop} [Decidable failed] {e : ε} :
    Forward 0 (failIf failed e : Reader ε Unit) := by
  intro c u d h
  obtain ⟨-, rfl⟩ := failIf_eq_ok.mp h
  exact ⟨0, Nat.le_refl 0, Nat.zero_le _, advance_zero.symm⟩

theorem forward_okOr (o : Option α) (e : ε) : Forward 0 (okOr o e : Reader ε α) := by
  cases o with
  | none => exact forward_throw 0 e
  | some a => exact forward_pure a

theorem forward_take {eof : ε} {n : Nat} : Forward n (take eof n) := by
  intro c bs d h
  obtain ⟨hle, -, rfl⟩ := take_eq_ok.mp h
  exact ⟨n, Nat.le_refl n, hle, rfl⟩

variable {k e : Nat} {p : Reader ε α} {f : α → Reader ε β} {c d : Cursor} {value : Bytes}

theorem Forward.mono {l : Nat} (h : Forward k p) (hl : l ≤ k) : Forward l p := by
  intro c a d ha
  obtain ⟨n, hk, hn, hd⟩ := h c a d ha
  exact ⟨n, Nat.le_trans hl hk, hn, hd⟩

theorem Forward.any (h : Forward k p) : Forward 0 p := h.mono (zero_le k)

theorem Forward.one (h : Forward (k + 1) p) : Forward 1 p := h.mono (le_add_left 1 k)

theorem length_advance (c : Cursor) (n : Nat) : (c.advance n).rest.length = c.rest.length - n :=
  List.length_drop

theorem Forward.bind {l : Nat} (h : Forward k p) (h' : ∀ a, Forward l (f a)) :
    Forward (k + l) (p >>= f) := by
  intro c b e hb
  obtain ⟨a, d, ha, hfa⟩ := bind_eq_ok.mp hb
  obtain ⟨m, hk, hm, rfl⟩ := h c a d ha
  obtain ⟨n, hl, hn, rfl⟩ := h' a _ b e hfa
  rw [length_advance] at hn
  exact ⟨m + n, by omega, by omega, advance_advance⟩

theorem Forward.before (h : Forward k p) (h' : ∀ a, Forward 0 (f a)) :
    Forward k (p >>= f) := h.bind h'

theorem Forward.andThen (h : Forward 0 p) (h' : ∀ a, Forward 0 (f a)) : Forward 0 (p >>= f) := h.bind h'

theorem Forward.trailing {absent : α} (h : Forward 0 p) : Forward 0 (trailing absent p) := by
  intro c a d ha
  unfold ByteReader.trailing at ha
  split at ha
  · cases ha
    exact ⟨0, Nat.le_refl 0, Nat.zero_le _, advance_zero.symm⟩
  · exact h c a d ha

theorem Forward.replicate (h : Forward k p) (n : Nat) : Forward (n * k) (replicate n p) := by
  induction n with
  | zero => exact (forward_pure []).mono (by omega)
  | succ n ih =>
    have hcons := h.bind fun x => ih.before fun xs => forward_pure (x :: xs)
    exact hcons.mono (by rw [succ_mul]; omega)

theorem Forward.foldRows {f : σ → α → σ} (h : Forward 0 p) (n : Nat) (s : σ) :
    Forward 0 (foldRows p f n s) := by
  induction n generalizing s with
  | zero => exact forward_pure s
  | succ n ih => exact h.andThen fun x => ih (f s x)

/-- A reader that never moves back, found by instance search along its binds. -/
class Onward (p : Reader ε α) : Prop where
  forward : Forward 0 p

theorem Forward.onward (h : Forward k p) : Onward p := ⟨h.any⟩

instance (a : α) : Onward (pure a : Reader ε α) := ⟨forward_pure a⟩

instance (x : Except ε α) : Onward (StateT.lift x : Reader ε α) := ⟨forward_lift x⟩

instance (failed : Prop) [Decidable failed] (e : ε) : Onward (failIf failed e : Reader ε Unit) :=
  ⟨forward_failIf⟩

instance (o : Option α) (e : ε) : Onward (okOr o e : Reader ε α) := ⟨forward_okOr o e⟩

instance {p : Reader ε α} {f : α → Reader ε β} [h : Onward p] [h' : ∀ a, Onward (f a)] :
    Onward (p >>= f) := ⟨h.forward.andThen fun a => (h' a).forward⟩

instance {absent : α} {p : Reader ε α} [h : Onward p] : Onward (trailing absent p) :=
  ⟨h.forward.trailing⟩

instance {p : Reader ε α} {f : σ → α → σ} [h : Onward p] (n : Nat) (s : σ) :
    Onward (foldRows p f n s) := ⟨h.forward.foldRows n s⟩

instance {p : Reader ε α} [h : Onward p] (n : Nat) : Onward (replicate n p) :=
  (h.forward.replicate n).onward

theorem forward_varintLoop (eof ov : ε) (k : Nat) (result : UInt64) (shift : Nat) :
    Forward 0 (varintLoop eof ov k result shift) := by
  induction k generalizing result shift with
  | zero => exact forward_throw 0 ov
  | succ k ih =>
    refine (forward_take.mono (zero_le 1)).andThen fun bs => ?_
    simp only
    split
    · exact forward_pure _
    · exact ih _ _

variable {limit : Nat} {id : UInt32}

theorem readFieldBody_ok {eof ov : ε} (h : readFieldBody eof ov limit c = .ok ((id, value), d)) :
    ∃ n, n ≤ c.rest.length ∧ value.length ≤ n ∧ d = c.advance n := by
  unfold readFieldBody at h
  obtain ⟨rawId, c₁, hid, h⟩ := bind_eq_ok.mp h
  obtain ⟨_, c₂, hsmall, h⟩ := bind_eq_ok.mp h
  obtain ⟨_, c₃, hkind, h⟩ := bind_eq_ok.mp h
  obtain ⟨len, c₄, hlen, h⟩ := bind_eq_ok.mp h
  obtain ⟨_, c₅, hlimit, h⟩ := bind_eq_ok.mp h
  obtain ⟨bytes, c₆, hvalue, h⟩ := bind_eq_ok.mp h
  obtain ⟨n₁, -, hn₁, rfl⟩ := forward_varintLoop eof ov 10 0 0 c rawId c₁ hid
  obtain ⟨-, rfl⟩ := failIf_eq_ok.mp hsmall
  obtain ⟨hn₃, -, rfl⟩ := take_eq_ok.mp hkind
  obtain ⟨n₄, -, hn₄, rfl⟩ := forward_varintLoop eof ov 10 0 0 _ len c₄ hlen
  obtain ⟨-, rfl⟩ := failIf_eq_ok.mp hlimit
  obtain ⟨hn₆, hbytes, rfl⟩ := take_eq_ok.mp hvalue
  obtain ⟨hpair, rfl⟩ := pure_eq_ok.mp h
  cases hpair
  simp only [length_advance] at hn₃ hn₄ hn₆
  refine ⟨n₁ + 1 + n₄ + len.toNat, by omega, ?_, by simp only [advance_advance]⟩
  rw [hbytes, List.length_take]
  omega

theorem readField_some {eof ov : ε} (h : readField eof ov limit c = .ok (some (id, value), d)) :
    ∃ n, n ≤ c.rest.length ∧ value.length ≤ n ∧ d = c.advance n := by
  unfold readField at h
  split at h
  · cases h
  · obtain ⟨⟨field, d'⟩, hbody, hpair⟩ := Fallible.map_eq_ok.mp h
    cases hpair
    exact readFieldBody_ok hbody

theorem forward_fieldLoop {eof ov : ε}
    {step : σ → UInt32 → Bytes → Except ε σ} {fuel : Nat} (acc : σ) :
    Forward 0 (fieldLoop eof ov limit step fuel acc) := by
  induction fuel generalizing acc with
  | zero => exact forward_throw 0 eof
  | succ fuel ih =>
    intro c a d h
    unfold fieldLoop at h
    obtain ⟨field, c', hfield, h⟩ := bind_eq_ok.mp h
    cases field with
    | none =>
      unfold readField at hfield
      split at hfield
      · cases hfield
        exact forward_pure acc _ _ _ h
      · obtain ⟨_, -, hpair⟩ := Fallible.map_eq_ok.mp hfield
        cases hpair
    | some field =>
      obtain ⟨n, hn, -, rfl⟩ := readField_some hfield
      obtain ⟨acc', c'', hstep, h⟩ := bind_eq_ok.mp h
      obtain ⟨-, rfl⟩ := lift_eq_ok.mp hstep
      obtain ⟨m, -, hm, rfl⟩ := ih acc' _ _ _ h
      rw [length_advance] at hm
      exact ⟨n + m, zero_le _, by omega, advance_advance⟩

theorem forward_forFields (eof ov : ε) (limit : Nat)
    (step : σ → UInt32 → Bytes → Except ε σ) (acc : σ) :
    Forward 0 (forFields eof ov limit step acc) := fun c =>
  forward_fieldLoop acc c

structure Metered (ε α : Type) where
  run : Reader ε α
  cost : Cursor → Nat

namespace Metered

/-- The cost of going on from a result; there is none after a failure. -/
def onward (f : α → Metered ε β) : Except ε (α × Cursor) → Nat
  | .ok (a, d) => (f a).cost d
  | .error _ => 0

instance : Monad (Metered ε) where
  pure a := ⟨pure a, fun _ => 0⟩
  bind m f := ⟨m.run >>= fun a => (f a).run, fun c => m.cost c + onward f (m.run c)⟩

def free (p : Reader ε α) : Metered ε α := ⟨p, fun _ => 0⟩

def reserve (count slot : Nat) : Metered ε Unit := ⟨pure (), fun _ => count * slot⟩

/-- Room for `count` elements, but for no more than there are bytes left to read. -/
def reserveBounded (count slot : Nat) : Metered ε Unit :=
  ⟨pure (), fun c => min count c.left * slot⟩

def replicate (n : Nat) (m : Metered ε α) : Metered ε (List α) :=
  match n with
  | 0 => pure []
  | n + 1 => do
    let x ← m
    let xs ← replicate n m
    pure (x :: xs)

def firstSome (unrecognised : Metered ε α) : List (Metered ε (Option α)) → Metered ε α
  | [] => unrecognised
  | m :: ms => do
    match ← m with
    | some a => pure a
    | none => firstSome unrecognised ms

def trailing (absent : α) (m : Metered ε α) : Metered ε α :=
  ⟨ByteReader.trailing absent m.run, fun c => if c.atBodyEnd then 0 else m.cost c⟩

variable (m : Metered ε α)

theorem run_bind (f : α → Metered ε β) : (m >>= f).run = m.run >>= fun a => (f a).run := rfl

theorem run_replicate (n : Nat) (m : Metered ε α) :
    (replicate n m).run = ByteReader.replicate n m.run := by
  induction n with
  | zero => rfl
  | succ n ih =>
    unfold replicate ByteReader.replicate
    rw [run_bind, ← ih]
    rfl

theorem run_firstSome (unrecognised : Metered ε α) (ms : List (Metered ε (Option α))) :
    (firstSome unrecognised ms).run = ByteReader.firstSome unrecognised.run (ms.map run) := by
  induction ms with
  | nil => rfl
  | cons m ms ih =>
    rw [firstSome, run_bind, List.map_cons, ByteReader.firstSome]
    refine bind_congr fun o => ?_
    cases o with
    | some a => rfl
    | none => exact ih

theorem cost_bind (f : α → Metered ε β) (c : Cursor) :
    (m >>= f).cost c = m.cost c + onward f (m.run c) := rfl

variable {m}

variable {f : α → Metered ε β} {a : α}

theorem cost_bind_ok (h : m.run c = .ok (a, d)) : (m >>= f).cost c = m.cost c + (f a).cost d := by
  rw [cost_bind, h]
  rfl

theorem cost_bind_error {e : ε} (h : m.run c = .error e) : (m >>= f).cost c = m.cost c := by
  rw [cost_bind, h]
  rfl

/-- A success costs `k` for each byte taken, and a failure `k` for each byte there was and `e`
more. -/
def Linear (k e : Nat) (m : Metered ε α) : Prop :=
  ∀ c, c.left ≤ c.rest.length →
    (∀ a d, m.run c = .ok (a, d) → ∃ n, n ≤ c.rest.length ∧ d = c.advance n ∧ m.cost c ≤ k * n) ∧
    m.cost c ≤ k * c.rest.length + e

theorem linear_free [h : Onward p] : Linear k e (free p) := by
  intro c _
  refine ⟨fun a d ha => ?_, zero_le _⟩
  obtain ⟨n, -, hn, hd⟩ := h.forward c a d ha
  exact ⟨n, hn, hd, zero_le _⟩

theorem linear_pure : Linear k e (pure a : Metered ε α) := linear_free

theorem Linear.mono {k' e' : Nat} (h : Linear k e m) (hk : k ≤ k')
    (he : e ≤ e') : Linear k' e' m := by
  intro c hc
  obtain ⟨hok, hany⟩ := h c hc
  refine ⟨fun a d ha => ?_, ?_⟩
  · obtain ⟨n, hn, hd, hcost⟩ := hok a d ha
    exact ⟨n, hn, hd, Nat.le_trans hcost (Nat.mul_le_mul_right n hk)⟩
  · have hmul := mul_le_mul_right c.rest.length hk
    omega

theorem left_advance_le (h : c.left ≤ c.rest.length) {n : Nat}
    (hn : n ≤ c.rest.length) : (c.advance n).left ≤ (c.advance n).rest.length := by
  rw [length_advance]
  unfold left at h ⊢
  cases hend : c.bodyEnd with
  | none =>
    simp only [advance, hend, Option.getD_none, List.length_drop]
    omega
  | some e =>
    simp only [hend, Option.getD_some] at h
    simp only [advance, hend, Option.getD_some]
    omega

theorem Linear.bind (h : Linear k e m) (h' : ∀ a, Linear k e (f a)) : Linear k e (m >>= f) := by
  intro c hc
  obtain ⟨hok, hany⟩ := h c hc
  cases hrun : m.run c with
  | error err =>
    rw [cost_bind_error hrun]
    refine ⟨fun b d hb => ?_, hany⟩
    obtain ⟨a, d', ha, -⟩ := bind_eq_ok.mp hb
    rw [hrun] at ha
    cases ha
  | ok result =>
    obtain ⟨a, d⟩ := result
    obtain ⟨n, hn, rfl, hcost⟩ := hok a d hrun
    obtain ⟨hok', hany'⟩ := h' a _ (left_advance_le hc hn)
    rw [cost_bind_ok hrun]
    refine ⟨fun b d hb => ?_, ?_⟩
    · obtain ⟨a', d', ha, hfa⟩ := bind_eq_ok.mp hb
      cases hrun.symm.trans ha
      obtain ⟨n', hn', rfl, hcost'⟩ := hok' b d hfa
      rw [length_advance] at hn'
      refine ⟨n + n', by omega, advance_advance, ?_⟩
      rw [Nat.mul_add]
      omega
    · rw [length_advance] at hany'
      have hsplit : k * c.rest.length = k * n + k * (c.rest.length - n) := by
        rw [← Nat.mul_add, Nat.add_sub_cancel' hn]
      omega

theorem Linear.after [Onward p] (h : ∀ a, Linear k e (f a)) : Linear k e (free p >>= f) :=
  linear_free.bind h

theorem Linear.trailing (absent : α) (h : Linear k e m) :
    Linear k e (Metered.trailing absent m) := by
  intro c hc
  obtain ⟨hok, hany⟩ := h c hc
  unfold Metered.trailing ByteReader.trailing
  by_cases hend : c.atBodyEnd = true
  · simp only [hend, ↓reduceIte]
    refine ⟨fun a d ha => ?_, zero_le _⟩
    cases ha
    exact ⟨0, zero_le _, advance_zero.symm, zero_le _⟩
  · simp only [hend]
    exact ⟨hok, hany⟩

theorem Linear.firstSome {unrecognised : Metered ε α} (h : Linear k e unrecognised)
    {ms : List (Metered ε (Option α))} (hms : ∀ m ∈ ms, Linear k e m) :
    Linear k e (firstSome unrecognised ms) := by
  induction ms with
  | nil => exact h
  | cons m ms ih =>
    refine (hms m List.mem_cons_self).bind fun o => ?_
    cases o with
    | some a => exact linear_pure
    | none => exact ih fun q hq => hms q (List.mem_cons_of_mem m hq)

theorem Linear.replicate (h : Linear k e m) (n : Nat) : Linear k e (replicate n m) := by
  induction n with
  | zero => exact linear_pure
  | succ n ih => exact h.bind fun x => ih.bind fun xs => linear_pure

/-- Room set aside ahead of elements that each take a byte at least is paid by the elements. -/
theorem Linear.ahead (count slot extra : Nat) (h : Linear k e m)
    (hforward : Forward 1 m.run) {room : Cursor → Nat} (hroom : ∀ c, room c ≤ count * slot)
    (hextra : ∀ c, c.left ≤ c.rest.length → room c ≤ slot * c.rest.length + extra) :
    Linear (slot + k) (extra + e)
      ((⟨pure (), room⟩ : Metered ε Unit) >>= fun _ => Metered.replicate count m) := by
  intro c hc
  have hrun : (⟨pure (), room⟩ : Metered ε Unit).run c = .ok ((), c) := rfl
  rw [cost_bind_ok hrun]
  obtain ⟨hok, hany⟩ := h.replicate count c hc
  have hroomc := hroom c
  have hextrac := hextra c hc
  refine ⟨fun xs d hxs => ?_, ?_⟩
  · have hxs' : (Metered.replicate count m).run c = .ok (xs, d) := hxs
    obtain ⟨n, hn, rfl, hcost⟩ := hok xs d hxs'
    rw [run_replicate] at hxs'
    obtain ⟨n', hcount, hn', hsame⟩ := hforward.replicate count c xs _ hxs'
    have hlen := congrArg (fun d : Cursor => d.rest.length) hsame
    simp only [length_advance] at hlen
    have hnn : n = n' := by omega
    subst hnn
    refine ⟨n, hn, rfl, ?_⟩
    have hslots : count * slot ≤ slot * n := by
      rw [mul_comm]
      exact mul_le_mul_left slot (by omega)
    change room c + (Metered.replicate count m).cost c ≤ _
    rw [Nat.add_mul]
    omega
  · change room c + (Metered.replicate count m).cost c ≤ _
    rw [Nat.add_mul]
    omega

theorem Linear.bounded (count slot : Nat) (h : Linear k e m) (hforward : Forward 1 m.run) :
    Linear (slot + k) e (reserveBounded count slot >>= fun _ => Metered.replicate count m) := by
  have hahead := h.ahead count slot 0 hforward
    (fun c => Nat.mul_le_mul_right slot (Nat.min_le_left _ _))
    fun c hc => by
      rw [mul_comm slot]
      exact Nat.mul_le_mul_right slot (Nat.le_trans (Nat.min_le_right _ _) hc)
  rwa [Nat.zero_add] at hahead

theorem Linear.unbounded {count most slot : Nat} (hmost : count ≤ most)
    (h : Linear k e m) (hforward : Forward 1 m.run) : Linear (slot + k) (most * slot + e)
      (reserve count slot >>= fun _ => Metered.replicate count m) :=
  h.ahead count slot (most * slot) hforward (fun _ => Nat.le_refl _)
    fun _ _ => Nat.le_trans (Nat.mul_le_mul_right slot hmost) (Nat.le_add_left _ _)

def onValue (m : Metered ε α) (value : Bytes) : Nat := m.cost { rest := value }

theorem Linear.onValue_ok (h : Linear k e m)
    (ha : ByteReader.sub m.run value = .ok a) : m.onValue value ≤ k * value.length := by
  have hleft : ({ rest := value } : Cursor).left ≤ value.length := by simp [left]
  obtain ⟨⟨b, d⟩, hb, -⟩ := Fallible.map_eq_ok.mp ha
  obtain ⟨n, hn, -, hcost⟩ := (h { rest := value } hleft).1 b d hb
  exact Nat.le_trans hcost (Nat.mul_le_mul_left k hn)

end Metered

variable {eof ov : ε} {step : σ → UInt32 → Bytes → Except ε σ}

/-- What a loop over fields sets aside: for every field it reads, what its decoder does. -/
def loopCost (eof overflow : ε) (limit : Nat) (step : σ → UInt32 → Bytes → Except ε σ)
    (fieldCost : UInt32 → Bytes → Nat) : Nat → σ → Cursor → Nat
  | 0, _, _ => 0
  | fuel + 1, acc, c =>
    match readField eof overflow limit c with
    | .ok (some (id, value), d) =>
      fieldCost id value +
        match step acc id value with
        | .ok acc' => loopCost eof overflow limit step fieldCost fuel acc' d
        | .error _ => 0
    | _ => 0

theorem loopCost_le {fieldCost : UInt32 → Bytes → Nat}
    (hany : ∀ id value, fieldCost id value ≤ k * value.length + e)
    (hok : ∀ acc id value acc', step acc id value = .ok acc' → fieldCost id value ≤ k * value.length)
    (fuel : Nat) (acc : σ) (c : Cursor) :
    loopCost eof ov limit step fieldCost fuel acc c ≤ k * c.rest.length + e := by
  induction fuel generalizing acc c with
  | zero => exact zero_le _
  | succ fuel ih =>
    unfold loopCost
    split
    · rename_i id value d hfield
      obtain ⟨n, hn, hvalue, rfl⟩ := readField_some hfield
      have hscale : k * value.length ≤ k * n := mul_le_mul_left k hvalue
      have hsplit : k * c.rest.length = k * n + k * (c.rest.length - n) := by
        rw [← Nat.mul_add, Nat.add_sub_cancel' hn]
      split
      · rename_i acc' hstep
        have hcost := hok acc id value acc' hstep
        have hrest := ih acc' (c.advance n)
        rw [length_advance] at hrest
        omega
      · have hcost := hany id value
        omega
    · exact zero_le _

theorem fieldLoop_within {S : σ → Prop} {most : Nat}
    (hstep : ∀ acc id value acc', S acc → value.length ≤ most → step acc id value = .ok acc' →
      S acc') (fuel : Nat) {acc : σ} (hacc : S acc) (hc : c.rest.length ≤ most) :
    ∀ acc' d, fieldLoop eof ov limit step fuel acc c = .ok (acc', d) → S acc' := by
  induction fuel generalizing acc c with
  | zero =>
    intro acc' d h
    cases h
  | succ fuel ih =>
    intro acc' d h
    unfold fieldLoop at h
    obtain ⟨field, c', hfield, h⟩ := bind_eq_ok.mp h
    cases field with
    | none =>
      obtain ⟨rfl, -⟩ := pure_eq_ok.mp h
      exact hacc
    | some field =>
      obtain ⟨n, hn, hvalue, rfl⟩ := readField_some hfield
      obtain ⟨next, c'', hnext, h⟩ := bind_eq_ok.mp h
      obtain ⟨hok, rfl⟩ := lift_eq_ok.mp hnext
      refine ih (hstep acc field.1 field.2 next hacc (by omega) hok) ?_ acc' d h
      rw [length_advance]
      omega

end ByteReader
