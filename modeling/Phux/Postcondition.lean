import Phux.FieldList
import Phux.KeyedRows

/-! What readers return when they succeed: postconditions on the value, and on the value together
with the number of bytes taken for it. -/

namespace ByteReader

variable {ε α β σ : Type} {P : α → Prop} {Q : β → Prop}

variable {p : Reader ε α} {x : Except ε α} {a : α} {f : α → Reader ε β} {R : α → Nat → Prop}

def Makes (P : α → Prop) (x : Except ε α) : Prop := ∀ a, x = .ok a → P a

theorem makes_ok (h : P a) : Makes P (.ok a : Except ε α) := by
  intro b hb
  rwa [← Except.ok.inj hb]

variable {P' : α → Prop}

theorem Makes.imp (h : Makes P x) (himp : ∀ a, P a → P' a) : Makes P' x := fun a ha => himp a (h a ha)

theorem Makes.bind {f : α → Except ε β} (h : Makes P x) (h' : ∀ a, P a → Makes Q (f a)) :
    Makes Q (x >>= f) := by
  intro b hb
  obtain ⟨a, ha, hfa⟩ := Fallible.bind_eq_ok.mp hb
  exact h' a (h a ha) b hfa

theorem Makes.after {f : α → Except ε β} (h : ∀ a, Makes Q (f a)) : Makes Q (x >>= f) := by
  intro b hb
  obtain ⟨a, -, hfa⟩ := Fallible.bind_eq_ok.mp hb
  exact h a b hfa

variable {e : ε} {failed : Prop}

theorem makes_check [Decidable failed] :
    Makes (fun _ => ¬ failed) (failIf failed e : Except ε Unit) := fun _ h => check_eq_ok.mp h

theorem makes_ok_or {o : Option α} : Makes (fun a => o = some a) (okOr o e : Except ε α) :=
  fun _ h => ok_or_eq_ok.mp h

def Yields (P : α → Prop) (p : Reader ε α) : Prop := ∀ c a d, p c = .ok (a, d) → P a

theorem yields_pure (h : P a) : Yields P (pure a : Reader ε α) := by
  intro c b d hb
  obtain ⟨rfl, -⟩ := pure_eq_ok.mp hb
  exact h

theorem yields_throw (e : ε) : Yields P (throw e : Reader ε α) := by
  intro c a d h
  cases h

theorem yields_lift (h : Makes P x) : Yields P (StateT.lift x : Reader ε α) := by
  intro c a d hlift
  exact h a (lift_eq_ok.mp hlift).1

theorem yields_failIf [Decidable failed] :
    Yields (fun _ => ¬ failed) (failIf failed e : Reader ε Unit) :=
  fun _ _ _ h => (failIf_eq_ok.mp h).1

theorem Yields.imp (h : Yields P p) (himp : ∀ a, P a → P' a) : Yields P' p :=
  fun c a d ha => himp a (h c a d ha)

theorem Yields.bind (h : Yields P p) (h' : ∀ a, P a → Yields Q (f a)) : Yields Q (p >>= f) := by
  intro c b e hb
  obtain ⟨a, d, ha, hfa⟩ := bind_eq_ok.mp hb
  exact h' a (h c a d ha) d b e hfa

theorem Yields.after (h : ∀ a, Yields Q (f a)) : Yields Q (p >>= f) := by
  intro c b e hb
  obtain ⟨a, d, -, hfa⟩ := bind_eq_ok.mp hb
  exact h a d b e hfa

theorem Yields.sub (h : Yields P p) (value : Bytes) : Makes P (sub p value) := by
  intro a ha
  obtain ⟨⟨b, d⟩, hb, rfl⟩ := Fallible.map_eq_ok.mp ha
  exact h _ _ _ hb

theorem Yields.trailing {absent : α} (habsent : P absent) (h : Yields P p) :
    Yields P (trailing absent p) := by
  intro c a d ha
  unfold ByteReader.trailing at ha
  split at ha
  · cases ha
    exact habsent
  · exact h c a d ha

theorem Yields.replicate (h : Yields P p) (n : Nat) :
    Yields (fun xs => xs.length = n ∧ ∀ x ∈ xs, P x) (replicate n p) := by
  induction n with
  | zero => exact yields_pure ⟨rfl, fun x hx => by cases hx⟩
  | succ n ih =>
    refine h.bind fun x hx => ih.bind fun xs hxs => yields_pure ⟨?_, ?_⟩
    · rw [List.length_cons, hxs.1]
    · intro y hy
      rcases List.mem_cons.mp hy with rfl | hy
      · exact hx
      · exact hxs.2 y hy

variable {S : σ → Prop}

theorem Yields.foldRows {f : σ → α → σ} (h : Yields P p)
    (hstep : ∀ s x, S s → P x → S (f s x)) (n : Nat) {s : σ} (hs : S s) :
    Yields S (foldRows p f n s) := by
  induction n generalizing s with
  | zero => exact yields_pure hs
  | succ n ih => exact h.bind fun x hx => ih (hstep s x hs hx)

theorem yields_firstSome {unrecognised : Reader ε α} (h : Yields P unrecognised)
    {ps : List (Reader ε (Option α))} (hps : ∀ p ∈ ps, Yields (fun o => ∀ a, o = some a → P a) p) :
    Yields P (firstSome unrecognised ps) := by
  induction ps with
  | nil => exact h
  | cons p ps ih =>
    refine (hps p List.mem_cons_self).bind fun o ho => ?_
    cases o with
    | some a => exact yields_pure (ho a rfl)
    | none => exact ih fun q hq => hps q (List.mem_cons_of_mem p hq)

theorem yields_forFields {eof overflow : ε} {limit : Nat}
    {step : σ → UInt32 → Bytes → Except ε σ} {acc : σ} (hacc : S acc)
    (hstep : ∀ s id value, S s → Makes S (step s id value)) :
    Yields S (forFields eof overflow limit step acc) :=
  fun _ _ _ h => fieldLoop_keeps (fun s id value s' hs hok => hstep s id value hs s' hok) hacc h

/-- The bytes taken off the input are as many as the value asks for. -/
def Spends (R : α → Nat → Prop) (p : Reader ε α) : Prop :=
  ∀ c a d, p c = .ok (a, d) → ∃ n, c.rest.length = n + d.rest.length ∧ R a n

theorem spends_pure (h : R a 0) : Spends R (pure a : Reader ε α) := by
  intro c b d hb
  obtain ⟨rfl, rfl⟩ := pure_eq_ok.mp hb
  exact ⟨0, (Nat.zero_add _).symm, h⟩

theorem spends_throw : Spends R (throw e : Reader ε α) := by
  intro c a d h
  cases h

theorem spends_take {eof : ε} {n : Nat} : Spends (fun bs m => bs.length = n ∧ m = n) (take eof n) := by
  intro c bs d h
  obtain ⟨hle, rfl, rfl⟩ := take_eq_ok.mp h
  refine ⟨n, ?_, List.length_take_of_le hle, rfl⟩
  rw [Cursor.advance, List.length_drop]
  omega

theorem spends_failIf [Decidable failed] :
    Spends (fun _ n => ¬ failed ∧ n = 0) (failIf failed e : Reader ε Unit) := by
  intro c u d h
  obtain ⟨hnot, rfl⟩ := failIf_eq_ok.mp h
  exact ⟨0, (Nat.zero_add _).symm, hnot, rfl⟩

theorem Spends.bind {S : β → Nat → Prop} (h : Spends R p)
    (h' : ∀ a m, R a m → Spends (fun b n => S b (m + n)) (f a)) : Spends S (p >>= f) := by
  intro c b e hb
  obtain ⟨a, d, ha, hfa⟩ := bind_eq_ok.mp hb
  obtain ⟨m, hm, hR⟩ := h c a d ha
  obtain ⟨n, hn, hS⟩ := h' a m hR d b e hfa
  exact ⟨m + n, by omega, hS⟩

end ByteReader
