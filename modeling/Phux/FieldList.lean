import Phux.TaggedFields
import Phux.Fallible

/-! A body of tagged fields as the list of its fields. What a reader of fields makes of a body is
a fold over that list, and bytes after the body have no part in it. -/

namespace ByteReader
open Cursor List

variable {ε α β σ : Type} {limit : Nat} {c d : Cursor} {fuel : Nat} {e : ε}

variable {f : α → Reader ε β} {p : Reader ε α}

theorem bind_eq_ok {e : Cursor} {b : β} :
    (p >>= f) c = .ok (b, e) ↔ ∃ a d, p c = .ok (a, d) ∧ f a d = .ok (b, e) := by
  have hbind : (p >>= f) c = (p c >>= fun x => f x.1 x.2) := rfl
  rw [hbind, Fallible.bind_eq_ok]
  exact ⟨fun ⟨x, hx⟩ => ⟨x.1, x.2, hx⟩, fun ⟨a, d, h⟩ => ⟨(a, d), h⟩⟩

theorem lift_eq_ok {x : Except ε α} {a : α} :
    (StateT.lift x : Reader ε α) c = .ok (a, d) ↔ x = .ok a ∧ c = d := by
  cases x with
  | error e => simp [StateT.lift, bind, Except.bind]
  | ok b => simp [StateT.lift, bind, Except.bind, pure, Except.pure]

theorem pure_eq_ok {a b : α} : (pure a : Reader ε α) c = .ok (b, d) ↔ a = b ∧ c = d := by
  have hpure : (pure a : Reader ε α) c = .ok (a, c) := rfl
  rw [hpure, Except.ok.injEq, Prod.mk.injEq]

variable {failed : Prop}

theorem failIf_eq_ok [Decidable failed] {u : Unit} :
    (failIf failed e : Reader ε Unit) c = .ok (u, d) ↔ ¬ failed ∧ c = d := by
  by_cases h : failed
  · have hthrow : (failIf failed e : Reader ε Unit) c = .error e := by
      rw [failIf, if_pos h]
      rfl
    simp [hthrow, h]
  · rw [failIf_of_not h, pure_eq_ok]
    simp [h]

theorem check_eq_ok [Decidable failed] {u : Unit} :
    (failIf failed e : Except ε Unit) = .ok u ↔ ¬ failed := by
  by_cases h : failed
  · have hthrow : (failIf failed e : Except ε Unit) = .error e := if_pos h
    rw [hthrow]
    simp [h]
  · have hpure : (failIf failed e : Except ε Unit) = .ok () := if_neg h
    rw [hpure]
    simp [h]

theorem ok_or_eq_ok {o : Option α} {a : α} : (okOr o e : Except ε α) = .ok a ↔ o = some a := by
  cases o with
  | none => simp [okOr, throw, throwThe, MonadExceptOf.throw]
  | some b => simp [okOr, pure, Except.pure]

variable {eof : ε}

theorem take_eq_ok {n : Nat} {bs : Bytes} :
    take eof n c = .ok (bs, d) ↔ n ≤ c.rest.length ∧ bs = c.rest.take n ∧ d = c.advance n := by
  unfold take
  split
  · simp
    omega
  · simp only [Except.ok.injEq, Prod.mk.injEq]
    exact ⟨fun h => ⟨by omega, h.1.symm, h.2.symm⟩, fun h => ⟨h.2.1.symm, h.2.2.symm⟩⟩

theorem readBe_eq_ok {k n : Nat} : readBe eof k c = .ok (n, d) ↔
      k ≤ c.rest.length ∧ n = ofBeBytes (c.rest.take k) ∧ d = c.advance k := by
  rw [readBe, bind_eq_ok]
  constructor
  · rintro ⟨bs, c', htake, hpure⟩
    obtain ⟨hlen, rfl, rfl⟩ := take_eq_ok.mp htake
    obtain ⟨rfl, rfl⟩ := pure_eq_ok.mp hpure
    exact ⟨hlen, rfl, rfl⟩
  · rintro ⟨hlen, rfl, rfl⟩
    exact ⟨_, _, take_eq_ok.mpr ⟨hlen, rfl, rfl⟩, rfl⟩

def Local (p : Reader ε α) : Prop :=
  ∀ c a d, p c = .ok (a, d) → ∃ n ≤ c.rest.length, d = c.advance n ∧
    ∀ c' : Cursor, n ≤ c'.rest.length → c'.rest.take n = c.rest.take n →
      p c' = .ok (a, c'.advance n)

theorem local_pure (a : α) : Local (pure a : Reader ε α) := by
  intro c b d h
  obtain ⟨rfl, rfl⟩ := pure_eq_ok.mp h
  exact ⟨0, Nat.zero_le _, c.advance_zero.symm, fun c' _ _ => by rw [c'.advance_zero]; rfl⟩

theorem local_take (n : Nat) : Local (take eof n) := by
  intro c bs d h
  obtain ⟨hn, rfl, rfl⟩ := take_eq_ok.mp h
  exact ⟨n, hn, rfl, fun c' hn' heq => take_eq_ok.mpr ⟨hn', heq.symm, rfl⟩⟩

theorem local_failIf (failed : Prop) [Decidable failed] (e : ε) :
    Local (failIf failed e : Reader ε Unit) := by
  intro c u d h
  obtain ⟨hnot, rfl⟩ := failIf_eq_ok.mp h
  refine ⟨0, Nat.zero_le _, c.advance_zero.symm, fun c' _ _ => ?_⟩
  rw [c'.advance_zero]
  exact failIf_eq_ok.mpr ⟨hnot, rfl⟩

theorem Local.bind (h : Local p) (h' : ∀ a, Local (f a)) : Local (p >>= f) := by
  intro c b e hok
  obtain ⟨a, d, hp, hf⟩ := bind_eq_ok.mp hok
  obtain ⟨n, hn, rfl, hsame⟩ := h c a d hp
  obtain ⟨m, hm, rfl, hsame'⟩ := h' a _ b e hf
  have hlen : (c.advance n).rest.length = c.rest.length - n := length_drop
  refine ⟨n + m, by omega, advance_advance, fun c' hc' htake => ?_⟩
  have hfirst : c'.rest.take n = c.rest.take n := by
    have hcut := congrArg (List.take n) htake
    rwa [take_take, take_take, Nat.min_eq_left (Nat.le_add_right n m)] at hcut
  have hsecond : (c'.advance n).rest.take m = (c.advance n).rest.take m := by
    have hcut := congrArg (drop n) htake
    rwa [drop_take, drop_take, Nat.add_sub_cancel_left] at hcut
  have hlen' : (c'.advance n).rest.length = c'.rest.length - n := length_drop
  rw [bind_ok (hsame c' (by omega) hfirst), hsame' _ (by omega) hsecond, advance_advance]

theorem local_varintLoop (eof ov : ε) (k : Nat) (r : UInt64) (s : Nat) :
    Local (varintLoop eof ov k r s) := by
  induction k generalizing r s with
  | zero => intro c a d h; cases h
  | succ k ih =>
    refine (local_take 1).bind fun bs => ?_
    dsimp only
    split
    · exact local_pure _
    · exact ih _ _

theorem local_fieldBody {ov : ε} : Local (readFieldBody eof ov limit) :=
  (local_varintLoop eof ov 10 0 0).bind fun _ =>
    (local_failIf _ _).bind fun _ => (local_take 1).bind fun _ =>
      (local_varintLoop eof ov 10 0 0).bind fun len =>
        (local_failIf _ _).bind fun _ => (local_take len.toNat).bind fun _ => local_pure _

/-- One field as it stands in a body: its bytes, and the id and the value they hold. -/
structure WireField (eof overflow : ε) (limit : Nat) where
  raw : Bytes
  id : UInt32
  value : Bytes
  reads : readFieldBody eof overflow limit { rest := raw } =
    .ok ((id, value), { rest := [], pos := raw.length })

variable {ov : ε} (f : WireField eof ov limit)

theorem WireField.raw_ne_nil : f.raw ≠ [] := by
  intro hnil
  have hreads := f.reads
  rw [hnil] at hreads
  cases hreads

theorem WireField.read {t : Bytes} (h : c.rest = f.raw ++ t) :
    readFieldBody eof ov limit c = .ok ((f.id, f.value), c.advance f.raw.length) := by
  obtain ⟨n, hn, hadvance, hsame⟩ := local_fieldBody _ _ _ f.reads
  have hlen : n = f.raw.length := by
    have hpos := congrArg pos hadvance
    simpa [advance] using hpos.symm
  rw [hlen] at hsame
  exact hsame c (by simp [h]) (by simp [h])

theorem exists_wireField {id : UInt32} {value : Bytes}
    (h : readFieldBody eof ov limit c = .ok ((id, value), d)) :
    ∃ (f : WireField eof ov limit) (t : Bytes), c.rest = f.raw ++ t ∧ f.id = id ∧
      f.value = value ∧ d = c.advance f.raw.length := by
  obtain ⟨n, hn, rfl, hsame⟩ := local_fieldBody _ _ _ h
  have hlen : (c.rest.take n).length = n := by simp [hn]
  have hreads := hsame { rest := c.rest.take n } (by simp [hn]) (by simp [take_take])
  have hend : (({ rest := c.rest.take n } : Cursor).advance n)
      = { rest := [], pos := (c.rest.take n).length } := by
    simp [advance, hlen]
  rw [hend] at hreads
  refine ⟨⟨c.rest.take n, id, value, hreads⟩, c.rest.drop n, ?_, rfl, rfl, ?_⟩
  · exact (take_append_drop n c.rest).symm
  · rw [hlen]

def bodyOf (fs : List (WireField eof overflow limit)) : Bytes := fs.flatMap (·.raw)

variable (fs : List (WireField eof ov limit))

theorem length_le_bodyOf : fs.length ≤ (bodyOf fs).length := by
  induction fs with
  | nil => exact Nat.le_refl 0
  | cons f fs ih =>
    have hpos : 0 < f.raw.length := length_pos_iff.mpr f.raw_ne_nil
    rw [bodyOf, flatMap_cons, length_append, length_cons]
    rw [bodyOf] at ih
    omega

def foldFields (step : σ → UInt32 → Bytes → Except ε σ) (acc : σ)
    (fs : List (WireField eof overflow limit)) : Except ε σ :=
  fs.foldlM (fun acc f => step acc f.id f.value) acc

variable {step : σ → UInt32 → Bytes → Except ε σ} {acc acc' : σ}

theorem foldFields_cons : foldFields step acc (f :: fs) =
      (step acc f.id f.value >>= fun acc => foldFields step acc fs) := foldlM_cons

theorem fieldLoop_bodyOf {fs : List (WireField eof ov limit)} {t : Bytes}
    (hrest : c.rest = bodyOf fs ++ t) (hleft : c.left = (bodyOf fs).length)
    (hfuel : fs.length < fuel) (hfold : foldFields step acc fs = .ok acc') :
    fieldLoop eof ov limit step fuel acc c = .ok (acc', c.advance (bodyOf fs).length) := by
  induction fs generalizing fuel c acc with
  | nil =>
    obtain ⟨fuel, rfl⟩ : ∃ k, fuel = k + 1 := ⟨fuel - 1, by simp at hfuel; omega⟩
    have hend : c.atBodyEnd = true := (atBodyEnd_iff c).mpr hleft
    have hread : readField eof ov limit c = .ok (none, c) := if_pos hend
    obtain rfl : acc = acc' := Except.ok.inj hfold
    rw [fieldLoop, bind_ok hread]
    exact pure_eq_ok.mpr ⟨rfl, c.advance_zero.symm⟩
  | cons f fs ih =>
    obtain ⟨fuel, rfl⟩ : ∃ k, fuel = k + 1 := ⟨fuel - 1, by simp at hfuel; omega⟩
    have hbody : bodyOf (f :: fs) = f.raw ++ bodyOf fs := flatMap_cons
    rw [hbody] at hrest hleft ⊢
    rw [append_assoc] at hrest
    rw [length_append] at hleft ⊢
    have hpos : 0 < f.raw.length := length_pos_iff.mpr f.raw_ne_nil
    have hend : ¬ c.atBodyEnd = true := by
      rw [atBodyEnd_iff]
      omega
    have hread : readField eof ov limit c = .ok (some (f.id, f.value), c.advance f.raw.length) := by
      rw [readField, if_neg hend, f.read hrest]
      rfl
    rw [foldFields_cons] at hfold
    obtain ⟨mid, hstep, hfold⟩ := Fallible.bind_eq_ok.mp hfold
    have hleft' : (c.advance f.raw.length).left = (bodyOf fs).length := by
      rw [left_advance hrest]
      omega
    have htail := ih (advance_rest hrest) hleft' (by simp at hfuel; omega) hfold
    rw [fieldLoop, bind_ok hread]
    dsimp only
    rw [bind_ok (lift_eq_ok.mpr ⟨hstep, rfl⟩), htail, advance_advance]

theorem fieldLoop_keeps {P : σ → Prop}
    (hstep : ∀ s id value s', P s → step s id value = .ok s' → P s') (hacc : P acc)
    (h : fieldLoop eof ov limit step fuel acc c = .ok (acc', d)) : P acc' := by
  induction fuel generalizing acc c with
  | zero => cases h
  | succ fuel ih =>
    rw [fieldLoop] at h
    obtain ⟨field, c', hread, h⟩ := bind_eq_ok.mp h
    cases field with
    | none =>
      obtain ⟨rfl, -⟩ := pure_eq_ok.mp h
      exact hacc
    | some field =>
      obtain ⟨mid, c'', hlift, h⟩ := bind_eq_ok.mp h
      obtain ⟨hok, rfl⟩ := lift_eq_ok.mp hlift
      exact ih (hstep _ _ _ _ hacc hok) h

theorem readField_cases {o : Option (UInt32 × Bytes)}
    (h : readField eof ov limit c = .ok (o, d)) : (o = none ∧ c.left = 0 ∧ d = c) ∨
      ∃ (f : WireField eof ov limit) (t : Bytes), c.rest = f.raw ++ t ∧
        o = some (f.id, f.value) ∧ d = c.advance f.raw.length := by
  unfold readField at h
  split at h
  · rename_i hend
    cases h
    exact .inl ⟨rfl, (atBodyEnd_iff _).mp hend, rfl⟩
  · cases hbody : readFieldBody eof ov limit c with
    | error e =>
      rw [hbody] at h
      cases h
    | ok x =>
      rw [hbody] at h
      obtain ⟨f, t, hrest, hid, hvalue, hadvance⟩ := exists_wireField hbody
      cases h
      exact .inr ⟨f, t, hrest, by rw [hid, hvalue], hadvance⟩

variable (h : fieldLoop eof ov limit step fuel acc c = .ok (acc', d))

include h

theorem fieldLoop_pos_le : c.pos ≤ d.pos := by
  induction fuel generalizing acc c with
  | zero => cases h
  | succ fuel ih =>
    rw [fieldLoop] at h
    obtain ⟨field, c', hread, hnext⟩ := bind_eq_ok.mp h
    rcases readField_cases hread with ⟨rfl, -, rfl⟩ | ⟨f, t, -, rfl, rfl⟩
    · obtain ⟨-, rfl⟩ := pure_eq_ok.mp hnext
      exact Nat.le_refl _
    · obtain ⟨mid, c'', hlift, hloop⟩ := bind_eq_ok.mp hnext
      obtain ⟨-, rfl⟩ := lift_eq_ok.mp hlift
      have hle := ih hloop
      simp only [advance] at hle
      omega

theorem fieldLoop_fields (hwithin : d.pos ≤ c.pos + c.left) :
    ∃ (fs : List (WireField eof ov limit)) (t : Bytes), c.rest = bodyOf fs ++ t ∧
      c.left = (bodyOf fs).length ∧ foldFields step acc fs = .ok acc' := by
  induction fuel generalizing acc c with
  | zero => cases h
  | succ fuel ih =>
    rw [fieldLoop] at h
    obtain ⟨field, c', hread, hnext⟩ := bind_eq_ok.mp h
    rcases readField_cases hread with ⟨rfl, hend, rfl⟩ | ⟨f, t, hrest, rfl, rfl⟩
    · obtain ⟨rfl, rfl⟩ := pure_eq_ok.mp hnext
      exact ⟨[], _, rfl, hend, rfl⟩
    · obtain ⟨mid, c'', hlift, hloop⟩ := bind_eq_ok.mp hnext
      obtain ⟨hok, rfl⟩ := lift_eq_ok.mp hlift
      have hleft := left_advance hrest
      have hpos := fieldLoop_pos_le hloop
      have hadvance : (c.advance f.raw.length).pos = c.pos + f.raw.length := rfl
      obtain ⟨fs, t', hrest', hleft', hfold⟩ := ih hloop (by omega)
      rw [advance_rest hrest] at hrest'
      have hbody : bodyOf (f :: fs) = f.raw ++ bodyOf fs := flatMap_cons
      refine ⟨f :: fs, t', ?_, ?_, ?_⟩
      · rw [hrest, hrest', hbody, append_assoc]
      · rw [hbody, length_append]
        omega
      · rw [foldFields_cons, hok]
        exact hfold

end ByteReader
