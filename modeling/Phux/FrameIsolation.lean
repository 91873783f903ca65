import Phux.Frame
import Phux.FieldOrder

/-! A frame is read from its own bytes: what follows it in the input has no part in it. -/

namespace Phux

open ByteReader List

abbrev TopField := WireField DecodeError.unexpectedEof DecodeError.lengthOverflow maxFrameLen

section

variable {σ α : Type} {step : σ → UInt32 → Bytes → Except DecodeError σ} {acc : σ}
  {finish : σ → Except DecodeError α} {a : α} {c d : Cursor}

def frameOf (step : σ → UInt32 → Bytes → Except DecodeError σ) (acc : σ)
    (finish : σ → Except DecodeError α) (fs : List TopField) : Except DecodeError α :=
  foldFields step acc fs >>= finish

theorem decodeFields_fields (h : decodeFields step acc finish c = .ok (a, d))
    (hwithin : d.pos ≤ c.pos + c.left) :
    ∃ (fs : List TopField) (t : Bytes), c.rest = bodyOf fs ++ t ∧ c.left = (bodyOf fs).length ∧
      frameOf step acc finish fs = .ok a := by
  obtain ⟨acc', c', hloop, hdone⟩ := bind_eq_ok.mp h
  obtain ⟨hfinish, rfl⟩ := lift_eq_ok.mp hdone
  obtain ⟨fs, t, hrest, hleft, hfold⟩ := fieldLoop_fields hloop hwithin
  exact ⟨fs, t, hrest, hleft, Fallible.bind_eq_ok.mpr ⟨acc', hfold, hfinish⟩⟩

theorem decodeFields_bodyOf {fs : List TopField} {t : Bytes} (hrest : c.rest = bodyOf fs ++ t)
    (hleft : c.left = (bodyOf fs).length) (h : frameOf step acc finish fs = .ok a) :
    decodeFields step acc finish c = .ok (a, c.advance (bodyOf fs).length) := by
  obtain ⟨acc', hfold, hfinish⟩ := Fallible.bind_eq_ok.mp h
  have hcount : fs.length < c.rest.length + 1 := by
    have := length_le_bodyOf fs
    rw [hrest, length_append]
    omega
  have hloop : readFields step acc c = .ok (acc', c.advance (bodyOf fs).length) :=
    fieldLoop_bodyOf hrest hleft hcount hfold
  rw [decodeFields, bind_ok hloop, lift_eq_ok]
  exact ⟨hfinish, rfl⟩

end

/-- A decoder of a message body: a loop over its fields, then a check of what they held. -/
def IsFieldDecoder {α : Type} (p : Decode α) : Prop :=
  ∃ (σ : Type) (step : σ → UInt32 → Bytes → Except DecodeError σ) (acc : σ)
    (finish : σ → Except DecodeError α), p = decodeFields step acc finish

theorem isFieldDecoder_decodeFields {σ α : Type} {step : σ → UInt32 → Bytes → Except DecodeError σ}
    {acc : σ} {finish : σ → Except DecodeError α} : IsFieldDecoder (decodeFields step acc finish) :=
  ⟨σ, step, acc, finish, rfl⟩

variable {limits : BootstrapLimits} {ext : External}

theorem decodeBody_isFieldDecoder {tag : UInt8} : IsFieldDecoder (decodeBody ext limits tag) ∨
      ∀ c, decodeBody ext limits tag c = .error (.unknownFrameKind tag.toUInt16) := by
  unfold decodeBody
  split
  · exact .inl isFieldDecoder_decodeFields
  · unfold decodeFrameBody
    split
    case h_48 => exact .inr fun _ => rfl
    all_goals exact .inl isFieldDecoder_decodeFields

theorem IsFieldDecoder.isolated {α : Type} {p : Decode α} (hp : IsFieldDecoder p) {c d : Cursor} {a : α}
    {x t : Bytes} (hrest : c.rest = x ++ t) (hleft : c.left = x.length) (h : p c = .ok (a, d))
    (hwithin : d.pos ≤ c.pos + c.left) :
    ∀ (c' : Cursor) (t' : Bytes), c'.rest = x ++ t' → c'.left = x.length →
      p c' = .ok (a, c'.advance x.length) := by
  obtain ⟨σ, step, acc, finish, rfl⟩ := hp
  obtain ⟨fs, t₀, hfs, hlen, hframe⟩ := decodeFields_fields h hwithin
  have hx : x = bodyOf fs := by
    rw [hrest] at hfs
    exact (append_inj hfs (by omega)).1
  subst hx
  intro c' t' hrest' hleft'
  exact decodeFields_bodyOf hrest' hleft' hframe

def declaredLength (b : Bytes) : Nat := ofBeBytes (b.take 4)

def HoldsFrame (b : Bytes) : Prop := 4 ≤ b.length ∧ 4 + declaredLength b ≤ b.length
deriving Decidable

def firstFrame (b : Bytes) : Bytes := b.take (4 + declaredLength b)

theorem readU32Be_eq_ok {c d : Cursor} {n : UInt32} :
    readU32Be c = .ok (n, d) ↔ 4 ≤ c.rest.length ∧ n.toNat = ofBeBytes (c.rest.take 4) ∧
      d = c.advance 4 := by
  have hlt : ofBeBytes (c.rest.take 4) < 2 ^ 32 := by
    refine Nat.lt_of_lt_of_le (ofBeBytes_lt _) ?_
    exact Nat.pow_le_pow_right (n := 256) (by decide) (length_take_le 4 c.rest)
  rw [readU32Be, bind_eq_ok]
  constructor
  · rintro ⟨m, c', hbe, hpure⟩
    obtain ⟨hlen, rfl, rfl⟩ := readBe_eq_ok.mp hbe
    obtain ⟨rfl, rfl⟩ := pure_eq_ok.mp hpure
    exact ⟨hlen, by rw [UInt32.toNat_ofNat', Nat.mod_eq_of_lt hlt], rfl⟩
  · rintro ⟨hlen, hn, rfl⟩
    refine ⟨_, _, readBe_eq_ok.mpr ⟨hlen, rfl, rfl⟩, pure_eq_ok.mpr ⟨?_, rfl⟩⟩
    rw [← hn, UInt32.ofNat_toNat]

def bodyCursor (b : Bytes) : Cursor :=
  { rest := b.drop 4, pos := 4, bodyEnd := some (4 + declaredLength b) }

variable {f : FrameKind}

theorem readFrame_eq_ok {b r : Bytes} : readFrame ext limits b = .ok (f, r) ↔
      HoldsFrame b ∧ (1 ≤ declaredLength b ∧ declaredLength b ≤ maxFrameLen) ∧
        r = b.drop (4 + declaredLength b) ∧
        ∃ d, readBody ext limits (bodyCursor b) = .ok (f, d) ∧ d.pos ≤ 4 + declaredLength b := by
  unfold readFrame
  rw [Fallible.bind_eq_ok]
  constructor
  · rintro ⟨⟨length, c⟩, hlength, h⟩
    obtain ⟨hlen, hn, rfl⟩ := readU32Be_eq_ok.mp hlength
    obtain ⟨_, hrange, h⟩ := Fallible.bind_eq_ok.mp h
    obtain ⟨_, hwhole, h⟩ := Fallible.bind_eq_ok.mp h
    obtain ⟨⟨frame, d⟩, hbody, h⟩ := Fallible.bind_eq_ok.mp h
    obtain ⟨_, hover, h⟩ := Fallible.bind_eq_ok.mp h
    have hlength : length.toNat = declaredLength b := hn
    have hpos : (({ rest := b } : Cursor).advance 4).pos = 4 := rfl
    rw [check_eq_ok, hlength] at hrange
    rw [check_eq_ok, hpos, hlength] at hwhole
    rw [check_eq_ok, hpos, hlength] at hover
    rw [hpos, hlength] at hbody h
    obtain ⟨rfl, rfl⟩ := Prod.mk.inj (Except.ok.inj h)
    refine ⟨⟨hlen, by omega⟩, by omega, rfl, d, hbody, by omega⟩
  · rintro ⟨⟨hlen, hwhole⟩, hrange, rfl, d, hbody, hover⟩
    have hn : (UInt32.ofNat (declaredLength b)).toNat = declaredLength b := by
      rw [UInt32.toNat_ofNat', Nat.mod_eq_of_lt]
      have := hrange.2
      rw [maxFrameLen] at this
      omega
    refine ⟨_, readU32Be_eq_ok.mpr ⟨hlen, hn, rfl⟩, ?_⟩
    refine Fallible.bind_eq_ok.mpr ⟨(), check_eq_ok.mpr (by rw [hn]; omega), ?_⟩
    refine Fallible.bind_eq_ok.mpr ⟨(), check_eq_ok.mpr ?_, ?_⟩
    · rw [hn]
      simp only [Cursor.advance]
      omega
    · rw [hn]
      refine Fallible.bind_eq_ok.mpr ⟨(f, d), hbody, ?_⟩
      refine Fallible.bind_eq_ok.mpr ⟨(), check_eq_ok.mpr ?_, rfl⟩
      simp only [Cursor.advance]
      omega

theorem readU8_cons {c : Cursor} {b : UInt8} {t : Bytes} (h : c.rest = b :: t) :
    readU8 c = .ok (b, c.advance 1) := by
  have htake : take DecodeError.unexpectedEof 1 c = .ok ([b], c.advance 1) :=
    take_eq_ok.mpr ⟨by simp [h], by simp [h], rfl⟩
  rw [readU8, bind_ok htake]
  rfl

section

variable {b : Bytes}

theorem length_firstFrame (h : HoldsFrame b) : (firstFrame b).length = 4 + declaredLength b :=
  length_take_of_le h.2

theorem declaredLength_firstFrame (h : HoldsFrame b) (t : Bytes) :
    declaredLength (firstFrame b ++ t) = declaredLength b := by
  have hlen := length_firstFrame h
  rw [declaredLength, take_append_of_le_length (by omega), firstFrame, take_take,
    Nat.min_eq_left (by omega), declaredLength]

theorem drop_firstFrame (h : HoldsFrame b) (hpos : 1 ≤ declaredLength b) :
    ∃ tag payload, (firstFrame b).drop 4 = tag :: payload ∧
      payload.length + 1 = declaredLength b := by
  have hlen : ((firstFrame b).drop 4).length = declaredLength b := by
    rw [length_drop, length_firstFrame h]
    omega
  cases hbody : (firstFrame b).drop 4 with
  | nil =>
    rw [hbody, length_nil] at hlen
    omega
  | cons tag payload =>
    refine ⟨tag, payload, rfl, ?_⟩
    rw [← hlen, hbody, length_cons]

theorem bodyCursor_firstFrame (h : HoldsFrame b) (t : Bytes) : bodyCursor (firstFrame b ++ t) =
      ⟨(firstFrame b).drop 4 ++ t, 4, some (4 + declaredLength b)⟩ := by
  have hlen := length_firstFrame h
  rw [bodyCursor, declaredLength_firstFrame h, drop_append_of_le_length (by omega)]

theorem readFrame_firstFrame (hb : HoldsFrame b)
    {t r : Bytes} (h : readFrame ext limits (firstFrame b ++ t) = .ok (f, r)) :
    r = t ∧ ∀ t', readFrame ext limits (firstFrame b ++ t') = .ok (f, t') := by
  have hlen := length_firstFrame hb
  have hdrop : ∀ t, (firstFrame b ++ t).drop (4 + declaredLength b) = t := by
    intro t
    rw [← hlen, drop_left]
  obtain ⟨-, hrange, rfl, d, hbody, hover⟩ := readFrame_eq_ok.mp h
  rw [declaredLength_firstFrame hb] at hrange hover
  obtain ⟨tag, payload, hpayload, hcount⟩ := drop_firstFrame hb hrange.1
  refine ⟨by rw [declaredLength_firstFrame hb, hdrop], fun t' => ?_⟩
  -- both inputs present the same payload behind the type byte, with the same declared end
  have hrest : ∀ t, (bodyCursor (firstFrame b ++ t)).rest = tag :: (payload ++ t) := by
    intro t
    rw [bodyCursor_firstFrame hb, hpayload, cons_append]
  have hrest' : ∀ t, ((bodyCursor (firstFrame b ++ t)).advance 1).rest = payload ++ t := by
    intro t
    rw [Cursor.advance, hrest t]
    rfl
  have hpos : ∀ t, ((bodyCursor (firstFrame b ++ t)).advance 1).pos = 5 := fun t => rfl
  have hleft : ∀ t, ((bodyCursor (firstFrame b ++ t)).advance 1).left = payload.length := by
    intro t
    rw [bodyCursor_firstFrame hb]
    simp only [Cursor.left, Cursor.advance, Option.getD_some]
    omega
  have hread : ∀ t, readBody ext limits (bodyCursor (firstFrame b ++ t)) =
      decodeBody ext limits tag ((bodyCursor (firstFrame b ++ t)).advance 1) :=
    fun t => bind_ok (readU8_cons (hrest t))
  rw [hread] at hbody
  rcases decodeBody_isFieldDecoder with hfields | hrefused
  · have hsame := hfields.isolated (hrest' t) (hleft t) hbody (by rw [hleft, hpos]; omega) _ t'
      (hrest' t') (hleft t')
    refine readFrame_eq_ok.mpr ⟨?_, ?_, ?_, _, (hread t').trans hsame, ?_⟩
    · rw [HoldsFrame, declaredLength_firstFrame hb, length_append]
      omega
    · rwa [declaredLength_firstFrame hb]
    · rw [declaredLength_firstFrame hb, hdrop]
    · rw [declaredLength_firstFrame hb]
      simp only [Cursor.advance, bodyCursor]
      omega
  · rw [hrefused] at hbody
    cases hbody

end

/-- Whether the first frame of an input decodes, and to what, is the same before any
continuation, and exactly the continuation is left. -/
theorem frame_isolated (ext : External) (limits : BootstrapLimits) {b : Bytes} (hb : HoldsFrame b)
    (t t' r : Bytes) (f : FrameKind) : readFrame ext limits (firstFrame b ++ t) = .ok (f, r) ↔
      r = t ∧ readFrame ext limits (firstFrame b ++ t') = .ok (f, t') := by
  constructor
  · intro h
    obtain ⟨hr, hsame⟩ := readFrame_firstFrame hb h
    exact ⟨hr, hsame t'⟩
  · rintro ⟨rfl, h⟩
    exact (readFrame_firstFrame hb h).2 r

theorem detach_isolated : HoldsFrame [0, 0, 0, 1, 3, 9] ∧ ∀ t t' r f,
      readFrame External.unary protocolLimits (firstFrame [0, 0, 0, 1, 3, 9] ++ t) = .ok (f, r) ↔
        r = t ∧ readFrame External.unary protocolLimits (firstFrame [0, 0, 0, 1, 3, 9] ++ t') =
          .ok (f, t') :=
  ⟨by decide, frame_isolated External.unary protocolLimits (by decide)⟩

def framed (typeByte : UInt8) (body : Bytes) : Bytes :=
  writeU32Be (saturateU32 (body.length + 1)) ++ typeByte :: body

variable {tag : UInt8} {body : Bytes}

theorem declaredLength_framed (t : Bytes) :
    declaredLength (framed tag body ++ t) = (saturateU32 (body.length + 1)).toNat := by
  have hhead := length_writeU32Be (saturateU32 (body.length + 1))
  have hlt := (saturateU32 (body.length + 1)).toNat_lt
  rw [declaredLength, framed, append_assoc, take_append_of_le_length (by omega),
    take_of_length_le (by omega), writeU32Be, ofBeBytes_beBytes (by omega)]

def payloadCursor (body t : Bytes) : Cursor := ⟨body ++ t, 5, some (5 + body.length)⟩

theorem readFrame_framed {t r : Bytes} : readFrame ext limits (framed tag body ++ t) = .ok (f, r) ↔
      r = t ∧ body.length < maxFrameLen ∧
        ∃ d, decodeBody ext limits tag (payloadCursor body t) = .ok (f, d) ∧
          d.pos ≤ 5 + body.length := by
  have hhead := length_writeU32Be (saturateU32 (body.length + 1))
  by_cases hlong : body.length < maxFrameLen
  · have hcount : declaredLength (framed tag body ++ t) = body.length + 1 := by
      rw [declaredLength_framed, saturateU32_toNat (by rw [maxFrameLen] at hlong; omega)]
    have hlen : (framed tag body).length = 4 + (body.length + 1) := by
      rw [framed, length_append, length_cons, hhead]
    have hdrop : (framed tag body ++ t).drop (4 + (body.length + 1)) = t := by
      rw [← hlen, drop_left]
    have hrest : (framed tag body ++ t).drop 4 = tag :: (body ++ t) := by
      rw [framed, append_assoc, drop_left' hhead, cons_append]
    have hread : readBody ext limits (bodyCursor (framed tag body ++ t)) =
        decodeBody ext limits tag (payloadCursor body t) := by
      have htype := readU8_cons (c := bodyCursor (framed tag body ++ t)) hrest
      have hend : 4 + (body.length + 1) = 5 + body.length := by omega
      rw [readBody, bind_ok htype, Cursor.advance, bodyCursor, hrest, hcount, hend]
      rfl
    rw [readFrame_eq_ok, hcount, hdrop, hread]
    constructor
    · rintro ⟨-, -, rfl, d, hbody, hover⟩
      exact ⟨rfl, hlong, d, hbody, by omega⟩
    · rintro ⟨rfl, -, d, hbody, hover⟩
      have hholds : HoldsFrame (framed tag body ++ r) := by
        rw [HoldsFrame, hcount, length_append, hlen]
        omega
      exact ⟨hholds, by omega, rfl, d, hbody, by omega⟩
  · have hdeclared : ¬ declaredLength (framed tag body ++ t) ≤ maxFrameLen := by
      rw [declaredLength_framed, saturateU32]
      rw [maxFrameLen] at hlong ⊢
      by_cases hfits : body.length + 1 < 2 ^ 32
      · rw [if_pos hfits, UInt32.toNat_ofNat', Nat.mod_eq_of_lt hfits]
        omega
      · rw [if_neg hfits]
        decide
    rw [readFrame_eq_ok]
    constructor
    · rintro ⟨-, ⟨-, hle⟩, -⟩
      exact absurd hle hdeclared
    · rintro ⟨-, hlt, -⟩
      exact absurd hlt hlong

end Phux
