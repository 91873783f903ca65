import Phux.FrameIsolation

/-! Frames evolve by adding fields: a decoder skips those it does not know and takes its own in any
order. -/

namespace Phux

open ByteReader WireField

section

variable {ε σ : Type}

/-- Storing in two columns, in either order: each value is read before and after the other is
stored, and a column may be left alone. -/
inductive Swaps : Except ε σ → Except ε σ → Prop
  | stores {α β : Type} {x₀ : Except ε α} {y₀ : Except ε β} {x : σ → Except ε α} {y : σ → Except ε β}
      {f : α → σ} {g : β → σ} {f' : σ → α → σ} {g' : σ → β → σ} (hx : ∀ b, x (g b) = x₀)
      (hy : ∀ a, y (f a) = y₀) (h : ∀ a b, g' (f a) b = f' (g b) a) :
      Swaps (store x₀ f >>= fun s => store (y s) (g' s))
        (store y₀ g >>= fun s => store (x s) (f' s))
  | storeOk {α : Type} {x : Except ε α} {f : α → σ} {t : σ} {g : σ → σ} {f' : σ → α → σ}
      (h : ∀ a, g (f a) = f' t a) :
      Swaps (store x f >>= fun s => .ok (g s)) (.ok t >>= fun s => store x (f' s))
  | okStore {α : Type} {x : Except ε α} {f : α → σ} {t : σ} {g : σ → σ} {f' : σ → α → σ}
      (h : ∀ a, g (f a) = f' t a) :
      Swaps (.ok t >>= fun s => store x (f' s)) (store x f >>= fun s => .ok (g s))
  | same (x : Except ε σ) : Swaps x x

theorem agree_store_ok {α : Type} {x : Except ε α} {f : α → σ} {t : σ} {g : σ → σ} {f' : σ → α → σ}
    (h : ∀ a, g (f a) = f' t a) :
    Agree (store x f >>= fun s => .ok (g s)) (.ok t >>= fun s => store x (f' s)) := by
  intro r
  simp only [Fallible.bind_eq_ok, store_eq_ok]
  constructor
  · rintro ⟨_, ⟨a, ha, rfl⟩, hr⟩
    exact ⟨t, rfl, a, ha, (h a).symm.trans (Except.ok.inj hr)⟩
  · rintro ⟨s, hs, a, ha, rfl⟩
    obtain rfl := Except.ok.inj hs
    exact ⟨f a, ⟨a, ha, rfl⟩, congrArg _ (h a)⟩

theorem Swaps.agree {x y : Except ε σ} (h : Swaps x y) : Agree x y := by
  cases h with
  | @stores _ _ x₀ y₀ x y f g f' g' hx hy h =>
    intro r
    simp only [Fallible.bind_eq_ok, store_eq_ok]
    constructor
    · rintro ⟨_, ⟨a, ha, rfl⟩, b, hb, rfl⟩
      exact ⟨g b, ⟨b, (hy a).symm.trans hb, rfl⟩, a, (hx b).trans ha, (h a b).symm⟩
    · rintro ⟨_, ⟨b, hb, rfl⟩, a, ha, rfl⟩
      exact ⟨f a, ⟨a, (hx b).symm.trans ha, rfl⟩, b, (hy a).trans hb, h a b⟩
  | storeOk h => exact agree_store_ok h
  | okStore h => exact (agree_store_ok h).symm
  | same => exact .refl _

end

/-- A field loop that may be given more fields, and its own in another order. -/
structure Evolving {σ : Type} (known : List UInt32)
    (step : σ → UInt32 → Bytes → Except DecodeError σ) : Prop where
  independent : Independent step
  ignores : Ignores known step

variable {known : List UInt32} {σ : Type}

theorem Evolving.of_swaps {step : σ → UInt32 → Bytes → Except DecodeError σ}
    (h : ∀ acc i v j w, i ≠ j → Swaps (step acc i v >>= fun s => step s j w)
      (step acc j w >>= fun s => step s i v)) (hi : Ignores known step) : Evolving known step :=
  ⟨fun acc i v j w hij => (h acc i v j w hij).agree, hi⟩

theorem evolving_stream
    {step : σ → UInt32 → Bytes → Except DecodeError σ} (h : Evolving known step) :
    Evolving (1 :: 2 :: 3 :: known) (streamStep step) where
  independent acc i v j w hij := by
    unfold streamStep
    split <;> split <;>
      try first
        | exact absurd rfl hij
        | exact Swaps.agree (.stores (fun _ => rfl) (fun _ => rfl) fun _ _ => rfl)
    intro r
    have hmore := h.independent acc.more i v j w hij r.more
    simp only [Fallible.bind_eq_ok, store_eq_ok] at hmore ⊢
    constructor
    · rintro ⟨_, ⟨m, hm, rfl⟩, m', hm', rfl⟩
      obtain ⟨n, hn, hn'⟩ := hmore.mp ⟨m, hm, hm'⟩
      exact ⟨_, ⟨n, hn, rfl⟩, m', hn', rfl⟩
    · rintro ⟨_, ⟨n, hn, rfl⟩, n', hn', rfl⟩
      obtain ⟨m, hm, hm'⟩ := hmore.mpr ⟨n, hn, hn'⟩
      exact ⟨_, ⟨m, hm, rfl⟩, n', hm', rfl⟩
  ignores acc id value hid := by
    simp only [List.mem_cons, not_or] at hid
    have hmore := h.ignores acc.more id value hid.2.2.2
    unfold streamStep
    split
    case h_4 =>
      rw [store_eq_ok]
      exact ⟨acc.more, hmore, rfl⟩
    case h_1 => exact absurd rfl hid.1
    case h_2 => exact absurd rfl hid.2.1
    case h_3 => exact absurd rfl hid.2.2.1

theorem evolving_compressed : Evolving [1, 2, 3] compressedStep := by
  refine .of_swaps (fun acc i v j w hij => ?_) fun acc i v hi => ?_ <;> unfold compressedStep
  · split <;> split <;> first | exact absurd rfl hij | constructor <;> intros <;> rfl
  · split <;> first | rfl | exact absurd (by decide) hi

theorem evolving_scopeKey : Evolving [1, 2, 3] scopeKeyStep := by
  refine .of_swaps (fun acc i v j w hij => ?_) fun acc i v hi => ?_ <;> unfold scopeKeyStep
  · split <;> split <;> first | exact absurd rfl hij | constructor <;> intros <;> rfl
  · split <;> first | rfl | exact absurd (by decide) hi

theorem evolving_page : Evolving [1, 2, 3, 4, 5, 6, 7, 8] pageStep where
  independent acc i v j w hij := by
    unfold pageStep
    split <;> split <;> first | exact absurd rfl hij | exact .refl _
  ignores acc id value h := by
    unfold pageStep
    split <;> first | rfl | exact absurd (by decide) h

theorem evolving_sole {α : Type} (dec : Decode α) : Evolving [1] (soleStep dec) where
  independent acc i v j w hij := by
    unfold soleStep
    by_cases hi : i = 1
    · have hj : j ≠ 1 := fun hj => hij (hi.trans hj.symm)
      simp only [hi, if_true, if_neg hj]
      exact agree_store_ok fun _ => rfl
    · simp only [if_neg hi]
      by_cases hj : j = 1
      · simp only [hj, if_true]
        exact Swaps.agree (.okStore fun _ => rfl)
      · simp only [if_neg hj]
        exact .refl _
  ignores acc id value h := if_neg (by simpa using h)

theorem scopeKeyStep_value {acc : MetadataFields} {id : UInt32} {v w : Bytes} :
    Agree (scopeKeyStep acc id v >>= fun s => .ok { s with value := w })
      (.ok { acc with value := w } >>= fun s => scopeKeyStep s id v) := by
  unfold scopeKeyStep
  split <;> first | exact agree_store_ok fun _ => rfl | exact .refl _

theorem evolving_setMetadata : Evolving [1, 2, 3, 4] setMetadataStep where
  independent acc i v j w hij := by
    unfold setMetadataStep
    split <;> split <;>
      first
      | exact absurd rfl hij
      | exact scopeKeyStep_value
      | exact scopeKeyStep_value.symm
      | exact evolving_scopeKey.independent _ _ _ _ _ hij
  ignores acc id value h := by
    have hid : id ∉ [1, 2, 3] ∧ id ≠ 4 := by simpa [and_assoc] using h
    unfold setMetadataStep
    split
    · exact absurd rfl hid.2
    · exact evolving_scopeKey.ignores acc id value hid.1

def knownFields (typeByte : UInt8) : List UInt32 :=
  match typeByte with
  | 0x01 => [1, 2, 3, 4, 5, 6, 9]
  | 0x80 => [1, 2, 3, 4, 5, 6, 7, 8, 9]
  | 0x90 | 0x02 => [1, 2, 3, 4, 5]
  | 0x03 => []
  | 0x7f | 0xff | 0x20 | 0x83 | 0xb0 | 0x41 => [1]
  | 0x10 | 0x12 | 0x14 | 0x11 | 0x17 | 0x82 | 0x53 | 0x54 | 0xd1 | 0xd2 | 0xa8 | 0x31 | 0xc2 | 0xb3 =>
    [1, 2]
  | 0x81 | 0xc1 | 0x50 | 0x52 | 0xd0 | 0x55 | 0xa2 | 0x2a | 0xa1 | 0x23 => [1, 2, 3]
  | 0x21 | 0x95 | 0x51 => [1, 2, 3, 4]
  | 0x94 | 0x97 | 0x98 => [1, 2, 3, 4, 5]
  | 0x16 => [1, 2, 3, 4, 5, 6]
  | 0x99 | 0xd3 => [1, 2, 3, 4, 5, 6, 7]
  | 0x93 | 0x96 => [1, 2, 3, 4, 5, 6, 7, 8]
  | 0x22 => [1, 2, 3, 4, 5, 6, 7, 8, 9, 10, 11, 12, 13, 14, 15]
  | _ => if typeByte = typeFrameCompressed then [1, 2, 3] else []

def Evolves {α : Type} (known : List UInt32) (p : Decode α) : Prop :=
  ∃ (σ : Type) (step : σ → UInt32 → Bytes → Except DecodeError σ) (acc : σ)
    (finish : σ → Except DecodeError α), p = decodeFields step acc finish ∧ Evolving known step

theorem Evolving.evolves {α : Type}
    {step : σ → UInt32 → Bytes → Except DecodeError σ} (h : Evolving known step) {acc : σ}
    {finish : σ → Except DecodeError α} : Evolves known (decodeFields step acc finish) :=
  ⟨σ, step, acc, finish, rfl, h⟩

theorem decodeBody_evolves {ext : External} {limits : BootstrapLimits} {typeByte : UInt8} :
    Evolves (knownFields typeByte) (decodeBody ext limits typeByte) ∨
      ∀ c, decodeBody ext limits typeByte c = .error (.unknownFrameKind typeByte.toUInt16) := by
  unfold decodeBody
  split
  · rename_i htype
    subst htype
    exact .inl evolving_compressed.evolves
  · unfold decodeFrameBody
    split
    case h_3 | h_4 | h_14 | h_16 | h_26 => exact .inl ((evolving_sole _).evolves)
    case h_7 => exact .inl (Evolving.evolves ⟨fun _ _ _ _ _ _ => .refl _, fun _ _ _ _ => rfl⟩)
    case h_21 => exact .inl evolving_page.evolves
    case h_28 | h_30 => exact .inl evolving_scopeKey.evolves
    case h_29 => exact .inl evolving_setMetadata.evolves
    case h_48 => exact .inr fun _ => rfl
    -- what begins with a stream's fields
    case h_17 | h_18 | h_19 | h_20 | h_22 | h_23 | h_24 =>
      refine .inl (Evolving.evolves (evolving_stream (.of_swaps (fun acc i v j w hij => ?_)
        fun acc i v hi => ?_))) <;>
        simp only [beginStep, chunkStep, readyStep, requestStep, tombstoneStep,
          historyTombstoneStep, rejectedStep]
      · split <;> split <;> first | exact absurd rfl hij | constructor <;> intros <;> rfl
      · split <;> first | rfl | exact absurd (by decide) hi
    -- every other step gives each field it knows a place of its own
    all_goals
      refine .inl (Evolving.evolves (.of_swaps (fun acc i v j w hij => ?_)
        fun acc i v hi => ?_)) <;>
        simp only [helloStep, helloOkStep, attachStep, attachedStep, detachedStep, errorStep,
          changedStep, subscribeStep, valueStep, keysStep, listDirectoryStep,
          ListingFields.absorb, spawnStep, spawnedStep, moveStep, closedStep, resizeStep,
          subscribeEventsStep, eventStep, outputStep, ackStep, inputStep, callStep]
      · split <;> split <;> first | exact absurd rfl hij | constructor <;> intros <;> rfl
      · split <;> first | rfl | exact absurd (by decide) hi

/-- One change to the fields of a body: a field of an unknown id is put in, or two neighbours of
different ids change places. -/
inductive FieldEdit (known : List UInt32) : List TopField → List TopField → Prop
  | insert (before behind : List TopField) (f : TopField) (hf : f.id ∉ known) :
      FieldEdit known (before ++ behind) (before ++ f :: behind)
  | swap (before behind : List TopField) (f g : TopField) (hfg : f.id ≠ g.id) :
      FieldEdit known (before ++ f :: g :: behind) (before ++ g :: f :: behind)

theorem FieldEdit.sameKnown {fs fs' : List TopField}
    (h : FieldEdit known fs fs') : SameKnown known (fs.map entry) (fs'.map entry) := by
  intro id hid
  cases h with
  | insert before behind f hf =>
    have hne : ¬ f.entry.1 = id := fun (heq : f.id = id) => hf (heq ▸ hid)
    simp [List.filter_append, hne]
  | swap before behind f g hfg =>
    by_cases hf : f.entry.1 = id
    · have hg : ¬ g.entry.1 = id := fun hg => hfg (hf.trans hg.symm)
      simp [List.filter_append, hf, hg]
    · simp [List.filter_append, List.filter_cons, hf]

theorem sameKnown_of_edits {fs fs' : List TopField}
    (h : Relation.ReflTransGen (FieldEdit known) fs fs') :
    SameKnown known (fs.map entry) (fs'.map entry) := by
  induction h with
  | refl => exact fun _ _ => rfl
  | tail _ hedit ih => exact fun id hid => (ih id hid).trans (hedit.sameKnown id hid)

/-- A frame that decodes consists of fields, and decodes to the same after any number of fields
it does not know are put between them and fields with different ids are reordered. -/
theorem frame_evolves (ext : External) (limits : BootstrapLimits) {typeByte : UInt8}
    {body t r : Bytes} {f : FrameKind}
    (h : readFrame ext limits (framed typeByte body ++ t) = .ok (f, r)) :
    ∃ fs : List TopField, body = bodyOf fs ∧
      ∀ fs', Relation.ReflTransGen (FieldEdit (knownFields typeByte)) fs fs' →
        (bodyOf fs').length < maxFrameLen →
          ∀ t', readFrame ext limits (framed typeByte (bodyOf fs') ++ t') = .ok (f, t') := by
  obtain ⟨rfl, -, d, hbody, hover⟩ := readFrame_framed.mp h
  rcases decodeBody_evolves with ⟨σ, step, acc, finish, hdec, hstep⟩ | hrefused
  · have hleft : (payloadCursor body r).left = body.length := by
      simp [payloadCursor, Cursor.left]
    rw [hdec] at hbody
    obtain ⟨fs, t₀, hrest, hlen, hframe⟩ := decodeFields_fields hbody (by rw [hleft]; exact hover)
    have hfs : body = bodyOf fs := (List.append_inj hrest (by omega)).1
    refine ⟨fs, hfs, fun fs' hedits hfits t' => ?_⟩
    have hsame : Agree (foldEntries step acc (fs.map entry))
        (foldEntries step acc (fs'.map entry)) :=
      foldEntries_sameKnown hstep.independent hstep.ignores (sameKnown_of_edits hedits)
    have hframe' : frameOf step acc finish fs' = .ok f := by
      simp only [foldEntries, List.foldlM_map] at hsame
      exact (hsame.bind_left finish f).mp hframe
    have hread := decodeFields_bodyOf (c := payloadCursor (bodyOf fs') t') rfl
      (by simp [payloadCursor, Cursor.left]) hframe'
    refine readFrame_framed.mpr ⟨rfl, hfits, _, by rw [hdec]; exact hread, ?_⟩
    simp [payloadCursor, Cursor.advance]
  · rw [hrefused] at hbody
    cases hbody

theorem ping_evolves : ∃ fs : List TopField, encodeNonce 7 = bodyOf fs ∧
      ∀ fs', Relation.ReflTransGen (FieldEdit (knownFields 0x7f)) fs fs' →
        (bodyOf fs').length < maxFrameLen →
          ∀ t', readFrame External.unary protocolLimits (framed 0x7f (bodyOf fs') ++ t') =
            .ok (.ping 7, t') := by
  have hbounded : (FrameKind.ping 7).Bounded protocolLimits := trivial
  have hping := readFrame_encode External.unary_jsonRoundTrips hbounded.legible trivial (by decide) []
  exact frame_evolves External.unary protocolLimits hping

end Phux
