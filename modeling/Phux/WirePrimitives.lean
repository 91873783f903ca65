import Phux.Fallible
import Phux.TaggedFields
import Phux.Input

/-! Leaf values of the wire format. Integers are big-endian, strings and byte
sequences carry a 32-bit length, and message bodies are tagged fields. -/

namespace Phux

open ByteReader

structure F32 where
  bits : UInt32
deriving DecidableEq

inductive DecodeError where
  | unexpectedEof
  | invalidUtf8
  | compressedFrameInvalid
  | unknownFrameKind (tag : UInt16)
  | lengthOverflow
  | unsupportedSatelliteRoute
  | unknownEnumValue (field : String) (value : UInt32)
  | invalidInputOperationId
  | applyInputLimitExceeded
  | inputTerminalReplyLimitExceeded
  | invalidFileUploadId
  | fileUploadLimitExceeded
  | invalidStreamId
  | invalidBootstrapId
  | invalidHistoryPageSequence
  | historyRowLimitExceeded
  | bootstrapLimitExceeded
  | invalidBootstrapProfile
  | appendResourceOutputLimitExceeded
  | invalidSpawnForKind (kind : UInt8) (field : UInt32) (required : Bool)
  | agentFacetLimitExceeded
  | directoryEntryLimitExceeded
  | layoutTooDeep
  | malformedLayoutRatio (ratio : F32)
deriving DecidableEq

def maxFrameLen : Nat := 16 * 1024 * 1024

abbrev Decode := Reader DecodeError

abbrev Decodes {α : Type} (p : Decode α) (bs : Bytes) (a : α) : Prop := Reads maxFrameLen p bs a

/-- `p` takes exactly `bs` off a body that ends there and returns `a`. -/
abbrev DecodesToEnd {α : Type} (p : Decode α) (bs : Bytes) (a : α) : Prop :=
  ReadsToEnd maxFrameLen p bs a

def saturateU32 (n : Nat) : UInt32 := if n < 2 ^ 32 then UInt32.ofNat n else 0xffffffff

def saturateU16 (n : Nat) : UInt16 := if n < 2 ^ 16 then UInt16.ofNat n else 0xffff

theorem saturateU32_toNat {n : Nat} (h : n < 2 ^ 32) : (saturateU32 n).toNat = n := by
  rw [saturateU32, if_pos h, UInt32.toNat_ofNat']
  omega

theorem saturateU16_toNat {n : Nat} (h : n < 2 ^ 16) : (saturateU16 n).toNat = n := by
  rw [saturateU16, if_pos h, UInt16.toNat_ofNat']
  omega

def writeU8 (value : UInt8) : Bytes := [value]

def writeU16Be (value : UInt16) : Bytes := beBytes 2 value.toNat

def writeU32Be (value : UInt32) : Bytes := beBytes 4 value.toNat

def writeU64Be (value : UInt64) : Bytes := beBytes 8 value.toNat

def writeI32Be (value : Int32) : Bytes := writeU32Be value.toUInt32

def writeI64Be (value : Int64) : Bytes := writeU64Be value.toUInt64

def writeF32Be (value : F32) : Bytes := writeU32Be value.bits

def writeF64Be (value : F64) : Bytes := writeU64Be value.bits

def writeBool (value : Bool) : Bytes := writeU8 (if value then 1 else 0)

def writeBytes (value : Bytes) : Bytes := writeU32Be (saturateU32 value.length) ++ value

def strBytes (value : String) : Bytes := value.toByteArray.data.toList

def writeStr (value : String) : Bytes := writeBytes (strBytes value)

def wireTypeBytes : UInt8 := 4

abbrev field (id : UInt32) (value : Bytes) : Bytes := writeField wireTypeBytes id value

abbrev optField {α : Type} (id : UInt32) (enc : α → Bytes) (value : Option α) : Bytes :=
  writeOptField wireTypeBytes id enc value

def readU8 : Decode UInt8 := do
  let bs ← take .unexpectedEof 1
  pure (bs.headD 0)

def readU16Be : Decode UInt16 := do
  let n ← readBe .unexpectedEof 2
  pure (UInt16.ofNat n)

def readU32Be : Decode UInt32 := do
  let n ← readBe .unexpectedEof 4
  pure (UInt32.ofNat n)

def readU64Be : Decode UInt64 := do
  let n ← readBe .unexpectedEof 8
  pure (UInt64.ofNat n)

def readI32Be : Decode Int32 := do
  let n ← readU32Be
  pure n.toInt32

def readI64Be : Decode Int64 := do
  let n ← readU64Be
  pure n.toInt64

def readF32Be : Decode F32 := do
  let n ← readU32Be
  pure ⟨n⟩

def readF64Be : Decode F64 := do
  let n ← readU64Be
  pure ⟨n⟩

def readFlag : Decode Bool := do
  let b ← readU8
  pure (b != 0)

def readBytes : Decode Bytes := do
  let len ← readU32Be
  failIf (maxFrameLen < len.toNat) DecodeError.lengthOverflow
  take .unexpectedEof len.toNat

def fromUtf8 (bytes : Bytes) : Option String := String.fromUTF8? ⟨bytes.toArray⟩

def readStr : Decode String := do
  let bytes ← readBytes
  okOr (fromUtf8 bytes) DecodeError.invalidUtf8

def readFields {σ : Type} (step : σ → UInt32 → Bytes → Except DecodeError σ) (acc : σ) : Decode σ :=
  forFields .unexpectedEof .lengthOverflow maxFrameLen step acc

variable {α : Type}

theorem decodes_be {k n : Nat} {x : α} {f : Nat → α} (hn : n < 256 ^ k) (hx : f n = x) :
    Decodes (do let n ← readBe .unexpectedEof k; pure (f n)) (beBytes k n) x := by
  have h := (show Decodes _ _ n from reads_be .unexpectedEof hn).map f
  rwa [hx] at h

theorem decodes_u8 {x : UInt8} : Decodes readU8 (writeU8 x) x :=
  (reads_take DecodeError.unexpectedEof [x]).map (·.headD 0)

theorem decodes_u16 {x : UInt16} : Decodes readU16Be (writeU16Be x) x :=
  decodes_be (by have := x.toNat_lt; omega) (UInt16.ofNat_toNat)

theorem decodes_u32 {x : UInt32} : Decodes readU32Be (writeU32Be x) x :=
  decodes_be (by have := x.toNat_lt; omega) (UInt32.ofNat_toNat)

theorem decodes_u64 {x : UInt64} : Decodes readU64Be (writeU64Be x) x :=
  decodes_be (by have := x.toNat_lt; omega) (UInt64.ofNat_toNat)

theorem decodes_i32 {x : Int32} : Decodes readI32Be (writeI32Be x) x :=
  decodes_u32.map UInt32.toInt32

theorem decodes_i64 {x : Int64} : Decodes readI64Be (writeI64Be x) x :=
  decodes_u64.map UInt64.toInt64

theorem decodes_f32 {x : F32} : Decodes readF32Be (writeF32Be x) x := decodes_u32.map F32.mk

theorem decodes_f64 {x : F64} : Decodes readF64Be (writeF64Be x) x := decodes_u64.map F64.mk

theorem decodes_flag {x : Bool} : Decodes readFlag (writeBool x) x := by
  cases x with
  | false | true => exact decodes_u8.map (· != 0)

variable {bs : Bytes}

theorem decodes_bytes : Decodes readBytes (writeBytes bs) bs := by
  intro hb
  have hlen : bs.length ≤ maxFrameLen := by
    rw [writeBytes, List.length_append] at hb
    omega
  have hsat : (saturateU32 bs.length).toNat = bs.length :=
    saturateU32_toNat (by rw [maxFrameLen] at hlen; omega)
  have htake : Decodes (take .unexpectedEof (saturateU32 bs.length).toNat) bs bs := by
    rw [hsat]
    exact reads_take DecodeError.unexpectedEof bs
  exact (decodes_u32.bind (.failIf (by omega) htake)) hb

@[simp] theorem fromUtf8_strBytes (s : String) : fromUtf8 (strBytes s) = some s := by
  have harr : (⟨(strBytes s).toArray⟩ : ByteArray) = s.toByteArray := by simp [strBytes]
  rw [fromUtf8, harr, String.fromUTF8?, dif_pos s.isValidUTF8]
  rfl

variable {s : String}

theorem strBytes_of_fromUtf8 {bytes : Bytes} (h : fromUtf8 bytes = some s) :
    strBytes s = bytes := by
  unfold fromUtf8 String.fromUTF8? at h
  split at h
  · cases h
    rfl
  · cases h

theorem decodes_str : Decodes readStr (writeStr s) s :=
  decodes_bytes.translate (fromUtf8_strBytes s)

abbrev FieldsTo {σ : Type} (step : σ → UInt32 → Bytes → Except DecodeError σ) (acc : σ) (bs : Bytes)
    (acc' : σ) : Prop :=
  FieldRun .unexpectedEof .lengthOverflow maxFrameLen step acc bs acc'

theorem then_ok {ε β : Type} {x : Except ε α} {f : α → Except ε β} {a : α} {b : β}
    (h : x = .ok a) (hf : f a = .ok b) : (x >>= f) = .ok b := by
  rw [h]
  exact hf

@[irreducible] def store {ε α σ : Type} (x : Except ε α) (f : α → σ) : Except ε σ := x.map f

theorem store_ok {ε σ : Type} {x : Except ε α} {f : α → σ} {a : α} {s : σ} (h : x = .ok a)
    (hf : f a = s) : store x f = .ok s := by
  rw [store, h, ← hf]
  rfl

theorem store_eq_ok {ε σ : Type} {x : Except ε α} {f : α → σ} {s : σ} :
    store x f = .ok s ↔ ∃ a, x = .ok a ∧ f a = s := by
  rw [store, Fallible.map_eq_ok]

def utf8Field (value : Bytes) : Except DecodeError String :=
  okOr (fromUtf8 value) DecodeError.invalidUtf8

@[simp] theorem utf8Field_strBytes : utf8Field (strBytes s) = .ok s := by
  rw [utf8Field, fromUtf8_strBytes]
  rfl

section

variable {σ : Type} {step : σ → UInt32 → Bytes → Except DecodeError σ} {acc acc' : σ}
  {id : UInt32}

variable {value : Bytes}

theorem fieldsTo_field (h : value.length ≤ maxFrameLen → step acc id value = .ok acc') :
    FieldsTo step acc (field id value) acc' := FieldRun.field (by decide) h

variable {enc : α → Bytes}

theorem fieldsTo_optField (f : σ → Option α → σ) (o : Option α) (hempty : f acc none = acc)
    (h : ∀ a, o = some a → (enc a).length ≤ maxFrameLen → step acc id (enc a) = .ok (f acc (some a))) :
    FieldsTo step acc (optField id enc o) (f acc o) := by
  refine .optField (by decide) (fun ho => by rw [ho, hempty]) fun a ho hb => ?_
  rw [ho]
  exact h a ho hb

theorem decodesToEnd_fields (h : FieldsTo step acc bs acc') :
    DecodesToEnd (readFields step acc) bs acc' := h.readsToEnd

variable {p : Decode α}

theorem fieldsTo_read {a : α} {f : α → σ}
    (h : DecodesToEnd p value a) (hs : step acc id value = store (sub p value) f := by rfl)
    (hf : f a = acc' := by rfl) : FieldsTo step acc (field id value) acc' :=
  fieldsTo_field fun hb => hs.trans (store_ok (h.sub hb) hf)

theorem Decodes.fieldsTo {a : α} {f : α → σ}
    (h : Decodes p value a) (hs : step acc id value = store (sub p value) f := by rfl)
    (hf : f a = acc' := by rfl) : FieldsTo step acc (field id value) acc' :=
  fieldsTo_read h.toEnd hs hf

theorem fieldsTo_utf8 (s : String) {f : String → σ}
    (hs : step acc id (strBytes s) = store (utf8Field (strBytes s)) f := by rfl)
    (hf : f s = acc' := by rfl) : FieldsTo step acc (field id (strBytes s)) acc' :=
  fieldsTo_field fun _ => hs.trans (store_ok utf8Field_strBytes hf)

theorem fieldsTo_optRead (f : σ → Option α → σ) (o : Option α)
    (hempty : f acc none = acc) (h : ∀ a, o = some a → DecodesToEnd p (enc a) a)
    (hs : ∀ a, step acc id (enc a) = store (sub p (enc a)) fun a => f acc (some a)) :
    FieldsTo step acc (optField id enc o) (f acc o) :=
  fieldsTo_optField f o hempty fun a ho hb => (hs a).trans (store_ok ((h a ho).sub hb) rfl)

theorem fieldsTo_optUtf8 (f : σ → Option String → σ) (o : Option String) (hempty : f acc none = acc)
    (hs : ∀ s, step acc id (strBytes s) = store (utf8Field (strBytes s)) fun s => f acc (some s)) :
    FieldsTo step acc (optField id strBytes o) (f acc o) :=
  fieldsTo_optField f o hempty fun s _ _ => (hs s).trans (store_ok utf8Field_strBytes rfl)

end

theorem length_field_le (id : UInt32) (value : Bytes) :
    (field id value).length ≤ value.length + 21 := by
  have hid := length_varintGroups_le 10 id.toNat
  have hlen := length_varintGroups_le 10 value.length
  simp only [field, writeField, writeVarint, List.length_append, List.length_cons, List.length_nil]
  omega

def required {α : Type} (o : Option α) : Except DecodeError α := okOr o DecodeError.unexpectedEof

/-- Read the fields of a body, then build a value from what they held. -/
def decodeFields {σ α : Type} (step : σ → UInt32 → Bytes → Except DecodeError σ) (acc : σ)
    (finish : σ → Except DecodeError α) : Decode α := do
  let acc ← readFields step acc
  StateT.lift (finish acc)

theorem decodesToEnd_decodeFields {σ : Type} {step : σ → UInt32 → Bytes → Except DecodeError σ}
    {acc acc' : σ} {finish : σ → Except DecodeError α} {a : α}
    (h : FieldsTo step acc bs acc') (hf : finish acc' = .ok a) :
    DecodesToEnd (decodeFields step acc finish) bs a := by
  refine (decodesToEnd_fields h).bind fun c => ?_
  rw [hf]
  rfl

theorem guard_getD {p : α → Bool} {a d : α} (h : p a = false → a = d) :
    (Option.guard p a).getD d = a := by
  by_cases hp : p a = true
  · simp [Option.guard, hp]
  · rw [Option.guard, if_neg hp]
    exact (h (by simpa using hp)).symm

end Phux
