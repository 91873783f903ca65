import Phux.FrameIsolation

/-! Compressed frames. The body of a bootstrap chunk or a history page may travel deflated in an
envelope of its own, and the receiver puts a ceiling on what it inflates. -/

namespace Phux

open ByteReader External List

variable {frame : FrameKind} {comp : Compression}

section

-- the compressor, given as much room as the body itself takes
variable (compress : Bytes → Option Bytes) (ext : External)

def minCompressBytes : Nat := 4 * 1024

def deflate (body : Bytes) : Option Bytes :=
  if body.length < minCompressBytes then none
  else (compress body).filter (·.length < body.length)

def encodeFrameCompressed (compression : Compression) (uncompressedLen : UInt32)
    (deflated : Bytes) : Bytes :=
  field 1 (writeU8 compression.asU8) ++ (field 2 (writeU32Be uncompressedLen) ++ field 3 deflated)

/-- The frame in its envelope, or plain where the envelope does not pay. -/
def encodeCompressed (compression : Compression) (frame : FrameKind) : Bytes :=
  let body := encodeBody ext frame
  if compression = .none then encode ext frame
  else
    match deflate compress body with
    | none => encode ext frame
    | some deflated =>
      if body.length < 2 ^ 32 then
        framed typeFrameCompressed
          (encodeFrameCompressed compression (UInt32.ofNat body.length) deflated)
      else encode ext frame

/-- Only the frames that carry bootstrap or history payload are worth an envelope. -/
def compressPolicy (frame : FrameKind) (negotiated : Compression) : Compression :=
  match frame with
  | .bootstrapChunk _ _ _ _ _ => negotiated
  | .historyPage _ _ _ _ _ _ _ _ => negotiated
  | _ => .none

def InflateInverts : Prop :=
  ∀ body deflated, deflate compress body = some deflated →
    ext.inflate deflated body.length = some body

end

variable {compress : Bytes → Option Bytes} {ext : External} {limits : BootstrapLimits}

theorem encodeCompressed_plain (h : comp = .none ∨ deflate compress (encodeBody ext frame) = none) :
    encodeCompressed compress ext comp frame = encode ext frame := by
  rw [encodeCompressed]
  by_cases hnone : comp = .none
  · rw [if_pos hnone]
  · rw [if_neg hnone, h.resolve_left hnone]

theorem encode_framed (ext : External) (frame : FrameKind) :
    encode ext frame = framed frame.typeByte (encodePayload ext frame) := rfl

theorem decodeFields_fieldsTo {σ α : Type} {step : σ → UInt32 → Bytes → Except DecodeError σ}
    {acc acc' : σ} {finish : σ → Except DecodeError α} {bs : Bytes} {c d : Cursor} {r : Bytes} {a : α}
    (h : FieldsTo step acc bs acc') (hb : bs.length ≤ maxFrameLen) (hrest : c.rest = bs ++ r)
    (hleft : c.left = bs.length) :
    decodeFields step acc finish c = .ok (a, d) ↔ finish acc' = .ok a ∧ d = c.advance bs.length := by
  have hloop := decodesToEnd_fields h hb c r hrest hleft
  rw [decodeFields, bind_ok hloop, lift_eq_ok, eq_comm (a := d)]

theorem length_frameCompressed_le (comp : Compression) (len : UInt32) (deflated : Bytes) :
    (encodeFrameCompressed comp len deflated).length ≤ deflated.length + 68 := by
  have halgorithm := length_field_le 1 (writeU8 comp.asU8)
  have hlen := length_field_le 2 (writeU32Be len)
  have hpayload := length_field_le 3 deflated
  have htag : (writeU8 comp.asU8).length = 1 := rfl
  have hword := length_writeU32Be len
  simp only [encodeFrameCompressed, length_append]
  omega

theorem readFrame_frameCompressed {len : UInt32} {deflated rest : Bytes} :
    readFrame ext limits (framed typeFrameCompressed
        (encodeFrameCompressed comp len deflated) ++ rest) = .ok (frame, rest) ↔
      (encodeFrameCompressed comp len deflated).length < maxFrameLen ∧
        compressedFrame ext limits ⟨some comp, some len, some deflated⟩ = .ok frame := by
  have hdecode : decodeBody ext limits typeFrameCompressed = decodeFrameCompressed ext limits :=
    if_pos rfl
  have hleft : ∀ body, (payloadCursor body rest).left = body.length := by
    intro body
    simp [payloadCursor, Cursor.left]
  have hfields : FieldsTo compressedStep {} (encodeFrameCompressed comp len deflated)
      ⟨some comp, some len, some deflated⟩ :=
    decodes_compression.fieldsTo.append <|
      decodes_u32.fieldsTo.append <| fieldsTo_field fun _ => rfl
  rw [readFrame_framed, hdecode]
  constructor
  · rintro ⟨-, hlong, d, hbody, -⟩
    exact ⟨hlong, ((decodeFields_fieldsTo hfields (Nat.le_of_lt hlong) rfl (hleft _)).mp hbody).1⟩
  · rintro ⟨hlong, hframe⟩
    have hbody := (decodeFields_fieldsTo (c := payloadCursor _ rest) hfields (Nat.le_of_lt hlong) rfl
      (hleft _)).mpr ⟨hframe, rfl⟩
    exact ⟨rfl, hlong, _, hbody, by simp [payloadCursor, Cursor.advance]⟩

def inflatedCursor (payload : Bytes) : Cursor := ⟨payload, 1, some (payload.length + 1)⟩

variable {body : Bytes}

theorem decodeInflated_eq_ok : decodeInflated ext limits body = .ok frame ↔
      ∃ tag p d, body = tag :: p ∧ tag ≠ typeFrameCompressed ∧
        decodeFrameBody ext limits tag (inflatedCursor p) = .ok (frame, d) := by
  cases body with
  | nil =>
    constructor
    · intro h
      cases h
    · rintro ⟨tag, p, d, hbody, -⟩
      cases hbody
  | cons tag p =>
    have htype := readU8_cons (c := ⟨tag :: p, 0, some (tag :: p).length⟩) rfl
    have hinner : decodeInflated ext limits (tag :: p) =
        ((do
          failIf (tag = typeFrameCompressed) DecodeError.compressedFrameInvalid
          decodeFrameBody ext limits tag : Decode FrameKind) (inflatedCursor p)).map
          Prod.fst := by
      rw [decodeInflated, BootstrapLimits.new_self, Option.getD_some, StateT.run, bind_ok htype]
      rfl
    rw [hinner, Fallible.map_eq_ok]
    constructor
    · rintro ⟨⟨inner, d⟩, hdecode, rfl⟩
      obtain ⟨_, c, hcheck, hdecode⟩ := bind_eq_ok.mp hdecode
      obtain ⟨hplain, rfl⟩ := failIf_eq_ok.mp hcheck
      exact ⟨tag, p, d, rfl, hplain, hdecode⟩
    · rintro ⟨_, _, d, heq, hplain, hdecode⟩
      obtain ⟨rfl, rfl⟩ := cons.inj heq
      exact ⟨(frame, d), bind_eq_ok.mpr ⟨(), _, failIf_eq_ok.mpr ⟨hplain, rfl⟩, hdecode⟩, rfl⟩

theorem compressedFrame_eq_ok {fields : CompressedFields} :
    compressedFrame ext limits fields = .ok frame ↔
      ∃ declared p body, fields = ⟨some .deflate, some declared, some p⟩ ∧
        declared ≠ 0 ∧ declared.toNat ≤ maxCompressedFrameBytes limits ∧
        ext.inflate p declared.toNat = some body ∧ decodeInflated ext limits body = .ok frame := by
  simp only [compressedFrame, required, Fallible.bind_eq_ok, ok_or_eq_ok, check_eq_ok, not_or,
    Decidable.not_not, Nat.not_lt]
  constructor
  · rintro ⟨_, halgorithm, _, rfl, declared, hlen, _, hbounds, p, hpayload, body, hinflate, h⟩
    obtain ⟨algorithm, uncompressedLen, stored⟩ := fields
    exact ⟨declared, p, body, by simp_all, hbounds.1, hbounds.2, hinflate, h⟩
  · rintro ⟨declared, p, body, rfl, hpos, hle, hinflate, h⟩
    exact ⟨_, rfl, (), rfl, _, rfl, (), ⟨hpos, hle⟩, _, rfl, body, hinflate, h⟩

theorem decodeInflated_encodeBody {rest r : Bytes}
    (h : readFrame ext limits (encode ext frame ++ rest) = .ok (frame, r)) :
    decodeInflated ext limits (encodeBody ext frame) = .ok frame := by
  have htype := typeByte_ne_compressed frame
  have hplain : decodeBody ext limits frame.typeByte = decodeFrameBody ext limits frame.typeByte :=
    if_neg htype
  rw [encode_framed] at h
  obtain ⟨rfl, -, d, hbody, hover⟩ := readFrame_framed.mp h
  rcases decodeBody_isFieldDecoder with hfields | hrefused
  · rw [hplain] at hfields hbody
    have hsame := hfields.isolated rfl (by simp [payloadCursor, Cursor.left]) hbody
      (by simpa [payloadCursor, Cursor.left] using hover) (inflatedCursor (encodePayload ext frame)) []
      (by simp [inflatedCursor]) (by simp [inflatedCursor, Cursor.left])
    exact decodeInflated_eq_ok.mpr ⟨_, _, _, rfl, htype, hsame⟩
  · rw [hrefused] at hbody
    cases hbody

theorem maxCompressedFrameBytes_lt (limits : BootstrapLimits) :
    maxCompressedFrameBytes limits + 68 < maxFrameLen := by
  have hchunk := UInt32.le_iff_toNat_le.mp limits.chunk_le
  have hpage := UInt32.le_iff_toNat_le.mp limits.page_le
  have hcaps : maxBootstrapChunkBytes.toNat = 8388608 ∧ maxHistoryPageBytes.toNat = 8388608 := by
    decide
  rw [maxCompressedFrameBytes, maxFrameLen]
  omega

theorem readFrame_wrapped (hinv : InflateInverts compress ext) {rest : Bytes}
    (hplain : readFrame ext limits (encode ext frame ++ rest) = .ok (frame, rest))
    (hcompression : comp ≠ .none) {deflated : Bytes}
    (hdeflate : deflate compress (encodeBody ext frame) = some deflated) :
    readFrame ext limits (encodeCompressed compress ext comp frame ++ rest) =
        .ok (frame, rest) ↔ (encodeBody ext frame).length ≤ maxCompressedFrameBytes limits := by
  have hbody : (encodeBody ext frame).length ≤ maxFrameLen := by
    rw [encode_framed] at hplain
    exact (readFrame_framed.mp hplain).2.1
  have hword : (encodeBody ext frame).length < 2 ^ 32 := by
    rw [maxFrameLen] at hbody
    omega
  have hlen : (UInt32.ofNat (encodeBody ext frame).length).toNat = (encodeBody ext frame).length := by
    rw [UInt32.toNat_ofNat', Nat.mod_eq_of_lt hword]
  have hpos : UInt32.ofNat (encodeBody ext frame).length ≠ 0 := by
    intro hzero
    rw [hzero] at hlen
    cases hlen
  have hdeflates : comp = .deflate := by
    cases comp with
    | none => exact absurd rfl hcompression
    | deflate => rfl
  rw [encodeCompressed, if_neg hcompression, hdeflate]
  dsimp only
  rw [if_pos hword, readFrame_frameCompressed, hdeflates, compressedFrame_eq_ok]
  constructor
  · rintro ⟨-, declared, p, body, heq, -, hle, -⟩
    obtain ⟨-, hdeclared, -⟩ := CompressedFields.mk.inj heq
    rwa [← Option.some.inj hdeclared, hlen] at hle
  · intro hle
    have hshort : deflated.length < (encodeBody ext frame).length := by
      unfold deflate at hdeflate
      split at hdeflate
      · cases hdeflate
      · simpa using (Option.filter_eq_some_iff.mp hdeflate).2
    have hroom := maxCompressedFrameBytes_lt limits
    have henvelope := length_frameCompressed_le .deflate
      (.ofNat (encodeBody ext frame).length) deflated
    have hinflate := hinv _ _ hdeflate
    rw [← hlen] at hinflate hle
    exact ⟨by omega, _, _, _, rfl, hpos, hle, hinflate, decodeInflated_encodeBody hplain⟩

/-- A frame that arrives when sent plain arrives in its envelope exactly when its body stays
under the receiver's ceiling. -/
theorem compressed_delivered_iff (hinv : InflateInverts compress ext) {frame : FrameKind}
    {rest : Bytes} (hplain : readFrame ext limits (encode ext frame ++ rest) = .ok (frame, rest))
    (negotiated : Compression) : readFrame ext limits
        (encodeCompressed compress ext (compressPolicy frame negotiated) frame ++ rest) =
          .ok (frame, rest) ↔
      compressPolicy frame negotiated = .none ∨ deflate compress (encodeBody ext frame) = none ∨
        (encodeBody ext frame).length ≤ maxCompressedFrameBytes limits := by
  by_cases hnone : compressPolicy frame negotiated = .none
  · rw [encodeCompressed_plain (.inl hnone)]
    exact iff_of_true hplain (.inl hnone)
  · cases hdeflate : deflate compress (encodeBody ext frame) with
    | none =>
      rw [encodeCompressed_plain (.inr hdeflate)]
      exact iff_of_true hplain (.inr (.inl rfl))
    | some deflated =>
      rw [readFrame_wrapped hinv hplain hnone hdeflate]
      simp [hnone]

def compressOnly (body : Bytes) (given : Bytes) : Option Bytes := if given = body then some [] else none

def External.inflatesTo (body : Bytes) : External := { unary with inflate := fun _ _ => some body }

theorem inflatesTo_inverts (body : Bytes) :
    InflateInverts (compressOnly body) (inflatesTo body) := by
  intro given deflated h
  unfold deflate at h
  split at h
  · cases h
  · have hgiven := (Option.filter_eq_some_iff.mp h).1
    unfold compressOnly at hgiven
    split at hgiven
    · rename_i heq
      rw [heq]
      rfl
    · cases hgiven

theorem deflate_compressOnly (h : minCompressBytes ≤ body.length) :
    deflate (compressOnly body) body = some [] := by
  have hpos : 0 < body.length := by
    rw [minCompressBytes] at h
    omega
  rw [deflate, if_neg (by omega), compressOnly, if_pos rfl]
  simp [Option.filter, hpos]

def satelliteChunk (name payload : Nat) : FrameKind :=
  .bootstrapChunk (.satellite ⟨String.ofList (List.replicate name 'a')⟩ 1) ⟨1, by decide⟩
    ⟨1, by decide⟩ 0 (List.replicate payload 0)

theorem length_strBytes_replicate (n : Nat) :
    (strBytes (String.ofList (replicate n 'a'))).length = n := by
  have hsize : (replicate n 'a').utf8Encode.size = n := by
    induction n with
    | zero => rfl
    | succ n ih =>
      have hone : ['a'].utf8Encode.size = 1 := by decide
      rw [replicate_succ, utf8Encode_cons, ByteArray.size_append, ih, hone]
      omega
  simpa [strBytes] using hsize

theorem length_satelliteChunk (ext : External) (name p : Nat) :
    name + p ≤ (encodeBody ext (satelliteChunk name p)).length ∧
      (encodeBody ext (satelliteChunk name p)).length ≤ name + p + 200 := by
  let id : ResourceId := .satellite ⟨.ofList (replicate name 'a')⟩ 1
  have hid : (encodeTerminalId id).length = name + 9 := by
    have hname := length_strBytes_replicate name
    simp only [id, encodeTerminalId, writeStr, writeBytes, writeU8, length_append,
      length_writeU32Be, hname, length_singleton]
    omega
  have hbody : (encodeBody ext (satelliteChunk name p)).length =
      (field 1 (encodeTerminalId id)).length + ((field 2 (writeU64Be 1)).length +
        ((field 3 (writeU64Be 1)).length + ((field 4 (writeU32Be 0)).length +
          (field 5 (replicate p 0)).length))) + 1 := by
    simp [encodeBody, satelliteChunk, encodePayload, encodeBootstrapChunk, encodeStream, writeU8, id]
  have hword : (writeU64Be 1).length = 8 := rfl
  have hseq := length_writeU32Be 0
  have hpayload : (replicate p (0 : UInt8)).length = p := length_replicate
  have hid' := length_writeField wireTypeBytes 1 (encodeTerminalId id)
  have hpayload' := length_writeField wireTypeBytes 5 (replicate p (0 : UInt8))
  have hfield := length_field_le
  have h1 := hfield 1 (encodeTerminalId id)
  have h2 := hfield 2 (writeU64Be 1)
  have h3 := hfield 3 (writeU64Be 1)
  have h4 := hfield 4 (writeU32Be 0)
  have h5 := hfield 5 (replicate p 0)
  rw [hbody]
  simp only [field] at h1 h2 h3 h4 h5 ⊢
  omega

def smallLimits : BootstrapLimits := ⟨1024, 1024, by decide, by decide, by decide, by decide⟩

def chunkBody (name payload : Nat) : Bytes := encodeBody unary (satelliteChunk name payload)

theorem satelliteChunk_plain (body : Bytes) (name p : Nat)
    (hpayload : p ≤ 1024) (hlen : name + p + 200 ≤ maxFrameLen) :
    readFrame (inflatesTo body) smallLimits
      (encode (inflatesTo body) (satelliteChunk name p) ++ []) =
        .ok (satelliteChunk name p, []) := by
  have hjson : (inflatesTo body).JsonRoundTrips := unary_jsonRoundTrips
  have hbounded : (satelliteChunk name p).Bounded smallLimits := by
    rw [satelliteChunk, FrameKind.Bounded, length_replicate]
    exact hpayload
  have hbody := length_satelliteChunk (inflatesTo body) name p
  exact readFrame_encode hjson hbounded.legible trivial (by omega) []

theorem chunk_delivered : readFrame (inflatesTo (chunkBody 5000 100)) smallLimits
        (encodeCompressed (compressOnly (chunkBody 5000 100)) (inflatesTo (chunkBody 5000 100))
          (compressPolicy (satelliteChunk 5000 100) .deflate) (satelliteChunk 5000 100) ++ []) =
      .ok (satelliteChunk 5000 100, []) := by
  have hbody := (length_satelliteChunk (inflatesTo (chunkBody 5000 100)) 5000 100).2
  have hceiling : maxCompressedFrameBytes smallLimits = 66560 := by decide
  have hplain := satelliteChunk_plain (chunkBody 5000 100) 5000 100 (by decide) (by decide)
  refine (compressed_delivered_iff (inflatesTo_inverts _) hplain .deflate).mpr (.inr (.inr ?_))
  omega

/-- A host name beyond the allowance: the frame arrives plain, and not in its envelope. -/
theorem long_host_name_refused : InflateInverts (compressOnly (chunkBody 70000 100))
        (inflatesTo (chunkBody 70000 100)) ∧
      readFrame (inflatesTo (chunkBody 70000 100)) smallLimits
          (encode (inflatesTo (chunkBody 70000 100)) (satelliteChunk 70000 100) ++ []) =
        .ok (satelliteChunk 70000 100, []) ∧
      readFrame (inflatesTo (chunkBody 70000 100)) smallLimits
          (encodeCompressed (compressOnly (chunkBody 70000 100)) (inflatesTo (chunkBody 70000 100))
            (compressPolicy (satelliteChunk 70000 100) .deflate) (satelliteChunk 70000 100) ++ []) ≠
        .ok (satelliteChunk 70000 100, []) := by
  have hbody := (length_satelliteChunk (inflatesTo (chunkBody 70000 100)) 70000 100).1
  have hceiling : maxCompressedFrameBytes smallLimits = 66560 := by decide
  have hinv := inflatesTo_inverts (chunkBody 70000 100)
  have hplain := satelliteChunk_plain (chunkBody 70000 100) 70000 100 (by decide) (by decide)
  have hdeflate : deflate (compressOnly (chunkBody 70000 100)) (encodeBody
      (inflatesTo (chunkBody 70000 100)) (satelliteChunk 70000 100)) = some [] := by
    have hlong : minCompressBytes ≤ (chunkBody 70000 100).length := by
      have := (length_satelliteChunk unary 70000 100).1
      rw [minCompressBytes, chunkBody]
      omega
    exact deflate_compressOnly hlong
  refine ⟨hinv, hplain, fun hread => ?_⟩
  have hle := (readFrame_wrapped hinv hplain (by decide) hdeflate).mp hread
  omega

end Phux
