import Phux.FrameKind

/-! Frames that carry the output, the bootstrap and the history of one
generation of a resource. -/

namespace Phux

open ByteReader DecodeError

variable {id : UInt32} {cur value : Bytes} {α : Type} {limits : BootstrapLimits}
variable (terminalId : ResourceId) (streamId : StreamId) (bootstrapId : BootstrapId)

def decodeEnumField {α : Type} (name : String) (fromWire : UInt8 → Option α) : Decode α :=
  decodeEnum8 fromWire fun value => .unknownEnumValue name value.toUInt32

def checkedBytes (max : Nat) (value : Bytes) : Except DecodeError Bytes :=
  if max < value.length then .error .bootstrapLimitExceeded else .ok value

def checkedHistoryCursor (value : Bytes) : Except DecodeError Bytes :=
  checkedBytes maxHistoryCursorBytes value

theorem checkedBytes_ok {max : Nat} (h : value.length ≤ max) :
    checkedBytes max value = .ok value := if_neg (by omega)

def encodeTerminalOutput (seq : UInt64) (bytes : Bytes) : Bytes :=
  field 1 (encodeTerminalId terminalId) ++ (field 2 (writeU64Be seq) ++ (field 3 bytes ++
    (field 4 (writeU64Be streamId.raw) ++ field 5 (writeU64Be bootstrapId.raw))))

structure OutputFields where
  terminalId : Option ResourceId := none
  streamId : Option StreamId := none
  bootstrapId : Option BootstrapId := none
  seq : Option UInt64 := none
  bytes : Option Bytes := none

def outputStep (acc : OutputFields) (id : UInt32) (value : Bytes) :
    Except DecodeError OutputFields :=
  match id with
  | 1 => store (sub decodeTerminalId value) fun x => { acc with terminalId := some x }
  | 2 => store (sub readU64Be value) fun n => { acc with seq := some n }
  | 3 => .ok { acc with bytes := some value }
  | 4 => store (sub decodeStreamId value) fun x => { acc with streamId := some x }
  | 5 => store (sub decodeBootstrapId value) fun x => { acc with bootstrapId := some x }
  | _ => .ok acc

def outputFrame (f : OutputFields) : Except DecodeError FrameKind := do
  let terminalId ← required f.terminalId
  let streamId ← required f.streamId
  let bootstrapId ← required f.bootstrapId
  let seq ← required f.seq
  let bytes ← required f.bytes
  pure (.resourceOutput terminalId streamId bootstrapId seq bytes)

def decodeTerminalOutput : Decode FrameKind := decodeFields outputStep {} outputFrame

variable (seq : UInt64)

variable {t : ResourceId} {s : StreamId} {b : BootstrapId}

theorem decodesToEnd_terminalOutput (bytes : Bytes) : DecodesToEnd decodeTerminalOutput
      (encodeTerminalOutput t s b seq bytes) (.resourceOutput t s b seq bytes) := by
  refine decodesToEnd_decodeFields ?_ (show outputFrame
    ⟨some t, some s, some b, some seq, some bytes⟩ = _ from rfl)
  exact decodes_terminalId.fieldsTo.append <| decodes_u64.fieldsTo.append <|
    (fieldsTo_field fun _ => rfl).append <| decodes_streamId.fieldsTo.append <|
    decodes_bootstrapId.fieldsTo

def encodeFrameAck (seq : UInt64) : Bytes :=
  field 1 (encodeTerminalId terminalId) ++ (field 2 (writeU64Be seq) ++
    (field 3 (writeU64Be streamId.raw) ++ field 4 (writeU64Be bootstrapId.raw)))

structure AckFields where
  terminalId : Option ResourceId := none
  streamId : Option StreamId := none
  bootstrapId : Option BootstrapId := none
  seq : Option UInt64 := none

def ackStep (acc : AckFields) (id : UInt32) (value : Bytes) : Except DecodeError AckFields :=
  match id with
  | 1 => store (sub decodeTerminalId value) fun x => { acc with terminalId := some x }
  | 2 => store (sub readU64Be value) fun n => { acc with seq := some n }
  | 3 => store (sub decodeStreamId value) fun x => { acc with streamId := some x }
  | 4 => store (sub decodeBootstrapId value) fun x => { acc with bootstrapId := some x }
  | _ => .ok acc

def ackFrame (f : AckFields) : Except DecodeError FrameKind := do
  let terminalId ← required f.terminalId
  let streamId ← required f.streamId
  let bootstrapId ← required f.bootstrapId
  let seq ← required f.seq
  pure (.frameAck terminalId streamId bootstrapId seq)

def decodeFrameAck : Decode FrameKind := decodeFields ackStep {} ackFrame

theorem decodesToEnd_frameAck : DecodesToEnd decodeFrameAck (encodeFrameAck t s b seq)
      (.frameAck t s b seq) := by
  refine decodesToEnd_decodeFields ?_ (show ackFrame
    ⟨some t, some s, some b, some seq⟩ = _ from rfl)
  exact decodes_terminalId.fieldsTo.append <| decodes_u64.fieldsTo.append <|
    decodes_streamId.fieldsTo.append <| decodes_bootstrapId.fieldsTo

/-- The fields that name a generation, and what the frame has besides. -/
structure StreamFields (σ : Type) where
  terminalId : Option ResourceId := none
  streamId : Option StreamId := none
  bootstrapId : Option BootstrapId := none
  more : σ

def encodeStream (more : Bytes) : Bytes :=
  field 1 (encodeTerminalId terminalId) ++ (field 2 (writeU64Be streamId.raw) ++
    (field 3 (writeU64Be bootstrapId.raw) ++ more))

def streamStep {σ : Type} (step : σ → UInt32 → Bytes → Except DecodeError σ) (acc : StreamFields σ)
    (id : UInt32) (value : Bytes) : Except DecodeError (StreamFields σ) :=
  match id with
  | 1 => store (sub decodeTerminalId value) fun x => { acc with terminalId := some x }
  | 2 => store (sub decodeStreamId value) fun x => { acc with streamId := some x }
  | 3 => store (sub decodeBootstrapId value) fun x => { acc with bootstrapId := some x }
  | _ => store (step acc.more id value) fun more => { acc with more }

def streamFrame {σ α : Type} (f : StreamFields σ)
    (build : ResourceId → StreamId → BootstrapId → Except DecodeError α) : Except DecodeError α := do
  let terminalId ← required f.terminalId
  let streamId ← required f.streamId
  let bootstrapId ← required f.bootstrapId
  build terminalId streamId bootstrapId

section

variable {σ : Type} {step : σ → UInt32 → Bytes → Except DecodeError σ} {acc acc' : σ}

def MoreFields (step : σ → UInt32 → Bytes → Except DecodeError σ) (acc : σ) (bs : Bytes) (acc' : σ) :
    Prop :=
  ∀ t s b, FieldsTo (streamStep step) ⟨t, s, b, acc⟩ bs ⟨t, s, b, acc'⟩

theorem MoreFields.append {acc'' : σ} {bs bs' : Bytes} (h : MoreFields step acc bs acc')
    (h' : MoreFields step acc' bs' acc'') : MoreFields step acc (bs ++ bs') acc'' :=
  fun t s b => .append (h t s b) (h' t s b)

theorem moreFields_field (hid : 3 < id)
    (h : value.length ≤ maxFrameLen → step acc id value = .ok acc') :
    MoreFields step acc (field id value) acc' := by
  have hne (k : UInt32) (hk : k ≤ 3) : id ≠ k := fun he => by
    have h1 := UInt32.lt_iff_toNat_lt.mp hid
    have h2 := UInt32.le_iff_toNat_le.mp hk
    rw [he] at h1
    omega
  refine fun t s b => fieldsTo_field fun hb => ?_
  unfold streamStep
  split
  · exact absurd rfl (hne 1 (by decide))
  · exact absurd rfl (hne 2 (by decide))
  · exact absurd rfl (hne 3 (by decide))
  · exact store_ok (h hb) rfl

theorem Decodes.moreFields {p : Decode α} {a : α} {f : α → σ} (h : Decodes p value a)
    (hid : 3 < id := by decide) (hs : step acc id value = store (sub p value) f := by rfl)
    (hf : f a = acc' := by rfl) : MoreFields step acc (field id value) acc' :=
  moreFields_field hid fun hb => hs.trans (store_ok (h.sub hb) hf)

theorem moreFields_optField (f : σ → Option α → σ) {enc : α → Bytes} (o : Option α) (hid : 3 < id)
    (hempty : f acc none = acc) (h : ∀ a, o = some a → step acc id (enc a) = .ok (f acc (some a))) :
    MoreFields step acc (optField id enc o) (f acc o) := by
  cases o with
  | none =>
    rw [hempty]
    exact fun t s b => .nil
  | some a => exact moreFields_field hid fun _ => h a rfl

theorem decodesToEnd_stream {finish : StreamFields σ → Except DecodeError α} {more : Bytes} {a : α}
    (h : MoreFields step acc more acc') (hf : finish ⟨some t, some s, some b, acc'⟩ = .ok a) :
    DecodesToEnd (decodeFields (streamStep step) { more := acc } finish)
      (encodeStream t s b more) a := by
  refine decodesToEnd_decodeFields ?_ hf
  exact decodes_terminalId.fieldsTo.append <| decodes_streamId.fieldsTo.append <|
    decodes_bootstrapId.fieldsTo.append (h _ _ _)

end

def BootstrapStreamProfile.codec : BootstrapStreamProfile → BootstrapCodec
  | nativeState codec => .native codec
  | synthesizedVtRaw => .synthesizedVtV1
  | synthesizedVtStateSync => .synthesizedVtV1
  | agentEventsJsonlV1 => .agentEventsJsonlV1

def BootstrapStreamProfile.outputMode : BootstrapStreamProfile → OutputMode
  | synthesizedVtStateSync => .stateSync
  | _ => .raw

def BootstrapStreamProfile.gridless : BootstrapStreamProfile → Bool
  | agentEventsJsonlV1 => true
  | _ => false

def encodeBootstrapBegin (profile : BootstrapStreamProfile) (cols rows : UInt16) (baseSeq : UInt64) : Bytes :=
  encodeStream terminalId streamId bootstrapId
    (field 4 (encodeBootstrapCodec profile.codec) ++ (field 5 (writeU16Be cols) ++
      (field 6 (writeU16Be rows) ++ (field 7 (writeU8 profile.outputMode.asWire) ++
        field 8 (writeU64Be baseSeq)))))

structure BeginFields where
  codec : Option BootstrapCodec := none
  cols : Option UInt16 := none
  rows : Option UInt16 := none
  outputMode : Option UInt8 := none
  baseSeq : Option UInt64 := none

def beginStep (acc : BeginFields) (id : UInt32) (value : Bytes) : Except DecodeError BeginFields :=
  match id with
  | 4 => store (sub decodeBootstrapCodec value) fun c => { acc with codec := some c }
  | 5 => store (sub readU16Be value) fun n => { acc with cols := some n }
  | 6 => store (sub readU16Be value) fun n => { acc with rows := some n }
  | 7 => store (sub readU8 value) fun n => { acc with outputMode := some n }
  | 8 => store (sub readU64Be value) fun n => { acc with baseSeq := some n }
  | _ => .ok acc

/-- A gridless stream declares no grid, and any other stream declares one. -/
def checkedBootstrapDimensions (profile : BootstrapStreamProfile) (cols rows : Option UInt16) :
    Except DecodeError (UInt16 × UInt16) := do
  let cols ← required cols
  let rows ← required rows
  failIf (profile.gridless ≠ (cols == 0 && rows == 0)) invalidBootstrapProfile
  pure (cols, rows)

def beginFrame (f : StreamFields BeginFields) : Except DecodeError FrameKind := do
  let codec ← required f.more.codec
  let outputMode ← required f.more.outputMode
  let profile ← decodeBootstrapStreamProfile codec outputMode
  let (cols, rows) ← checkedBootstrapDimensions profile f.more.cols f.more.rows
  streamFrame f fun terminalId streamId bootstrapId => do
    let baseSeq ← required f.more.baseSeq
    pure (.bootstrapBegin terminalId streamId bootstrapId profile cols rows baseSeq)

def decodeBootstrapBegin : Decode FrameKind :=
  decodeFields (streamStep beginStep) { more := {} } beginFrame

@[simp] theorem decodeBootstrapStreamProfile_self (profile : BootstrapStreamProfile) :
    decodeBootstrapStreamProfile profile.codec profile.outputMode.asWire = .ok profile := by
  cases profile <;> rfl

theorem decodesToEnd_bootstrapBegin {profile : BootstrapStreamProfile} {cols rows : UInt16}
    (baseSeq : UInt64) (h : profile.gridless = (cols == 0 && rows == 0)) :
    DecodesToEnd decodeBootstrapBegin (encodeBootstrapBegin t s b profile cols rows baseSeq)
      (.bootstrapBegin t s b profile cols rows baseSeq) := by
  have hdim : checkedBootstrapDimensions profile (some cols) (some rows) = .ok (cols, rows) := by
    simp only [checkedBootstrapDimensions, required, okOr_some, pure_bind,
      failIf_of_not (not_not_intro h)]
    rfl
  have hframe : beginFrame ⟨some t, some s, some b, some profile.codec,
      some cols, some rows, some profile.outputMode.asWire, some baseSeq⟩ =
      .ok (.bootstrapBegin t s b profile cols rows baseSeq) :=
    then_ok rfl (then_ok rfl (then_ok (decodeBootstrapStreamProfile_self profile) (then_ok hdim rfl)))
  refine decodesToEnd_stream ?_ hframe
  exact decodes_bootstrapCodec.moreFields.append <| decodes_u16.moreFields.append <|
    decodes_u16.moreFields.append <| decodes_u8.moreFields.append <| decodes_u64.moreFields

def encodeBootstrapChunk (chunkSeq : UInt32) (payload : Bytes) : Bytes :=
  encodeStream terminalId streamId bootstrapId (field 4 (writeU32Be chunkSeq) ++ field 5 payload)

structure ChunkFields where
  chunkSeq : Option UInt32 := none
  payload : Option Bytes := none

def chunkStep (limits : BootstrapLimits) (acc : ChunkFields) (id : UInt32) (value : Bytes) :
    Except DecodeError ChunkFields :=
  match id with
  | 4 => store (sub readU32Be value) fun n => { acc with chunkSeq := some n }
  | 5 => store (checkedBytes limits.maxChunkBytes.toNat value) fun payload =>
      { acc with payload := some payload }
  | _ => .ok acc

def chunkFrame (f : StreamFields ChunkFields) : Except DecodeError FrameKind :=
  streamFrame f fun terminalId streamId bootstrapId => do
    let chunkSeq ← required f.more.chunkSeq
    let payload ← required f.more.payload
    pure (.bootstrapChunk terminalId streamId bootstrapId chunkSeq payload)

def decodeBootstrapChunk (limits : BootstrapLimits) : Decode FrameKind :=
  decodeFields (streamStep (chunkStep limits)) { more := {} } chunkFrame

variable {payload : Bytes}

theorem decodesToEnd_bootstrapChunk (chunkSeq : UInt32)
    (h : payload.length ≤ limits.maxChunkBytes.toNat) : DecodesToEnd (decodeBootstrapChunk limits)
      (encodeBootstrapChunk t s b chunkSeq payload) (.bootstrapChunk t s b chunkSeq payload) := by
  refine decodesToEnd_stream ?_ (show chunkFrame
    ⟨some t, some s, some b, some chunkSeq, some payload⟩ = _ from rfl)
  exact decodes_u32.moreFields.append <|
    moreFields_field (by decide) fun _ => store_ok (checkedBytes_ok h) rfl

def encodeBootstrapReady (historyCursor : Option Bytes) : Bytes :=
  encodeStream terminalId streamId bootstrapId (optField 4 (fun cursor => cursor) historyCursor)

structure ReadyFields where
  historyCursor : Option Bytes := none

def readyStep (acc : ReadyFields) (id : UInt32) (value : Bytes) : Except DecodeError ReadyFields :=
  match id with
  | 4 => store (checkedHistoryCursor value) fun cursor => { acc with historyCursor := some cursor }
  | _ => .ok acc

def readyFrame (f : StreamFields ReadyFields) : Except DecodeError FrameKind :=
  streamFrame f fun terminalId streamId bootstrapId =>
    pure (.bootstrapReady terminalId streamId bootstrapId f.more.historyCursor)

def decodeBootstrapReady : Decode FrameKind :=
  decodeFields (streamStep readyStep) { more := {} } readyFrame

def CursorWithin (cursor : Option Bytes) : Prop :=
  ∀ c, cursor = some c → c.length ≤ maxHistoryCursorBytes

theorem decodesToEnd_bootstrapReady {historyCursor : Option Bytes} (h : CursorWithin historyCursor) :
    DecodesToEnd decodeBootstrapReady (encodeBootstrapReady t s b historyCursor)
      (.bootstrapReady t s b historyCursor) := by
  refine decodesToEnd_stream ?_ (show readyFrame
    ⟨some t, some s, some b, ⟨historyCursor⟩⟩ = _ from rfl)
  refine moreFields_optField (fun (acc : ReadyFields) o => { acc with historyCursor := o })
    historyCursor (by decide) rfl fun cur hc => ?_
  exact store_ok (checkedBytes_ok (h cur hc)) rfl

def encodeHistoryRequest (cursor : Bytes) (maxBytes maxRows : UInt32) : Bytes :=
  encodeStream terminalId streamId bootstrapId
    (field 4 cursor ++ (field 5 (writeU32Be maxBytes) ++ field 6 (writeU32Be maxRows)))

structure RequestFields where
  cursor : Option Bytes := none
  maxBytes : Option UInt32 := none
  maxRows : Option UInt32 := none

def requestStep (acc : RequestFields) (id : UInt32) (value : Bytes) :
    Except DecodeError RequestFields :=
  match id with
  | 4 => store (checkedHistoryCursor value) fun cursor => { acc with cursor := some cursor }
  | 5 => store (sub readU32Be value) fun n => { acc with maxBytes := some n }
  | 6 => store (sub readU32Be value) fun n => { acc with maxRows := some n }
  | _ => .ok acc

def historyRequestFrame (f : StreamFields RequestFields) : Except DecodeError FrameKind := do
  let maxBytes ← required f.more.maxBytes
  let maxRows ← required f.more.maxRows
  streamFrame f fun terminalId streamId bootstrapId => do
    let cursor ← required f.more.cursor
    pure (.historyRequest terminalId streamId bootstrapId cursor maxBytes maxRows)

def decodeHistoryRequest : Decode FrameKind :=
  decodeFields (streamStep requestStep) { more := {} } historyRequestFrame

theorem decodesToEnd_historyRequest (maxBytes maxRows : UInt32)
    (h : cur.length ≤ maxHistoryCursorBytes) : DecodesToEnd decodeHistoryRequest
      (encodeHistoryRequest t s b cur maxBytes maxRows)
      (.historyRequest t s b cur maxBytes maxRows) := by
  refine decodesToEnd_stream ?_ (show historyRequestFrame ⟨some t, some s,
    some b, some cur, some maxBytes, some maxRows⟩ = _ from rfl)
  exact (moreFields_field (by decide) fun _ =>
      store_ok (checkedBytes_ok h) rfl).append <| decodes_u32.moreFields.append <|
    decodes_u32.moreFields

def encodeHistoryPage (pageSeq : UInt64) (cursor : Bytes) (nextCursor : Option Bytes) (payload : Bytes)
    (rows : UInt32) : Bytes :=
  encodeStream terminalId streamId bootstrapId
    (field 4 cursor ++ (optField 5 (fun next => next) nextCursor ++ (field 6 payload ++
      (field 7 (writeU64Be pageSeq) ++ field 8 (writeU32Be rows)))))

/-- A page keeps every field as raw bytes and checks them in a fixed order. -/
structure PageFields where
  terminalId : Option Bytes := none
  streamId : Option Bytes := none
  bootstrapId : Option Bytes := none
  cursor : Option Bytes := none
  nextCursor : Option Bytes := none
  payload : Option Bytes := none
  pageSeq : Option Bytes := none
  rows : Option Bytes := none

def pageStep (acc : PageFields) (id : UInt32) (value : Bytes) : Except DecodeError PageFields :=
  match id with
  | 1 => .ok { acc with terminalId := some value }
  | 2 => .ok { acc with streamId := some value }
  | 3 => .ok { acc with bootstrapId := some value }
  | 4 => .ok { acc with cursor := some value }
  | 5 => .ok { acc with nextCursor := some value }
  | 6 => .ok { acc with payload := some value }
  | 7 => .ok { acc with pageSeq := some value }
  | 8 => .ok { acc with rows := some value }
  | _ => .ok acc

def checkedHistoryPageSeq (value : Option Bytes) : Except DecodeError UInt64 := do
  let value ← required value
  let pageSeq ← sub readU64Be value
  failIf (pageSeq = 0) invalidHistoryPageSequence
  pure pageSeq

def checkedHistoryPageRows (value : Option Bytes) : Except DecodeError UInt32 := do
  let value ← required value
  let rows ← sub readU32Be value
  failIf (maxHistoryPageRows < rows) historyRowLimitExceeded
  pure rows

def pageFrame (limits : BootstrapLimits) (f : PageFields) : Except DecodeError FrameKind := do
  let value ← required f.streamId
  let streamId ← sub decodeStreamId value
  let value ← required f.bootstrapId
  let bootstrapId ← sub decodeBootstrapId value
  let pageSeq ← checkedHistoryPageSeq f.pageSeq
  let rows ← checkedHistoryPageRows f.rows
  let payload ← required f.payload
  failIf (limits.maxHistoryPageBytes.toNat < payload.length) bootstrapLimitExceeded
  let cursor ← required f.cursor
  failIf (maxHistoryCursorBytes < cursor.length) bootstrapLimitExceeded
  failIf (f.nextCursor.any (fun next => maxHistoryCursorBytes < next.length))
    bootstrapLimitExceeded
  let value ← required f.terminalId
  let terminalId ← sub decodeTerminalId value
  pure (.historyPage terminalId streamId bootstrapId pageSeq cursor f.nextCursor payload rows)

def decodeHistoryPage (limits : BootstrapLimits) : Decode FrameKind :=
  decodeFields pageStep {} (pageFrame limits)

variable {pageSeq : UInt64}

theorem checkedHistoryPageSeq_ok (h : pageSeq ≠ 0) :
    checkedHistoryPageSeq (some (writeU64Be pageSeq)) = .ok pageSeq := by
  have hsub : sub readU64Be (writeU64Be pageSeq) = .ok pageSeq :=
    decodes_u64.sub (by simp [writeU64Be, maxFrameLen])
  refine then_ok rfl (then_ok hsub ?_)
  rw [failIf_of_not h]
  rfl

variable {rows : UInt32}

theorem checkedHistoryPageRows_ok (h : rows ≤ maxHistoryPageRows) :
    checkedHistoryPageRows (some (writeU32Be rows)) = .ok rows := by
  have hsub : sub readU32Be (writeU32Be rows) = .ok rows :=
    decodes_u32.sub (by simp [writeU32Be, maxFrameLen])
  refine then_ok rfl (then_ok hsub ?_)
  rw [failIf_of_not (UInt32.not_lt.mpr h)]
  rfl

structure PageWithin (limits : BootstrapLimits) (pageSeq : UInt64) (cursor : Bytes)
    (nextCursor : Option Bytes) (payload : Bytes) (rows : UInt32) : Prop where
  pageSeq_ne : pageSeq ≠ 0
  cursor_le : cursor.length ≤ maxHistoryCursorBytes
  nextCursor_le : CursorWithin nextCursor
  payload_le : payload.length ≤ limits.maxHistoryPageBytes.toNat
  rows_le : rows ≤ maxHistoryPageRows

theorem decodesToEnd_historyPage {nc : Option Bytes}
    (h : PageWithin limits pageSeq cur nc payload rows) : DecodesToEnd (decodeHistoryPage limits)
      (encodeHistoryPage t s b pageSeq cur nc payload rows)
      (.historyPage t s b pageSeq cur nc payload rows) := by
  intro hb
  have hnext : ¬ nc.any (fun next => maxHistoryCursorBytes < next.length) = true := by
    cases nc with
    | none => simp
    | some next => simpa using h.nextCursor_le next rfl
  have hterminal : (encodeTerminalId t).length ≤ maxFrameLen := by
    have hlt : (encodeTerminalId t).length < (field 1 (encodeTerminalId t)).length :=
      length_writeField _ _ _
    simp only [encodeHistoryPage, encodeStream, List.length_append] at hb
    omega
  have hstream : sub decodeStreamId (writeU64Be s.raw) = .ok s :=
    decodes_streamId.sub (by simp [writeU64Be, maxFrameLen])
  have hboot : sub decodeBootstrapId (writeU64Be b.raw) = .ok b :=
    decodes_bootstrapId.sub (by simp [writeU64Be, maxFrameLen])
  have hframe : pageFrame limits ⟨some (encodeTerminalId t), some (writeU64Be s.raw),
      some (writeU64Be b.raw), some cur, nc, some payload,
      some (writeU64Be pageSeq), some (writeU32Be rows)⟩ =
      .ok (.historyPage t s b pageSeq cur nc payload rows) := by
    refine then_ok rfl <| then_ok hstream <| then_ok rfl <| then_ok hboot <|
      then_ok (checkedHistoryPageSeq_ok h.pageSeq_ne) <|
      then_ok (checkedHistoryPageRows_ok h.rows_le) <| then_ok rfl <|
      then_ok (failIf_of_not (Nat.not_lt.mpr h.payload_le)) <| then_ok rfl <|
      then_ok (failIf_of_not (Nat.not_lt.mpr h.cursor_le)) <| then_ok (failIf_of_not hnext) <|
      then_ok rfl <| then_ok (decodes_terminalId.sub hterminal) rfl
  refine (decodesToEnd_decodeFields ?_ hframe) hb
  refine (fieldsTo_field fun _ => rfl).append ?_
  refine (fieldsTo_field fun _ => rfl).append ?_
  refine (fieldsTo_field fun _ => rfl).append ?_
  refine (fieldsTo_field fun _ => rfl).append ?_
  refine (fieldsTo_optField (fun acc o => { acc with nextCursor := o }) nc rfl
    fun _ _ _ => rfl).append ?_
  exact (fieldsTo_field fun _ => rfl).append <| (fieldsTo_field fun _ => rfl).append <|
    fieldsTo_field fun _ => rfl

def encodeBootstrapTombstone (reason : TombstoneReason) (lastValidSeq : UInt64) : Bytes :=
  encodeStream terminalId streamId bootstrapId
    (field 4 (writeU8 reason.asWire) ++ field 5 (writeU64Be lastValidSeq))

structure TombstoneFields where
  reason : Option TombstoneReason := none
  lastValidSeq : Option UInt64 := none

def decodeTombstoneReason : Decode TombstoneReason :=
  decodeEnumField "TombstoneReason" TombstoneReason.fromWire

def tombstoneStep (acc : TombstoneFields) (id : UInt32) (value : Bytes) :
    Except DecodeError TombstoneFields :=
  match id with
  | 4 => store (sub decodeTombstoneReason value) fun reason => { acc with reason := some reason }
  | 5 => store (sub readU64Be value) fun n => { acc with lastValidSeq := some n }
  | _ => .ok acc

def tombstoneFrame (f : StreamFields TombstoneFields) : Except DecodeError FrameKind :=
  streamFrame f fun terminalId streamId bootstrapId => do
    let reason ← required f.more.reason
    let lastValidSeq ← required f.more.lastValidSeq
    pure (.bootstrapTombstone terminalId streamId bootstrapId reason lastValidSeq)

def decodeBootstrapTombstone : Decode FrameKind :=
  decodeFields (streamStep tombstoneStep) { more := {} } tombstoneFrame

theorem decodesToEnd_bootstrapTombstone (reason : TombstoneReason) (lastValidSeq : UInt64) :
    DecodesToEnd decodeBootstrapTombstone (encodeBootstrapTombstone t s b reason lastValidSeq)
      (.bootstrapTombstone t s b reason lastValidSeq) := by
  have hreason : Decodes decodeTombstoneReason (writeU8 reason.asWire) reason :=
    decodes_enum8 (TombstoneReason.fromWire_asWire reason)
  refine decodesToEnd_stream ?_ (show tombstoneFrame ⟨some t, some s,
    some b, some reason, some lastValidSeq⟩ = _ from rfl)
  exact hreason.moreFields.append <| decodes_u64.moreFields

def encodeHistoryTombstone (cursor : Bytes) (reason : HistoryTombstoneReason) : Bytes :=
  encodeStream terminalId streamId bootstrapId (field 4 cursor ++ field 5 (writeU8 reason.asWire))

structure HistoryTombstoneFields where
  cursor : Option Bytes := none
  reason : Option HistoryTombstoneReason := none

def decodeHistoryTombstoneReason : Decode HistoryTombstoneReason :=
  decodeEnumField "HistoryTombstoneReason" HistoryTombstoneReason.fromWire

def historyTombstoneStep (acc : HistoryTombstoneFields) (id : UInt32) (value : Bytes) :
    Except DecodeError HistoryTombstoneFields :=
  match id with
  | 4 => store (checkedHistoryCursor value) fun cursor => { acc with cursor := some cursor }
  | 5 => store (sub decodeHistoryTombstoneReason value) fun reason =>
      { acc with reason := some reason }
  | _ => .ok acc

def historyTombstoneFrame (f : StreamFields HistoryTombstoneFields) :
    Except DecodeError FrameKind :=
  streamFrame f fun terminalId streamId bootstrapId => do
    let cursor ← required f.more.cursor
    let reason ← required f.more.reason
    pure (.historyTombstone terminalId streamId bootstrapId cursor reason)

def decodeHistoryTombstone : Decode FrameKind :=
  decodeFields (streamStep historyTombstoneStep) { more := {} } historyTombstoneFrame

theorem decodesToEnd_historyTombstone (reason : HistoryTombstoneReason)
    (h : cur.length ≤ maxHistoryCursorBytes) : DecodesToEnd decodeHistoryTombstone
      (encodeHistoryTombstone t s b cur reason) (.historyTombstone t s b cur reason) := by
  have hreason : Decodes decodeHistoryTombstoneReason (writeU8 reason.asWire) reason :=
    decodes_enum8 (HistoryTombstoneReason.fromWire_asWire reason)
  refine decodesToEnd_stream ?_ (show historyTombstoneFrame ⟨some t, some s,
    some b, some cur, some reason⟩ = _ from rfl)
  exact (moreFields_field (by decide) fun _ => store_ok (checkedBytes_ok h) rfl).append <|
    hreason.moreFields

def encodeHistoryRejected (cursor : Bytes) (reason : HistoryRejectionReason) (requiredBytes requiredRows : UInt32) :
    Bytes :=
  encodeStream terminalId streamId bootstrapId
    (field 4 cursor ++ (field 5 (writeU8 reason.asWire) ++ (field 6 (writeU32Be requiredBytes) ++
      field 7 (writeU32Be requiredRows))))

structure RejectedFields where
  cursor : Option Bytes := none
  reason : Option HistoryRejectionReason := none
  requiredBytes : Option UInt32 := none
  requiredRows : Option UInt32 := none

def decodeHistoryRejectionReason : Decode HistoryRejectionReason :=
  decodeEnumField "HistoryRejectionReason" HistoryRejectionReason.fromWire

def rejectedStep (acc : RejectedFields) (id : UInt32) (value : Bytes) :
    Except DecodeError RejectedFields :=
  match id with
  | 4 => store (checkedHistoryCursor value) fun cursor => { acc with cursor := some cursor }
  | 5 => store (sub decodeHistoryRejectionReason value) fun reason =>
      { acc with reason := some reason }
  | 6 => store (sub readU32Be value) fun n => { acc with requiredBytes := some n }
  | 7 => store (sub readU32Be value) fun n => { acc with requiredRows := some n }
  | _ => .ok acc

def checkedRequirement (max : UInt32) (error : DecodeError) (value : Option UInt32) :
    Except DecodeError UInt32 := do
  let n ← required value
  failIf (n = 0 ∨ max < n) error
  pure n

def checkedHistoryRequiredBytes (limits : BootstrapLimits) : Option UInt32 → Except DecodeError UInt32 :=
  checkedRequirement limits.maxHistoryPageBytes .bootstrapLimitExceeded

def checkedHistoryRequiredRows : Option UInt32 → Except DecodeError UInt32 :=
  checkedRequirement maxHistoryPageRows .historyRowLimitExceeded

theorem checkedRequirement_ok {max n : UInt32} {error : DecodeError} (h : n ≠ 0 ∧ n ≤ max) :
    checkedRequirement max error (some n) = .ok n := by
  refine then_ok rfl ?_
  rw [failIf_of_not (by simpa [UInt32.not_lt] using h)]
  rfl

def rejectedFrame (limits : BootstrapLimits) (f : StreamFields RejectedFields) :
    Except DecodeError FrameKind := do
  let requiredBytes ← checkedHistoryRequiredBytes limits f.more.requiredBytes
  let requiredRows ← checkedHistoryRequiredRows f.more.requiredRows
  streamFrame f fun terminalId streamId bootstrapId => do
    let cursor ← required f.more.cursor
    let reason ← required f.more.reason
    pure (.historyRejected terminalId streamId bootstrapId cursor reason requiredBytes requiredRows)

def decodeHistoryRejected (limits : BootstrapLimits) : Decode FrameKind :=
  decodeFields (streamStep rejectedStep) { more := {} } (rejectedFrame limits)

structure RejectionWithin (limits : BootstrapLimits) (cursor : Bytes)
    (requiredBytes requiredRows : UInt32) : Prop where
  cursor_le : cursor.length ≤ maxHistoryCursorBytes
  bytes_ok : requiredBytes ≠ 0 ∧ requiredBytes ≤ limits.maxHistoryPageBytes
  rows_ok : requiredRows ≠ 0 ∧ requiredRows ≤ maxHistoryPageRows

theorem decodesToEnd_historyRejected (reason : HistoryRejectionReason)
    {requiredBytes requiredRows : UInt32}
    (h : RejectionWithin limits cur requiredBytes requiredRows) :
    DecodesToEnd (decodeHistoryRejected limits)
      (encodeHistoryRejected t s b cur reason requiredBytes requiredRows)
      (.historyRejected t s b cur reason requiredBytes requiredRows) := by
  have hreason : Decodes decodeHistoryRejectionReason (writeU8 reason.asWire) reason :=
    decodes_enum8 (HistoryRejectionReason.fromWire_asWire reason)
  have hframe : rejectedFrame limits ⟨some t, some s, some b, some cur,
      some reason, some requiredBytes, some requiredRows⟩ = .ok (.historyRejected t s
        b cur reason requiredBytes requiredRows) :=
    then_ok (checkedRequirement_ok h.bytes_ok) (then_ok (checkedRequirement_ok h.rows_ok) rfl)
  refine decodesToEnd_stream ?_ hframe
  exact (moreFields_field (by decide) fun _ => store_ok (checkedBytes_ok h.cursor_le) rfl).append <|
    hreason.moreFields.append <| decodes_u32.moreFields.append <| decodes_u32.moreFields

end Phux
