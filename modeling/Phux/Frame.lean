import Phux.StreamFrames
import Phux.SpawnFrames

/-! Whole frames: a length, a type byte and a body of tagged fields. -/

namespace Phux

open ByteReader DecodeError SshOrigin SpawnResource External Option

variable {frame : FrameKind} {r : SpawnResource}

section

variable (ext : External)

def encodePayload : FrameKind → Bytes
  | .hello clientName protocolMajor protocolMinor protocolPatch clientCaps =>
    encodeHello clientName protocolMajor protocolMinor protocolPatch clientCaps
  | .helloOk protocolMajor protocolMinor protocolPatch serverCaps serverId selectedProfile limits =>
    encodeHelloOk protocolMajor protocolMinor protocolPatch serverCaps serverId selectedProfile limits
  | .ping nonce => encodeNonce nonce
  | .pong nonce => encodeNonce nonce
  | .resourceOutput terminalId streamId bootstrapId seq bytes =>
    encodeTerminalOutput terminalId streamId bootstrapId seq bytes
  | .attach attachId target viewport requestScrollback scrollbackLimitLines =>
    encodeAttach attachId target viewport requestScrollback scrollbackLimitLines
  | .detach => []
  | .detached reason message => encodeDetached reason message
  | .inputKey terminalId event => encodeInputKey terminalId event
  | .inputMouse terminalId event => encodeInputMouse terminalId event
  | .inputFocus terminalId event => encodeInputFocus terminalId event
  | .inputPaste terminalId event => encodeInputPaste terminalId event
  | .inputTerminalReply terminalId bytes => encodeInputTerminalReply terminalId bytes
  | .frameAck terminalId streamId bootstrapId seq => encodeFrameAck terminalId streamId bootstrapId seq
  | .viewportResize viewport => encodeViewportResize viewport
  | .attached attachId snapshot initialClientId =>
    encodeAttached ext attachId snapshot initialClientId
  | .attachReady attachId => encodeAttachReady attachId
  | .bootstrapBegin terminalId streamId bootstrapId profile cols rows baseSeq =>
    encodeBootstrapBegin terminalId streamId bootstrapId profile cols rows baseSeq
  | .bootstrapChunk terminalId streamId bootstrapId chunkSeq payload =>
    encodeBootstrapChunk terminalId streamId bootstrapId chunkSeq payload
  | .bootstrapReady terminalId streamId bootstrapId historyCursor =>
    encodeBootstrapReady terminalId streamId bootstrapId historyCursor
  | .historyRequest terminalId streamId bootstrapId cursor maxBytes maxRows =>
    encodeHistoryRequest terminalId streamId bootstrapId cursor maxBytes maxRows
  | .historyPage terminalId streamId bootstrapId pageSeq cursor nextCursor payload rows =>
    encodeHistoryPage terminalId streamId bootstrapId pageSeq cursor nextCursor payload rows
  | .bootstrapTombstone terminalId streamId bootstrapId reason lastValidSeq =>
    encodeBootstrapTombstone terminalId streamId bootstrapId reason lastValidSeq
  | .historyTombstone terminalId streamId bootstrapId cursor reason =>
    encodeHistoryTombstone terminalId streamId bootstrapId cursor reason
  | .historyRejected terminalId streamId bootstrapId cursor reason requiredBytes requiredRows =>
    encodeHistoryRejected terminalId streamId bootstrapId cursor reason requiredBytes requiredRows
  | .bell terminalId => encodeBell terminalId
  | .error requestId code message => encodeError requestId code message
  | .getMetadata requestId scope key => encodeGetOrDeleteMetadata requestId scope key
  | .deleteMetadata requestId scope key => encodeGetOrDeleteMetadata requestId scope key
  | .setMetadata requestId scope key value => encodeSetMetadata requestId scope key value
  | .listMetadata requestId scope => encodeListMetadata requestId scope
  | .subscribeMetadata scope key => encodeSubscribeMetadata scope key
  | .metadataChanged scope key value => encodeMetadataChanged scope key value
  | .metadataValue requestId value => encodeMetadataValue requestId value
  | .metadataKeys requestId keys => encodeMetadataKeys requestId keys
  | .listDirectory requestId path host => encodeListDirectory requestId path host
  | .directoryListing requestId result => encodeDirectoryListing requestId result
  | .spawnResource requestId group command cwd env term satellite ownerTerminal agentSession
      initialSize resource =>
    encodeSpawnTerminal requestId group command cwd env term satellite ownerTerminal agentSession
      initialSize resource
  | .resourceSpawned requestId result => encodeTerminalSpawned requestId result
  | .moveResource requestId terminal ownerTerminal =>
    encodeMoveTerminal requestId terminal ownerTerminal
  | .resourceMoved requestId result => encodeTerminalMoved requestId result
  | .resourceClosed terminalId exitStatus reason =>
    encodeTerminalClosed terminalId exitStatus reason
  | .resizeTerminal terminalId cols rows => encodeTerminalResize terminalId cols rows
  | .command requestId command => encodeCommandFrame requestId command
  | .commandResult requestId result => encodeCommandResultFrame ext requestId result
  | .subscribeEvents terminal => encodeSubscribeEvents terminal
  | .event terminal event => encodeEvent terminal event

/-- The type byte and the payload: what the length of a frame counts. -/
def encodeBody (frame : FrameKind) : Bytes := writeU8 frame.typeByte ++ encodePayload ext frame

def encode (frame : FrameKind) : Bytes :=
  writeU32Be (saturateU32 (encodeBody ext frame).length) ++ encodeBody ext frame

variable (limits : BootstrapLimits)

def decodeFrameBody (typeByte : UInt8) : Decode FrameKind :=
  match typeByte with
  | 0x01 => decodeHello
  | 0x80 => decodeHelloOk
  | 0x7f => decodePing
  | 0xff => decodePong
  | 0x90 => decodeTerminalOutput
  | 0x02 => decodeAttach
  | 0x03 => decodeDetach
  | 0x10 => decodeInputKey
  | 0x12 => decodeInputMouse
  | 0x14 => decodeInputFocus
  | 0x11 => decodeInputPaste
  | 0x17 => decodeInputTerminalReply
  | 0x21 => decodeFrameAck
  | 0x20 => decodeViewportResize
  | 0x81 => decodeAttached ext
  | 0x83 => decodeAttachReady
  | 0x93 => decodeBootstrapBegin
  | 0x94 => decodeBootstrapChunk limits
  | 0x95 => decodeBootstrapReady
  | 0x16 => decodeHistoryRequest
  | 0x96 => decodeHistoryPage limits
  | 0x97 => decodeBootstrapTombstone
  | 0x98 => decodeHistoryTombstone
  | 0x99 => decodeHistoryRejected limits
  | 0x82 => decodeDetached
  | 0xb0 => decodeBell
  | 0xc1 => decodeError
  | 0x50 => decodeGetMetadata
  | 0x51 => decodeSetMetadata
  | 0x52 => decodeDeleteMetadata
  | 0x53 => decodeListMetadata
  | 0x54 => decodeSubscribeMetadata
  | 0xd0 => decodeMetadataChanged
  | 0xd1 => decodeMetadataValue
  | 0xd2 => decodeMetadataKeys
  | 0x55 => decodeListDirectory
  | 0xd3 => decodeDirectoryListing
  | 0x22 => decodeSpawnTerminal
  | 0xa2 => decodeTerminalSpawned
  | 0x2a => decodeMoveTerminal
  | 0xa8 => decodeTerminalMoved
  | 0xa1 => decodeTerminalClosed
  | 0x23 => decodeTerminalResize
  | 0x31 => decodeCommandFrame
  | 0xc2 => decodeCommandResultFrame ext
  | 0x41 => decodeSubscribeEvents
  | 0xb3 => decodeEvent
  | other => throw (.unknownFrameKind other.toUInt16)

structure CompressedFields where
  algorithm : Option Compression := none
  uncompressedLen : Option UInt32 := none
  payload : Option Bytes := none

def compressedStep (acc : CompressedFields) (id : UInt32) (value : Bytes) :
    Except DecodeError CompressedFields :=
  match id with
  | 1 => store (sub readCompression value) fun c => { acc with algorithm := some c }
  | 2 => store (sub readU32Be value) fun n => { acc with uncompressedLen := some n }
  | 3 => .ok { acc with payload := some value }
  | _ => .ok acc

/-- What an inflated body may take: the larger payload bound and an allowance
for the frame around it. -/
def maxCompressedFrameBytes : Nat :=
  min (min (max limits.maxChunkBytes.toNat limits.maxHistoryPageBytes.toNat + 64 * 1024)
    (2 ^ 32 - 1)) maxFrameLen

/-- An inflated body is a plain one; a wrapper inside a wrapper is refused. -/
def decodeInflated (body : Bytes) : Except DecodeError FrameKind :=
  (StateT.run (do
    let typeByte ← readU8
    failIf (typeByte = typeFrameCompressed) compressedFrameInvalid
    decodeFrameBody ext ((BootstrapLimits.new limits.maxChunkBytes
      limits.maxHistoryPageBytes).getD default) typeByte : Decode FrameKind)
    { rest := body, bodyEnd := some body.length }).map Prod.fst

def compressedFrame (f : CompressedFields) : Except DecodeError FrameKind := do
  let algorithm ← required f.algorithm
  failIf (algorithm ≠ .deflate) compressedFrameInvalid
  let declared ← required f.uncompressedLen
  failIf (declared = 0 ∨ maxCompressedFrameBytes limits < declared.toNat) lengthOverflow
  let payload ← required f.payload
  let body ← okOr (ext.inflate payload declared.toNat) compressedFrameInvalid
  decodeInflated ext limits body

def decodeFrameCompressed : Decode FrameKind :=
  decodeFields compressedStep {} (compressedFrame ext limits)

def decodeBody (typeByte : UInt8) : Decode FrameKind :=
  if typeByte = typeFrameCompressed then decodeFrameCompressed ext limits
  else decodeFrameBody ext limits typeByte

def readBody : Decode FrameKind := do
  let typeByte ← readU8
  decodeBody ext limits typeByte

/-- One frame off the front of the input, and what is left after it. -/
def readFrame (input : Bytes) : Except DecodeError (FrameKind × Bytes) := do
  let (length, c) ← readU32Be { rest := input }
  failIf (length.toNat < 1 ∨ maxFrameLen < length.toNat) lengthOverflow
  let bodyEnd := c.pos + length.toNat
  failIf (input.length < bodyEnd) unexpectedEof
  let (frame, c) ← readBody ext limits { c with bodyEnd := some bodyEnd }
  failIf (bodyEnd < c.pos) lengthOverflow
  pure (frame, input.drop bodyEnd)

end

def protocolLimits : BootstrapLimits :=
  ⟨maxBootstrapChunkBytes, maxHistoryPageBytes, by decide, by decide, by decide, by decide⟩

def decode (ext : External) (input : Bytes) : Except DecodeError (FrameKind × Bytes) :=
  readFrame ext protocolLimits input

def decodeWithLimits (ext : External) (limits : BootstrapLimits) (input : Bytes) :
    Except DecodeError (FrameKind × Bytes) :=
  readFrame ext limits input

def FrameKind.Bounded (limits : BootstrapLimits) : FrameKind → Prop
  | helloOk _ _ _ _ _ selectedProfile _ => selectedProfile.Supported
  | inputTerminalReply _ bytes => bytes ≠ [] ∧ bytes.length ≤ maxInputTerminalReplyBytes
  | attached _ snapshot _ => snapshot.Bounded
  | bootstrapBegin _ _ _ profile cols rows _ => profile.gridless = (cols == 0 && rows == 0)
  | bootstrapChunk _ _ _ _ payload => payload.length ≤ limits.maxChunkBytes.toNat
  | bootstrapReady _ _ _ historyCursor => CursorWithin historyCursor
  | historyRequest _ _ _ cursor _ _ => cursor.length ≤ maxHistoryCursorBytes
  | historyPage _ _ _ pageSeq cursor nextCursor payload rows =>
    PageWithin limits pageSeq cursor nextCursor payload rows
  | historyTombstone _ _ _ cursor _ => cursor.length ≤ maxHistoryCursorBytes
  | historyRejected _ _ _ cursor _ requiredBytes requiredRows =>
    RejectionWithin limits cursor requiredBytes requiredRows
  | directoryListing _ result => ListingWithin result
  | spawnResource _ _ argv cwd env term _ ownerTerminal _ initialSize resource =>
    (∀ r, resource = some r → r.Within) ∧
      validateSpawnForKind argv cwd env term ownerTerminal initialSize resource = .ok ()
  | command _ request => request.Bounded
  | commandResult _ result => result.Bounded
  | event _ report => report.ReallyUnknown
  | _ => True

/-- Values the wire can tell apart: a spawn record that is not the default one,
and an origin whose endpoints carry no flow label or scope. -/
def FrameKind.Canonical : FrameKind → Prop
  | hello _ _ _ _ clientCaps => ∀ origin, clientCaps.sshOrigin = some origin → origin.Plain
  | spawnResource _ _ _ _ _ _ _ _ _ _ resource => ∀ r, resource = some r → r.isDefault = false
  | _ => True

def FrameKind.Legible (limits : BootstrapLimits) : FrameKind → Prop
  | attached _ snapshot _ => snapshot.Legible
  | commandResult _ result => result.Legible
  | frame => frame.Bounded limits

variable {limits : BootstrapLimits}

theorem FrameKind.Bounded.legible (h : frame.Bounded limits) : frame.Legible limits := by
  cases frame with
  | attached _ snapshot _ => exact SessionSnapshot.Bounded.legible h
  | commandResult _ result => exact CommandResult.Bounded.legible h
  | _ => exact h

variable {ext : External}

theorem decodesToEnd_frameBody (hjson : ext.JsonRoundTrips)
    (hb : frame.Legible limits) (hc : frame.Canonical) :
    DecodesToEnd (decodeFrameBody ext limits frame.typeByte) (encodePayload ext frame) frame := by
  cases frame with
  | hello _ _ _ _ _ => exact decodesToEnd_hello _ _ _ _ hc
  | helloOk _ _ _ _ _ _ _ => exact decodesToEnd_helloOk _ _ _ _ _ _ hb
  | ping nonce | pong nonce => exact decodesToEnd_sole decodes_u64.toEnd
  | resourceOutput _ _ _ _ _ => exact decodesToEnd_terminalOutput _ _
  | attach _ _ _ _ _ => exact decodesToEnd_attach _ _ _ _ _
  | detach => exact decodesToEnd_decodeFields .nil rfl
  | inputKey id event => exact decodesToEnd_input decodes_keyEvent.sub
  | inputMouse id event => exact decodesToEnd_input decodes_mouseEvent.sub
  | inputFocus id event => exact decodesToEnd_input decodes_focusEvent.sub
  | inputPaste id event => exact decodesToEnd_input decodes_pasteEvent.sub
  | inputTerminalReply id _ =>
    refine decodesToEnd_input fun _ => if_neg ?_
    simp only [List.isEmpty_iff, hb.1, false_or]
    exact Nat.not_lt.mpr hb.2
  | frameAck _ _ _ _ => exact decodesToEnd_frameAck _
  | viewportResize v => exact decodesToEnd_sole decodes_viewportInfo.toEnd
  | attached _ _ _ => exact decodesToEnd_attached hjson _ _ hb
  | attachReady id => exact decodesToEnd_sole decodes_u32.toEnd
  | detached _ _ => exact decodesToEnd_detached _ _
  | bootstrapBegin _ _ _ _ _ _ _ => exact decodesToEnd_bootstrapBegin _ hb
  | bootstrapChunk _ _ _ _ _ => exact decodesToEnd_bootstrapChunk _ hb
  | bootstrapReady _ _ _ _ => exact decodesToEnd_bootstrapReady hb
  | historyRequest _ _ _ _ _ _ => exact decodesToEnd_historyRequest _ _ hb
  | historyPage _ _ _ _ _ _ _ _ => exact decodesToEnd_historyPage hb
  | bootstrapTombstone _ _ _ _ _ => exact decodesToEnd_bootstrapTombstone _ _
  | historyTombstone _ _ _ _ _ => exact decodesToEnd_historyTombstone _ hb
  | historyRejected _ _ _ _ _ _ _ => exact decodesToEnd_historyRejected _ hb
  | bell id => exact decodesToEnd_sole decodes_terminalId.toEnd
  | error _ _ _ => exact decodesToEnd_error _ _ _
  | getMetadata _ _ _ | deleteMetadata _ _ _ => exact decodesToEnd_scopeKey
  | setMetadata _ _ _ _ => exact decodesToEnd_setMetadata _ _ _ _
  | listMetadata id scope => exact decodesToEnd_call decodes_scope.toEnd
  | subscribeMetadata _ _ => exact decodesToEnd_subscribeMetadata _ _
  | metadataChanged _ _ _ => exact decodesToEnd_metadataChanged _ _ _
  | metadataValue _ _ => exact decodesToEnd_metadataValue _ _
  | metadataKeys _ _ => exact decodesToEnd_metadataKeys _ _
  | listDirectory _ _ _ => exact decodesToEnd_listDirectory _ _ _
  | directoryListing _ result =>
    cases result with
    | ok listing => exact decodesToEnd_listingOk _ hb
    | error error => exact decodesToEnd_listingErr _ error
  | spawnResource _ _ _ _ _ _ _ _ _ _ _ => exact decodesToEnd_spawnTerminal _ _ _ _ hb.1 hc hb.2
  | resourceSpawned _ _ => exact decodesToEnd_terminalSpawned _ _
  | moveResource _ _ _ => exact decodesToEnd_moveTerminal _ _ _
  | resourceMoved id result => exact decodesToEnd_call decodes_moveResult.toEnd
  | resourceClosed _ _ _ => exact decodesToEnd_terminalClosed _ _ _
  | resizeTerminal _ _ _ => exact decodesToEnd_terminalResize _ _ _
  | command id _ => exact decodesToEnd_call (decodesToEnd_command hb)
  | commandResult id _ => exact decodesToEnd_call (decodesToEnd_commandResult hjson hb)
  | subscribeEvents _ => exact decodesToEnd_subscribeEvents _
  | event _ _ => exact decodesToEnd_event _ hb

theorem typeByte_ne_compressed (frame : FrameKind) : frame.typeByte ≠ typeFrameCompressed := by
  cases frame <;> simp [FrameKind.typeByte, typeFrameCompressed]

theorem length_writeU32Be (n : UInt32) : (writeU32Be n).length = 4 := by simp [writeU32Be]

theorem readFrame_body {body : Bytes}
    (hbody : DecodesToEnd (readBody ext limits) body frame) (hne : body ≠ [])
    (hlen : body.length ≤ maxFrameLen) (rest : Bytes) :
    readFrame ext limits (writeU32Be (saturateU32 body.length) ++ body ++ rest) =
      .ok (frame, rest) := by
  have hpos : 0 < body.length := List.length_pos_iff.mpr hne
  have hsat : (saturateU32 body.length).toNat = body.length :=
    saturateU32_toNat (by rw [maxFrameLen] at hlen; omega)
  have hhead := length_writeU32Be (saturateU32 body.length)
  have hread := decodes_u32 (by rw [hhead]; decide)
    { rest := writeU32Be (saturateU32 body.length) ++ body ++ rest } (body ++ rest) (by simp)
  rw [hhead] at hread
  have hrun := hbody hlen
    { rest := body ++ rest, pos := 4, bodyEnd := some (4 + body.length) } rest rfl
    (by simp [Cursor.left])
  have hshort : ¬ (writeU32Be (saturateU32 body.length) ++ body ++ rest).length < 4 + body.length := by
    simp only [List.length_append, hhead]
    omega
  have hdrop : (writeU32Be (saturateU32 body.length) ++ body ++ rest).drop (4 + body.length) = rest :=
    List.drop_left' (by simp [hhead])
  refine then_ok hread ?_
  simp only [Cursor.advance, hsat, Nat.zero_add, failIf_of_not (show ¬ (body.length < 1 ∨
    maxFrameLen < body.length) by omega), failIf_of_not hshort, pure_bind, hdrop]
  rw [show (writeU32Be (saturateU32 body.length) ++ body ++ rest).drop 4 = body ++ rest by
    rw [List.append_assoc]; exact List.drop_left' hhead]
  refine then_ok hrun ?_
  rw [failIf_of_not (by simp [Cursor.advance])]
  rfl

theorem readFrame_encode (hjson : ext.JsonRoundTrips)
    (hb : frame.Legible limits) (hc : frame.Canonical)
    (hlen : (encodeBody ext frame).length ≤ maxFrameLen) (rest : Bytes) :
    readFrame ext limits (encode ext frame ++ rest) = .ok (frame, rest) := by
  have hplain : decodeBody ext limits frame.typeByte = decodeFrameBody ext limits frame.typeByte :=
    if_neg (typeByte_ne_compressed frame)
  refine readFrame_body (decodes_u8.bindToEnd ?_) writeU8_ne_nil hlen rest
  rw [hplain]
  exact decodesToEnd_frameBody hjson hb hc

def SshOrigin.plain (origin : SshOrigin) : SshOrigin :=
  ⟨SocketAddr.new origin.client.ip origin.client.port,
    origin.server.map fun server => SocketAddr.new server.ip server.port⟩

def SpawnResource.kept (resource : Option SpawnResource) : Option SpawnResource :=
  resource.filter fun r => !r.isDefault

/-- The frame a decoder sees in place of one that is not canonical. -/
def FrameKind.normal : FrameKind → FrameKind
  | hello clientName major minor patch caps =>
    hello clientName major minor patch { caps with sshOrigin := caps.sshOrigin.map plain }
  | spawnResource requestId group argv cwd env term satellite owner agentSession size resource =>
    spawnResource requestId group argv cwd env term satellite owner agentSession size
      (kept resource)
  | frame => frame

theorem SpawnResource.kept_default (h : r.isDefault = true) : kept (some r) = none := by
  simp [kept, Option.filter, h]

theorem SpawnResource.kept_other (h : r.isDefault = false) : kept (some r) = some r := by
  simp [kept, Option.filter, h]

variable (origin : SshOrigin)

theorem SshOrigin.plain_eq_iff : origin.plain = origin ↔ origin.Plain := by
  obtain ⟨client, server⟩ := origin
  cases server with
  | none | some server => simp [plain, SshOrigin.Plain, SocketAddr.new_ip_port_iff]

theorem SshOrigin.plain_plain : origin.plain.plain = origin.plain := by
  obtain ⟨client, server⟩ := origin
  cases server <;> simp [plain]

theorem encodeSshOrigin_plain : encodeSshOrigin origin.plain = encodeSshOrigin origin := by
  obtain ⟨client, server⟩ := origin
  cases server <;> simp [encodeSshOrigin, plain, writeEndpoint]

theorem encodePayload_normal (ext : External) (frame : FrameKind) :
    encodePayload ext frame.normal = encodePayload ext frame := by
  cases frame with
  | hello clientName major minor patch caps =>
    cases ho : caps.sshOrigin with
    | none => simp [FrameKind.normal, encodePayload, encodeHello, encodeClientCapabilities, ho]
    | some origin =>
      simp [FrameKind.normal, encodePayload, encodeHello, encodeClientCapabilities, ho, optField,
        writeOptField, encodeSshOrigin_plain]
  | spawnResource requestId group argv cwd env term satellite owner agentSession size resource =>
    cases resource with
    | none => rfl
    | some r =>
      by_cases hd : r.isDefault = true
      · obtain rfl : r = {} := by simpa [isDefault] using hd
        rfl
      · simp [FrameKind.normal, kept_other (by simpa using hd)]
  | _ => rfl

theorem encode_normal (ext : External) (frame : FrameKind) :
    encode ext frame.normal = encode ext frame ∧
      encodeBody ext frame.normal = encodeBody ext frame := by
  have htype : frame.normal.typeByte = frame.typeByte := by cases frame <;> rfl
  have hbody : encodeBody ext frame.normal = encodeBody ext frame := by
    rw [encodeBody, encodeBody, htype, encodePayload_normal]
  exact ⟨by rw [encode, encode, hbody], hbody⟩

theorem FrameKind.normal_canonical (frame : FrameKind) : frame.normal.Canonical := by
  cases frame with
  | hello clientName major minor patch caps =>
    intro origin ho
    obtain ⟨o, -, rfl⟩ := map_eq_some_iff.mp ho
    exact (plain_eq_iff _).mp (plain_plain o)
  | spawnResource requestId group argv cwd env term satellite owner agentSession size resource =>
    intro r hr
    simpa using (filter_eq_some_iff.mp hr).2
  | _ => trivial

theorem FrameKind.normal_bounded (h : frame.Bounded limits) : frame.normal.Bounded limits := by
  cases frame with
  | hello _ _ _ _ _ => trivial
  | spawnResource requestId group argv cwd env term satellite owner agentSession size resource =>
    refine ⟨fun r hr => h.1 r (filter_eq_some_iff.mp hr).1, ?_⟩
    cases resource with
    | none => exact h.2
    | some r =>
      by_cases hd : r.isDefault = true
      · rw [kept_default hd]
        rfl
      · rw [kept_other (by simpa using hd)]
        exact h.2
  | _ => exact h

theorem FrameKind.normal_eq_iff (frame : FrameKind) : frame.normal = frame ↔ frame.Canonical := by
  refine ⟨fun h => h ▸ frame.normal_canonical, fun h => ?_⟩
  cases frame with
  | hello clientName major minor patch caps =>
    have ho : caps.sshOrigin.map plain = caps.sshOrigin := by
      cases hs : caps.sshOrigin with
      | none => rfl
      | some origin => simp [(plain_eq_iff origin).mpr (h origin hs)]
    rw [normal, ho]
  | spawnResource requestId group argv cwd env term satellite owner agentSession size resource =>
    cases resource with
    | none => rfl
    | some r => rw [normal, kept_other (h r rfl)]
  | _ => rfl

theorem decode_encode_normal (hjson : ext.JsonRoundTrips)
    (hb : frame.Bounded protocolLimits) (hlen : (encodeBody ext frame).length ≤ maxFrameLen)
    (rest : Bytes) : decode ext (encode ext frame ++ rest) = .ok (frame.normal, rest) := by
  obtain ⟨hencode, hbody⟩ := encode_normal ext frame
  rw [← hencode, decode]
  exact readFrame_encode hjson (FrameKind.normal_bounded hb).legible frame.normal_canonical
    (by rwa [hbody]) rest

/-- Within the decoder's bounds, decoding an encoded frame gives it back and
leaves what follows, exactly when the frame is canonical. -/
theorem decode_encode_iff {ext : External} (hjson : ext.JsonRoundTrips) {frame : FrameKind}
    (hb : frame.Bounded protocolLimits) (hlen : (encodeBody ext frame).length ≤ maxFrameLen)
    (rest : Bytes) :
    decode ext (encode ext frame ++ rest) = .ok (frame, rest) ↔ frame.Canonical := by
  rw [decode_encode_normal hjson hb hlen, ← frame.normal_eq_iff]
  simp

/-- A request to spawn a resource with everything else left to the server. -/
def spawnRequest (resource : SpawnResource) : FrameKind :=
  .spawnResource 7 ⟨0⟩ none none none none none none none none (some resource)

def agentUnderTerminal : SpawnResource :=
  { kind := .agentSession, parent := some (.local 1), provider := some "claude" }

theorem agentUnderTerminal_within : agentUnderTerminal.Within where
  kind_ok := trivial
  provider_ok := by
    intro s hs
    obtain rfl := some.inj hs
    decide
  nativeId_ok := nofun

theorem spawnRequest_bounded {resource : SpawnResource} (h : resource.Within)
    (hv : validateSpawnForKind none none none none none none (some resource) = .ok ()) :
    (spawnRequest resource).Bounded limits :=
  ⟨fun r hr => by rwa [← some.inj hr], hv⟩

theorem decode_encode_agent_spawn :
    decode unary (encode unary (spawnRequest agentUnderTerminal) ++ [0xff]) =
      .ok (spawnRequest agentUnderTerminal, [0xff]) :=
  (decode_encode_iff unary_jsonRoundTrips
    (spawnRequest_bounded agentUnderTerminal_within rfl) (by decide) [0xff]).mpr
    fun r hr => by rw [← some.inj hr]; decide

/-- A spawn that carries the default record is within every bound, but reads
back without the record. -/
theorem decode_encode_default_spawn : (spawnRequest {}).Bounded protocolLimits ∧
      (encodeBody unary (spawnRequest {})).length ≤ maxFrameLen ∧
      decode unary (encode unary (spawnRequest {}) ++ []) ≠ .ok (spawnRequest {}, []) := by
  have hwithin : ({} : SpawnResource).Within := ⟨trivial, nofun, nofun⟩
  have hb : (spawnRequest {}).Bounded protocolLimits := spawnRequest_bounded hwithin rfl
  have hkept : kept (some {}) = none := rfl
  refine ⟨hb, by decide, ?_⟩
  rw [decode_encode_normal unary_jsonRoundTrips hb (by decide)]
  simp [spawnRequest, FrameKind.normal, hkept]

end Phux
