import Phux.FrameKind

/-! Frames of attachment, input, metadata, directories, spawning and commands.
Frames of the same shape share one codec. -/

namespace Phux

open ByteReader

variable (requestId : UInt32)
variable (scope : Scope) (key : String)
variable (terminalId : ResourceId)

section

variable {α : Type}

def soleStep (dec : Decode α) (acc : Option α) (id : UInt32) (value : Bytes) :
    Except DecodeError (Option α) :=
  if id = 1 then store (sub dec value) some else .ok acc

def decodeSole (dec : Decode α) (build : α → FrameKind) : Decode FrameKind :=
  decodeFields (soleStep dec) none fun o => (required o).map build

variable {bs : Bytes} {dec : Decode α} {a : α}

theorem decodesToEnd_sole {build : α → FrameKind}
    (h : DecodesToEnd dec bs a) : DecodesToEnd (decodeSole dec build) (field 1 bs) (build a) :=
  decodesToEnd_decodeFields (fieldsTo_read h) rfl

structure InputFields (α : Type) where
  terminalId : Option ResourceId := none
  event : Option α := none

def encodeInput (event : Bytes) : Bytes :=
  field 1 (encodeTerminalId terminalId) ++ field 2 event

def inputStep (read : Bytes → Except DecodeError α) (acc : InputFields α) (id : UInt32)
    (value : Bytes) : Except DecodeError (InputFields α) :=
  match id with
  | 1 => store (sub decodeTerminalId value) fun x => { acc with terminalId := some x }
  | 2 => store (read value) fun x => { acc with event := some x }
  | _ => .ok acc

def decodeInput (read : Bytes → Except DecodeError α) (build : ResourceId → α → FrameKind) :
    Decode FrameKind :=
  decodeFields (inputStep read) {} fun f => do
    let terminalId ← required f.terminalId
    let event ← required f.event
    pure (build terminalId event)

theorem decodesToEnd_input {read : Bytes → Except DecodeError α}
    {build : ResourceId → α → FrameKind} {terminalId : ResourceId}
    (h : bs.length ≤ maxFrameLen → read bs = .ok a) :
    DecodesToEnd (decodeInput read build) (encodeInput terminalId bs) (build terminalId a) := by
  have hfields : FieldsTo (inputStep read) {} (encodeInput terminalId bs)
      ⟨some terminalId, some a⟩ :=
    decodes_terminalId.fieldsTo.append <| fieldsTo_field fun hb => store_ok (h hb) rfl
  exact decodesToEnd_decodeFields hfields rfl

structure CallFields (α : Type) where
  requestId : UInt32 := 0
  body : Option α := none

def encodeCall (body : Bytes) : Bytes :=
  field 1 (writeU32Be requestId) ++ field 2 body

def callStep (dec : Decode α) (acc : CallFields α) (id : UInt32) (value : Bytes) :
    Except DecodeError (CallFields α) :=
  match id with
  | 1 => store (sub readU32Be value) fun n => { acc with requestId := n }
  | 2 => store (sub dec value) fun x => { acc with body := some x }
  | _ => .ok acc

def decodeCall (dec : Decode α) (build : UInt32 → α → FrameKind) : Decode FrameKind :=
  decodeFields (callStep dec) {} fun f => (required f.body).map (build f.requestId)

theorem decodesToEnd_call {build : UInt32 → α → FrameKind}
    {requestId : UInt32} (h : DecodesToEnd dec bs a) :
    DecodesToEnd (decodeCall dec build) (encodeCall requestId bs) (build requestId a) := by
  have hfields : FieldsTo (callStep dec) {} (encodeCall requestId bs) ⟨requestId, some a⟩ :=
    decodes_u32.fieldsTo.append (fieldsTo_read h)
  exact decodesToEnd_decodeFields hfields rfl

end

def encodeNonce (nonce : UInt64) : Bytes := field 1 (writeU64Be nonce)

def decodePing : Decode FrameKind := decodeSole readU64Be .ping

def decodePong : Decode FrameKind := decodeSole readU64Be .pong

def encodeViewportResize (viewport : ViewportInfo) : Bytes := field 1 (encodeViewportInfo viewport)

def decodeViewportResize : Decode FrameKind := decodeSole decodeViewportInfo .viewportResize

def encodeAttachReady (attachId : UInt32) : Bytes := field 1 (writeU32Be attachId)

def decodeAttachReady : Decode FrameKind := decodeSole readU32Be .attachReady

def encodeBell : Bytes := field 1 (encodeTerminalId terminalId)

def decodeBell : Decode FrameKind := decodeSole decodeTerminalId .bell

def encodeInputKey (event : KeyEvent) : Bytes :=
  encodeInput terminalId (encodeKeyEvent event)

def decodeInputKey : Decode FrameKind := decodeInput (sub decodeKeyEvent) .inputKey

def encodeInputMouse (event : MouseEvent) : Bytes :=
  encodeInput terminalId (encodeMouseEvent event)

def decodeInputMouse : Decode FrameKind := decodeInput (sub decodeMouseEvent) .inputMouse

def encodeInputFocus (event : FocusEvent) : Bytes :=
  encodeInput terminalId (writeU8 (encodeFocusEvent event))

def decodeInputFocus : Decode FrameKind := decodeInput (sub readFocusEvent) .inputFocus

def encodeInputPaste (event : PasteEvent) : Bytes :=
  encodeInput terminalId (encodePasteEvent event)

def decodeInputPaste : Decode FrameKind := decodeInput (sub decodePasteEvent) .inputPaste

def encodeInputTerminalReply (bytes : Bytes) : Bytes :=
  encodeInput terminalId bytes

def checkedTerminalReply (value : Bytes) : Except DecodeError Bytes :=
  if value.isEmpty ∨ maxInputTerminalReplyBytes < value.length then
    .error .inputTerminalReplyLimitExceeded
  else .ok value

def decodeInputTerminalReply : Decode FrameKind :=
  decodeInput checkedTerminalReply .inputTerminalReply

def encodeAttach (attachId : UInt32) (target : AttachTarget) (viewport : ViewportInfo)
    (requestScrollback : Bool) (scrollbackLimitLines : UInt32) : Bytes :=
  field 1 (encodeAttachTarget target) ++ (field 2 (encodeViewportInfo viewport) ++
    (field 3 (writeBool requestScrollback) ++ (field 4 (writeU32Be scrollbackLimitLines) ++
      field 5 (writeU32Be attachId))))

structure AttachFields where
  target : Option AttachTarget := none
  viewport : Option ViewportInfo := none
  requestScrollback : Bool := false
  scrollbackLimitLines : UInt32 := 0
  attachId : Option UInt32 := none

def attachStep (acc : AttachFields) (id : UInt32) (value : Bytes) :
    Except DecodeError AttachFields :=
  match id with
  | 1 => store (sub decodeAttachTarget value) fun x => { acc with target := some x }
  | 2 => store (sub decodeViewportInfo value) fun x => { acc with viewport := some x }
  | 3 => store (sub readFlag value) fun b => { acc with requestScrollback := b }
  | 4 => store (sub readU32Be value) fun n => { acc with scrollbackLimitLines := n }
  | 5 => store (sub readU32Be value) fun n => { acc with attachId := some n }
  | _ => .ok acc

def attachFrame (f : AttachFields) : Except DecodeError FrameKind := do
  let attachId ← required f.attachId
  let target ← required f.target
  let viewport ← required f.viewport
  pure (.attach attachId target viewport f.requestScrollback f.scrollbackLimitLines)

def decodeAttach : Decode FrameKind := decodeFields attachStep {} attachFrame

theorem decodesToEnd_attach (attachId : UInt32) (target : AttachTarget) (viewport : ViewportInfo)
    (requestScrollback : Bool) (scrollbackLimitLines : UInt32) : DecodesToEnd decodeAttach
      (encodeAttach attachId target viewport requestScrollback scrollbackLimitLines)
      (.attach attachId target viewport requestScrollback scrollbackLimitLines) := by
  refine decodesToEnd_decodeFields ?_ (show attachFrame ⟨some target, some viewport,
    requestScrollback, scrollbackLimitLines, some attachId⟩ = _ from rfl)
  exact decodes_attachTarget.fieldsTo.append <| decodes_viewportInfo.fieldsTo.append <|
    decodes_flag.fieldsTo.append <| decodes_u32.fieldsTo.append <| decodes_u32.fieldsTo

/-- Detaching carries nothing; fields of later versions are skipped. -/
def decodeDetach : Decode FrameKind :=
  decodeFields (fun (_ : Unit) _ _ => .ok ()) () fun _ => .ok .detach

section

variable (ext : External)

def encodeAttached (attachId : UInt32) (snapshot : SessionSnapshot) (initialClientId : ClientId) :
    Bytes :=
  field 1 (encodeSessionSnapshot ext snapshot) ++ (field 2 (writeU32Be initialClientId.raw) ++
    field 3 (writeU32Be attachId))

structure AttachedFields where
  snapshot : Option SessionSnapshot := none
  initialClientId : Option ClientId := none
  attachId : Option UInt32 := none

def attachedStep (acc : AttachedFields) (id : UInt32) (value : Bytes) :
    Except DecodeError AttachedFields :=
  match id with
  | 1 => store (sub (decodeSessionSnapshot ext) value) fun x => { acc with snapshot := some x }
  | 2 => store (sub decodeClientId value) fun x => { acc with initialClientId := some x }
  | 3 => store (sub readU32Be value) fun n => { acc with attachId := some n }
  | _ => .ok acc

def attachedFrame (f : AttachedFields) : Except DecodeError FrameKind := do
  let attachId ← required f.attachId
  let snapshot ← required f.snapshot
  let initialClientId ← required f.initialClientId
  pure (.attached attachId snapshot initialClientId)

def decodeAttached : Decode FrameKind := decodeFields (attachedStep ext) {} attachedFrame

end

theorem decodesToEnd_attached {ext : External} (hjson : ext.JsonRoundTrips) (attachId : UInt32)
    {snapshot : SessionSnapshot} (initialClientId : ClientId) (h : snapshot.Legible) :
    DecodesToEnd (decodeAttached ext) (encodeAttached ext attachId snapshot initialClientId)
      (.attached attachId snapshot initialClientId) := by
  have hclient : Decodes decodeClientId (writeU32Be initialClientId.raw) initialClientId :=
    decodes_u32.map ClientId.mk
  refine decodesToEnd_decodeFields ?_ (show attachedFrame
    ⟨some snapshot, some initialClientId, some attachId⟩ = _ from rfl)
  exact (fieldsTo_read (decodesToEnd_sessionSnapshot hjson h)).append <|
    (fieldsTo_read hclient.toEnd).append <| decodes_u32.fieldsTo

def encodeDetached (reason : Option DetachReason) (message : String) : Bytes :=
  optField 1 (fun reason : DetachReason => writeU8 reason.asWire) reason ++
    optField 2 strBytes (Option.guard (fun s => !s.isEmpty) message)

structure DetachedFields where
  reason : Option DetachReason := none
  message : Option String := none

def readDetachReason : Decode (Option DetachReason) := do
  let raw ← readU8
  pure (DetachReason.fromWire raw)

def detachedStep (acc : DetachedFields) (id : UInt32) (value : Bytes) :
    Except DecodeError DetachedFields :=
  match id with
  | 1 => store (sub readDetachReason value) fun reason => { acc with reason }
  | 2 => store (utf8Field value) fun s => { acc with message := some s }
  | _ => .ok acc

def detachedFrame (f : DetachedFields) : Except DecodeError FrameKind :=
  .ok (.detached f.reason (f.message.getD ""))

def decodeDetached : Decode FrameKind := decodeFields detachedStep {} detachedFrame

theorem decodesToEnd_detached (reason : Option DetachReason) (message : String) :
    DecodesToEnd decodeDetached (encodeDetached reason message) (.detached reason message) := by
  have hmsg : (Option.guard (fun s : String => !s.isEmpty) message).getD "" = message :=
    guard_getD fun he => by simpa using he
  have hframe : detachedFrame ⟨reason, .guard (fun s => !s.isEmpty) message⟩ =
      .ok (.detached reason message) := by rw [detachedFrame, hmsg]
  refine decodesToEnd_decodeFields ?_ hframe
  refine .append (fieldsTo_optField (fun acc o => { acc with reason := o })
    reason rfl fun r _ hb => ?_) ?_
  · have hread := (decodes_u8 (x := r.asWire)).map DetachReason.fromWire
    rw [DetachReason.fromWire_asWire] at hread
    exact store_ok (hread.sub hb) rfl
  · exact fieldsTo_optUtf8 (fun (acc : DetachedFields) o => { acc with message := o }) _ rfl
      fun _ => rfl

def encodeError (requestId : Option UInt32) (code : ErrorCode) (message : String) : Bytes :=
  optField 1 writeU32Be requestId ++ (field 2 (writeU16Be code.asWire) ++ field 3 (strBytes message))

structure ErrorFields where
  requestId : Option UInt32 := none
  code : Option ErrorCode := none
  message : Option String := none

def errorStep (acc : ErrorFields) (id : UInt32) (value : Bytes) : Except DecodeError ErrorFields :=
  match id with
  | 1 => store (sub readU32Be value) fun n => { acc with requestId := some n }
  | 2 => store (sub decodeErrorCode value) fun code => { acc with code := some code }
  | 3 => store (utf8Field value) fun s => { acc with message := some s }
  | _ => .ok acc

def errorFrame (f : ErrorFields) : Except DecodeError FrameKind := do
  let code ← required f.code
  let message ← required f.message
  pure (.error f.requestId code message)

def decodeError : Decode FrameKind := decodeFields errorStep {} errorFrame

theorem decodesToEnd_error (requestId : Option UInt32) (code : ErrorCode) (message : String) :
    DecodesToEnd decodeError (encodeError requestId code message)
      (.error requestId code message) := by
  refine decodesToEnd_decodeFields ?_ (show errorFrame ⟨requestId, some code, some message⟩ = _
    from rfl)
  refine (fieldsTo_optRead (fun acc o => { acc with requestId := o }) requestId rfl
    (fun _ _ => decodes_u32.toEnd) fun _ => rfl).append ?_
  exact decodes_errorCode.fieldsTo.append (fieldsTo_utf8 message)

def encodeGetOrDeleteMetadata : Bytes :=
  field 1 (writeU32Be requestId) ++ (field 2 (encodeScope scope) ++ field 3 (strBytes key))

structure MetadataFields where
  requestId : UInt32 := 0
  scope : Option Scope := none
  key : Option String := none
  value : Bytes := []

def scopeKeyStep (acc : MetadataFields) (id : UInt32) (value : Bytes) :
    Except DecodeError MetadataFields :=
  match id with
  | 1 => store (sub readU32Be value) fun n => { acc with requestId := n }
  | 2 => store (sub decodeScope value) fun scope => { acc with scope := some scope }
  | 3 => store (utf8Field value) fun key => { acc with key := some key }
  | _ => .ok acc

def decodeMetadataScopeKey (build : UInt32 → Scope → String → FrameKind) : Decode FrameKind :=
  decodeFields scopeKeyStep {} fun f => do
    let scope ← required f.scope
    let key ← required f.key
    pure (build f.requestId scope key)

def decodeGetMetadata : Decode FrameKind := decodeMetadataScopeKey .getMetadata

def decodeDeleteMetadata : Decode FrameKind := decodeMetadataScopeKey .deleteMetadata

theorem decodesToEnd_scopeKey {build : UInt32 → Scope → String → FrameKind} {requestId : UInt32}
    {scope : Scope} {key : String} :
    DecodesToEnd (decodeMetadataScopeKey build) (encodeGetOrDeleteMetadata requestId scope key)
      (build requestId scope key) := by
  have hfields : FieldsTo scopeKeyStep {} (encodeGetOrDeleteMetadata requestId scope key)
      { requestId, scope := some scope, key := some key } :=
    decodes_u32.fieldsTo.append <| decodes_scope.fieldsTo.append (fieldsTo_utf8 key)
  exact decodesToEnd_decodeFields hfields rfl

def encodeSetMetadata (value : Bytes) : Bytes :=
  field 1 (writeU32Be requestId) ++ (field 2 (encodeScope scope) ++
    (field 3 (strBytes key) ++ field 4 value))

def setMetadataStep (acc : MetadataFields) (id : UInt32) (value : Bytes) :
    Except DecodeError MetadataFields :=
  match id with
  | 4 => .ok { acc with value }
  | _ => scopeKeyStep acc id value

def setMetadataFrame (f : MetadataFields) : Except DecodeError FrameKind := do
  let scope ← required f.scope
  let key ← required f.key
  pure (.setMetadata f.requestId scope key f.value)

def decodeSetMetadata : Decode FrameKind := decodeFields setMetadataStep {} setMetadataFrame

theorem decodesToEnd_setMetadata (value : Bytes) :
    DecodesToEnd decodeSetMetadata (encodeSetMetadata requestId scope key value)
      (.setMetadata requestId scope key value) := by
  refine decodesToEnd_decodeFields ?_ (show setMetadataFrame
    ⟨requestId, some scope, some key, value⟩ = _ from rfl)
  exact decodes_u32.fieldsTo.append <| decodes_scope.fieldsTo.append <|
    (fieldsTo_utf8 key).append <| fieldsTo_field fun _ => rfl

def encodeListMetadata (scope : Scope) : Bytes :=
  encodeCall requestId (encodeScope scope)

def decodeListMetadata : Decode FrameKind := decodeCall decodeScope .listMetadata

def encodeMetadataChanged (value : Option Bytes) : Bytes :=
  field 1 (encodeScope scope) ++ (field 2 (strBytes key) ++ optField 3 (fun v => v) value)

structure ChangedFields where
  scope : Option Scope := none
  key : Option String := none
  value : Option Bytes := none

def changedStep (acc : ChangedFields) (id : UInt32) (value : Bytes) :
    Except DecodeError ChangedFields :=
  match id with
  | 1 => store (sub decodeScope value) fun scope => { acc with scope := some scope }
  | 2 => store (utf8Field value) fun key => { acc with key := some key }
  | 3 => .ok { acc with value := some value }
  | _ => .ok acc

def changedFrame (f : ChangedFields) : Except DecodeError FrameKind := do
  let scope ← required f.scope
  let key ← required f.key
  pure (.metadataChanged scope key f.value)

def decodeMetadataChanged : Decode FrameKind := decodeFields changedStep {} changedFrame

variable (value : Option Bytes)

theorem decodesToEnd_metadataChanged :
    DecodesToEnd decodeMetadataChanged (encodeMetadataChanged scope key value)
      (.metadataChanged scope key value) := by
  refine decodesToEnd_decodeFields ?_ (show changedFrame ⟨some scope, some key, value⟩ = _ from rfl)
  refine decodes_scope.fieldsTo.append ?_
  refine (fieldsTo_utf8 key).append ?_
  exact fieldsTo_optField (fun (acc : ChangedFields) o => { acc with value := o }) value rfl
    fun _ _ _ => rfl

def encodeSubscribeMetadata : Bytes :=
  field 1 (encodeScope scope) ++ field 2 (strBytes key)

structure SubscribeFields where
  scope : Option Scope := none
  key : Option String := none

def subscribeStep (acc : SubscribeFields) (id : UInt32) (value : Bytes) :
    Except DecodeError SubscribeFields :=
  match id with
  | 1 => store (sub decodeScope value) fun scope => { acc with scope := some scope }
  | 2 => store (utf8Field value) fun key => { acc with key := some key }
  | _ => .ok acc

def subscribeFrame (f : SubscribeFields) : Except DecodeError FrameKind := do
  let scope ← required f.scope
  let key ← required f.key
  pure (.subscribeMetadata scope key)

def decodeSubscribeMetadata : Decode FrameKind := decodeFields subscribeStep {} subscribeFrame

theorem decodesToEnd_subscribeMetadata :
    DecodesToEnd decodeSubscribeMetadata (encodeSubscribeMetadata scope key)
      (.subscribeMetadata scope key) := by
  refine decodesToEnd_decodeFields ?_ (show subscribeFrame ⟨some scope, some key⟩ = _ from rfl)
  exact decodes_scope.fieldsTo.append (fieldsTo_utf8 key)

def encodeMetadataValue (value : Option Bytes) : Bytes :=
  field 1 (writeU32Be requestId) ++ optField 2 (fun v => v) value

structure ValueFields where
  requestId : UInt32 := 0
  value : Option Bytes := none

def valueStep (acc : ValueFields) (id : UInt32) (value : Bytes) : Except DecodeError ValueFields :=
  match id with
  | 1 => store (sub readU32Be value) fun n => { acc with requestId := n }
  | 2 => .ok { acc with value := some value }
  | _ => .ok acc

def valueFrame (f : ValueFields) : Except DecodeError FrameKind :=
  .ok (.metadataValue f.requestId f.value)

def decodeMetadataValue : Decode FrameKind := decodeFields valueStep {} valueFrame

theorem decodesToEnd_metadataValue :
    DecodesToEnd decodeMetadataValue (encodeMetadataValue requestId value)
      (.metadataValue requestId value) := by
  refine decodesToEnd_decodeFields ?_ (show valueFrame ⟨requestId, value⟩ = _ from rfl)
  refine decodes_u32.fieldsTo.append ?_
  exact fieldsTo_optField (fun (acc : ValueFields) o => { acc with value := o }) value rfl
    fun _ _ _ => rfl

def encodeMetadataKeys (keys : List String) : Bytes :=
  field 1 (writeU32Be requestId) ++ field 2 (encodeStringList keys)

structure KeysFields where
  requestId : UInt32 := 0
  keys : List String := []

def keysStep (acc : KeysFields) (id : UInt32) (value : Bytes) : Except DecodeError KeysFields :=
  match id with
  | 1 => store (sub readU32Be value) fun n => { acc with requestId := n }
  | 2 => store (sub decodeStringList value) fun keys => { acc with keys }
  | _ => .ok acc

def keysFrame (f : KeysFields) : Except DecodeError FrameKind :=
  .ok (.metadataKeys f.requestId f.keys)

def decodeMetadataKeys : Decode FrameKind := decodeFields keysStep {} keysFrame

theorem decodesToEnd_metadataKeys (keys : List String) :
    DecodesToEnd decodeMetadataKeys (encodeMetadataKeys requestId keys)
      (.metadataKeys requestId keys) := by
  refine decodesToEnd_decodeFields ?_ (show keysFrame ⟨requestId, keys⟩ = _ from rfl)
  exact decodes_u32.fieldsTo.append <| decodes_stringList.fieldsTo

end Phux
