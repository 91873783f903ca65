import Phux.Snapshot
import Phux.Status

/-! Commands, their results and the agent events. A command is the last thing in
its field, so a decoder may read up to the end of the field. -/

namespace Phux

open ByteReader DecodeError

inductive StateScope where
  | server
deriving DecidableEq

/-- Conditions on a conditional kill; unknown bits are kept as received. -/
structure KillConditions where
  bits : UInt8
deriving DecidableEq

structure KillPrecondition where
  serverInstance : Option ServerInstance
  conditions : KillConditions
deriving DecidableEq

inductive Command where
  | attachResource (terminalId : ResourceId)
  | detachResource (terminalId : ResourceId)
  | killResource (terminalId : ResourceId)
  | getState (scope : StateScope)
  | getScreen (terminalId : ResourceId) (requestScrollback : Option UInt32) (cells : Bool)
  | routeInput (terminalId : ResourceId) (event : InputEvent)
  | applyInput (operationId : InputOperationId) (terminalId : ResourceId)
      (events : List InputEvent)
  | killResources (ids : List ResourceId)
  | detachClients (session : Option String)
  | getTerminalState (terminalId : ResourceId) (includeScrollback : Bool)
      (maxScrollbackLines : UInt16)
  | subscribeResourceEvents (terminalId : ResourceId) (eventTypes : List ResourceEventType)
  | upgrade
  | shutdown
  | acquireInput (terminalId : ResourceId) (mode : InputMode) (ttlMs : UInt32)
  | releaseInput (terminalId : ResourceId)
  | signalTerminal (terminalId : ResourceId) (signal : TerminalSignal)
  | putFile (uploadId : FileUploadId) (terminalId : ResourceId) (extension : String)
      (offset : UInt64) (data : Bytes) (finalChunk : Bool) (sha256 : Option (Vector UInt8 32))
  | reportAsked (terminalId : ResourceId) (id question : String) (suggestions : List String)
      (elapsedSeconds : Option UInt64)
  | reportAgentState (terminalId : ResourceId) (state : ReportedAgentState)
  | getPerf (reset : Bool)
  | transcribe (uploadId : FileUploadId) (terminalId : ResourceId)
  | appendResourceOutput (terminalId : ResourceId) (bytes : Bytes)
  | killResourceIf (terminalId : ResourceId) (precondition : KillPrecondition)

def maxApplyInputEvents : Nat := 256

def maxApplyInputCommandBody : Nat := 64 * 1024

def maxFileUploadChunk : Nat := 8 * 1024 * 1024

def maxFileUploadSize : Nat := 64 * 1024 * 1024

def maxAppendBytes : Nat := 64 * 1024

section

variable {α : Type} {enc : α → Bytes} {dec : Decode α}

def decodeFlagged (dec : Decode α) : Decode (Option α) := do
  let present ← readFlag
  if present then do
    let a ← dec
    pure (some a)
  else pure none

theorem decodes_flagged {o : Option α} (h : ∀ a, o = some a → Decodes dec (enc a) a) :
    Decodes (decodeFlagged dec) (encodeOptional enc o) o := by
  cases o with
  | none => exact (decodes_flag (x := false)).thenPure rfl
  | some a => exact (decodes_flag (x := true)).bind ((h a rfl).map some)

def encodeList16 (count : UInt16) (enc : α → Bytes) (xs : List α) : Bytes :=
  writeU16Be count ++ xs.flatMap enc

def decodeList16 (dec : Decode α) : Decode (List α) := do
  let count ← readU16Be
  replicate count.toNat dec

theorem decodes_list16 {β : Type} {dec : Decode β} {g : α → β} {count : UInt16} {xs : List α}
    (hc : count.toNat = xs.length) (h : ∀ x ∈ xs, Decodes dec (enc x) (g x)) :
    Decodes (decodeList16 dec) (encodeList16 count enc xs) (xs.map g) := by
  have hrep : Decodes (replicate count.toNat dec) (xs.flatMap enc) (xs.map g) := by
    rw [hc]
    exact reads_replicate xs h
  exact decodes_u16.bind hrep

end

def encodeInputEvent : InputEvent → Bytes
  | .key event => writeU8 0 ++ encodeKeyEvent event
  | .mouse event => writeU8 1 ++ encodeMouseEvent event
  | .focus event => writeU8 2 ++ writeU8 (encodeFocusEvent event)
  | .paste event => writeU8 3 ++ encodePasteEvent event

def readFocusEvent : Decode FocusEvent := do
  let tag ← readU8
  StateT.lift (decodeFocusEvent tag)

theorem decodes_focusEvent {e : FocusEvent} :
    Decodes readFocusEvent (writeU8 (encodeFocusEvent e)) e :=
  decodes_u8.thenPure (by rw [decodeFocusEvent_encode]; rfl)

def decodeInputEvent : Decode InputEvent := do
  match ← readU8 with
  | 0 =>
    let event ← decodeKeyEvent
    pure (.key event)
  | 1 =>
    let event ← decodeMouseEvent
    pure (.mouse event)
  | 2 =>
    let event ← readFocusEvent
    pure (.focus event)
  | 3 =>
    let event ← decodePasteEvent
    pure (.paste event)
  | other => unknownTag "InputEvent" other

theorem decodes_inputEvent {e : InputEvent} : Decodes decodeInputEvent (encodeInputEvent e) e := by
  cases e with
  | key event => exact decodes_u8.bind (decodes_keyEvent.map _)
  | mouse event => exact decodes_u8.bind (decodes_mouseEvent.map _)
  | focus event => exact decodes_u8.bind (decodes_focusEvent.map _)
  | paste event => exact decodes_u8.bind (decodes_pasteEvent.map _)

def encodeKillPrecondition (precondition : KillPrecondition) : Bytes :=
  encodeOptional encodeServerInstance precondition.serverInstance ++
    writeU8 precondition.conditions.bits

def decodeKillPrecondition : Decode KillPrecondition := do
  let serverInstance ← decodeOptional "Option<ServerInstance> tag" decodeServerInstance
  let bits ← readU8
  pure { serverInstance, conditions := ⟨bits⟩ }

theorem decodes_killPrecondition {p : KillPrecondition} :
    Decodes decodeKillPrecondition (encodeKillPrecondition p) p :=
  (decodes_optional fun _ _ => decodes_serverInstance).bind (decodes_u8.map _)

def encodeStateScope : StateScope → Bytes
  | .server => writeU8 0

def decodeStateScope : Decode StateScope := do
  match ← readU8 with
  | 0 => pure .server
  | other => unknownTag "StateScope" other

theorem decodes_stateScope {s : StateScope} : Decodes decodeStateScope (encodeStateScope s) s := by
  cases s
  exact decodes_u8.thenPure rfl

def decodeFileUploadId : Decode FileUploadId := do
  let bytes ← readByteArray 16
  okOr (FileUploadId.new bytes) invalidFileUploadId

theorem decodes_fileUploadId {id : FileUploadId} :
    Decodes decodeFileUploadId (id.bytes.toList.flatMap writeU8) id :=
  (decodes_byteArray id.bytes).translate id.new_bytes

structure AskedFields where
  id : String := ""
  question : String := ""
  suggestions : List String := []
  elapsedSeconds : Option UInt64 := none
deriving DecidableEq

def encodeAskedFields (asked : AskedFields) : Bytes :=
  field 1 (strBytes asked.id) ++ (field 2 (strBytes asked.question) ++
    (asked.suggestions.flatMap (fun s => field 3 (strBytes s)) ++
      optField 4 writeU64Be asked.elapsedSeconds))

def askedStep (acc : AskedFields) (id : UInt32) (value : Bytes) : Except DecodeError AskedFields :=
  match id with
  | 1 => do
    let s ← utf8Field value
    pure { acc with id := s }
  | 2 => do
    let s ← utf8Field value
    pure { acc with question := s }
  | 3 => do
    let s ← utf8Field value
    pure { acc with suggestions := acc.suggestions ++ [s] }
  | 4 => do
    let n ← sub readU64Be value
    pure { acc with elapsedSeconds := some n }
  | _ => pure acc

def decodeAskedEvent : Decode AskedFields := readFields askedStep {}

theorem fieldsTo_suggestions (acc : AskedFields) {suggestions : List String} :
    FieldsTo askedStep acc (suggestions.flatMap fun s => field 3 (strBytes s))
      { acc with suggestions := acc.suggestions ++ suggestions } := by
  induction suggestions generalizing acc with
  | nil =>
    rw [List.append_nil]
    exact .nil
  | cons s suggestions ih =>
    have hs : FieldsTo askedStep acc (field 3 (strBytes s))
        { acc with suggestions := acc.suggestions ++ [s] } :=
      fieldsTo_field fun _ => then_ok utf8Field_strBytes rfl
    have htail := ih { acc with suggestions := acc.suggestions ++ [s] }
    simp only [List.append_assoc, List.singleton_append] at htail
    exact hs.append htail

theorem decodesToEnd_asked (asked : AskedFields) :
    DecodesToEnd decodeAskedEvent (encodeAskedFields asked) asked := by
  apply decodesToEnd_fields
  refine .append (fieldsTo_field fun _ => then_ok utf8Field_strBytes rfl) ?_
  refine .append (fieldsTo_field fun _ => then_ok utf8Field_strBytes rfl) ?_
  refine .append (fieldsTo_suggestions _) ?_
  refine fieldsTo_optField (fun (acc : AskedFields) o => { acc with elapsedSeconds := o }) _ rfl ?_
  exact fun n _ hb => then_ok (decodes_u64.sub hb) rfl

def encodeCommand : Command → Bytes
  | .attachResource terminalId => writeU8 0x01 ++ encodeTerminalId terminalId
  | .detachResource terminalId => writeU8 0x02 ++ encodeTerminalId terminalId
  | .killResource terminalId => writeU8 0x03 ++ encodeTerminalId terminalId
  | .killResourceIf terminalId precondition =>
    writeU8 0x1b ++ (encodeTerminalId terminalId ++ encodeKillPrecondition precondition)
  | .getState scope => writeU8 0x05 ++ encodeStateScope scope
  | .getScreen terminalId requestScrollback cells =>
    writeU8 0x07 ++ (encodeTerminalId terminalId ++ (encodeOptionalU32 requestScrollback ++
      writeBool cells))
  | .routeInput terminalId event =>
    writeU8 0x08 ++ (encodeTerminalId terminalId ++ encodeInputEvent event)
  | .applyInput operationId terminalId events =>
    writeU8 0x14 ++ (operationId.bytes.toList.flatMap writeU8 ++ (encodeTerminalId terminalId ++
      encodeList16 (saturateU16 events.length) encodeInputEvent events))
  | .killResources ids => writeU8 0x09 ++ encodeList16 (saturateU16 ids.length) encodeTerminalId ids
  | .detachClients session => writeU8 0x13 ++ encodeOptional writeStr session
  | .getTerminalState terminalId includeScrollback maxScrollbackLines =>
    writeU8 0x0c ++ (encodeTerminalId terminalId ++ (writeBool includeScrollback ++
      writeU16Be maxScrollbackLines))
  | .subscribeResourceEvents terminalId eventTypes =>
    -- A count that does not fit is written as zero here, not saturated.
    writeU8 0x0d ++ (encodeTerminalId terminalId ++
      encodeList16 (if eventTypes.length < 2 ^ 16 then UInt16.ofNat eventTypes.length else 0)
        (fun et => writeU8 et.toU8) eventTypes)
  | .upgrade => writeU8 0x0e
  | .shutdown => writeU8 0x16
  | .getPerf reset => writeU8 0x18 ++ writeBool reset
  | .transcribe uploadId terminalId =>
    writeU8 0x19 ++ (uploadId.bytes.toList.flatMap writeU8 ++ encodeTerminalId terminalId)
  | .acquireInput terminalId mode ttlMs =>
    writeU8 0x0f ++ (encodeTerminalId terminalId ++ (writeU8 mode.toU8 ++ writeU32Be ttlMs))
  | .releaseInput terminalId => writeU8 0x10 ++ encodeTerminalId terminalId
  | .signalTerminal terminalId signal =>
    writeU8 0x11 ++ (encodeTerminalId terminalId ++ writeU8 signal.toU8)
  | .putFile uploadId terminalId extension offset data finalChunk sha256 =>
    writeU8 0x15 ++ (uploadId.bytes.toList.flatMap writeU8 ++ (encodeTerminalId terminalId ++
      (writeStr extension ++ (writeU64Be offset ++ (writeBytes data ++ (writeBool finalChunk ++
        encodeOptional (fun digest : Vector UInt8 32 => digest.toList.flatMap writeU8) sha256))))))
  | .reportAsked terminalId id question suggestions elapsedSeconds =>
    writeU8 0x12 ++ (encodeTerminalId terminalId ++
      encodeAskedFields { id, question, suggestions, elapsedSeconds })
  | .reportAgentState terminalId state =>
    writeU8 0x17 ++ (encodeTerminalId terminalId ++ writeU8 state.toU8)
  | .appendResourceOutput terminalId bytes =>
    writeU8 0x1a ++ (encodeTerminalId terminalId ++ writeBytes bytes)

def decodeTerminalSubscriptionCommand (tag : UInt8) : Decode (Option Command) :=
  match tag with
  | 0x01 => do
    let terminalId ← decodeTerminalId
    pure (some (.attachResource terminalId))
  | 0x02 => do
    let terminalId ← decodeTerminalId
    pure (some (.detachResource terminalId))
  | 0x03 => do
    let terminalId ← decodeTerminalId
    pure (some (.killResource terminalId))
  | 0x1b => do
    let terminalId ← decodeTerminalId
    let precondition ← decodeKillPrecondition
    pure (some (.killResourceIf terminalId precondition))
  | _ => pure none

def decodeGetScreenCommand : Decode (Option Command) := do
  let terminalId ← decodeTerminalId
  let requestScrollback ← decodeOptionalU32
  let cells ← trailing false readFlag
  pure (some (.getScreen terminalId requestScrollback cells))

def decodeApplyInputCommand (commandBodyLen : Nat) : Decode (Option Command) := do
  failIf (maxApplyInputCommandBody < commandBodyLen) applyInputLimitExceeded
  let bytes ← readByteArray 16
  let operationId ← okOr (InputOperationId.new bytes) invalidInputOperationId
  let terminalId ← decodeTerminalId
  let count ← readU16Be
  failIf (maxApplyInputEvents < count.toNat) applyInputLimitExceeded
  let events ← replicate count.toNat decodeInputEvent
  pure (some (.applyInput operationId terminalId events))

def decodeGetTerminalStateCommand : Decode (Option Command) := do
  let terminalId ← decodeTerminalId
  let includeScrollback ← readFlag
  let maxScrollbackLines ← readU16Be
  pure (some (.getTerminalState terminalId includeScrollback maxScrollbackLines))

def decodeSubscribeTerminalEventsCommand : Decode (Option Command) := do
  let terminalId ← decodeTerminalId
  let eventTypes ← decodeList16 do
    let b ← readU8
    pure (ResourceEventType.fromU8 b)
  pure (some (.subscribeResourceEvents terminalId (eventTypes.filterMap fun et => et)))

def decodePutFileExtension : Decode String := do
  let extension ← readStr
  failIf (16 < (strBytes extension).length) fileUploadLimitExceeded
  pure extension

def decodePutFileChunk (offset : UInt64) : Decode Bytes := do
  let data ← readBytes
  failIf (maxFileUploadChunk < data.length ∨ maxFileUploadSize < offset.toNat + data.length)
    fileUploadLimitExceeded
  pure data

def decodePutFileCommand : Decode (Option Command) := do
  let uploadId ← decodeFileUploadId
  let terminalId ← decodeTerminalId
  let extension ← decodePutFileExtension
  let offset ← readU64Be
  let data ← decodePutFileChunk offset
  let finalChunk ← readFlag
  let sha256 ← decodeFlagged (readByteArray 32)
  pure (some (.putFile uploadId terminalId extension offset data finalChunk sha256))

def decodeLiveAffordanceCommand (commandBodyLen : Nat) (tag : UInt8) : Decode (Option Command) :=
  match tag with
  | 0x07 => decodeGetScreenCommand
  | 0x08 => do
    let terminalId ← decodeTerminalId
    let event ← decodeInputEvent
    pure (some (.routeInput terminalId event))
  | 0x14 => decodeApplyInputCommand commandBodyLen
  | 0x0c => decodeGetTerminalStateCommand
  | 0x0d => decodeSubscribeTerminalEventsCommand
  | 0x15 => decodePutFileCommand
  | 0x19 => do
    let uploadId ← decodeFileUploadId
    let terminalId ← decodeTerminalId
    pure (some (.transcribe uploadId terminalId))
  | _ => pure none

def decodeSupervisoryCommand (tag : UInt8) : Decode (Option Command) :=
  match tag with
  | 0x0f => do
    let terminalId ← decodeTerminalId
    let mode ← decodeEnum8 InputMode.fromU8 fun _ => .unknownEnumValue "InputMode" 0
    let ttlMs ← readU32Be
    pure (some (.acquireInput terminalId mode ttlMs))
  | 0x10 => do
    let terminalId ← decodeTerminalId
    pure (some (.releaseInput terminalId))
  | 0x11 => do
    let terminalId ← decodeTerminalId
    let signal ← decodeEnum8 TerminalSignal.fromU8 fun _ => .unknownEnumValue "TerminalSignal" 0
    pure (some (.signalTerminal terminalId signal))
  | _ => pure none

def decodeAgentReportCommand (tag : UInt8) : Decode (Option Command) :=
  match tag with
  | 0x12 => do
    let terminalId ← decodeTerminalId
    let asked ← decodeAskedEvent
    pure (some (.reportAsked terminalId asked.id asked.question asked.suggestions
      asked.elapsedSeconds))
  | 0x17 => do
    let terminalId ← decodeTerminalId
    let state ← decodeEnum8 ReportedAgentState.fromU8 fun value =>
      .unknownEnumValue "ReportedAgentState" value.toUInt32
    pure (some (.reportAgentState terminalId state))
  | _ => pure none

def decodeSessionCommand (tag : UInt8) : Decode (Option Command) :=
  match tag with
  | 0x05 => do
    let scope ← decodeStateScope
    pure (some (.getState scope))
  | 0x09 => do
    let ids ← decodeList16 decodeTerminalId
    pure (some (.killResources ids))
  | 0x13 => do
    let session ← decodeFlagged readStr
    pure (some (.detachClients session))
  | 0x0e => pure (some .upgrade)
  | 0x16 => pure (some .shutdown)
  | 0x18 => do
    let reset ← readFlag
    pure (some (.getPerf reset))
  | _ => pure none

def decodeResourceCommand (tag : UInt8) : Decode (Option Command) :=
  match tag with
  | 0x1a => do
    let terminalId ← decodeTerminalId
    let bytes ← readBytes
    failIf (bytes = [] ∨ maxAppendBytes < bytes.length)
      appendResourceOutputLimitExceeded
    pure (some (.appendResourceOutput terminalId bytes))
  | _ => pure none

def decodeCommand : Decode Command := do
  let commandBodyLen ← remaining
  let tag ← readU8
  firstSome (unknownTag "Command" tag)
    [decodeTerminalSubscriptionCommand tag, decodeLiveAffordanceCommand commandBodyLen tag,
      decodeSupervisoryCommand tag, decodeAgentReportCommand tag, decodeSessionCommand tag,
      decodeResourceCommand tag]

def Command.Bounded (command : Command) : Prop :=
  match command with
  | .applyInput _ _ events =>
    (encodeCommand command).length ≤ maxApplyInputCommandBody ∧ events.length ≤ maxApplyInputEvents
  | .killResources ids => ids.length < 2 ^ 16
  | .subscribeResourceEvents _ eventTypes => eventTypes.length < 2 ^ 16
  | .putFile _ _ extension offset data _ _ =>
    (strBytes extension).length ≤ 16 ∧ data.length ≤ maxFileUploadChunk ∧
      offset.toNat + data.length ≤ maxFileUploadSize
  | .appendResourceOutput _ bytes => bytes ≠ [] ∧ bytes.length ≤ maxAppendBytes
  | _ => True

section

variable {tag : UInt8} {bs : Bytes} {command : Command}

theorem decodesToEnd_tag {p : Nat → UInt8 → Decode Command}
    (h : DecodesToEnd (p (writeU8 tag ++ bs).length tag) bs command) :
    DecodesToEnd (do let len ← remaining; let tag ← readU8; p len tag) (writeU8 tag ++ bs) command :=
  ReadsToEnd.remaining (decodes_u8.bindToEnd h)

theorem dispatch_subscription
    (h : DecodesToEnd (decodeTerminalSubscriptionCommand tag) bs (some command)) :
    DecodesToEnd decodeCommand (writeU8 tag ++ bs) command := decodesToEnd_tag (.firstSome h)

variable (h₁ : decodeTerminalSubscriptionCommand tag = pure none)
  (h₂ : ∀ len, decodeLiveAffordanceCommand len tag = pure none)
  (h₃ : decodeSupervisoryCommand tag = pure none) (h₄ : decodeAgentReportCommand tag = pure none)

include h₁

theorem dispatch_liveAffordance
    (h : DecodesToEnd (decodeLiveAffordanceCommand (writeU8 tag ++ bs).length tag) bs
      (some command)) : DecodesToEnd decodeCommand (writeU8 tag ++ bs) command :=
  decodesToEnd_tag (.skip h₁ (.firstSome h))

include h₂

theorem dispatch_supervisory (h : DecodesToEnd (decodeSupervisoryCommand tag) bs (some command)) :
    DecodesToEnd decodeCommand (writeU8 tag ++ bs) command :=
  decodesToEnd_tag (.skip h₁ (.skip (h₂ _) (.firstSome h)))

include h₃

theorem dispatch_agentReport (h : DecodesToEnd (decodeAgentReportCommand tag) bs (some command)) :
    DecodesToEnd decodeCommand (writeU8 tag ++ bs) command :=
  decodesToEnd_tag (.skip h₁ (.skip (h₂ _) (.skip h₃ (.firstSome h))))

include h₄

theorem dispatch_session (h : DecodesToEnd (decodeSessionCommand tag) bs (some command)) :
    DecodesToEnd decodeCommand (writeU8 tag ++ bs) command :=
  decodesToEnd_tag (.skip h₁ (.skip (h₂ _) (.skip h₃ (.skip h₄ (.firstSome h)))))

end

theorem writeBool_ne_nil (x : Bool) : writeBool x ≠ [] := by simp [writeBool, writeU8]

theorem decodesToEnd_getScreen {id : ResourceId} {scrollback : Option UInt32} {cells : Bool} :
    DecodesToEnd decodeGetScreenCommand
      (encodeTerminalId id ++ (encodeOptionalU32 scrollback ++ writeBool cells))
      (some (.getScreen id scrollback cells)) := by
  rw [← List.append_nil (writeBool cells)]
  exact decodes_terminalId.bindToEnd <| decodes_optionalU32.bindToEnd <|
    ReadsToEnd.trailing_present (writeBool_ne_nil cells) decodes_flag (reads_pure _).toEnd

theorem decodes_list16_self {α : Type} {enc : α → Bytes} {dec : Decode α} {xs : List α}
    (hc : xs.length < 2 ^ 16) (h : ∀ x, Decodes dec (enc x) x) :
    Decodes (decodeList16 dec) (encodeList16 (saturateU16 xs.length) enc xs) xs := by
  simpa using decodes_list16 (g := fun x => x) (saturateU16_toNat hc) fun x _ => h x

theorem decodesToEnd_command {command : Command} (h : command.Bounded) :
    DecodesToEnd decodeCommand (encodeCommand command) command := by
  cases command with
  | attachResource id | detachResource id | killResource id =>
    exact dispatch_subscription (decodes_terminalId.map _).toEnd
  | killResourceIf id precondition =>
    exact dispatch_subscription (decodes_terminalId.bind (decodes_killPrecondition.map _)).toEnd
  | getState scope =>
    exact dispatch_session rfl (fun _ => rfl) rfl rfl (decodes_stateScope.map _).toEnd
  | getScreen id scrollback cells => exact dispatch_liveAffordance rfl decodesToEnd_getScreen
  | routeInput id event =>
    exact dispatch_liveAffordance rfl (decodes_terminalId.bind (decodes_inputEvent.map _)).toEnd
  | applyInput operationId id events =>
    obtain ⟨hlen, hcount⟩ := h
    have hsat : (saturateU16 events.length).toNat = events.length :=
      saturateU16_toNat (by rw [maxApplyInputEvents] at hcount; omega)
    have hevents : Decodes (replicate (saturateU16 events.length).toNat decodeInputEvent)
        (events.flatMap encodeInputEvent) events := by
      have hrep : Decodes _ _ (events.map fun e => e) :=
        reads_replicate events fun _ _ => decodes_inputEvent
      rw [hsat]
      simpa using hrep
    exact dispatch_liveAffordance rfl (Reads.failIf (Nat.not_lt.mpr hlen) <|
      (decodes_byteArray operationId.bytes).bind <| .okOr operationId.new_bytes <|
      decodes_terminalId.bind <| decodes_u16.bind <| .failIf (by omega) <| hevents.map _).toEnd
  | killResources ids =>
    exact dispatch_session rfl (fun _ => rfl) rfl rfl
      ((decodes_list16_self h fun _ => decodes_terminalId).map _).toEnd
  | detachClients session =>
    exact dispatch_session rfl (fun _ => rfl) rfl rfl
      ((decodes_flagged fun _ _ => decodes_str).map _).toEnd
  | getTerminalState id includeScrollback lines =>
    exact dispatch_liveAffordance rfl
      (decodes_terminalId.bind <| decodes_flag.bind <| decodes_u16.map _).toEnd
  | subscribeResourceEvents id eventTypes =>
    have hc : (if eventTypes.length < 2 ^ 16 then UInt16.ofNat eventTypes.length else 0).toNat =
        eventTypes.length := by
      change eventTypes.length < 2 ^ 16 at h
      rw [if_pos h, UInt16.toNat_ofNat', Nat.mod_eq_of_lt h]
    have htypes : Decodes (decodeList16 do let b ← readU8; pure (ResourceEventType.fromU8 b)) _
        (eventTypes.map some) :=
      decodes_list16 hc fun et _ => (decodes_u8 (x := et.toU8)).thenPure (by rw [et.fromU8_toU8])
    have hred : ((eventTypes.map some).filterMap fun et => et) = eventTypes := by simp
    exact dispatch_liveAffordance rfl
      (decodes_terminalId.bind (htypes.thenPure (by rw [hred]))).toEnd
  | upgrade | shutdown => exact dispatch_session rfl (fun _ => rfl) rfl rfl (reads_pure _).toEnd
  | acquireInput id mode ttlMs =>
    exact dispatch_supervisory rfl (fun _ => rfl)
      (decodes_terminalId.bind <| (decodes_enum8 mode.fromU8_toU8).bind <| decodes_u32.map _).toEnd
  | releaseInput id =>
    exact dispatch_supervisory rfl (fun _ => rfl) (decodes_terminalId.map _).toEnd
  | signalTerminal id signal =>
    exact dispatch_supervisory rfl (fun _ => rfl)
      (decodes_terminalId.bind ((decodes_enum8 signal.fromU8_toU8).map _)).toEnd
  | putFile uploadId id extension offset data finalChunk sha256 =>
    obtain ⟨hext, hdata, hend⟩ := h
    have hextension : Decodes decodePutFileExtension (writeStr extension) extension :=
      decodes_str.thenPure (by rw [failIf_of_not (by omega)]; rfl)
    have hchunk : Decodes (decodePutFileChunk offset) (writeBytes data) data :=
      decodes_bytes.thenPure (by rw [failIf_of_not (by omega)]; rfl)
    exact dispatch_liveAffordance rfl (decodes_fileUploadId.bind <|
      decodes_terminalId.bind <| hextension.bind <| decodes_u64.bind <|
      hchunk.bind <| decodes_flag.bind <|
      (decodes_flagged fun digest _ => decodes_byteArray digest).map _).toEnd
  | reportAsked id askId question suggestions elapsed =>
    exact dispatch_agentReport rfl (fun _ => rfl) rfl
      (decodes_terminalId.bindToEnd ((decodesToEnd_asked _).bind fun _ => rfl))
  | reportAgentState id state =>
    exact dispatch_agentReport rfl (fun _ => rfl) rfl
      (decodes_terminalId.bind ((decodes_enum8 state.fromU8_toU8).map _)).toEnd
  | getPerf reset => exact dispatch_session rfl (fun _ => rfl) rfl rfl (decodes_flag.map _).toEnd
  | transcribe uploadId id =>
    exact dispatch_liveAffordance rfl (decodes_fileUploadId.bind (decodes_terminalId.map _)).toEnd
  | appendResourceOutput id bytes =>
    have hok : ¬ (bytes = [] ∨ maxAppendBytes < bytes.length) := by
      rintro (hnil | hlong)
      · exact h.1 hnil
      · exact Nat.not_lt.mpr h.2 hlong
    exact decodesToEnd_tag (.skip rfl (.skip rfl (.skip rfl (.skip rfl (.skip rfl (.firstSome
      (decodes_terminalId.bind <| decodes_bytes.thenPure
        (by rw [failIf_of_not hok]; rfl)).toEnd))))))

structure FileUploadAck where
  nextOffset : UInt64
  path : Option String
deriving DecidableEq

inductive CommandValue where
  | resourceId (id : ResourceId)
  | groupId (id : GroupId)
  | state (snapshot : SessionSnapshot)
  | json (text : String)
  | bytes (data : Bytes)
  | fileUpload (ack : FileUploadAck)

inductive CommandResult where
  | ok
  | okWith (value : CommandValue)
  | error (code : ErrorCode) (message : String)

section

variable (ext : External)

def encodeCommandValue : CommandValue → Bytes
  | .resourceId id => writeU8 0 ++ encodeTerminalId id
  | .groupId id => writeU8 1 ++ writeU32Be id.raw
  | .state snapshot => writeU8 2 ++ encodeSessionSnapshot ext snapshot
  | .json text => writeU8 3 ++ writeStr text
  | .bytes data => writeU8 4 ++ writeBytes data
  | .fileUpload ack => writeU8 5 ++ (writeU64Be ack.nextOffset ++ encodeOptional writeStr ack.path)

def decodeCommandValue : Decode CommandValue := do
  match ← readU8 with
  | 0 =>
    let id ← decodeTerminalId
    pure (.resourceId id)
  | 1 =>
    let id ← readU32Be
    pure (.groupId ⟨id⟩)
  | 2 =>
    let snapshot ← decodeSessionSnapshot ext
    pure (.state snapshot)
  | 3 =>
    let text ← readStr
    pure (.json text)
  | 4 =>
    let data ← readBytes
    pure (.bytes data)
  | 5 =>
    let nextOffset ← readU64Be
    let path ← decodeFlagged readStr
    pure (.fileUpload { nextOffset, path })
  | other => unknownTag "CommandValue" other

def encodeCommandResult : CommandResult → Bytes
  | .ok => writeU8 0
  | .okWith value => writeU8 1 ++ encodeCommandValue ext value
  | .error code message => writeU8 2 ++ (writeU16Be code.asWire ++ writeStr message)

def decodeCommandResult : Decode CommandResult := do
  match ← readU8 with
  | 0 => pure .ok
  | 1 =>
    let value ← decodeCommandValue ext
    pure (.okWith value)
  | 2 =>
    let code ← decodeErrorCode
    let message ← readStr
    pure (.error code message)
  | other => unknownTag "CommandResult" other

end

def CommandResult.Bounded : CommandResult → Prop
  | okWith (.state snapshot) => snapshot.Bounded
  | _ => True

def CommandResult.Legible : CommandResult → Prop
  | okWith (.state snapshot) => snapshot.Legible
  | _ => True

variable {result : CommandResult}

theorem CommandResult.Bounded.legible (h : result.Bounded) : result.Legible := by
  cases result with
  | okWith value =>
    cases value with
    | state snapshot => exact SessionSnapshot.Bounded.legible h
    | _ => trivial
  | _ => trivial

theorem decodesToEnd_commandResult {ext : External} (hjson : ext.JsonRoundTrips)
    (h : result.Legible) :
    DecodesToEnd (decodeCommandResult ext) (encodeCommandResult ext result) result := by
  cases result with
  | ok =>
    apply Reads.toEnd
    exact decodes_u8.thenPure rfl
  | error code message =>
    exact (decodes_u8.bind <| decodes_errorCode.bind <| decodes_str.map _).toEnd
  | okWith value =>
    have hvalue : DecodesToEnd (decodeCommandValue ext) (encodeCommandValue ext value) value := by
      cases value with
      | resourceId id => exact (decodes_u8.bind (decodes_terminalId.map _)).toEnd
      | groupId id => exact (decodes_u8.bind (decodes_u32.map _)).toEnd
      | state snapshot =>
        exact decodes_u8.bindToEnd ((decodesToEnd_sessionSnapshot hjson h).bind fun _ => rfl)
      | json text => exact (decodes_u8.bind (decodes_str.map _)).toEnd
      | bytes data => exact (decodes_u8.bind (decodes_bytes.map _)).toEnd
      | fileUpload ack =>
        exact (decodes_u8.bind <| decodes_u64.bind <|
          (decodes_flagged fun _ _ => decodes_str).map _).toEnd
    exact decodes_u8.bindToEnd (hvalue.bind fun _ => rfl)

inductive AgentEvent where
  | commandStarted
  | commandFinished (exitCode : Option Int32)
  | titleChanged (title : String)
  | bell
  | resourceSpawned (kind : ResourceKind) (parent : Option ResourceId)
  | resourceClosed (exitStatus : Option Int32)
  | dirty
  | idle
  | terminalControl (lifecycle : ResourceLifecycle) (exitStatus : Option Int32)
      (inputHolder : Option ClientId) (action : ControlAction) (actor : Option ClientId)
  | asked (fields : AskedFields)
  | cwdChanged (cwd : String)
  | unknown (tag : UInt8) (body : Bytes)

def encodeOptionalI32 : Option Int32 → Bytes := encodeOptional writeI32Be

def decodeOptionalI32 : Decode (Option Int32) := decodeOptional "Option<i32> tag" readI32Be

theorem decodes_optionalI32 {o : Option Int32} :
    Decodes decodeOptionalI32 (encodeOptionalI32 o) o := decodes_optional fun _ _ => decodes_i32

def decodeClientId : Decode ClientId := do
  let raw ← readU32Be
  pure ⟨raw⟩

def encodeOptionalClientId : Option ClientId → Bytes := encodeOptional fun id => writeU32Be id.raw

def decodeOptionalClientId : Decode (Option ClientId) :=
  decodeOptional "Option<ClientId> tag" decodeClientId

theorem decodes_optionalClientId {o : Option ClientId} :
    Decodes decodeOptionalClientId (encodeOptionalClientId o) o :=
  decodes_optional fun _ _ => decodes_u32.map ClientId.mk

def spawnedKindField (kind : ResourceKind) : Option ResourceKind :=
  if kind.isTerminal then none else some kind

def agentEventTag : AgentEvent → UInt8
  | .commandStarted => 0x00
  | .commandFinished _ => 0x01
  | .titleChanged _ => 0x02
  | .bell => 0x03
  | .resourceSpawned _ _ => 0x04
  | .resourceClosed _ => 0x05
  | .dirty => 0x06
  | .idle => 0x07
  | .terminalControl _ _ _ _ _ => 0x08
  | .asked _ => 0x09
  | .cwdChanged _ => 0x0a
  | .unknown tag _ => tag

def agentEventBody : AgentEvent → Bytes
  | .commandStarted => []
  | .commandFinished exitCode => encodeOptionalI32 exitCode
  | .titleChanged title => writeStr title
  | .bell => []
  | .resourceSpawned kind parent =>
    optField 1 (fun kind : ResourceKind => [kind.asWire]) (spawnedKindField kind) ++
      optField 2 encodeTerminalId parent
  | .resourceClosed exitStatus => encodeOptionalI32 exitStatus
  | .dirty => []
  | .idle => []
  | .terminalControl lifecycle exitStatus inputHolder action actor =>
    writeU8 lifecycle.toU8 ++ (encodeOptionalI32 exitStatus ++ (encodeOptionalClientId inputHolder ++
      (writeU8 action.toU8 ++ encodeOptionalClientId actor)))
  | .asked fields => encodeAskedFields fields
  | .cwdChanged cwd => writeStr cwd
  | .unknown _ body => body

def encodeAgentEvent (event : AgentEvent) : Bytes :=
  writeU8 (agentEventTag event) ++ writeBytes (agentEventBody event)

def decodeTerminalControlEvent : Decode AgentEvent := do
  let lifecycle ← decodeEnum8 ResourceLifecycle.fromU8 fun _ =>
    .unknownEnumValue "ResourceLifecycle" 0
  let exitStatus ← decodeOptionalI32
  let inputHolder ← decodeOptionalClientId
  let action ← decodeEnum8 ControlAction.fromU8 fun _ => .unknownEnumValue "ControlAction" 0
  let actor ← decodeOptionalClientId
  pure (.terminalControl lifecycle exitStatus inputHolder action actor)

structure PaneSpawnedFields where
  kind : ResourceKind := .terminal
  parent : Option ResourceId := none

def paneSpawnedStep (acc : PaneSpawnedFields) (id : UInt32) (value : Bytes) :
    Except DecodeError PaneSpawnedFields :=
  match id with
  | 1 => do
    let kind ← sub decodeResourceKind value
    pure { acc with kind }
  | 2 => do
    let parent ← sub decodeTerminalId value
    pure { acc with parent := some parent }
  | _ => pure acc

def decodePaneSpawnedEvent : Decode AgentEvent := do
  let fields ← readFields paneSpawnedStep {}
  pure (.resourceSpawned fields.kind fields.parent)

def decodeAgentEventBody (tag : UInt8) (body : Bytes) : Except DecodeError AgentEvent :=
  match tag with
  | 0x00 => .ok .commandStarted
  | 0x01 => do
    let exitCode ← sub decodeOptionalI32 body
    pure (.commandFinished exitCode)
  | 0x02 => do
    let title ← sub readStr body
    pure (.titleChanged title)
  | 0x03 => .ok .bell
  | 0x04 => sub decodePaneSpawnedEvent body
  | 0x05 => do
    let exitStatus ← sub decodeOptionalI32 body
    pure (.resourceClosed exitStatus)
  | 0x06 => .ok .dirty
  | 0x07 => .ok .idle
  | 0x08 => sub decodeTerminalControlEvent body
  | 0x09 => do
    let fields ← sub decodeAskedEvent body
    pure (.asked fields)
  | 0x0a => do
    let cwd ← sub readStr body
    pure (.cwdChanged cwd)
  | other => .ok (.unknown other body)

def decodeAgentEvent : Decode AgentEvent := do
  let tag ← readU8
  let body ← readBytes
  StateT.lift (decodeAgentEventBody tag body)

def AgentEvent.ReallyUnknown : AgentEvent → Prop
  | resourceSpawned kind _ => kind.ReallyUnknown
  | unknown tag _ => 0x0a < tag
  | _ => True

theorem decodesToEnd_paneSpawned {kind : ResourceKind} (h : kind.ReallyUnknown)
    (parent : Option ResourceId) : DecodesToEnd decodePaneSpawnedEvent
      (agentEventBody (.resourceSpawned kind parent)) (.resourceSpawned kind parent) := by
  have hkind : FieldsTo paneSpawnedStep {}
      (optField 1 (fun kind : ResourceKind => [kind.asWire]) (spawnedKindField kind))
      { kind := kind } := by
    cases kind with
    | terminal => exact .nil
    | agentSession | unknown tag =>
      exact fieldsTo_field fun hb => then_ok ((decodes_resourceKind h).sub hb) rfl
  have hfields : DecodesToEnd (readFields paneSpawnedStep {})
      (agentEventBody (.resourceSpawned kind parent)) { kind := kind, parent := parent } := by
    apply decodesToEnd_fields
    refine hkind.append ?_
    refine fieldsTo_optField (fun (acc : PaneSpawnedFields) o => { acc with parent := o }) _ rfl ?_
    exact fun p _ hb => then_ok (decodes_terminalId.sub hb) rfl
  exact hfields.bind fun _ => rfl

variable {event : AgentEvent}

theorem decodeAgentEventBody_body (h : event.ReallyUnknown)
    (hb : (agentEventBody event).length ≤ maxFrameLen) :
    decodeAgentEventBody (agentEventTag event) (agentEventBody event) = .ok event := by
  cases event with
  | commandStarted => rfl
  | commandFinished exitCode | resourceClosed exitStatus =>
    exact then_ok (decodes_optionalI32.sub hb) rfl
  | titleChanged title | cwdChanged cwd => exact then_ok (decodes_str.sub hb) rfl
  | bell => rfl
  | resourceSpawned kind parent => exact (decodesToEnd_paneSpawned h parent).sub hb
  | dirty => rfl
  | idle => rfl
  | terminalControl lifecycle exitStatus inputHolder action actor =>
    have hd : Decodes decodeTerminalControlEvent
        (agentEventBody (.terminalControl lifecycle exitStatus inputHolder action actor))
        (.terminalControl lifecycle exitStatus inputHolder action actor) :=
      (decodes_enum8 lifecycle.fromU8_toU8).bind <| decodes_optionalI32.bind <|
        decodes_optionalClientId.bind <| (decodes_enum8 action.fromU8_toU8).bind <|
        decodes_optionalClientId.map _
    exact hd.sub hb
  | asked fields => exact then_ok ((decodesToEnd_asked fields).sub hb) rfl
  | unknown tag body =>
    change 0x0a < tag at h
    change decodeAgentEventBody tag body = _
    unfold decodeAgentEventBody
    split <;> first | rfl | exact absurd h (by decide)

theorem decodes_agentEvent (h : event.ReallyUnknown) :
    Decodes decodeAgentEvent (encodeAgentEvent event) event := by
  intro hlen
  have hb : (agentEventBody event).length ≤ maxFrameLen := by
    rw [encodeAgentEvent, writeBytes, List.length_append, List.length_append] at hlen
    omega
  have hbody := decodeAgentEventBody_body h hb
  exact (decodes_u8.bind (decodes_bytes.thenPure (by rw [hbody]; rfl))) hlen

end Phux
