import Phux.RecordCodec

/-! Status enumerations and their wire values. Each table lists the values this
build knows; a value outside its table is rejected, or read as unknown. -/

namespace Phux

variable (value : UInt8)

inductive ErrorCode where
  | versionIncompatible | unknownMessageType | malformedMessage | frameTooLarge | codecUnavailable
  | notAttached | alreadyAttached | sessionNotFound | windowNotFound | terminalNotFound
  | clientNotFound | unsupportedSatelliteRoute | satelliteUnreachable | invalidCommand
  | permissionDenied | resourceExhausted | unsafePaste | inputLeaseHeld | inputDeliveryUnknown
  | canonicalLimitExceeded | inputNotWritten | wrongResourceKind | notProducer | recordInvalid
  | overflow | preconditionFailed | internalError
deriving DecidableEq

namespace ErrorCode

def asWire : ErrorCode → UInt16
  | versionIncompatible => 1
  | unknownMessageType => 2
  | malformedMessage => 3
  | frameTooLarge => 4
  | codecUnavailable => 6
  | notAttached => 100
  | alreadyAttached => 101
  | sessionNotFound => 102
  | windowNotFound => 103
  | terminalNotFound => 104
  | clientNotFound => 105
  | unsupportedSatelliteRoute => 106
  | satelliteUnreachable => 107
  | invalidCommand => 200
  | permissionDenied => 201
  | resourceExhausted => 202
  | unsafePaste => 203
  | inputLeaseHeld => 204
  | inputDeliveryUnknown => 205
  | canonicalLimitExceeded => 206
  | inputNotWritten => 207
  | wrongResourceKind => 208
  | notProducer => 209
  | recordInvalid => 210
  | overflow => 211
  | preconditionFailed => 212
  | internalError => 65535

def fromWire (value : UInt16) : Option ErrorCode :=
  match value with
  | 1 => some versionIncompatible
  | 2 => some unknownMessageType
  | 3 => some malformedMessage
  | 4 => some frameTooLarge
  | 6 => some codecUnavailable
  | 100 => some notAttached
  | 101 => some alreadyAttached
  | 102 => some sessionNotFound
  | 103 => some windowNotFound
  | 104 => some terminalNotFound
  | 105 => some clientNotFound
  | 106 => some unsupportedSatelliteRoute
  | 107 => some satelliteUnreachable
  | 200 => some invalidCommand
  | 201 => some permissionDenied
  | 202 => some resourceExhausted
  | 203 => some unsafePaste
  | 204 => some inputLeaseHeld
  | 205 => some inputDeliveryUnknown
  | 206 => some canonicalLimitExceeded
  | 207 => some inputNotWritten
  | 208 => some wrongResourceKind
  | 209 => some notProducer
  | 210 => some recordInvalid
  | 211 => some overflow
  | 212 => some preconditionFailed
  | 65535 => some internalError
  | _ => none

@[simp] theorem fromWire_asWire (x : ErrorCode) : fromWire x.asWire = some x := by cases x <;> rfl

end ErrorCode

inductive TombstoneReason where
  | rawReplayOverflow | outboundGap | resize | relayReconnect | explicitReattach | codecFailure
  | other
deriving DecidableEq

namespace TombstoneReason

def asWire : TombstoneReason → UInt8
  | rawReplayOverflow => 0
  | outboundGap => 1
  | resize => 2
  | relayReconnect => 3
  | explicitReattach => 4
  | codecFailure => 5
  | other => 6

def fromWire : Option TombstoneReason :=
  match value with
  | 0 => some rawReplayOverflow
  | 1 => some outboundGap
  | 2 => some resize
  | 3 => some relayReconnect
  | 4 => some explicitReattach
  | 5 => some codecFailure
  | 6 => some other
  | _ => none

@[simp] theorem fromWire_asWire (x : TombstoneReason) : fromWire x.asWire = some x := by
  cases x <;> rfl

end TombstoneReason

inductive DetachReason where
  | requested | serverShutdown | sessionKilled | replaced | protocolError | internalError
deriving DecidableEq

namespace DetachReason

def asWire : DetachReason → UInt8
  | requested => 0
  | serverShutdown => 1
  | sessionKilled => 2
  | replaced => 3
  | protocolError => 4
  | internalError => 255

def fromWire : Option DetachReason :=
  match value with
  | 0 => some requested
  | 1 => some serverShutdown
  | 2 => some sessionKilled
  | 3 => some replaced
  | 4 => some protocolError
  | 255 => some internalError
  | _ => none

@[simp] theorem fromWire_asWire (x : DetachReason) : fromWire x.asWire = some x := by
  cases x <;> rfl

end DetachReason

/-- Why a resource closed; a value this build does not know reads as unknown. -/
inductive CloseReason where
  | exited | killed | parentClosed | serverShutdown | unknown
deriving DecidableEq

namespace CloseReason

def asWire : CloseReason → UInt8
  | exited => 0
  | killed => 1
  | parentClosed => 2
  | serverShutdown => 3
  | unknown => 255

def fromWire : CloseReason :=
  match value with
  | 0 => exited
  | 1 => killed
  | 2 => parentClosed
  | 3 => serverShutdown
  | _ => unknown

@[simp] theorem fromWire_asWire (x : CloseReason) : fromWire x.asWire = x := by cases x <;> rfl

end CloseReason

inductive HistoryTombstoneReason where
  | stale | pruned | reset | resize | expired | released | limit | codecFailure
deriving DecidableEq

namespace HistoryTombstoneReason

def asWire : HistoryTombstoneReason → UInt8
  | stale => 0
  | pruned => 1
  | reset => 2
  | resize => 3
  | expired => 4
  | released => 5
  | limit => 6
  | codecFailure => 7

def fromWire : Option HistoryTombstoneReason :=
  match value with
  | 0 => some stale
  | 1 => some pruned
  | 2 => some reset
  | 3 => some resize
  | 4 => some expired
  | 5 => some released
  | 6 => some limit
  | 7 => some codecFailure
  | _ => none

@[simp] theorem fromWire_asWire (x : HistoryTombstoneReason) : fromWire x.asWire = some x := by
  cases x <;> rfl

end HistoryTombstoneReason

inductive HistoryRejectionReason where
  | zeroLimit | tooSmall | busy
deriving DecidableEq

namespace HistoryRejectionReason

def asWire : HistoryRejectionReason → UInt8
  | zeroLimit => 0
  | tooSmall => 1
  | busy => 2

def fromWire : Option HistoryRejectionReason :=
  match value with
  | 0 => some zeroLimit
  | 1 => some tooSmall
  | 2 => some busy
  | _ => none

@[simp] theorem fromWire_asWire (x : HistoryRejectionReason) : fromWire x.asWire = some x := by
  cases x <;> rfl

end HistoryRejectionReason

inductive ResourceEventType where
  | shellStateChanged | commandStarted | commandEnded | outputReceived | promptReady | gridChanged
  | cwdChanged
deriving DecidableEq

namespace ResourceEventType

def toU8 : ResourceEventType → UInt8
  | shellStateChanged => 0
  | commandStarted => 1
  | commandEnded => 2
  | outputReceived => 3
  | promptReady => 4
  | gridChanged => 5
  | cwdChanged => 6

def fromU8 : Option ResourceEventType :=
  match value with
  | 0 => some shellStateChanged
  | 1 => some commandStarted
  | 2 => some commandEnded
  | 3 => some outputReceived
  | 4 => some promptReady
  | 5 => some gridChanged
  | 6 => some cwdChanged
  | _ => none

@[simp] theorem fromU8_toU8 (x : ResourceEventType) : fromU8 x.toU8 = some x := by cases x <;> rfl

end ResourceEventType

inductive InputMode where
  | cooperative | seize
deriving DecidableEq

namespace InputMode

def toU8 : InputMode → UInt8
  | cooperative => 0
  | seize => 1

def fromU8 : Option InputMode :=
  match value with
  | 0 => some cooperative
  | 1 => some seize
  | _ => none

@[simp] theorem fromU8_toU8 (x : InputMode) : fromU8 x.toU8 = some x := by cases x <;> rfl

end InputMode

inductive TerminalSignal where
  | interrupt | freeze | resume | terminate | kill
deriving DecidableEq

namespace TerminalSignal

def toU8 : TerminalSignal → UInt8
  | interrupt => 0
  | freeze => 1
  | resume => 2
  | terminate => 3
  | kill => 4

def fromU8 : Option TerminalSignal :=
  match value with
  | 0 => some interrupt
  | 1 => some freeze
  | 2 => some resume
  | 3 => some terminate
  | 4 => some kill
  | _ => none

@[simp] theorem fromU8_toU8 (x : TerminalSignal) : fromU8 x.toU8 = some x := by cases x <;> rfl

end TerminalSignal

inductive ReportedAgentState where
  | working | blocked | done
deriving DecidableEq

namespace ReportedAgentState

def toU8 : ReportedAgentState → UInt8
  | working => 0
  | blocked => 1
  | done => 2

def fromU8 : Option ReportedAgentState :=
  match value with
  | 0 => some working
  | 1 => some blocked
  | 2 => some done
  | _ => none

@[simp] theorem fromU8_toU8 (x : ReportedAgentState) : fromU8 x.toU8 = some x := by cases x <;> rfl

end ReportedAgentState

inductive ResourceLifecycle where
  | running | frozen | exited
deriving DecidableEq

namespace ResourceLifecycle

def toU8 : ResourceLifecycle → UInt8
  | running => 0
  | frozen => 1
  | exited => 2

def fromU8 : Option ResourceLifecycle :=
  match value with
  | 0 => some running
  | 1 => some frozen
  | 2 => some exited
  | _ => none

@[simp] theorem fromU8_toU8 (x : ResourceLifecycle) : fromU8 x.toU8 = some x := by cases x <;> rfl

end ResourceLifecycle

inductive ControlAction where
  | acquired | seized | released | interrupted | frozen | resumed | terminated | killed | exited
deriving DecidableEq

namespace ControlAction

def toU8 : ControlAction → UInt8
  | acquired => 0
  | seized => 1
  | released => 2
  | interrupted => 3
  | frozen => 4
  | resumed => 5
  | terminated => 6
  | killed => 7
  | exited => 8

def fromU8 : Option ControlAction :=
  match value with
  | 0 => some acquired
  | 1 => some seized
  | 2 => some released
  | 3 => some interrupted
  | 4 => some frozen
  | 5 => some resumed
  | 6 => some terminated
  | 7 => some killed
  | 8 => some exited
  | _ => none

@[simp] theorem fromU8_toU8 (x : ControlAction) : fromU8 x.toU8 = some x := by cases x <;> rfl

end ControlAction

def decodeEnum8 {α : Type} (fromU8 : UInt8 → Option α) (error : UInt8 → DecodeError) : Decode α := do
  let raw ← readU8
  ByteReader.okOr (fromU8 raw) (error raw)

theorem decodes_enum8 {α : Type} {fromU8 : UInt8 → Option α} {error : UInt8 → DecodeError}
    {v : UInt8} {a : α} (h : fromU8 v = some a) :
    Decodes (decodeEnum8 fromU8 error) (writeU8 v) a := decodes_u8.translate h

def decodeErrorCode : Decode ErrorCode := do
  let raw ← readU16Be
  ByteReader.okOr (ErrorCode.fromWire raw)
    (DecodeError.unknownEnumValue "ErrorCode" raw.toUInt32)

theorem decodes_errorCode {c : ErrorCode} : Decodes decodeErrorCode (writeU16Be c.asWire) c :=
  decodes_u16.translate c.fromWire_asWire

end Phux
