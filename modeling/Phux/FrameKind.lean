import Phux.Command
import Phux.SocketAddr

/-! The frame catalog: every message either side can send, with its type byte. -/

namespace Phux

open ByteReader

structure SshOrigin where
  client : SocketAddr
  server : Option SocketAddr
deriving DecidableEq

/-- An origin whose endpoints are an address and a port and nothing more. -/
def SshOrigin.Plain (origin : SshOrigin) : Prop :=
  origin.client.Plain ∧ ∀ server, origin.server = some server → server.Plain

structure ClientCapabilities where
  colorSupport : ColorSupport
  layers : LayerSet
  imageProtocols : ImageProtocolSet
  kbdProtocols : KeyboardProtocolSet
  hyperlinks : Bool
  outputMode : OutputMode
  defaultColors : Option TerminalDefaultColors
  bootstrap : BootstrapCapabilities
  compression : CompressionSet
  sshOrigin : Option SshOrigin
deriving DecidableEq

def ClientCapabilities.new : ClientCapabilities :=
  { colorSupport := .trueColor, layers := .new, imageProtocols := .all, kbdProtocols := .all,
    hyperlinks := true, outputMode := .raw, defaultColors := none, bootstrap := .new,
    compression := .new, sshOrigin := none }

structure DirectoryEntry where
  name : String
  isSymlink : Bool
deriving DecidableEq

structure DirectoryListing where
  path : String
  parent : Option String
  entries : List DirectoryEntry
  truncated : Bool
deriving DecidableEq

inductive DirectoryErrorCode where
  | notFound | permissionDenied | notADirectory | other
deriving DecidableEq

namespace DirectoryErrorCode

def asWire : DirectoryErrorCode → UInt8
  | notFound => 0
  | permissionDenied => 1
  | notADirectory => 2
  | other => 3

def fromWire (value : UInt8) : DirectoryErrorCode :=
  if value = 0 then notFound else if value = 1 then permissionDenied
  else if value = 2 then notADirectory else other

@[simp] theorem fromWire_asWire (code : DirectoryErrorCode) : fromWire code.asWire = code := by
  cases code <;> rfl

end DirectoryErrorCode

structure DirectoryListingError where
  path : String
  code : DirectoryErrorCode
  message : String
deriving DecidableEq

abbrev DirectoryListingResult := Except DirectoryListingError DirectoryListing

/-- What a spawn request says about the kind of resource it asks for. -/
structure SpawnResource where
  kind : ResourceKind := .terminal
  parent : Option ResourceId := none
  provider : Option String := none
  nativeId : Option String := none
  bindInstance : Bool := false
deriving DecidableEq

def SpawnResource.isDefault (resource : SpawnResource) : Bool := resource == {}

inductive FrameKind where
  | hello (clientName : String) (protocolMajor protocolMinor protocolPatch : UInt16)
      (clientCaps : ClientCapabilities)
  | helloOk (protocolMajor protocolMinor protocolPatch : UInt16) (serverCaps : ServerCapabilities)
      (serverId : Bytes) (selectedProfile : BootstrapProfile) (bootstrapLimits : BootstrapLimits)
  | ping (nonce : UInt64)
  | pong (nonce : UInt64)
  | resourceOutput (terminalId : ResourceId) (streamId : StreamId) (bootstrapId : BootstrapId)
      (seq : UInt64) (bytes : Bytes)
  | attach (attachId : UInt32) (target : AttachTarget) (viewport : ViewportInfo)
      (requestScrollback : Bool) (scrollbackLimitLines : UInt32)
  | detach
  | inputKey (terminalId : ResourceId) (event : KeyEvent)
  | inputMouse (terminalId : ResourceId) (event : MouseEvent)
  | inputFocus (terminalId : ResourceId) (event : FocusEvent)
  | inputPaste (terminalId : ResourceId) (event : PasteEvent)
  | inputTerminalReply (terminalId : ResourceId) (bytes : Bytes)
  | frameAck (terminalId : ResourceId) (streamId : StreamId) (bootstrapId : BootstrapId)
      (seq : UInt64)
  | viewportResize (viewport : ViewportInfo)
  | attached (attachId : UInt32) (snapshot : SessionSnapshot) (initialClientId : ClientId)
  | attachReady (attachId : UInt32)
  | detached (reason : Option DetachReason) (message : String)
  | bootstrapBegin (terminalId : ResourceId) (streamId : StreamId) (bootstrapId : BootstrapId)
      (profile : BootstrapStreamProfile) (cols rows : UInt16) (baseSeq : UInt64)
  | bootstrapChunk (terminalId : ResourceId) (streamId : StreamId) (bootstrapId : BootstrapId)
      (chunkSeq : UInt32) (payload : Bytes)
  | bootstrapReady (terminalId : ResourceId) (streamId : StreamId) (bootstrapId : BootstrapId)
      (historyCursor : Option Bytes)
  | historyRequest (terminalId : ResourceId) (streamId : StreamId) (bootstrapId : BootstrapId)
      (cursor : Bytes) (maxBytes maxRows : UInt32)
  | historyPage (terminalId : ResourceId) (streamId : StreamId) (bootstrapId : BootstrapId)
      (pageSeq : UInt64) (cursor : Bytes) (nextCursor : Option Bytes) (payload : Bytes)
      (rows : UInt32)
  | bootstrapTombstone (terminalId : ResourceId) (streamId : StreamId) (bootstrapId : BootstrapId)
      (reason : TombstoneReason) (lastValidSeq : UInt64)
  | historyTombstone (terminalId : ResourceId) (streamId : StreamId) (bootstrapId : BootstrapId)
      (cursor : Bytes) (reason : HistoryTombstoneReason)
  | historyRejected (terminalId : ResourceId) (streamId : StreamId) (bootstrapId : BootstrapId)
      (cursor : Bytes) (reason : HistoryRejectionReason) (requiredBytes requiredRows : UInt32)
  | bell (terminalId : ResourceId)
  | error (requestId : Option UInt32) (code : ErrorCode) (message : String)
  | getMetadata (requestId : UInt32) (scope : Scope) (key : String)
  | setMetadata (requestId : UInt32) (scope : Scope) (key : String) (value : Bytes)
  | deleteMetadata (requestId : UInt32) (scope : Scope) (key : String)
  | listMetadata (requestId : UInt32) (scope : Scope)
  | subscribeMetadata (scope : Scope) (key : String)
  | metadataChanged (scope : Scope) (key : String) (value : Option Bytes)
  | metadataValue (requestId : UInt32) (value : Option Bytes)
  | metadataKeys (requestId : UInt32) (keys : List String)
  | listDirectory (requestId : UInt32) (path : String) (host : Option SatelliteHost)
  | directoryListing (requestId : UInt32) (result : DirectoryListingResult)
  | spawnResource (requestId : UInt32) (group : GroupId) (command : Option (List String))
      (cwd : Option String) (env : Option (List (String × String))) (term : Option String)
      (satellite : Option SatelliteHost) (ownerTerminal : Option ResourceId)
      (agentSession : Option Bytes) (initialSize : Option (UInt16 × UInt16))
      (resource : Option SpawnResource)
  | resourceSpawned (requestId : UInt32) (result : SpawnResult)
  | moveResource (requestId : UInt32) (terminal ownerTerminal : ResourceId)
  | resourceMoved (requestId : UInt32) (result : MoveResult)
  | resourceClosed (terminalId : ResourceId) (exitStatus : Option Int32) (reason : CloseReason)
  | resizeTerminal (terminalId : ResourceId) (cols rows : UInt16)
  | command (requestId : UInt32) (command : Command)
  | commandResult (requestId : UInt32) (result : CommandResult)
  | subscribeEvents (terminal : Option ResourceId)
  | event (terminal : Option ResourceId) (event : AgentEvent)

def FrameKind.typeByte : FrameKind → UInt8
  | hello .. => 0x01
  | helloOk .. => 0x80
  | ping .. => 0x7f
  | pong .. => 0xff
  | resourceOutput .. => 0x90
  | attach .. => 0x02
  | detach => 0x03
  | inputKey .. => 0x10
  | inputMouse .. => 0x12
  | inputFocus .. => 0x14
  | inputPaste .. => 0x11
  | inputTerminalReply .. => 0x17
  | frameAck .. => 0x21
  | viewportResize .. => 0x20
  | attached .. => 0x81
  | attachReady .. => 0x83
  | detached .. => 0x82
  | historyRequest .. => 0x16
  | bootstrapBegin .. => 0x93
  | bootstrapChunk .. => 0x94
  | bootstrapReady .. => 0x95
  | historyPage .. => 0x96
  | bootstrapTombstone .. => 0x97
  | historyTombstone .. => 0x98
  | historyRejected .. => 0x99
  | bell .. => 0xb0
  | error .. => 0xc1
  | getMetadata .. => 0x50
  | setMetadata .. => 0x51
  | deleteMetadata .. => 0x52
  | listMetadata .. => 0x53
  | subscribeMetadata .. => 0x54
  | metadataChanged .. => 0xd0
  | metadataValue .. => 0xd1
  | metadataKeys .. => 0xd2
  | listDirectory .. => 0x55
  | directoryListing .. => 0xd3
  | spawnResource .. => 0x22
  | moveResource .. => 0x2a
  | resourceMoved .. => 0xa8
  | resourceSpawned .. => 0xa2
  | resourceClosed .. => 0xa1
  | resizeTerminal .. => 0x23
  | command .. => 0x31
  | commandResult .. => 0xc2
  | subscribeEvents .. => 0x41
  | event .. => 0xb3

/-- The type byte of a compressed wrapper, which is no frame of its own. -/
def typeFrameCompressed : UInt8 := 0x9a

def maxHistoryCursorBytes : Nat := 4 * 1024

def maxHistoryPageRows : UInt32 := 4 * 1024

def maxInputTerminalReplyBytes : Nat := 64 * 1024

def maxResourceProviderBytes : Nat := 120

def maxResourceNativeIdBytes : Nat := 1024

def maxDirectoryEntries : Nat := 1024

end Phux
