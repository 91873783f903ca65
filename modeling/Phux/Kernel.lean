import Mathlib.Data.Finset.Basic
import Phux.AgentStream
import Phux.Counters
import Phux.Engine
import Phux.Status
import Phux.Table

/-! The state of the client's session kernel: per resource a staged and a
published replica with the ledger of retired generations, and the attach barrier
over them. -/

namespace Phux

open ByteReader

inductive HistoryUnavailableReason where
  | stale | pruned | reset | resize | expired | released | limit | codecFailure
deriving DecidableEq

structure ReplicaKey where
  terminalId : ResourceId
  streamId : StreamId
  bootstrapId : BootstrapId
  profile : BootstrapStreamProfile
deriving DecidableEq

structure GenerationId where
  streamId : StreamId
  bootstrapId : BootstrapId
deriving DecidableEq

def GenerationId.first : GenerationId := ⟨⟨1, one_raw_ne⟩, ⟨1, one_raw_ne⟩⟩

def generationOf (key : ReplicaKey) : GenerationId := ⟨key.streamId, key.bootstrapId⟩

def GenerationId.key (generation : GenerationId) (terminalId : ResourceId)
    (profile : BootstrapStreamProfile) : ReplicaKey :=
  ⟨terminalId, generation.streamId, generation.bootstrapId, profile⟩

@[simp] theorem generationOf_key (generation : GenerationId) (terminalId : ResourceId)
    (profile : BootstrapStreamProfile) :
    generationOf (generation.key terminalId profile) = generation := rfl

structure TombstoneRecord where
  reason : TombstoneReason
  lastValidSeq : UInt64
deriving DecidableEq

structure HistoryPageInput where
  terminalId : ResourceId
  generation : GenerationId
  pageSeq : UInt64
  rows : UInt32
  payload : Bytes
  cursor : Bytes
  nextCursor : Option Bytes
deriving DecidableEq

structure AgentSessionDeclaration where
  terminalId : ResourceId
  parent : Option ResourceId
  provider : Option String
  nativeId : Option String
  state : Option String
deriving DecidableEq

inductive KernelInput where
  | attachStarted (attachId : UInt32) (terminals : List ResourceId)
  | attachReady (attachId : UInt32)
  | bootstrapBegin (terminalId : ResourceId) (generation : GenerationId)
      (profile : BootstrapStreamProfile) (geometry : CanonicalGeometry) (baseSeq : UInt64)
  | bootstrapChunk (terminalId : ResourceId) (generation : GenerationId) (chunkSeq : UInt32)
      (payload : Bytes)
  | bootstrapReady (terminalId : ResourceId) (generation : GenerationId)
      (historyCursor : Option Bytes)
  | historyPage (page : HistoryPageInput)
  | historyTombstone (terminalId : ResourceId) (generation : GenerationId) (cursor : Bytes)
      (reason : HistoryUnavailableReason)
  | historyRejected (terminalId : ResourceId) (generation : GenerationId) (cursor : Bytes)
      (reason : HistoryRejectionReason) (requiredBytes requiredRows : UInt32)
  | resourceOutput (terminalId : ResourceId) (generation : GenerationId) (seq : UInt64)
      (payload : Bytes)
  | tombstone (terminalId : ResourceId) (generation : GenerationId) (record : TombstoneRecord)
  | resourceClosed (terminalId : ResourceId)
  | agentSessionDeclared (declaration : AgentSessionDeclaration)
  | input (terminalId : ResourceId) (event : InputEvent)

inductive InputBlockReason where
  | unknownTerminal | awaitingReplica | awaitingAttachReady | frozenReplica | closed | notATerminal
deriving DecidableEq

inductive InputEligibility where
  | eligible (generation : GenerationId)
  | ineligible (reason : InputBlockReason)
deriving DecidableEq

inductive KernelSend where
  | input (terminalId : ResourceId) (event : InputEvent)
  | ptyWrite (terminalId : ResourceId) (bytes : Bytes)
  | frameAck (terminalId : ResourceId) (generation : GenerationId) (seq : UInt64)
  | historyRequest (key : ReplicaKey) (cursor : Bytes) (maxBytes maxRows : UInt32)

inductive KernelDamageKind where
  | full
  | rows (first last : UInt16)
  | removed
deriving DecidableEq

inductive KernelStatus where
  | engine (key : ReplicaKey) (status : EngineStatus)
  | resyncRequired (terminalId : ResourceId) (generation : GenerationId) (reason : TombstoneReason)
  | history (key : ReplicaKey) (status : HistoryStatus)
  | historyUnavailable (key : ReplicaKey) (reason : HistoryUnavailableReason)

inductive KernelEffect where
  | send (send : KernelSend)
  | damage (terminalId : ResourceId) (kind : KernelDamageKind)
  | status (status : KernelStatus)
  | job (key : ReplicaKey) (job : EngineJob)
  | agentRecords (terminalId : ResourceId) (records : List AgentEventRecord)

inductive KernelError (ε : Type) where
  | profileMismatch (selected : BootstrapProfile) (incoming : BootstrapStreamProfile)
  | invalidGeometry (cols rows : UInt16)
  | attachInProgress (activeAttachId : UInt32)
  | duplicateAttachResource (terminalId : ResourceId)
  | closedTerminal (terminalId : ResourceId)
  | attachIdMismatch (expected : Option UInt32) (actual : UInt32)
  | attachNotReady (remaining : Nat)
  | unknownTerminal (terminalId : ResourceId)
  | generationMismatch (terminalId : ResourceId) (generation : GenerationId)
  | retiredGeneration (terminalId : ResourceId) (generation : GenerationId)
  | historyCompletionMismatch (progress : BootstrapProgress) (hasMore : Bool)
  | historyCache (error : HistoryCacheError)
  | duplicateGeneration (terminalId : ResourceId) (generation : GenerationId)
  | missingStaging (terminalId : ResourceId)
  | duplicateChunk (expected actual : UInt32)
  | chunkGap (expected actual : UInt32)
  | chunkSequenceExhausted
  | chunkAfterEngineReady
  | duplicateProtocolReady
  | engineNotReady
  | duplicateSequence (expected actual : UInt64)
  | sequenceGap (expected actual : UInt64)
  | sequenceExhausted
  | emptyAgentBatch
  | inputIneligible (terminalId : ResourceId) (reason : InputBlockReason)
  | engine (error : ε)
  | kindMismatch (terminalId : ResourceId) (declared incoming : ResourceKind)
  | agentRecord (error : AgentRecordError)

structure Replica (R : Type) where
  key : ReplicaKey
  geometry : CanonicalGeometry
  lastSeq : UInt64
  nextSeq : Option UInt64
  engine : R
  history : HistoryCache

structure Staging (R : Type) where
  key : ReplicaKey
  geometry : CanonicalGeometry
  baseSeq : UInt64
  nextChunkSeq : Option UInt32
  engineReady : Bool
  protocolReady : Bool
  historyCursor : Option HistoryCursor
  engine : R
  pendingEffects : List EngineEffect

structure TerminalState (R : Type) where
  published : Option (Replica R)
  staging : Option (Staging R)
  retired : Table GenerationId TombstoneRecord

def TerminalState.default {R : Type} : TerminalState R := ⟨none, none, fun _ => none⟩

structure AttachParticipant where
  terminalId : ResourceId
  resolved : Bool
  pendingRemoval : Bool
deriving DecidableEq

structure AttachState where
  attachId : UInt32
  released : Bool
  terminals : List AttachParticipant
deriving DecidableEq

structure AgentGeneration where
  key : ReplicaKey
  lastSeq : UInt64
  nextSeq : Option UInt64

structure AgentStaging where
  key : ReplicaKey
  baseSeq : UInt64
  nextChunkSeq : Option UInt32
  records : List AgentEventRecord

structure AgentStream where
  parent : Option ResourceId
  declared : AgentSessionState
  state : AgentSessionState
  log : AgentLog
  published : Option AgentGeneration
  staging : Option AgentStaging
  retired : Table GenerationId TombstoneRecord

def AgentStream.fresh : AgentStream where
  parent := none
  declared := .default
  state := .default
  log := .default
  published := none
  staging := none
  retired := fun _ => none

structure SessionKernel (R : Type) where
  selectedProfile : BootstrapProfile
  terminals : Table ResourceId (TerminalState R)
  kinds : Table ResourceId ResourceKind
  agents : Table ResourceId AgentStream
  closed : Finset ResourceId
  attach : Option AttachState
  historyConfig : HistoryCacheConfig

/-- What the kernel is linked against: the engine, SHA-256 and the JSON parser. -/
structure KernelHost (R ε : Type) where
  adapter : EngineAdapter R ε
  payloadDigest : Bytes → Bytes
  json : JsonCodec

def KernelHost.recording : KernelHost Bytes Unit where
  adapter := .recording
  payloadDigest := id
  json := ⟨fun _ => .error "", fun _ => []⟩

/-- What an update leaves behind: the kernel, the effects and the result. -/
structure Outcome (R ε : Type) where
  kernel : SessionKernel R
  effects : List KernelEffect
  result : Except (KernelError ε) Unit

namespace SessionKernel

variable {R ε : Type}
variable (k : SessionKernel R) (t : ResourceId)

def withHistoryConfig (selectedProfile : BootstrapProfile) (config : HistoryCacheConfig) :
    SessionKernel R where
  selectedProfile
  terminals := fun _ => none
  kinds := fun _ => none
  agents := fun _ => none
  closed := ∅
  attach := none
  historyConfig := config.normalized

def new (selectedProfile : BootstrapProfile) : SessionKernel R :=
  withHistoryConfig selectedProfile .standard

def accept (effects : List KernelEffect) : Outcome R ε :=
  ⟨k, effects, .ok ()⟩

def fail (effects : List KernelEffect) (error : KernelError ε) : Outcome R ε :=
  ⟨k, effects, .error error⟩

def reject (error : KernelError ε) : Outcome R ε := k.fail [] error

/-- Go on with a check's result, or return its error with nothing changed. -/
def require {α : Type} (k : SessionKernel R) (check : Except (KernelError ε) α)
    (next : α → Outcome R ε) : Outcome R ε :=
  match check with
  | .error error => k.reject error
  | .ok a => next a

def setTerminal (state : TerminalState R) : SessionKernel R :=
  { k with terminals := k.terminals.insert t state }

def setAgent (stream : AgentStream) : SessionKernel R :=
  { k with agents := k.agents.insert t stream }

def ensureOpen : Except (KernelError ε) Unit :=
  if t ∈ k.closed then .error (.closedTerminal t) else .ok ()

def expectKind (kind : ResourceKind) : Except (KernelError ε) (SessionKernel R) :=
  match k.kinds t with
  | some declared => if declared ≠ kind then .error (.kindMismatch t declared kind) else .ok k
  | none => .ok { k with kinds := k.kinds.insert t kind }

def knownTerminal : Except (KernelError ε) (TerminalState R) :=
  match k.terminals t with
  | none => .error (.unknownTerminal t)
  | some state => .ok state

def attachBlocks : Bool :=
  match k.attach with
  | none => false
  | some attach => !attach.released && attach.terminals.any fun p => p.terminalId = t

def markAttach (mark : AttachParticipant → AttachParticipant) : SessionKernel R :=
  { k with
    attach := k.attach.map fun attach =>
      { attach with
        terminals := attach.terminals.replaceF fun p =>
          if p.terminalId = t then some (mark p) else none } }

def markAttachResolved : SessionKernel R :=
  k.markAttach t fun p => { p with resolved := true, pendingRemoval := false }

def markAttachUnresolved (pendingRemoval : Bool) : SessionKernel R :=
  k.markAttach t fun p =>
    { p with resolved := false, pendingRemoval := p.pendingRemoval || pendingRemoval }

def markAttachClosed (pendingRemoval : Bool) : SessionKernel R :=
  k.markAttach t fun p =>
    { p with resolved := true, pendingRemoval := p.pendingRemoval || pendingRemoval }

end SessionKernel

def ensureLive {ε : Type} (retired : Table GenerationId TombstoneRecord) (t : ResourceId)
    (generation : GenerationId) : Except (KernelError ε) Unit :=
  if (retired generation).isSome then .error (.retiredGeneration t generation) else .ok ()

def ofGeneration {α ε : Type} (key : α → ReplicaKey) (held : Option α) (t : ResourceId)
    (generation : GenerationId) : Except (KernelError ε) α :=
  match held with
  | none => .error (.generationMismatch t generation)
  | some a =>
    if generationOf (key a) = generation then .ok a
    else .error (.generationMismatch t generation)

def holdsGeneration {α : Type} (key : α → ReplicaKey) (held : Option α)
    (generation : GenerationId) : Bool :=
  match held with
  | none => false
  | some a => generationOf (key a) = generation

end Phux
