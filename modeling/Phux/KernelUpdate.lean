import Phux.KernelReplica
import Phux.Machine

/-! The session kernel as a whole: agent session streams, the attach barrier,
retirement and closing, and the dispatch of every input to them. -/

namespace Phux

open ByteReader AgentStaging

variable {R ε : Type}
variable (k : SessionKernel R) (t : ResourceId)

namespace SessionKernel

/-- Fold records into the stream's state and append them to its log. -/
def foldRecords (stream : AgentStream) (records : List AgentEventRecord) : AgentStream :=
  { stream with
    state := records.foldl AgentSessionState.fold stream.state
    log := records.foldl AgentLog.push stream.log }

def agentSessionDeclared (k : SessionKernel R) (declaration : AgentSessionDeclaration) :
    Outcome R ε :=
  let t := declaration.terminalId
  k.require (k.ensureOpen t) fun _ =>
  k.require (k.expectKind t .agentSession) fun k =>
  let declared : AgentSessionState := {
    provider := declaration.provider
    nativeId := declaration.nativeId
    status := (declaration.state.map AgentSessionStatus.parse).getD .unknown }
  let stream := (k.agents t).getD .fresh
  let state :=
    if stream.published.isNone then declared
    else { stream.state with
      provider := stream.state.provider.or declared.provider
      nativeId := stream.state.nativeId.or declared.nativeId }
  (k.setAgent t { stream with
    parent := declaration.parent.or stream.parent
    state
    declared }).accept []

def agentBootstrapBegin (generation : GenerationId)
    (profile : BootstrapStreamProfile) (baseSeq : UInt64) : Outcome R ε :=
  k.require (k.ensureOpen t) fun _ =>
  k.require (k.expectKind t .agentSession) fun k =>
  let stream := (k.agents t).getD .fresh
  let k := k.setAgent t stream
  k.require (ensureLive stream.retired t generation) fun _ =>
  if holdsGeneration AgentGeneration.key stream.published generation
      || holdsGeneration key stream.staging generation then
    k.reject (.duplicateGeneration t generation)
  else
    (k.setAgent t { stream with
      staging := some {
        key := generation.key t profile
        baseSeq
        nextChunkSeq := some 0
        records := [] }
      retired := match stream.staging with
        | none => stream.retired
        | some old => supersede stream.retired (generationOf old.key) old.baseSeq }).accept []

def retireAgentGeneration (stream : AgentStream)
    (generation : GenerationId) (lastValidSeq : UInt64) (error : KernelError ε) : Outcome R ε :=
  (k.setAgent t { stream with
    staging := if holdsGeneration key stream.staging generation then none
      else stream.staging
    published := if holdsGeneration AgentGeneration.key stream.published generation then none
      else stream.published
    retired := stream.retired.insert generation ⟨.codecFailure, lastValidSeq⟩ }).fail
    [resyncRequired t generation] error

def knownAgent : Except (KernelError ε) AgentStream :=
  match k.agents t with
  | none => .error (.unknownTerminal t)
  | some stream => .ok stream

def liveAgent (generation : GenerationId) : Except (KernelError ε) AgentStream := do
  k.ensureOpen t
  let stream ← k.knownAgent t
  ensureLive stream.retired t generation
  return stream

def expectAgentChunk (staging : AgentStaging) (chunkSeq : UInt32) : Except (KernelError ε) Unit :=
  match staging.nextChunkSeq with
  | none => .error .chunkSequenceExhausted
  | some expected =>
    if chunkSeq < expected then .error (.duplicateChunk expected chunkSeq)
    else if expected < chunkSeq then .error (.chunkGap expected chunkSeq)
    else .ok ()

def agentBootstrapChunk (json : JsonCodec) (k : SessionKernel R) (t : ResourceId)
    (generation : GenerationId) (chunkSeq : UInt32) (payload : Bytes) : Outcome R ε :=
  k.require (k.liveAgent t generation) fun stream =>
  k.require (ofGeneration key stream.staging t generation) fun staging =>
  k.require (expectAgentChunk staging chunkSeq) fun _ =>
  match parseRecords json payload with
  | .ok records =>
    (k.setAgent t { stream with
      staging := some { staging with
        records := staging.records ++ records
        nextChunkSeq := checkedNext32 chunkSeq } }).accept []
  | .error error =>
    k.retireAgentGeneration t stream generation staging.baseSeq (.agentRecord error)

def agentBootstrapReady (generation : GenerationId) : Outcome R ε :=
  k.require (k.liveAgent t generation) fun stream =>
  k.require (ofGeneration key stream.staging t generation) fun staging =>
  let stream := foldRecords { stream with state := stream.declared, log := stream.log.clear }
    staging.records
  ((k.setAgent t { stream with
    staging := none
    published := some {
      key := staging.key
      lastSeq := staging.baseSeq
      nextSeq := checkedNext64 staging.baseSeq }
    retired := match stream.published with
      | none => stream.retired
      | some old =>
        retireOnce stream.retired (generationOf old.key) ⟨.explicitReattach, old.lastSeq⟩
    }).markAttachResolved t).accept [.agentRecords t staging.records]

def requireAgentSequence (expected actual : UInt64) : Except (KernelError ε) Unit :=
  if actual < expected then .error (.duplicateSequence expected actual)
  else if expected < actual then .error (.sequenceGap expected actual)
  else .ok ()

def validateAgentBatch (expected envelopeSeq : UInt64) :
    List AgentEventRecord → Except (KernelError ε) Unit
  | [] => .error .emptyAgentBatch
  | [last] => do
    requireAgentSequence expected last.seq
    requireAgentSequence last.seq envelopeSeq
  | record :: next :: records => do
    requireAgentSequence expected record.seq
    match checkedNext64 expected with
    | none => .error .sequenceExhausted
    | some expected => validateAgentBatch expected envelopeSeq (next :: records)

def expectAgentSeq (published : AgentGeneration) (seq : UInt64) : Except (KernelError ε) UInt64 :=
  match published.nextSeq with
  | none => .error .sequenceExhausted
  | some expected =>
    if seq < expected then .error (.duplicateSequence expected seq) else .ok expected

def agentOutput (json : JsonCodec) (k : SessionKernel R) (t : ResourceId)
    (generation : GenerationId) (seq : UInt64) (payload : Bytes) : Outcome R ε :=
  k.require (k.liveAgent t generation) fun stream =>
  k.require (ofGeneration AgentGeneration.key stream.published t generation) fun published =>
  k.require (expectAgentSeq published seq) fun expected =>
  match parseRecords json payload with
  | .error error =>
    k.retireAgentGeneration t stream generation published.lastSeq (.agentRecord error)
  | .ok records =>
    k.require (validateAgentBatch expected seq records) fun _ =>
    (k.setAgent t { foldRecords stream records with
      published := some { published with
        lastSeq := seq
        nextSeq := checkedNext64 seq } }).accept [.agentRecords t records]

def checkInventory (k : SessionKernel R) :
    List ResourceId → List ResourceId → Except (KernelError ε) Unit
  | _, [] => .ok ()
  | before, t :: ts =>
    if t ∈ k.closed then .error (.closedTerminal t)
    else if t ∈ before then .error (.duplicateAttachResource t)
    else k.checkInventory (before ++ [t]) ts

-- the kinds learned before a mismatch stay
def expectTerminals (k : SessionKernel R) :
    List ResourceId → SessionKernel R × Except (KernelError ε) Unit
  | [] => (k, .ok ())
  | t :: ts =>
    match k.expectKind t .terminal with
    | .error error => (k, .error error)
    | .ok k => k.expectTerminals ts

def openTerminals (k : SessionKernel R) (ts : List ResourceId) : SessionKernel R :=
  ts.foldl (fun k t => k.setTerminal t ((k.terminals t).getD .default)) k

def attachStarted (k : SessionKernel R) (attachId : UInt32) (terminalIds : List ResourceId) :
    Outcome R ε :=
  match k.attach.filter fun attach => !attach.released with
  | some attach => k.reject (.attachInProgress attach.attachId)
  | none =>
    k.require (k.checkInventory [] terminalIds) fun _ =>
    match k.expectTerminals terminalIds with
    | (k, .error error) => k.reject error
    | (k, .ok _) =>
      let k := k.openTerminals terminalIds
      { k with
        attach := some {
          attachId
          released := false
          terminals := terminalIds.map fun t => ⟨t, false, false⟩ } : SessionKernel R }.accept []

def participantDamage (k : SessionKernel R) (participant : AttachParticipant) : List KernelEffect :=
  if participant.pendingRemoval then [.damage participant.terminalId .removed]
  else if ((k.terminals participant.terminalId).bind TerminalState.published).isSome then
    [.damage participant.terminalId .full]
  else []

def attachReady (k : SessionKernel R) (attachId : UInt32) : Outcome R ε :=
  match k.attach with
  | none => k.reject (.attachIdMismatch none attachId)
  | some attach =>
    if attach.attachId ≠ attachId then
      k.reject (.attachIdMismatch (some attach.attachId) attachId)
    else
      let remaining := attach.terminals.countP fun participant => !participant.resolved
      if remaining ≠ 0 then k.reject (.attachNotReady remaining)
      else if attach.released then k.reject (.attachIdMismatch none attachId)
      else
        { k with attach := some { attach with released := true } : SessionKernel R }.accept
          (attach.terminals.flatMap k.participantDamage)

def tombstoneGeneration (generation : GenerationId) (record : TombstoneRecord) : SessionKernel R :=
  match k.agents t with
  | some stream =>
    k.setAgent t { stream with
      retired := retireOnce stream.retired generation record
      staging := if holdsGeneration key stream.staging generation then none
        else stream.staging }
  | none =>
    let state := (k.terminals t).getD .default
    let k := k.setTerminal t { state with
      retired := retireOnce state.retired generation record
      staging := if holdsGeneration Staging.key state.staging generation then none
        else state.staging }
    if holdsGeneration Replica.key state.published generation then k.markAttachUnresolved t false
    else k

def terminalClosed : SessionKernel R × List KernelEffect :=
  let damageBlocked := k.attachBlocks t
  let hadPublished := ((k.terminals t).bind TerminalState.published).isSome
  let k := { k with
    agents := k.agents.erase t
    terminals := k.terminals.erase t
    closed := insert t k.closed : SessionKernel R }
  (k.markAttachClosed t (hadPublished && damageBlocked),
    if hadPublished && !damageBlocked then [.damage t .removed] else [])

def published : Option (Replica R) :=
  (k.terminals t).bind TerminalState.published

def inputEligibility : InputEligibility :=
  if t ∈ k.closed then .ineligible .closed
  else if k.kinds t ≠ none ∧ k.kinds t ≠ some .terminal then .ineligible .notATerminal
  else
    match k.terminals t with
    | none => .ineligible .unknownTerminal
    | some state =>
      match state.published with
      | none => .ineligible .awaitingReplica
      | some replica =>
        if (state.retired (generationOf replica.key)).isSome then .ineligible .frozenReplica
        else if k.attachBlocks t then .ineligible .awaitingAttachReady
        else .eligible (generationOf replica.key)

def action (event : InputEvent) : Outcome R ε :=
  match k.inputEligibility t with
  | .ineligible reason => k.reject (.inputIneligible t reason)
  | .eligible _ => k.accept [.send (.input t event)]

def update (host : KernelHost R ε) (k : SessionKernel R) : KernelInput → Outcome R ε
  | .attachStarted attachId terminals => k.attachStarted attachId terminals
  | .attachReady attachId => k.attachReady attachId
  | .bootstrapBegin t generation profile geometry baseSeq =>
    if isAgentProfile profile then k.agentBootstrapBegin t generation profile baseSeq
    else
      k.require (k.expectKind t .terminal) fun k =>
        k.bootstrapBegin host.adapter t generation profile geometry baseSeq
  | .bootstrapChunk t generation chunkSeq payload =>
    if (k.agents t).isSome then k.agentBootstrapChunk host.json t generation chunkSeq payload
    else k.bootstrapChunk host.adapter t generation chunkSeq payload
  | .bootstrapReady t generation historyCursor =>
    if (k.agents t).isSome then k.agentBootstrapReady t generation
    else k.bootstrapReady host.adapter t generation historyCursor
  | .historyPage page => k.historyPage host page
  | .historyTombstone t generation cursor reason =>
    k.historyTombstone host.adapter t generation cursor reason
  | .historyRejected t generation cursor reason requiredBytes requiredRows =>
    k.historyRejected host.adapter t generation cursor reason requiredBytes requiredRows
  | .resourceOutput t generation seq payload =>
    if (k.agents t).isSome then k.agentOutput host.json t generation seq payload
    else k.terminalOutput host.adapter t generation seq payload
  | .tombstone t generation record => (k.tombstoneGeneration t generation record).accept []
  | .resourceClosed t => (k.terminalClosed t).1.accept (k.terminalClosed t).2
  | .agentSessionDeclared declaration => k.agentSessionDeclared declaration
  | .input t event => k.action t event

def attachContains : Bool :=
  match k.attach with
  | none => false
  | some attach => attach.terminals.any fun p => p.terminalId = t

def releaseTerminal : SessionKernel R × Bool :=
  if k.attachContains t then (k, false)
  else
    ({ k with
      terminals := k.terminals.erase t
      agents := k.agents.erase t
      kinds := k.kinds.erase t
      closed := k.closed.erase t }, true)

def detachTerminal : SessionKernel R × Bool :=
  match k.attach with
  | none => k.releaseTerminal t
  | some attach =>
    if !attach.released then (k, false)
    else
      { k with
        attach := some { attach with
          terminals := attach.terminals.filter fun p => p.terminalId ≠ t } :
        SessionKernel R }.releaseTerminal t

def releaseActiveAttach (k : SessionKernel R) : SessionKernel R := { k with attach := none }

end SessionKernel

inductive KernelCall where
  | update (input : KernelInput)
  | releaseActiveAttach
  | detachTerminal (terminalId : ResourceId)
  | releaseTerminal (terminalId : ResourceId)
  | prefetchHistory (terminalId : ResourceId) (rowsFromOldest : Nat)
  | clearPresentation (terminalId : ResourceId)
  | projectHistory (terminalId : ResourceId) (width : UInt16) (maxRows : Nat)
  | trackDocumentAnchor (terminalId : ResourceId) (point : DocumentPoint)
  | pinHistoryViewport (terminalId : ResourceId) (anchor : DocumentAnchorId)
  | followHistoryTail (terminalId : ResourceId)
  | releaseDocumentAnchor (terminalId : ResourceId) (anchor : DocumentAnchorId)
  | searchLoadedHistory (terminalId : ResourceId) (needle : String) (maxMatches : Nat)

namespace SessionKernel

def after (host : KernelHost R ε) (k : SessionKernel R) : KernelCall → SessionKernel R
  | .update input => (k.update host input).kernel
  | .releaseActiveAttach => k.releaseActiveAttach
  | .detachTerminal t => (k.detachTerminal t).1
  | .releaseTerminal t => (k.releaseTerminal t).1
  | .prefetchHistory t rows => (k.prefetchHistory t rows).1
  | .clearPresentation t => (k.clearPresentation host.adapter t).1
  | .projectHistory t width maxRows => (k.projectHistory host.adapter t width maxRows).1
  | .trackDocumentAnchor t point => (k.trackDocumentAnchor host.adapter t point).1
  | .pinHistoryViewport t anchor => (k.pinHistoryViewport host.adapter t anchor).1
  | .followHistoryTail t => ((k.followHistoryTail t : _ × Except (KernelError ε) Unit)).1
  | .releaseDocumentAnchor t anchor => (k.releaseDocumentAnchor host.adapter t anchor).1
  | .searchLoadedHistory t needle maxMatches =>
    (k.searchLoadedHistory host.adapter t needle maxMatches).1

def run (host : KernelHost R ε) (k : SessionKernel R) (calls : List KernelCall) : SessionKernel R :=
  Machine.run (after host) k calls

end SessionKernel

end Phux
