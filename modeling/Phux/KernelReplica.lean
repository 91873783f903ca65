import Phux.Kernel

/-! Terminal replicas in the session kernel: staging a bootstrap, publishing it,
feeding it live output and history, and the local document operations. -/

namespace Phux

open ByteReader

variable {R ε : Type}
variable (E : EngineAdapter R ε) (k : SessionKernel R) (t : ResourceId)
variable (generation : GenerationId)

def profileMatches : BootstrapProfile → BootstrapStreamProfile → Bool
  | .nativeState selected _, .nativeState incoming => selected = incoming
  | .synthesizedVtRaw, .synthesizedVtRaw => true
  | .synthesizedVtStateSync, .synthesizedVtStateSync => true
  | _, _ => false

def isAgentProfile (profile : BootstrapStreamProfile) : Bool :=
  profile = .agentEventsJsonlV1

def resyncRequired (t : ResourceId) (generation : GenerationId) : KernelEffect :=
  .status (.resyncRequired t generation .codecFailure)

def EngineEffect.deferred : EngineEffect → Bool
  | .ptyWrite _ | .damage _ => false
  | .status _ | .job _ => true

def translateEngineEffect (key : ReplicaKey) (damageAllowed : Bool) :
    EngineEffect → List KernelEffect
  | .ptyWrite bytes => [.send (.ptyWrite key.terminalId bytes)]
  | .damage damage =>
    if damageAllowed then
      match damage with
      | .full => [.damage key.terminalId .full]
      | .rows first last => [.damage key.terminalId (.rows first last)]
    else []
  | .status status => [.status (.engine key status)]
  | .job job => [.job key job]

/-- The retirement a replica leaves in the ledger when another takes its place. -/
def supersede (retired : Table GenerationId TombstoneRecord) (generation : GenerationId)
    (lastValidSeq : UInt64) : Table GenerationId TombstoneRecord :=
  retired.insert generation ⟨.explicitReattach, lastValidSeq⟩

def retireOnce (retired : Table GenerationId TombstoneRecord) (generation : GenerationId)
    (record : TombstoneRecord) : Table GenerationId TombstoneRecord :=
  match retired generation with
  | none => retired.insert generation record
  | some _ => retired

def Staging.expectChunk (staging : Staging R) (chunkSeq : UInt32) : Except (KernelError ε) Unit :=
  if staging.engineReady then .error .chunkAfterEngineReady
  else
    match staging.nextChunkSeq with
    | none => .error .chunkSequenceExhausted
    | some expected =>
      if chunkSeq < expected then .error (.duplicateChunk expected chunkSeq)
      else if expected < chunkSeq then .error (.chunkGap expected chunkSeq)
      else .ok ()

def Replica.expectNextSeq (replica : Replica R) (seq : UInt64) : Except (KernelError ε) Unit :=
  match replica.nextSeq with
  | none => .error .sequenceExhausted
  | some expected =>
    if seq < expected then .error (.duplicateSequence expected seq)
    else if expected < seq then .error (.sequenceGap expected seq)
    else .ok ()

def reportHistoryUnavailable (replica : Replica R) (reason : HistoryUnavailableReason) :
    List KernelEffect :=
  [.status (.historyUnavailable replica.key reason),
   .status (.history replica.key replica.history.status)]

def tombstoneHistory (E : EngineAdapter R ε) (replica : Replica R)
    (reason : HistoryUnavailableReason) : Replica R × List KernelEffect :=
  let replica := { replica with
    history := replica.history.tombstone
    engine := E.clearDocumentState replica.engine }
  (replica, reportHistoryUnavailable replica reason)

def reconcilePinnedAnchor (E : EngineAdapter R ε) (replica : Replica R) (anchor : DocumentAnchorId)
    (distanceBefore : Option UInt64) : Replica R × List KernelEffect :=
  match distanceBefore, E.historyAnchorTailDistance replica.engine anchor with
  | some before, .ok (some after) =>
    let rows := if after < before then 0 else after - before
    ({ replica with history := replica.history.noteLiveOutput rows }, [])
  | _, .ok _ =>
    let replica := { replica with
      history := replica.history.markPruned
      engine := E.clearDocumentState replica.engine }
    (replica, reportHistoryUnavailable replica .pruned)
  | _, .error _ => tombstoneHistory E replica .codecFailure

structure HistoryPageRejection (ε : Type) where
  reason : HistoryUnavailableReason
  error : Option (KernelError ε)

def importHistoryPage (host : KernelHost R ε) (replica : Replica R) (page : HistoryPageInput) :
    Replica R × List EngineEffect × Except (HistoryPageRejection ε) Unit :=
  match host.adapter.applyHistoryPage replica.engine page.payload with
  | (engine, _, .error error) =>
    ({ replica with engine }, [], .error ⟨.codecFailure, some (.engine error)⟩)
  | (engine, effects, .ok outcome) =>
    let replica := { replica with engine }
    let hasMore := page.nextCursor.isSome
    let native := match replica.key.profile with
      | .nativeState _ => true
      | _ => false
    let finished : Bool := outcome.progress = .finished
    if outcome.retained && native && finished == hasMore then
      (replica, [], .error ⟨.codecFailure,
        some (.historyCompletionMismatch outcome.progress hasMore)⟩)
    else if !outcome.retained then (replica, [], .error ⟨.limit, none⟩)
    else
      match replica.history.acceptPage host.payloadDigest page.cursor page.pageSeq page.nextCursor
          page.rows page.rows.toNat page.payload with
      | .error error => (replica, [], .error ⟨.codecFailure, some (.historyCache error)⟩)
      | .ok (history, _) => ({ replica with history }, effects, .ok ())

def HistoryUnavailableReason.loadState : HistoryUnavailableReason → HistoryLoadState
  | stale => .stale
  | pruned => .pruned
  | reset | resize | expired | released | limit | codecFailure => .tombstoned

namespace SessionKernel

/-- The terminal and its staged replica, when an input names that generation. -/
def stagedReplica (k : SessionKernel R) (t : ResourceId) (generation : GenerationId) :
    Except (KernelError ε) (TerminalState R × Staging R) := do
  k.ensureOpen t
  let state ← k.knownTerminal t
  ensureLive state.retired t generation
  let staging ← ofGeneration Staging.key state.staging t generation
  return (state, staging)

/-- The terminal and its published replica, when an input names that generation. -/
def publishedReplica (k : SessionKernel R) (t : ResourceId) (generation : GenerationId) :
    Except (KernelError ε) (TerminalState R × Replica R) := do
  k.ensureOpen t
  let state ← k.knownTerminal t
  ensureLive state.retired t generation
  let replica ← ofGeneration Replica.key state.published t generation
  return (state, replica)

/-- The engine failed on a staged generation: drop it, retire it, ask for another. -/
def abandonStaging (k : SessionKernel R) (t : ResourceId) (state : TerminalState R)
    (staging : Staging R) (generation : GenerationId) (error : KernelError ε) : Outcome R ε :=
  (k.setTerminal t { state with
    staging := none
    retired := state.retired.insert generation ⟨.codecFailure, staging.baseSeq⟩ }).fail
    [resyncRequired t generation] error

def bootstrapBegin (profile : BootstrapStreamProfile) (geometry : CanonicalGeometry)
    (baseSeq : UInt64) : Outcome R ε :=
  if t ∈ k.closed then k.reject (.closedTerminal t)
  else if !profileMatches k.selectedProfile profile then
    k.reject (.profileMismatch k.selectedProfile profile)
  else if geometry.cols = 0 ∨ geometry.rows = 0 then
    k.reject (.invalidGeometry geometry.cols geometry.rows)
  else
    let state := (k.terminals t).getD .default
    -- the entry exists from here on, whatever the checks below say
    let k := k.setTerminal t state
    if (state.retired generation).isSome then k.reject (.retiredGeneration t generation)
    else if holdsGeneration Replica.key state.published generation
        || holdsGeneration Staging.key state.staging generation then
      k.reject (.duplicateGeneration t generation)
    else
      match E.startReplica profile geometry with
      | .error error =>
        (k.setTerminal t { state with
          retired := state.retired.insert generation ⟨.codecFailure, baseSeq⟩ }).fail
          [resyncRequired t generation] (.engine error)
      | .ok engine =>
        (k.setTerminal t { state with
          staging := some {
            key := generation.key t profile
            geometry
            baseSeq
            nextChunkSeq := some 0
            engineReady := false
            protocolReady := false
            historyCursor := none
            engine
            pendingEffects := [] }
          retired := match state.staging with
            | none => state.retired
            | some old => supersede state.retired (generationOf old.key) old.baseSeq }).accept []

def bootstrapChunk (chunkSeq : UInt32) (payload : Bytes) : Outcome R ε :=
  k.require (k.stagedReplica t generation) fun (state, staging) =>
  k.require (staging.expectChunk chunkSeq) fun _ =>
  match E.applyBootstrapChunk staging.engine payload with
  | (_, _, .error error) => k.abandonStaging t state staging generation (.engine error)
  | (engine, effects, .ok progress) =>
    (k.setTerminal t { state with
      staging := some { staging with
        engine
        nextChunkSeq := checkedNext32 chunkSeq
        engineReady := staging.engineReady || progress.isReady
        pendingEffects := staging.pendingEffects ++ effects.filter EngineEffect.deferred } }).accept
      []

def publish : Outcome R ε :=
  k.require (k.knownTerminal t) fun state =>
  match state.staging with
  | none => k.reject (.missingStaging t)
  | some staging =>
    match E.configureHistoryBudget staging.engine k.historyConfig.maxBytes
        k.historyConfig.maxMaterializedRows with
    | (engine, .error error) =>
      (k.setTerminal t { state with staging := some { staging with engine } }).reject
        (.engine error)
    | (engine, .ok _) =>
      let (history, initialCursor) :=
        (HistoryCache.new k.historyConfig staging.historyCursor staging.geometry.cols).beginFetch
      let replacement : Replica R := {
        key := staging.key
        geometry := staging.geometry
        lastSeq := staging.baseSeq
        nextSeq := checkedNext64 staging.baseSeq
        engine
        history }
      let k := (k.setTerminal t {
        published := some replacement
        staging := none
        retired := match state.published with
          | none => state.retired
          | some old =>
            retireOnce state.retired (generationOf old.key) ⟨.explicitReattach, old.lastSeq⟩
        }).markAttachResolved t
      let damageAllowed := !k.attachBlocks t
      k.accept
        (staging.pendingEffects.flatMap (translateEngineEffect staging.key damageAllowed)
          ++ (match initialCursor with
            | none => []
            | some cursor =>
              [.send (.historyRequest staging.key cursor k.historyConfig.requestMaxBytes
                  k.historyConfig.requestMaxRows),
               .status (.history staging.key history.status)])
          ++ if damageAllowed then [.damage t .full] else [])

def bootstrapReady (historyCursor : Option Bytes) : Outcome R ε :=
  k.require (k.stagedReplica t generation) fun (state, staging) =>
  if staging.protocolReady then k.reject .duplicateProtocolReady
  else
    match E.finishBootstrap staging.engine with
    | (_, _, .error error) => k.abandonStaging t state staging generation (.engine error)
    | (engine, effects, .ok progress) =>
      if staging.engineReady || progress.isReady then
        (k.setTerminal t { state with
          staging := some { staging with
            engine
            historyCursor
            protocolReady := true
            engineReady := true
            pendingEffects :=
              staging.pendingEffects ++ effects.filter EngineEffect.deferred } }).publish E t
      else k.abandonStaging t state staging generation .engineNotReady

def retireAfterCodecFailure (k : SessionKernel R) (t : ResourceId) (state : TerminalState R)
    (generation : GenerationId) (lastValidSeq : UInt64) (error : KernelError ε) : Outcome R ε :=
  let k := k.setTerminal t { state with
    published := none
    retired := state.retired.insert generation ⟨.codecFailure, lastValidSeq⟩ }
  let damageBlocked := k.attachBlocks t
  (k.markAttachUnresolved t damageBlocked).fail
    (resyncRequired t generation :: if damageBlocked then [] else [.damage t .removed]) error

/-- Where the viewport is pinned, how far its anchor is from the tail. -/
def pinnedDistance (E : EngineAdapter R ε) (replica : Replica R) :
    Except (KernelError ε) (Option UInt64) :=
  match replica.history.viewport with
  | .tail => .ok none
  | .pinned anchor =>
    match E.historyAnchorTailDistance replica.engine anchor with
    | .error error => .error (.engine error)
    | .ok distance => .ok distance

def terminalOutput (seq : UInt64) (payload : Bytes) : Outcome R ε :=
  k.require (k.publishedReplica t generation) fun (state, replica) =>
  k.require (replica.expectNextSeq seq) fun _ =>
  k.require (pinnedDistance E replica) fun distanceBefore =>
  match E.applyOutput replica.engine payload with
  | (_, _, .error error) =>
    k.retireAfterCodecFailure t state generation replica.lastSeq (.engine error)
  | (engine, engineEffects, .ok _) =>
    let (replica, effects) := match replica.history.viewport with
      | .tail => ({ replica with engine }, [])
      | .pinned anchor => reconcilePinnedAnchor E { replica with engine } anchor distanceBefore
    let k := k.setTerminal t { state with
      published := some { replica with lastSeq := seq, nextSeq := checkedNext64 seq } }
    k.accept
      (effects ++ engineEffects.flatMap (translateEngineEffect replica.key (!k.attachBlocks t))
        ++ if replica.key.profile = .synthesizedVtStateSync then
            [.send (.frameAck t generation seq)]
          else [])

def historyPage (host : KernelHost R ε) (k : SessionKernel R) (page : HistoryPageInput) :
    Outcome R ε :=
  k.require (k.publishedReplica page.terminalId page.generation) fun (state, replica) =>
  if replica.history.isLocallyCleared then k.accept []
  else
    match replica.history.checkPage host.payloadDigest page.cursor page.pageSeq page.nextCursor
        page.rows page.payload with
    | .ok (.duplicate _) => k.accept [.status (.history replica.key replica.history.status)]
    | .error error =>
      let (replica, effects) := tombstoneHistory host.adapter replica .codecFailure
      (k.setTerminal page.terminalId { state with published := some replica }).fail effects
        (.historyCache error)
    | .ok .new =>
      match importHistoryPage host replica page with
      | (replica, _, .error rejection) =>
        let (replica, effects) := tombstoneHistory host.adapter replica rejection.reason
        let k := k.setTerminal page.terminalId { state with published := some replica }
        match rejection.error with
        | none => k.accept effects
        | some error => k.fail effects error
      | (replica, engineEffects, .ok _) =>
        let (history, nextRequest) :=
          if replica.history.shouldAutoContinue then replica.history.beginFetch
          else (replica.history, none)
        let k := k.setTerminal page.terminalId
          { state with published := some { replica with history } }
        k.accept
          (engineEffects.flatMap
              (translateEngineEffect replica.key (!k.attachBlocks page.terminalId))
            ++ .status (.history replica.key history.status) ::
              match nextRequest with
              | none => []
              | some cursor =>
                [.send (.historyRequest replica.key cursor k.historyConfig.requestMaxBytes
                  k.historyConfig.requestMaxRows)])

def historyTombstone (cursor : Bytes) (reason : HistoryUnavailableReason) : Outcome R ε :=
  k.require (k.publishedReplica t generation) fun (state, replica) =>
  match replica.history.invalidateCursor cursor reason.loadState with
  | (_, false) => k.accept []
  | (history, true) =>
    let replica := { replica with history, engine := E.clearDocumentState replica.engine }
    (k.setTerminal t { state with published := some replica }).accept
      (reportHistoryUnavailable replica reason)

def historyRejected (cursor : Bytes) (reason : HistoryRejectionReason)
    (requiredBytes requiredRows : UInt32) : Outcome R ε :=
  k.require (k.publishedReplica t generation) fun (state, replica) =>
  let retryLimits :=
    if reason = .tooSmall then replica.history.retryLimits requiredBytes requiredRows else none
  match replica.history.cancelFetch cursor with
  | (_, false) => k.reject (.historyCache .gap)
  | (history, true) =>
    let (history, nextRequest) := match retryLimits with
      | none => (history, none)
      | some (maxBytes, maxRows) =>
        match history.beginFetchWithLimits maxBytes maxRows with
        | (history, cursor) => (history, cursor.map fun cursor => (cursor, maxBytes, maxRows))
    let replica := { replica with history }
    if reason = .tooSmall ∧ nextRequest.isNone then
      let replica := { replica with
        history := history.tombstone
        engine := E.clearDocumentState replica.engine }
      (k.setTerminal t { state with published := some replica }).accept
        (reportHistoryUnavailable replica .limit)
    else
      (k.setTerminal t { state with published := some replica }).accept
        (.status (.history replica.key replica.history.status) ::
          match nextRequest with
          | none => []
          | some (cursor, maxBytes, maxRows) =>
            [.send (.historyRequest replica.key cursor maxBytes maxRows)])

/-! Document operations, which a local consumer makes on a published replica. -/

def withPublished {α : Type} (k : SessionKernel R) (t : ResourceId)
    (act : Replica R → Replica R × Except (KernelError ε) α) :
    SessionKernel R × Except (KernelError ε) α :=
  match k.terminals t with
  | none => (k, .error (.unknownTerminal t))
  | some state =>
    match state.published with
    | none => (k, .error (.unknownTerminal t))
    | some replica =>
      match act replica with
      | (replica, result) => (k.setTerminal t { state with published := some replica }, result)

def clearPresentation : SessionKernel R × Except (KernelError ε) Unit :=
  match k.ensureOpen t with
  | .error error => (k, .error error)
  | .ok _ =>
    k.withPublished t fun replica =>
      match E.clearPresentation replica.engine with
      | (engine, .error error) => ({ replica with engine }, .error (.engine error))
      | (engine, .ok _) =>
        ({ replica with engine, history := replica.history.clearPresentation }, .ok ())

def projectFrom (E : EngineAdapter R ε) (width : UInt16) (maxRows : Nat) (replica : Replica R)
    (origin : EngineProjectionOrigin) :
    Replica R × Except (KernelError ε) EngineHistoryProjection :=
  match E.projectHistory replica.engine width origin maxRows with
  | (engine, .error error) => ({ replica with engine }, .error (.engine error))
  | (engine, .ok projection) =>
    ({ replica with engine }, .ok { projection with
      hasOlder := projection.hasOlder || replica.history.hasContinuation })

def projectHistory (width : UInt16)
    (maxRows : Nat) : SessionKernel R × Except (KernelError ε) EngineHistoryProjection :=
  k.withPublished t fun replica =>
    let replica := { replica with history := replica.history.reproject width }
    let width := replica.history.projectionWidth
    match replica.history.viewport with
    | .tail => projectFrom E width maxRows replica .tail
    | .pinned anchor =>
      match E.documentAnchorPoint replica.engine anchor .history with
      | .error error => (replica, .error (.engine error))
      | .ok (some _) => projectFrom E width maxRows replica (.anchor anchor)
      | .ok none =>
        projectFrom E width maxRows { replica with
          history := replica.history.markPruned
          engine := E.clearDocumentState replica.engine } .tail

def trackDocumentAnchor (point : DocumentPoint) : SessionKernel R × Except (KernelError ε) DocumentAnchorId :=
  k.withPublished t fun replica =>
    match replica.history.ensureAnchorCapacity 1 with
    | .error error => (replica, .error (.historyCache error))
    | .ok _ =>
      match E.trackDocumentAnchor replica.engine point with
      | (engine, .error error) => ({ replica with engine }, .error (.engine error))
      | (engine, .ok anchor) =>
        match replica.history.registerAnchorPages anchor [] with
        | .error error => ({ replica with engine }, .error (.historyCache error))
        | .ok history => ({ replica with engine, history }, .ok anchor)

def pinHistoryViewport (anchor : DocumentAnchorId) : SessionKernel R × Except (KernelError ε) Unit :=
  k.withPublished t fun replica =>
    match E.documentAnchorPoint replica.engine anchor .history with
    | .error error => (replica, .error (.engine error))
    | .ok none => (replica, .error (.historyCache .anchorUnavailable))
    | .ok (some _) =>
      match replica.history.pinViewport anchor with
      | .error error => (replica, .error (.historyCache error))
      | .ok history => ({ replica with history }, .ok ())

def followHistoryTail (k : SessionKernel R) (t : ResourceId) :
    SessionKernel R × Except (KernelError ε) Unit :=
  k.withPublished t fun replica =>
    ({ replica with history := replica.history.followTail }, .ok ())

def releaseDocumentAnchor (anchor : DocumentAnchorId) : SessionKernel R × Except (KernelError ε) Unit :=
  k.withPublished t fun replica =>
    ({ replica with
      engine := E.releaseDocumentAnchor replica.engine anchor
      history := replica.history.removeAnchor anchor }, .ok ())

/-- The anchors that search results hold, in the order they are registered. -/
def searchAnchors (found : List EngineSearchMatch) : List DocumentAnchorId :=
  found.flatMap fun one => [one.start, one.finish]

-- a failed registration leaves the anchors registered before it in the cache
def registerAnchors (history : HistoryCache) :
    List DocumentAnchorId → HistoryCache × Except HistoryCacheError Unit
  | [] => (history, .ok ())
  | anchor :: anchors =>
    match history.registerAnchorPages anchor [] with
    | .error error => (history, .error error)
    | .ok history => registerAnchors history anchors

def searchLoadedHistory (needle : String) (maxMatches : Nat) :
    SessionKernel R × Except (KernelError ε) (List EngineSearchMatch) :=
  k.withPublished t fun replica =>
    let maxMatches := min maxMatches (replica.history.remainingAnchorCapacity / 2)
    if maxMatches = 0 then (replica, .ok [])
    else
      match E.searchLoaded replica.engine needle maxMatches with
      | (engine, .error error) => ({ replica with engine }, .error (.engine error))
      | (engine, .ok found) =>
        let anchors := searchAnchors found
        match registerAnchors replica.history anchors with
        | (history, .ok _) => ({ replica with engine, history }, .ok found)
        | (history, .error error) =>
          ({ replica with
            engine := anchors.foldl E.releaseDocumentAnchor engine
            history := anchors.foldl HistoryCache.removeAnchor history },
            .error (.historyCache error))

def prefetchHistory (k : SessionKernel R) (t : ResourceId) (rowsFromOldest : Nat) :
    SessionKernel R × List KernelEffect × Bool :=
  match k.terminals t with
  | none => (k, [], false)
  | some state =>
    match state.published with
    | none => (k, [], false)
    | some replica =>
      if (state.retired (generationOf replica.key)).isSome then (k, [], false)
      else if !replica.history.shouldPrefetch rowsFromOldest then (k, [], false)
      else
        match replica.history.beginFetch with
        | (_, none) => (k, [], false)
        | (history, some cursor) =>
          (k.setTerminal t { state with published := some { replica with history } },
            [.send (.historyRequest replica.key cursor k.historyConfig.requestMaxBytes
                k.historyConfig.requestMaxRows),
             .status (.history replica.key history.status)], true)

end SessionKernel

end Phux
