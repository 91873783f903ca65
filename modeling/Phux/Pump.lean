import Phux.FrameKind
import Phux.Loop

/-! The output pump: it reads one pane's broadcast and forwards to one client what
the published generation may still carry, asking for a replacement after a gap. -/

namespace Phux

open ByteReader

inductive ResyncReason where
  | resize
  | outboundGap
deriving DecidableEq

structure ResyncTarget where
  owner : UInt64
  streamId : StreamId
  bootstrapId : BootstrapId
deriving DecidableEq

inductive ResyncAudience where
  | everyone
  | only (targets : List ResyncTarget)

def ResyncAudience.includes (audience : ResyncAudience) (target : ResyncTarget) : Bool :=
  match audience with
  | .everyone => true
  | .only targets => targets.contains target

inductive PaneOutput where
  | live (seq : UInt64) (bytes : Bytes) (readAt : Nat)
  | resync (cols rows : UInt16) (reason : ResyncReason) (audience : ResyncAudience)
      (baseSeq : UInt64) (bytes : Bytes)
  | control (owner : UInt64) (frame : FrameKind)

inductive RecvError where
  | lagged (dropped : UInt64)
  | closed

/-- One result of the broadcast receiver, with the millisecond from which it is ready. -/
structure Delivery where
  time : Nat
  received : Except RecvError PaneOutput

def gapResyncRetry : Nat := 500

def gapResyncMaxBackoff : Nat := 4000

def gapResyncMaxAttempts : Nat := 5

def staleOutputBudget : Nat := 250

def isStale (age : Nat) : Bool := staleOutputBudget < age

structure PumpGeneration where
  publishedCut : UInt64
  lastForwardedSeq : UInt64
  bootstrapId : BootstrapId
  generationActive : Bool
  gapPending : Bool
  gapAttempts : Nat
  publishedAt : Nat

namespace PumpGeneration

variable (generation : PumpGeneration)

def openedAt (publishedCut : UInt64) (bootstrapId : BootstrapId) (now : Nat) : PumpGeneration where
  publishedCut := publishedCut
  lastForwardedSeq := publishedCut
  bootstrapId := bootstrapId
  generationActive := true
  gapPending := false
  gapAttempts := 0
  publishedAt := now

def chunkAge (now readAt : Nat) : Nat :=
  now - max readAt generation.publishedAt

def forwards (seq : UInt64) : Bool :=
  generation.generationActive && !generation.gapPending && generation.publishedCut < seq

def noteForwarded (seq : UInt64) : PumpGeneration :=
  { generation with lastForwardedSeq := seq }

def retire : PumpGeneration :=
  { generation with generationActive := false }

def fenceForGap : PumpGeneration :=
  { generation with gapPending := true }

def noteResyncRequested : PumpGeneration :=
  { generation with gapAttempts := min (generation.gapAttempts + 1) 0xFFFFFFFF }

/-- How long to wait before asking again, or nothing once the gap spent its budget. -/
def gapRetryDelay : Option Nat :=
  if gapResyncMaxAttempts ≤ generation.gapAttempts then none
  else
    let step := min (generation.gapAttempts - 1) 31
    some (min (gapResyncRetry * (1 <<< step)) gapResyncMaxBackoff)

def takesResync (audience : ResyncAudience) (pump : ResyncTarget) : Bool :=
  match audience with
  | .everyone => true
  | .only _ => (generation.gapPending || !generation.generationActive) && audience.includes pump

def restartStalenessClock (now : Nat) : PumpGeneration :=
  { generation with publishedAt := now }

def republishedAt (baseSeq : UInt64) (now : Nat) : PumpGeneration where
  publishedCut := baseSeq
  lastForwardedSeq := baseSeq
  bootstrapId := generation.bootstrapId
  generationActive := true
  gapPending := false
  gapAttempts := 0
  publishedAt := now

end PumpGeneration

inductive PumpWait where
  | event (received : Except RecvError PaneOutput)
  | retryResync
  | gapUnrecoverable

/-- What a turn of waiting produces, what the receiver still holds and what time it is then. A
fenced pump bounds its wait, and every call starts that bound anew. Nothing is produced where
the pump waits for good. -/
def nextEvent (generation : PumpGeneration) (outputRx : List Delivery) (now : Nat) :
    Option (PumpWait × List Delivery × Nat) :=
  if !generation.gapPending then
    match outputRx with
    | [] => none
    | d :: rest => some (.event d.received, rest, max now d.time)
  else
    match generation.gapRetryDelay with
    | none => some (.gapUnrecoverable, outputRx, now)
    | some delay =>
      match outputRx with
      | [] => some (.retryResync, [], now + delay)
      | d :: rest =>
        if d.time ≤ now + delay then some (.event d.received, rest, max now d.time)
        else some (.retryResync, d :: rest, now + delay)

def nextBootstrapId (id : BootstrapId) : BootstrapId :=
  -- the successor of the largest id starts over
  if h : id.raw + 1 = 0 then ⟨1, one_raw_ne⟩ else ⟨id.raw + 1, h⟩

inductive PumpFault where
  | outboundClosed
  | tombstoneNotQueued
  | generationLost
  | publicationNotActivated
  | replayAbandoned
deriving DecidableEq

abbrev Flow := Option (Option PumpFault)

/-- A client's outbound mailbox: what it took, and how much more it takes before it closes. -/
structure Mailbox where
  sent : List FrameKind
  room : Nat

namespace Mailbox

def send (mailbox : Mailbox) (frame : FrameKind) : Option Mailbox :=
  match mailbox.room with
  | 0 => none
  | room + 1 => some ⟨mailbox.sent ++ [frame], room⟩

/-- Frame by frame; the first refusal leaves what was already taken. -/
def sendAll (mailbox : Mailbox) : List FrameKind → Mailbox × Bool
  | [] => (mailbox, true)
  | frame :: frames =>
    match mailbox.send frame with
    | none => (mailbox, false)
    | some mailbox => sendAll mailbox frames

end Mailbox

structure NativeBootstrapReply where
  frames : List FrameKind
  baseSeq : UInt64
  publicationCursor : Bytes

structure NativePublicationReply where
  replay : List (UInt64 × Bytes)
  live : List Delivery

inductive CaptureAnswer where
  | mailboxClosed
  | refused
  | captured (reply : NativeBootstrapReply)

/-- How the pane's actor answers during one turn, and how long the turn's sends and requests
keep the pump. -/
structure ActorReply where
  busy : Nat
  resyncAccepted : Bool
  capture : BootstrapId → CaptureAnswer
  activate : BootstrapId → Bytes → Option NativePublicationReply

structure OutputPumpContext where
  wireTerminalId : ResourceId
  streamId : StreamId
  initialBootstrapId : BootstrapId
  clientId : UInt64
  clientCaps : ClientCapabilities
  profile : BootstrapStreamProfile
  limits : BootstrapLimits
  downsampleForCaps : Bytes → ClientCapabilities → Bytes

structure PumpState where
  generation : PumpGeneration
  mailbox : Mailbox
  outputRx : List Delivery
  /-- The gap resyncs asked of the actor. -/
  requests : List ResyncTarget
  now : Nat

def PumpState.elapse (s : PumpState) (busy : Nat) : PumpState := { s with now := s.now + busy }

def chunkFrames (chunk : UInt32 → Bytes → FrameKind) (maxChunk : Nat) :
    Nat → UInt32 → Bytes → Option (List FrameKind × UInt32)
  | 0, seq, _ => some ([], seq)
  | fuel + 1, seq, payload =>
    if payload.isEmpty then some ([], seq)
    else if seq + 1 = 0 then none
    else do
      let (frames, next) ← chunkFrames chunk maxChunk fuel (seq + 1) (payload.drop maxChunk)
      return (chunk seq (payload.take maxChunk) :: frames, next)

def payloadFrames (chunk : UInt32 → Bytes → FrameKind) (maxChunk : Nat) :
    UInt32 → List Bytes → Option (List FrameKind)
  | _, [] => some []
  | seq, payload :: payloads => do
    let (frames, next) ← chunkFrames chunk maxChunk payload.length seq payload
    let rest ← payloadFrames chunk maxChunk next payloads
    return frames ++ rest

def synthesizedBootstrapFrames (terminalId : ResourceId) (streamId : StreamId)
    (bootstrapId : BootstrapId) (profile : BootstrapStreamProfile) (limits : BootstrapLimits)
    (cols rows : UInt16) (baseSeq : UInt64) (payloads : List Bytes) : Option (List FrameKind) := do
  let chunks ← payloadFrames (.bootstrapChunk terminalId streamId bootstrapId)
    limits.maxChunkBytes.toNat 0 payloads
  return .bootstrapBegin terminalId streamId bootstrapId profile cols rows baseSeq ::
    (chunks ++ [.bootstrapReady terminalId streamId bootstrapId none])

def tombstoneReasonFor : ResyncReason → TombstoneReason
  | .resize => .resize
  | .outboundGap => .outboundGap

structure ControlDisposition where
  targetsPump : Bool
  endsGeneration : Bool

namespace OutputPumpContext

variable (ctx : OutputPumpContext) (reply : ActorReply)
variable (s : PumpState)

def resyncTarget (generation : PumpGeneration) : ResyncTarget where
  owner := ctx.clientId
  streamId := ctx.streamId
  bootstrapId := generation.bootstrapId

def publishesNativeCheckpoints : Bool := ctx.profile == .nativeState .libghosttyCheckpointV2

def outputFrame (generation : PumpGeneration) (seq : UInt64) (bytes : Bytes) : FrameKind :=
  .resourceOutput ctx.wireTerminalId ctx.streamId generation.bootstrapId seq
    (ctx.downsampleForCaps bytes ctx.clientCaps)

def forwardGatedReplay (generation : PumpGeneration) (mailbox : Mailbox) :
    List (UInt64 × Bytes) → PumpGeneration × Mailbox × Bool
  | [] => (generation, mailbox, true)
  | (seq, bytes) :: replay =>
    if !generation.forwards seq then forwardGatedReplay generation mailbox replay
    else
      match mailbox.send (ctx.outputFrame generation seq bytes) with
      | none => (generation, mailbox, false)
      | some mailbox => forwardGatedReplay (generation.noteForwarded seq) mailbox replay

def forwardLive (seq : UInt64) (bytes : Bytes) : PumpState × Flow :=
  if !s.generation.forwards seq then (s, none)
  else
    match s.mailbox.send (ctx.outputFrame s.generation seq bytes) with
    | none => (s, some (some .outboundClosed))
    | some mailbox => ({ s with mailbox, generation := s.generation.noteForwarded seq }, none)

def classifyControl (frame : FrameKind) (bootstrapId : BootstrapId) : ControlDisposition :=
  match frame with
  | .bootstrapTombstone terminalId controlStreamId controlBootstrapId _ _ =>
    { targetsPump := terminalId == ctx.wireTerminalId && controlStreamId == ctx.streamId &&
        controlBootstrapId == bootstrapId
      endsGeneration := true }
  | .historyTombstone terminalId controlStreamId controlBootstrapId _ _ =>
    { targetsPump := terminalId == ctx.wireTerminalId && controlStreamId == ctx.streamId &&
        controlBootstrapId == bootstrapId
      endsGeneration := false }
  | _ => { targetsPump := false, endsGeneration := false }

def forwardControl (owner : UInt64) (frame : FrameKind) : PumpState × Flow :=
  if owner != ctx.clientId then (s, none)
  else
    let disposition := ctx.classifyControl frame s.generation.bootstrapId
    if !disposition.targetsPump then (s, none)
    else
      match s.mailbox.send frame with
      | none => (s, some (some .outboundClosed))
      | some mailbox =>
        let generation := if disposition.endsGeneration then s.generation.retire else s.generation
        ({ s with mailbox, generation }, none)

/-- Tombstone the live generation, publish its native replacement and adopt the receiver the
actor fenced it behind. -/
def republishNativeGeneration (priorBootstrapId : BootstrapId)
    (reason : ResyncReason) : PumpState × Flow :=
  let tombstoned :=
    if s.generation.generationActive then
      s.mailbox.send (.bootstrapTombstone ctx.wireTerminalId ctx.streamId priorBootstrapId
        (tombstoneReasonFor reason) s.generation.lastForwardedSeq)
    else some s.mailbox
  match tombstoned with
  | none => (s, some (some .tombstoneNotQueued))
  | some mailbox =>
    match reply.capture s.generation.bootstrapId with
    | .mailboxClosed => ({ s with mailbox }, some (some .generationLost))
    | .refused =>
      let told := mailbox.send (.error none .codecUnavailable "native checkpoint resync failed")
      ({ s with mailbox := told.getD mailbox }, some (some .generationLost))
    | .captured captured =>
      match mailbox.sendAll captured.frames with
      | (mailbox, false) => ({ s with mailbox }, some (some .generationLost))
      | (mailbox, true) =>
        match reply.activate s.generation.bootstrapId captured.publicationCursor with
        | none => ({ s with mailbox }, some (some .publicationNotActivated))
        | some publication =>
          let generation := s.generation.republishedAt captured.baseSeq s.now
          match ctx.forwardGatedReplay generation mailbox publication.replay with
          | (generation, mailbox, false) =>
            ({ s with generation, mailbox, outputRx := publication.live },
              some (some .replayAbandoned))
          | (generation, mailbox, true) =>
            ({ s with
                generation := generation.restartStalenessClock s.now
                mailbox
                outputRx := publication.live }, none)

def republishSynthesizedGeneration (cols rows : UInt16) (baseSeq : UInt64)
    (bytes : Bytes) : PumpState × Flow :=
  match synthesizedBootstrapFrames ctx.wireTerminalId ctx.streamId s.generation.bootstrapId
      ctx.profile ctx.limits cols rows baseSeq [ctx.downsampleForCaps bytes ctx.clientCaps] with
  | none => (s, some (some .outboundClosed))
  | some frames =>
    match s.mailbox.sendAll frames with
    | (mailbox, false) => ({ s with mailbox }, some (some .outboundClosed))
    | (mailbox, true) =>
      ({ s with mailbox, generation := s.generation.republishedAt baseSeq s.now }, none)

def republishGeneration (cols rows : UInt16) (reason : ResyncReason)
    (baseSeq : UInt64) (bytes : Bytes) : PumpState × Flow :=
  let prior := s.generation.bootstrapId
  let s := { s with generation := { s.generation with bootstrapId := nextBootstrapId prior } }
  if ctx.publishesNativeCheckpoints then ctx.republishNativeGeneration reply s prior reason
  else ctx.republishSynthesizedGeneration s cols rows baseSeq bytes

def applyResync (cols rows : UInt16) (reason : ResyncReason)
    (audience : ResyncAudience) (baseSeq : UInt64) (bytes : Bytes) : PumpState × Flow :=
  if !s.generation.takesResync audience (ctx.resyncTarget s.generation) then (s, none)
  else ctx.republishGeneration reply s cols rows reason baseSeq bytes

def failUnrecoverableGap : PumpState × Flow :=
  let told := s.mailbox.send
    (.error none .internalError "terminal output gap could not be resynchronized")
  ({ s with mailbox := told.getD s.mailbox }, some (some .generationLost))

/-- Ask the actor for a resync, or lose the generation if it does not take the request. -/
def enqueueOutputResync : PumpState × Flow :=
  let s := { s with generation := s.generation.noteResyncRequested }
  if reply.resyncAccepted then
    ({ s with requests := s.requests ++ [ctx.resyncTarget s.generation] }, none)
  else failUnrecoverableGap s

def requestGapResync : PumpState × Flow :=
  ctx.enqueueOutputResync reply { s with generation := s.generation.fenceForGap }

def retryGapResync : PumpState × Flow := ctx.enqueueOutputResync reply s

def abandonUnansweredGap : PumpState × Flow := failUnrecoverableGap s

/-- What the pump does with one result of its receiver. A chunk's age is taken before the turn's
sends and requests keep the pump. -/
def dispatch (received : Except RecvError PaneOutput) : PumpState × Flow :=
  let later := s.elapse reply.busy
  match received with
  | .ok (.live seq bytes readAt) =>
    if isStale (s.generation.chunkAge s.now readAt) && s.generation.forwards seq then
      ctx.requestGapResync reply later
    else ctx.forwardLive later seq bytes
  | .ok (.control owner frame) => ctx.forwardControl later owner frame
  | .ok (.resync cols rows reason audience baseSeq bytes) =>
    ctx.applyResync reply later cols rows reason audience baseSeq bytes
  | .error (.lagged _) => ctx.requestGapResync reply later
  | .error .closed => (later, some none)

def turn : PumpState × Flow :=
  match nextEvent s.generation s.outputRx s.now with
  | none => (s, none)
  | some (.event received, outputRx, now) => ctx.dispatch reply { s with outputRx, now } received
  | some (.retryResync, outputRx, now) =>
    ctx.retryGapResync reply (PumpState.elapse { s with outputRx, now } reply.busy)
  | some (.gapUnrecoverable, outputRx, now) => abandonUnansweredGap { s with outputRx, now }

end OutputPumpContext

structure OutputPumpStart where
  publishedCut : UInt64
  replay : List (UInt64 × Bytes)
  live : Option (List Delivery)

/-- The pump from its start, through as many turns as the actor gives replies for. -/
def runOutputPump (ctx : OutputPumpContext) (start : OutputPumpStart) (outputRx : List Delivery)
    (room now : Nat) (replies : List ActorReply) : PumpState × Flow :=
  let generation := PumpGeneration.openedAt start.publishedCut ctx.initialBootstrapId now
  let outputRx := start.live.getD outputRx
  match ctx.forwardGatedReplay generation ⟨[], room⟩ start.replay with
  | (generation, mailbox, false) =>
    (⟨generation, mailbox, outputRx, [], now⟩, some (some .replayAbandoned))
  | (generation, mailbox, true) =>
    Loop.run ctx.turn replies
      ⟨generation.restartStalenessClock now, mailbox, outputRx, [], now⟩

/-- A fully capable client on pane 1, whose output is passed through as it is. -/
def OutputPumpContext.rawAttach : OutputPumpContext where
  wireTerminalId := .local 1
  streamId := ⟨1, one_raw_ne⟩
  initialBootstrapId := ⟨1, one_raw_ne⟩
  clientId := 1
  clientCaps := .new
  profile := .synthesizedVtRaw
  limits := default
  downsampleForCaps := fun bytes _ => bytes

def ActorReply.silent : ActorReply where
  busy := 0
  resyncAccepted := true
  capture := fun _ => .refused
  activate := fun _ _ => none

end Phux
