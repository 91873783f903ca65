import Phux.AgentStream
import Phux.Counters
import Phux.Machine
import Phux.Pump

/-! The server's agent session: producer records are validated, stamped, retained
in a bounded ring and broadcast, and an attaching client is sent the ring and then
the live batches. -/

namespace Phux

open ByteReader

variable (json : JsonCodec) (s : AgentSession)

def recordTypes : List String :=
  ["session_start", "prompt", "tool_start", "tool_end", "notification", "ask", "stop",
    "session_end", "state", "provider_raw"]

inductive StreamEvidence where
  | working | blocked | done | retract
deriving DecidableEq

inductive RecordError where
  | empty
  | notUtf8
  | oversized (len : Nat)
  | notAnObject
  | missingType
  | unknownType (found : String)
  | dataNotObject
  | afterSessionEnd
deriving DecidableEq

structure StreamAsk where
  id : String
  question : String
  suggestions : List String
deriving DecidableEq

structure ValidRecord where
  recordType : String
  data : List (String × JsonValue)

namespace ValidRecord

def dataStr (record : ValidRecord) (field : String) : Option String :=
  record.data.lookup field >>= JsonValue.asStr

def evidence (record : ValidRecord) : Option StreamEvidence :=
  match record.recordType with
  | "prompt" | "tool_start" => some .working
  | "ask" => some .blocked
  | "notification" =>
    match record.dataStr "kind" with
    | some "permission" | some "elicitation" => some .blocked
    | _ => none
  | "stop" => some .done
  | "session_end" => some .retract
  | "state" =>
    match record.dataStr "state" with
    | some "working" => some .working
    | some "blocked" => some .blocked
    | some "done" => some .done
    | _ => none
  | _ => none

def ask (record : ValidRecord) : Option StreamAsk :=
  if record.evidence ≠ some .blocked then none
  else
    match record.dataStr "question" with
    | none => none
    | some question =>
      if question.isEmpty then none
      else some {
        id := (record.dataStr "id").getD ""
        question
        suggestions :=
          (((record.data.lookup "suggestions" >>= JsonValue.asArray).map
            (·.filterMap JsonValue.asStr))).getD [] }

def endsSession (record : ValidRecord) : Bool := record.recordType = "session_end"

def stamp (json : JsonCodec) (record : ValidRecord) (seq tsMs : UInt64) : Bytes :=
  strBytes "\x7b\"seq\":" ++ decimal seq ++ strBytes ",\"ts_ms\":" ++ decimal tsMs ++
    strBytes ",\"type\":" ++ json.print (.string record.recordType) ++
    strBytes ",\"data\":" ++ json.print (.object record.data) ++ strBytes "\x7d\n"

end ValidRecord

inductive AppendRejection where
  | invalid (error : RecordError)
  | overflow (message : String)
  | closed
deriving DecidableEq

structure AppendAccepted where
  firstSeq : UInt64
  lastSeq : UInt64
  tsMs : UInt64
  evidence : Option StreamEvidence
  ask : Option StreamAsk
deriving DecidableEq

structure AgentSessionBootstrap where
  baseSeq : UInt64
  records : List Bytes
  dropped : UInt64
deriving DecidableEq

structure RecordRing where
  records : List Bytes
  bytes : Nat
  ceiling : Nat
  dropped : UInt64
deriving DecidableEq

namespace RecordRing

def new (ceiling : Nat) : RecordRing := ⟨[], 0, ceiling, 0⟩

/-- Evict the oldest records while the ring is over its ceiling and holds two. -/
def prune (ceiling : Nat) : List Bytes → Nat → UInt64 → RecordRing
  | [], bytes, dropped => ⟨[], bytes, ceiling, dropped⟩
  | [record], bytes, dropped => ⟨[record], bytes, ceiling, dropped⟩
  | evicted :: next :: records, bytes, dropped =>
    if ceiling < bytes then
      prune ceiling (next :: records) (bytes - evicted.length) (saturatingNext64 dropped)
    else ⟨evicted :: next :: records, bytes, ceiling, dropped⟩

def push (ring : RecordRing) (record : Bytes) : RecordRing :=
  prune ring.ceiling (ring.records ++ [record]) (ring.bytes + record.length) ring.dropped

end RecordRing

/-- One append: the producer's bytes and the two clocks the engine reads. -/
structure AppendRequest where
  bytes : Bytes
  nowMs : UInt64
  instant : Nat
deriving DecidableEq

structure AgentSession where
  seq : UInt64
  ring : RecordRing
  ended : Bool
deriving DecidableEq

/-- What an append leaves behind: the session, the broadcast and the reply. -/
structure AppendOutcome where
  session : AgentSession
  output : Option PaneOutput
  reply : Except AppendRejection AppendAccepted

namespace AgentSession

def maxRecordBytes : Nat := 16 * 1024

def build (logBytes : UInt32) : AgentSession := ⟨0, .new logBytes.toNat, false⟩

def isRecordPadding (b : UInt8) : Bool := b = 13 || b = 32 || b = 9

def parseRecord (json : JsonCodec) (line : Bytes) : Except RecordError ValidRecord :=
  match json.parse line with
  | .ok (.object members) =>
    match members.lookup "type" >>= JsonValue.asStr with
    | none => .error .missingType
    | some recordType =>
      if recordType ∉ recordTypes then
        .error (.unknownType (String.ofList (recordType.toList.take 64)))
      else
        match members.lookup "data" with
        | none => .ok ⟨recordType, []⟩
        | some .null => .ok ⟨recordType, []⟩
        | some (.object data) => .ok ⟨recordType, data⟩
        | some _ => .error .dataNotObject
  | _ => .error .notAnObject

def validateLines (json : JsonCodec) : Bool → List Bytes → Except RecordError (List ValidRecord)
  | _, [] => .ok []
  | ended, line :: lines =>
    let line := trimMatches isRecordPadding line
    if line = [] then validateLines json ended lines
    else if maxRecordBytes < line.length then .error (.oversized line.length)
    else if ended then .error .afterSessionEnd
    else do
      let record ← parseRecord json line
      let records ← validateLines json record.endsSession lines
      return record :: records

def validate (json : JsonCodec) (bytes : Bytes) (alreadyEnded : Bool) :
    Except RecordError (List ValidRecord) :=
  match fromUtf8 bytes with
  | none => .error .notUtf8
  | some _ => do
    let records ← validateLines json alreadyEnded (bytes.splitOn 10)
    if records = [] then throw .empty
    return records

def admitBatch (bytes : Bytes) : Except AppendRejection (List ValidRecord × UInt64 × UInt64) :=
  match validate json bytes s.ended with
  | .error error => .error (.invalid error)
  | .ok records =>
    match checkedNext64 s.seq with
    | none => .error (.overflow "the session's sequence space is exhausted")
    | some firstSeq =>
      match checkedAdd64 firstSeq (records.length - 1) with
      | none => .error (.overflow "the session's sequence space is exhausted")
      | some lastSeq => .ok (records, firstSeq, lastSeq)

structure Appended where
  session : AgentSession
  payload : Bytes
  evidence : Option StreamEvidence
  ask : Option StreamAsk

def appendRecords (json : JsonCodec) (tsMs : UInt64) : Appended → List ValidRecord → Appended
  | run, [] => run
  | run, entry :: entries =>
    match checkedNext64 run.session.seq with
    | none => run
    | some seq =>
      let line := entry.stamp json seq tsMs
      appendRecords json tsMs {
        session := ⟨seq, run.session.ring.push line, run.session.ended || entry.endsSession⟩
        payload := run.payload ++ line
        evidence := entry.evidence.or run.evidence
        ask := entry.ask.or run.ask } entries

def handleAppend (request : AppendRequest) : AppendOutcome :=
  match s.admitBatch json request.bytes with
  | .error rejection => ⟨s, none, .error rejection⟩
  | .ok (records, firstSeq, lastSeq) =>
    let run := appendRecords json request.nowMs ⟨s, [], none, none⟩ records
    ⟨run.session, some (.live lastSeq run.payload request.instant),
      .ok ⟨firstSeq, lastSeq, request.nowMs, run.evidence, run.ask⟩⟩

def bootstrap (s : AgentSession) : AgentSessionBootstrap :=
  ⟨s.seq, s.ring.records, s.ring.dropped⟩

def afterAppend (request : AppendRequest) : AgentSession :=
  (s.handleAppend json request).session

def run (requests : List AppendRequest) : AgentSession :=
  Machine.run (afterAppend json) s requests

def outputs (json : JsonCodec) : AgentSession → List AppendRequest → List PaneOutput
  | _, [] => []
  | s, request :: requests =>
    (s.handleAppend json request).output.toList ++ outputs json (s.afterAppend json request) requests

/-- The lines an admitted batch is stamped into, from the sequence number before it. -/
def stampLines (json : JsonCodec) (tsMs : UInt64) : UInt64 → List ValidRecord → List Bytes
  | _, [] => []
  | seq, entry :: entries =>
    match checkedNext64 seq with
    | none => []
    | some seq => entry.stamp json seq tsMs :: stampLines json tsMs seq entries

def stamped (request : AppendRequest) : List Bytes :=
  match s.admitBatch json request.bytes with
  | .error _ => []
  | .ok (records, _, _) => stampLines json request.nowMs s.seq records

def stampedRun (json : JsonCodec) : AgentSession → List AppendRequest → List Bytes
  | _, [] => []
  | s, request :: requests =>
    s.stamped json request ++ stampedRun json (s.afterAppend json request) requests

end AgentSession

def recordChunks (frame : UInt32 → Bytes → FrameKind) (budget : Nat) :
    UInt32 → Bytes → List Bytes → List FrameKind
  | chunkSeq, payload, [] => if payload = [] then [] else [frame chunkSeq payload]
  | chunkSeq, payload, record :: records =>
    if payload ≠ [] ∧ budget < payload.length + record.length then
      frame chunkSeq payload ::
        recordChunks frame budget (saturatingNext32 chunkSeq) record records
    else recordChunks frame budget chunkSeq (payload ++ record) records

/-- A cut's frames: BEGIN, the retained records in chunks of whole records, READY. -/
def bootstrapFrames (t : ResourceId) (stream : StreamId) (bootstrap : BootstrapId)
    (cut : AgentSessionBootstrap) (limits : BootstrapLimits) : List FrameKind :=
  .bootstrapBegin t stream bootstrap .agentEventsJsonlV1 0 0 cut.baseSeq ::
    (recordChunks (.bootstrapChunk t stream bootstrap) limits.maxChunkBytes.toNat 0 [] cut.records ++
      [.bootstrapReady t stream bootstrap none])

def livePump (t : ResourceId) (stream : StreamId) (bootstrap : BootstrapId) (baseSeq : UInt64) :
    List (Except RecvError PaneOutput) → List FrameKind
  | [] => []
  | .ok (.live seq bytes _) :: received =>
    if seq ≤ baseSeq then livePump t stream bootstrap baseSeq received
    else
      .resourceOutput t stream bootstrap seq bytes :: livePump t stream bootstrap baseSeq received
  | .ok _ :: received => livePump t stream bootstrap baseSeq received
  | .error (.lagged _) :: received => livePump t stream bootstrap baseSeq received
  | .error .closed :: _ => []

/-- Everything an attaching client is sent: it subscribes, `between` is appended, the
cut is taken, and `later` is appended. -/
def attachAgentSession (between later : List AppendRequest)
    (t : ResourceId) (stream : StreamId) (bootstrap : BootstrapId) (limits : BootstrapLimits) :
    List FrameKind :=
  let cut := (s.run json between).bootstrap
  bootstrapFrames t stream bootstrap cut limits ++
    livePump t stream bootstrap cut.baseSeq ((s.outputs json (between ++ later)).map .ok)

end Phux
