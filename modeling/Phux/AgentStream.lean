import Phux.Json

/-! Agent session records as a client reads them: JSON lines, the session state
they fold into, and the bounded log of the newest ones. -/

namespace Phux

open ByteReader

def maxRecordBytes : Nat := 16 * 1024

def defaultLogCapacity : Nat := 512

inductive AgentEventKind where
  | sessionStart | prompt | toolStart | toolEnd | notification | ask | stop | sessionEnd
  | state | providerRaw
  | unknown (word : String)
deriving DecidableEq

def AgentEventKind.parse : String → AgentEventKind
  | "session_start" => sessionStart
  | "prompt" => prompt
  | "tool_start" => toolStart
  | "tool_end" => toolEnd
  | "notification" => notification
  | "ask" => ask
  | "stop" => stop
  | "session_end" => sessionEnd
  | "state" => state
  | "provider_raw" => providerRaw
  | other => unknown other

structure AgentEventRecord where
  seq : UInt64
  tsMs : UInt64
  kind : AgentEventKind
  data : JsonValue

def AgentEventRecord.dataStr (record : AgentEventRecord) (field : String) : Option String :=
  record.data.get field >>= JsonValue.asStr

inductive AgentRecordError where
  | oversize (bytes : Nat)
  | json (message : String)
  | notAnObject
  | missingField (field : String)
deriving DecidableEq

def recordData (members : List (String × JsonValue)) : Except AgentRecordError JsonValue :=
  match members.lookup "data" with
  | none => .ok (.object [])
  | some .null => .ok (.object [])
  | some (.object data) => .ok (.object data)
  | some _ => .error (.missingField "data")

def recordField {α : Type} (field : String) (value : Option α) : Except AgentRecordError α :=
  match value with
  | none => .error (.missingField field)
  | some a => .ok a

def parseRecord (json : JsonCodec) (line : Bytes) : Except AgentRecordError AgentEventRecord :=
  match json.parse line with
  | .error message => .error (.json message)
  | .ok (.object members) => do
    let seq ← recordField "seq" (members.lookup "seq" >>= JsonValue.asU64)
    let tsMs ← recordField "ts_ms" (members.lookup "ts_ms" >>= JsonValue.asU64)
    let word ← recordField "type" (members.lookup "type" >>= JsonValue.asStr)
    let data ← recordData members
    return { seq, tsMs, kind := .parse word, data }
  | .ok _ => .error .notAnObject

def parseLine (json : JsonCodec) (line : Bytes) :
    Except AgentRecordError (Option AgentEventRecord) :=
  let line := trimAscii line
  if line = [] then .ok none
  else if maxRecordBytes < line.length then .error (.oversize line.length)
  else (parseRecord json line).map some

def parseLines (json : JsonCodec) : List Bytes → Except AgentRecordError (List AgentEventRecord)
  | [] => .ok []
  | line :: lines => do
    let record ← parseLine json line
    let records ← parseLines json lines
    return record.toList ++ records

def parseRecords (json : JsonCodec) (bytes : Bytes) :
    Except AgentRecordError (List AgentEventRecord) :=
  parseLines json (bytes.splitOn 10)

inductive AgentSessionStatus where
  | unknown | idle | working | blocked | done | ended
deriving DecidableEq

def AgentSessionStatus.parse : String → AgentSessionStatus
  | "idle" => idle
  | "working" => working
  | "blocked" => blocked
  | "done" => done
  | _ => unknown

structure AgentSessionState where
  provider : Option String
  nativeId : Option String
  status : AgentSessionStatus
deriving DecidableEq

namespace AgentSessionState

def default : AgentSessionState := ⟨none, none, .unknown⟩

def fold (state : AgentSessionState) (record : AgentEventRecord) : AgentSessionState :=
  match record.kind with
  | .sessionStart =>
    { provider := (record.dataStr "provider").or state.provider
      nativeId := (record.dataStr "native_id").or state.nativeId
      status := if state.status = .ended then .unknown else state.status }
  | .prompt | .toolStart => { state with status := .working }
  | .ask => { state with status := .blocked }
  | .notification =>
    if record.dataStr "kind" = some "permission" ∨ record.dataStr "kind" = some "elicitation" then
      { state with status := .blocked }
    else state
  | .stop => { state with status := .done }
  | .sessionEnd => { state with status := .ended }
  | .state =>
    match record.dataStr "state" with
    | some word => { state with status := .parse word }
    | none => state
  | .toolEnd | .providerRaw | .unknown _ => state

end AgentSessionState

structure AgentLog where
  records : List AgentEventRecord
  capacity : Nat

namespace AgentLog

def withCapacity (capacity : Nat) : AgentLog := ⟨[], max capacity 1⟩

def default : AgentLog := withCapacity defaultLogCapacity

def push (log : AgentLog) (record : AgentEventRecord) : AgentLog :=
  { log with
    records :=
      (if log.records.length = log.capacity then log.records.tail else log.records) ++ [record] }

def clear (log : AgentLog) : AgentLog := { log with records := [] }

end AgentLog

end Phux
