import Phux.Frame
import Phux.Machine
import Phux.ServerState
import Mathlib.Data.List.AList

/-! The input lane's acknowledged path: admission, the dedupe cache, the lane thread and
the completion waiter, interleaved with the panes that take the encoded bytes. -/

namespace Phux.InputLane

open ByteReader

variable (s : Lane)

def dedupeMaxEntries : Nat := 65536

def dedupeRetention : Nat := 10 * 60 * 1000000000

def acknowledgedCompletionTimeout : Nat := 5 * 1000000000

def inputLaneCapacity : Nat := 1024

def invalidCommand (message : String) : CommandResult := .error .invalidCommand message

def acknowledgedResourceExhausted (message : String) : CommandResult :=
  .error .resourceExhausted message

def acknowledgedNotWritten (message : String) : CommandResult := .error .inputNotWritten message

/-- What a decoded APPLY_INPUT asks for; the decoder lets no larger body through. -/
structure ApplyInput where
  operationId : InputOperationId
  terminalId : ResourceId
  events : List InputEvent
  fits : (encodeCommand (.applyInput operationId terminalId events)).length ≤
    maxApplyInputCommandBody

def operationDigest (ext : External) (sha256 : Bytes → Bytes) (input : ApplyInput) : Bytes :=
  sha256 (encode ext (.command 0 (.applyInput input.operationId input.terminalId input.events)))

/-! ### The dedupe cache -/

/-- `binding` numbers the insertions, so that two entries of one id can be told apart. -/
structure CachedOperation where
  digest : Bytes
  result : Option CommandResult
  insertedAt : Nat
  binding : Nat

inductive CacheBinding where
  | new
  | pending
  | final (result : CommandResult)
  | conflict
  | full

abbrev Entries := AList fun _ : InputOperationId => CachedOperation

structure OperationCache where
  entries : Entries
  expiry : List (Nat × InputOperationId)
  bindings : Nat

namespace OperationCache

def empty : OperationCache := ⟨∅, [], 0⟩

/-- Remove the entry that this record of the expiry queue was pushed with. -/
def dropRecord (entries : Entries) (insertedAt : Nat) (id : InputOperationId) : Entries :=
  if (entries.lookup id).any (·.insertedAt = insertedAt) then entries.erase id else entries

def pruneLoop (now : Nat) : List (Nat × InputOperationId) → Entries →
    Entries × List (Nat × InputOperationId)
  | [], entries => (entries, [])
  | (insertedAt, id) :: rest, entries =>
    if dedupeRetention ≤ now - insertedAt then
      pruneLoop now rest (dropRecord entries insertedAt id)
    else (entries, (insertedAt, id) :: rest)

def pruneExpired (cache : OperationCache) (now : Nat) : OperationCache :=
  { cache with
    entries := (pruneLoop now cache.expiry cache.entries).1
    expiry := (pruneLoop now cache.expiry cache.entries).2 }

def isFull (cache : OperationCache) : Bool := dedupeMaxEntries ≤ cache.entries.entries.length

def bindPruned (cache : OperationCache) (id : InputOperationId) (digest : Bytes)
    (admittedAt : Nat) : CacheBinding × OperationCache :=
  match cache.entries.lookup id with
  | some cached =>
    if cached.digest ≠ digest then (.conflict, cache)
    else (cached.result.elim .pending .final, cache)
  | none =>
    if cache.isFull then (.full, cache)
    else (.new,
      { entries := cache.entries.insert id ⟨digest, none, admittedAt, cache.bindings⟩
        expiry := cache.expiry ++ [(admittedAt, id)]
        bindings := cache.bindings + 1 })

def bindAt (cache : OperationCache) (id : InputOperationId) (digest : Bytes) (admittedAt : Nat) :
    CacheBinding × OperationCache :=
  (cache.pruneExpired admittedAt).bindPruned id digest admittedAt

def setFinal (cache : OperationCache) (id : InputOperationId) (result : CommandResult) :
    OperationCache :=
  match cache.entries.lookup id with
  | some cached =>
    { cache with entries := cache.entries.insert id { cached with result := some result } }
  | none => cache

end OperationCache

/-! ### Messages between the threads -/

/-- An admitted operation: the call's arguments, the instant of its reservation and the
call that awaits its reply. -/
structure Acknowledged where
  clientId : Server.ClientId
  input : ApplyInput
  admittedAt : Nat
  reply : Nat

/-- What the lane's queue holds. Input that nobody awaits an outcome of passes through. -/
inductive RoutedInput where
  | fireAndForget (clientId : Server.ClientId) (terminalId : ResourceId) (event : InputEvent)
  | acknowledged (op : Acknowledged)

structure PendingCompletion where
  ticket : Nat
  operationId : InputOperationId
  deadline : Nat
  terminalId : ResourceId
  reply : Nat

inductive WriteCompletion where
  | delivered
  | canonicalLimitExceeded (limit : Nat)
  | failed
  | notWritten

inductive WaiterMessage where
  | registered (pending : PendingCompletion)
  | completed (ticket : Nat) (outcome : WriteCompletion)
  | abandoned (ticket : Nat) (result : CommandResult)
  | shutdown

/-- What the waiter has still to do in this turn of its loop. Finalizing takes two steps,
since other threads run between the cache's lock and the admission's. -/
inductive WaiterTask where
  | finalize (pending : PendingCompletion) (result : CommandResult)
  | release (pending : PendingCompletion) (result : CommandResult)
  | handle (message : WaiterMessage)

/-- Encoded bytes on their way to a PTY writer, with the operation and the cache entry
they were encoded for. -/
structure EncodedInputRequest where
  op : Acknowledged
  ticket : Nat
  binding : Nat
  bytes : Bytes

def EncodedInputRequest.pending (request : EncodedInputRequest) (now : Nat) : PendingCompletion where
  ticket := request.ticket
  operationId := request.op.input.operationId
  deadline := now + acknowledgedCompletionTimeout
  terminalId := request.op.input.terminalId
  reply := request.op.reply

inductive Turn where
  | idle
  | preparing (op : Acknowledged) (ticket : Nat)
  | bound (op : Acknowledged) (ticket binding : Nat)
  | prepared (request : EncodedInputRequest)
  | registered (request : EncodedInputRequest)

def completionResult : WriteCompletion → CommandResult
  | .delivered => .ok
  | .canonicalLimitExceeded limit => .error .canonicalLimitExceeded
      ("the pane is in canonical (cooked) mode and this batch's encoded PTY bytes contain a line longer than "
        ++ toString limit ++
        " bytes with no line terminator; split it into newline-terminated lines, or have the pane enter raw mode (e.g. run a program that disables ICANON) before sending it")
  | .failed => .error .inputDeliveryUnknown "PTY input delivery could not be confirmed"
  | .notWritten =>
    .error .inputNotWritten "PTY input was not written; the pane's writer never received it"

def deliveryUnknown : CommandResult := completionResult .failed

/-! ### Preparing a batch -/

/-- What the lane finds when it looks the pane up and encodes for it. -/
structure PaneView where
  destination : Except CommandResult Unit
  encoderReady : Bool
  wouldReject : PasteEvent → Bool
  encode : InputEvent → Except Unit (Option Bytes)

namespace PaneView

def rejects (view : PaneView) : InputEvent → Bool
  | .paste event => view.wouldReject event
  | _ => false

def encodeLoop (view : PaneView) : List InputEvent → Bytes → Except CommandResult Bytes
  | [], bytes => .ok bytes
  | event :: events, bytes =>
    match view.encode event with
    | .ok (some eventBytes) =>
      if maxApplyInputCommandBody < bytes.length + eventBytes.length then
        .error (invalidCommand "APPLY_INPUT encoded PTY bytes exceed 64 KiB")
      else view.encodeLoop events (bytes ++ eventBytes)
    | .ok none => view.encodeLoop events bytes
    | .error () => .error (invalidCommand "APPLY_INPUT event encoding failed")

/-- The rest of `prepare_acknowledged_batch`, once the cache has bound the operation. -/
def prepare (view : PaneView) (events : List InputEvent) : Except CommandResult Bytes := do
  view.destination
  if !view.encoderReady then
    throw (invalidCommand "APPLY_INPUT encoder unavailable")
  if events.any view.rejects then
    throw (.error .unsafePaste "APPLY_INPUT batch contains an unsafe paste")
  view.encodeLoop events []

end PaneView

inductive Handoff where
  | sent
  | refused (result : CommandResult)
  | changed
  | full
  | closed

/-! ### The lane -/

structure Lane where
  inFlight : List ResourceId
  queue : List RoutedInput
  turn : Turn
  tickets : Nat
  cache : OperationCache
  /-- The waiter's channel, oldest first. -/
  messages : List WaiterMessage
  waiting : Bool
  tasks : List WaiterTask
  /-- By deadline, then ticket. -/
  pending : List PendingCompletion
  mailbox : List EncodedInputRequest
  /-- Requests that a PTY writer holds and has not reported on. -/
  writing : List EncodedInputRequest
  /-- Every request that was ever handed to a PTY writer. -/
  handed : List EncodedInputRequest
  calls : Nat
  answers : List (Nat × CommandResult)

namespace Lane

def spawn : Lane := ⟨[], [], .idle, 0, .empty, [], true, [], [], [], [], [], 0, []⟩

def answer (reply : Nat) (result : CommandResult) : Lane :=
  { s with answers := s.answers ++ [(reply, result)] }

def release (terminalId : ResourceId) : Lane :=
  { s with inFlight := s.inFlight.erase terminalId }

def applyInput (clientId : Server.ClientId) (input : ApplyInput) (now : Nat) : Lane :=
  let s' := { s with calls := s.calls + 1 }
  if input.terminalId ∈ s.inFlight then
    s'.answer s.calls (acknowledgedResourceExhausted
      "another APPLY_INPUT operation is in flight for this terminal")
  else if inputLaneCapacity ≤ s.queue.length then
    s'.answer s.calls (acknowledgedResourceExhausted "input lane queue is full")
  else
    { s' with
      inFlight := input.terminalId :: s.inFlight
      queue := s.queue ++ [.acknowledged ⟨clientId, input, now, s.calls⟩] }

def route (clientId : Server.ClientId) (terminalId : ResourceId) (event : InputEvent) : Lane :=
  if inputLaneCapacity ≤ s.queue.length then s
  else { s with queue := s.queue ++ [.fireAndForget clientId terminalId event] }

def take : Lane :=
  match s.turn, s.queue with
  | .idle, .fireAndForget _ _ _ :: rest => { s with queue := rest }
  | .idle, .acknowledged op :: rest =>
    { s with queue := rest, turn := .preparing op (s.tickets + 1), tickets := s.tickets + 1 }
  | _, _ => s

def refuse (op : Acknowledged) (result : CommandResult) : Lane :=
  { (s.release op.input.terminalId).answer op.reply result with turn := .idle }

/-- The first half of `prepare_acknowledged_batch`, up to the cache's answer. -/
def bindBatch (digest : ApplyInput → Bytes) (s : Lane) (op : Acknowledged) (ticket : Nat) : Lane :=
  if op.input.events = [] ∨ maxApplyInputEvents < op.input.events.length then
    s.refuse op (invalidCommand "APPLY_INPUT requires 1..=256 events")
  else
    let bound := s.cache.bindAt op.input.operationId (digest op.input) op.admittedAt
    let s' := { s with cache := bound.2 }
    match bound.1 with
    | .final result => s'.refuse op result
    | .conflict =>
      s'.refuse op (invalidCommand "APPLY_INPUT operation id reused with a different payload")
    | .full =>
      s'.refuse op (acknowledgedResourceExhausted "acknowledged-input dedupe cache is full")
    | .new | .pending =>
      { s' with
        turn := .bound op ticket
          ((bound.2.entries.lookup op.input.operationId).elim 0 (·.binding)) }

def bind (digest : ApplyInput → Bytes) (s : Lane) : Lane :=
  match s.turn with
  | .preparing op ticket => s.bindBatch digest op ticket
  | _ => s

def encode (view : PaneView) : Lane :=
  match s.turn with
  | .bound op ticket binding =>
    match view.prepare op.input.events with
    | .ok bytes => { s with turn := .prepared ⟨op, ticket, binding, bytes⟩ }
    | .error result => s.refuse op result
  | _ => s

def notify (messages : List WaiterMessage) : Lane :=
  if s.waiting then { s with messages := s.messages ++ messages } else s

def register (now : Nat) : Lane :=
  match s.turn with
  | .prepared request =>
    if s.waiting then
      { s.notify [.registered (request.pending now)] with
        turn := .registered request }
    else
      s.refuse request.op (acknowledgedNotWritten
        "acknowledged completion waiter unavailable for APPLY_INPUT")
  | _ => s

/-- What the waiter is told of a handoff. A request that the mailbox gives back is dropped
between two notices of its abandonment, and its sink reports the drop. -/
def handoffNotices (ticket : Nat) : Handoff → List WaiterMessage
  | .sent => []
  | .refused result => [.abandoned ticket result]
  | .changed =>
    [.abandoned ticket (acknowledgedNotWritten "pane actor changed before APPLY_INPUT handoff")]
  | .full =>
    [.abandoned ticket (acknowledgedResourceExhausted "pane actor input mailbox is full"),
      .completed ticket .failed,
      .abandoned ticket (acknowledgedResourceExhausted "pane actor input mailbox is full")]
  | .closed =>
    [.abandoned ticket (acknowledgedNotWritten "pane actor unavailable for APPLY_INPUT"),
      .completed ticket .failed,
      .abandoned ticket (acknowledgedNotWritten "pane actor unavailable for APPLY_INPUT")]

def handoff (outcome : Handoff) : Lane :=
  match s.turn with
  | .registered request =>
    let s' := { s.notify (handoffNotices request.ticket outcome) with turn := .idle }
    match outcome with
    | .sent => { s' with mailbox := s.mailbox ++ [request] }
    | _ => s'
  | _ => s

/-! The waiter. -/

def Before (p q : PendingCompletion) : Prop :=
  p.deadline < q.deadline ∨ p.deadline = q.deadline ∧ p.ticket ≤ q.ticket

instance : DecidableRel Before := fun p q =>
  inferInstanceAs (Decidable (p.deadline < q.deadline ∨ p.deadline = q.deadline ∧ p.ticket ≤ q.ticket))

/-- One round of `run_waiter` up to its message: operations past their deadline come first. -/
def wakeWith (message : List WaiterMessage) (now : Nat) : Lane :=
  { s with
    pending := s.pending.dropWhile (·.deadline ≤ now)
    tasks := (s.pending.takeWhile (·.deadline ≤ now)).map (.finalize · deliveryUnknown) ++
      message.map .handle }

def wake (received : Bool) (now : Nat) : Lane :=
  if s.waiting ∧ s.tasks.isEmpty then
    if received then
      match s.messages with
      | message :: rest => { s with messages := rest }.wakeWith [message] now
      | [] => s
    else if s.pending.isEmpty then s
    else s.wakeWith [] now
  else s

def registeredOf : WaiterMessage → Option PendingCompletion
  | .registered pending => some pending
  | _ => none

/-- The waiter's return drops the pending set and what is left on its channel. -/
def stopWaiter : Lane :=
  let dropped := s.pending ++ s.messages.filterMap registeredOf
  { s with
    waiting := false
    messages := []
    pending := []
    inFlight := s.inFlight.diff (dropped.map (·.terminalId))
    answers := s.answers ++ dropped.map fun p => (p.reply,
      .error .internalError "input lane stopped before APPLY_INPUT completed") }

/-- `PendingSet::take`, then what is to be done with the operation it finds. -/
def takePending (ticket : Nat) (next : PendingCompletion → WaiterTask) : Lane :=
  match s.pending.find? (·.ticket = ticket) with
  | some pending =>
    { s with
      pending := s.pending.eraseP (·.ticket = ticket)
      tasks := next pending :: s.tasks }
  | none => s

def handleMessage : WaiterMessage → Lane
  | .registered pending => { s with pending := s.pending.orderedInsert Before pending }
  | .completed ticket outcome => s.takePending ticket (.finalize · (completionResult outcome))
  | .abandoned ticket result => s.takePending ticket (.release · result)
  | .shutdown => s.stopWaiter

def work : Lane :=
  match s.tasks with
  | .finalize pending result :: rest =>
    { s with
      cache := s.cache.setFinal pending.operationId result
      tasks := .release pending result :: rest }
  | .release pending result :: rest =>
    ({ s with tasks := rest }.release pending.terminalId).answer pending.reply result
  | .handle message :: rest => { s with tasks := rest }.handleMessage message
  | [] => s

/-! The panes. -/

/-- `service_encoded_input`: the pane hands a request to its writer, or has none that takes it. -/
def forward (ticket : Nat) (accepted : Bool) : Lane :=
  match s.mailbox.find? (·.ticket = ticket) with
  | some request =>
    let s' := { s with mailbox := s.mailbox.eraseP (·.ticket = ticket) }
    if accepted then
      { s' with writing := s.writing ++ [request], handed := s.handed ++ [request] }
    else s'.notify [.completed ticket .notWritten]
  | none => s

def report (ticket : Nat) (outcome : WriteCompletion) : Lane :=
  if s.writing.any (·.ticket = ticket) then
    { s with writing := s.writing.eraseP (·.ticket = ticket) }.notify [.completed ticket outcome]
  else s

def discard (ticket : Nat) : Lane :=
  if s.mailbox.any (·.ticket = ticket) then
    { s with mailbox := s.mailbox.eraseP (·.ticket = ticket) }.notify [.completed ticket .failed]
  else s

end Lane

inductive Step where
  | applyInput (clientId : Server.ClientId) (input : ApplyInput) (now : Nat)
  | route (clientId : Server.ClientId) (terminalId : ResourceId) (event : InputEvent)
  | take
  | bind
  | encode (view : PaneView)
  | register (now : Nat)
  | handoff (outcome : Handoff)
  | wake (received : Bool) (now : Nat)
  | work
  | forward (ticket : Nat) (accepted : Bool)
  | report (ticket : Nat) (outcome : WriteCompletion)
  | discard (ticket : Nat)
  | shutdown

def Lane.next (digest : ApplyInput → Bytes) (s : Lane) : Step → Lane
  | .applyInput clientId input now => s.applyInput clientId input now
  | .route clientId terminalId event => s.route clientId terminalId event
  | .take => s.take
  | .bind => s.bind digest
  | .encode view => s.encode view
  | .register now => s.register now
  | .handoff outcome => s.handoff outcome
  | .wake received now => s.wake received now
  | .work => s.work
  | .forward ticket accepted => s.forward ticket accepted
  | .report ticket outcome => s.report ticket outcome
  | .discard ticket => s.discard ticket
  | .shutdown => s.notify [.shutdown]

def Lane.after (digest : ApplyInput → Bytes) (steps : List Step) : Lane :=
  Machine.run (Lane.next digest) .spawn steps

end Phux.InputLane
