import Phux.Command
import Phux.Machine
import Phux.ServerState

/-! Input leases over one satellite terminal, as a hub arbitrates them between its own
consumers. The satellite sees one client; the hub asks its ledger, relays, and writes the ledger
when the reply is back. -/

namespace Phux.HubLease

open Server (ClientId)

variable (s : Hub) (client : ClientId)

def relayMailbox : Nat := 64

inductive LeaseCommand where
  | acquire (mode : InputMode)
  | release
  | route
deriving DecidableEq

def LeaseCommand.isAcquire : LeaseCommand → Bool
  | acquire _ => true
  | _ => false

inductive RelayBody where
  | command (command : LeaseCommand)
  /-- An INPUT frame of an attached consumer. -/
  | input
  | other
deriving DecidableEq

/-- What the relay's mailbox and then the wire hold, under the id its reply comes back with.
The link does not carry whose request it is. -/
structure RelayRequest where
  id : Nat
  client : ClientId
  body : RelayBody
deriving DecidableEq

def RelayBody.isInput (body : RelayBody) : Bool := body = .input ∨ body = .command .route

def RelayBody.isRelease (body : RelayBody) : Bool := body = .command .release

/-- A consumer whose command waits for its reply, and the reply once it is there. -/
structure Task where
  client : ClientId
  command : LeaseCommand
  id : Nat
  reply : Option CommandResult

def isError : CommandResult → Bool
  | .error _ _ => true
  | _ => false

def Task.granted (t : Task) : Bool := t.reply.any (!isError ·)

def Task.settled (id : Nat) (result : CommandResult) (t : Task) : Task :=
  if t.id = id ∧ t.reply.isNone then { t with reply := some result } else t

/-- A task that waits for a request fails with it, unless the request is still `queued`. -/
def Task.failed (queued : List Nat) (result : CommandResult) (t : Task) : Task :=
  if t.reply.isNone ∧ t.id ∉ queued then { t with reply := some result } else t

structure Hub where
  host : SatelliteHost
  /-- The ledger's holder of the terminal's lease. -/
  holder : Option ClientId
  tasks : List Task
  mailbox : List RelayRequest
  up : Bool
  /-- On their way to the satellite, oldest first. -/
  wire : List RelayRequest
  /-- Whether the link holds the lease on the satellite. -/
  leased : Bool
  /-- On their way back, oldest first. -/
  replies : List (Nat × CommandResult)
  nextId : Nat
  answers : List (ClientId × CommandResult)
  /-- Notices of a takeover: who took the lease, and from whom. -/
  notices : List (ClientId × ClientId)
  /-- Consumers whose acquire was answered and who have not released, been seized or gone. -/
  standing : List ClientId
  /-- Cooperative acquires answered while another consumer was standing, with that consumer. -/
  displaced : List (ClientId × ClientId)
  /-- Input put on the wire, with the holder on record at that moment. -/
  inputs : List (ClientId × Option ClientId)

namespace Hub

def new (host : SatelliteHost) : Hub :=
  ⟨host, none, [], [], false, [], false, [], 0, [], [], [], [], []⟩

def answer (result : CommandResult) : Hub :=
  { s with answers := s.answers ++ [(client, result)] }

/-- A consumer's frames are read one at a time: none while a command of its own is waiting. -/
def busy : Bool := s.tasks.any (·.client = client)

def barred : Bool := s.holder.any (· ≠ client)

/-- `RelayHandle::command`: into the mailbox at once, or refused at once. -/
def relay (command : LeaseCommand) : Hub :=
  if relayMailbox ≤ s.mailbox.length then
    s.answer client (.error .resourceExhausted
      ("satellite " ++ s.host.name ++ " link is saturated; retry"))
  else
    { s with
      mailbox := s.mailbox ++ [⟨s.nextId, client, .command command⟩]
      tasks := s.tasks ++ [⟨client, command, s.nextId, none⟩]
      nextId := s.nextId + 1 }

def acquireInput (mode : InputMode) : Hub :=
  match mode, s.holder with
  | .cooperative, some holder =>
    if holder ≠ client then
      s.answer client (.error .inputLeaseHeld
        ("input lease held by client " ++ toString holder.raw))
    else s.relay client (.acquire mode)
  | _, _ => s.relay client (.acquire mode)

def releaseInput : Hub :=
  if s.barred client then
    { s.answer client .ok with standing := s.standing.filter (· ≠ client) }
  else s.relay client .release

def routeInput : Hub :=
  if s.barred client then
    s.answer client (.error .inputLeaseHeld "input lease held by another client")
  else s.relay client .route

def forward (body : RelayBody) : Hub :=
  if relayMailbox ≤ s.mailbox.length then s
  else { s with mailbox := s.mailbox ++ [⟨s.nextId, client, body⟩], nextId := s.nextId + 1 }

/-- `relay_satellite_input`: dropped without a proxy attachment, and past another's lease. -/
def input (attached : Bool) : Hub :=
  if !attached || s.barred client then s else s.forward client .input

def traffic : Hub := s.forward client .other

def transmit (s : Hub) : Hub :=
  match s.up, s.mailbox with
  | true, request :: rest =>
    { s with
      mailbox := rest
      wire := s.wire ++ [request]
      inputs := if request.body.isInput then s.inputs ++ [(request.client, s.holder)]
        else s.inputs }
  | _, _ => s

/-- The satellite takes the next frame. What it grants is granted to the link. -/
def serve (s : Hub) (result : CommandResult) : Hub :=
  match s.wire with
  | ⟨id, _, .command command⟩ :: rest =>
    { s with
      wire := rest
      replies := s.replies ++ [(id, result)]
      leased :=
        if isError result then s.leased
        else match command with
          | .acquire _ => true
          | .release => false
          | .route => s.leased }
  | _ :: rest => { s with wire := rest }
  | [] => s

def settle (s : Hub) (id : Nat) (result : CommandResult) : Hub :=
  { s with tasks := s.tasks.map (Task.settled id result) }

def deliver (s : Hub) : Hub :=
  match s.replies with
  | (id, result) :: rest => { s with replies := rest }.settle id result
  | [] => s

def unreachable (s : Hub) (why : String) : CommandResult :=
  .error .satelliteUnreachable ("satellite " ++ s.host.name ++ " is unreachable: " ++ why)

/-- While the link is down its supervisor fails what the mailbox holds. -/
def failFast (s : Hub) (why : String) : Hub :=
  match s.up, s.mailbox with
  | false, request :: rest => { s with mailbox := rest }.settle request.id (s.unreachable why)
  | _, _ => s

/-- The end of `relay_satellite_acquire_input`: the ledger and the notice to whom it evicts. -/
def recordAcquire (mode : InputMode) : Hub :=
  { s with
    holder := some client
    notices := s.notices ++ ((s.holder.filter (· ≠ client)).toList.map (client, ·))
    standing := client :: (if mode = .seize then [] else s.standing.filter (· ≠ client))
    displaced := s.displaced ++
      (if mode = .seize then [] else (s.standing.filter (· ≠ client)).map (client, ·)) }

def recordRelease : Hub :=
  { s with
    holder := s.holder.filter (· ≠ client)
    standing := s.standing.filter (· ≠ client) }

def finish : LeaseCommand → Hub
  | .acquire mode => s.recordAcquire client mode
  | .release => s.recordRelease client
  | .route => s

def drop : Hub :=
  { s with tasks := s.tasks.filter (·.client ≠ client) }

def resume : Hub :=
  match s.tasks.find? (·.client = client) with
  | some ⟨_, command, _, some result⟩ =>
    let s' := (s.drop client).answer client result
    if isError result then s' else s'.finish client command
  | _ => s

def timeout : Hub :=
  match s.tasks.find? (·.client = client) with
  | some ⟨_, _, _, none⟩ =>
    (s.drop client).answer client (.error .satelliteUnreachable
      ("satellite " ++ s.host.name ++ " did not answer within 30s"))
  | _ => s

/-- A consumer detaches or disconnects; a lease it holds is released without waiting. -/
def disconnect : Hub :=
  if s.holder = some client then (s.recordRelease client).forward client (.command .release)
  else s.recordRelease client

/-- The session ends: what it had sent fails, what the mailbox holds stays. The satellite
releases the lease with the connection. -/
def linkDown (s : Hub) (why : String) : Hub :=
  { s with
    up := false
    wire := []
    replies := []
    leased := false
    tasks := s.tasks.map (Task.failed (s.mailbox.map (·.id)) (s.unreachable why)) }

end Hub

inductive Step where
  | acquire (client : ClientId) (mode : InputMode)
  | release (client : ClientId)
  | route (client : ClientId)
  | input (client : ClientId) (attached : Bool)
  | traffic (client : ClientId)
  | transmit
  | serve (result : CommandResult)
  | deliver
  | failFast (why : String)
  | resume (client : ClientId)
  | timeout (client : ClientId)
  | disconnect (client : ClientId)
  | linkDown (why : String)
  | linkUp

namespace Hub

/-- A frame or the end of a connection is handled only while its consumer is not waiting. -/
def unlessBusy (s' : Hub) : Hub := if s.busy client then s else s'

def next (s : Hub) : Step → Hub
  | .acquire client mode => s.unlessBusy client (s.acquireInput client mode)
  | .release client => s.unlessBusy client (s.releaseInput client)
  | .route client => s.unlessBusy client (s.routeInput client)
  | .input client attached => s.unlessBusy client (s.input client attached)
  | .traffic client => s.traffic client
  | .transmit => s.transmit
  | .serve result => s.serve result
  | .deliver => s.deliver
  | .failFast why => s.failFast why
  | .resume client => s.resume client
  | .timeout client => s.timeout client
  | .disconnect client => s.unlessBusy client (s.disconnect client)
  | .linkDown why => s.linkDown why
  | .linkUp => { s with up := true }

def after (host : SatelliteHost) (steps : List Step) : Hub := Machine.run next (new host) steps

end Hub

end Phux.HubLease
