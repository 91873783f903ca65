import Phux.IdBridge
import Phux.Registry
import Phux.Status

/-! The server's state: the registry, the wire ids of its entries, and the ledgers keyed
on them, with the operations that create, attach to, move and reap. -/

namespace Phux.Server

open ByteReader

variable (s : ServerState)
variable (t : SessionTable)
variable (terminal : Core.ResourceId)
variable (client : ClientId)
variable (session : Core.SessionId)

structure ClientId where
  raw : UInt64
deriving DecidableEq

/-- The registry and what is remembered about its sessions and windows. -/
structure SessionTable where
  registry : Core.Registry
  lastTouched : Table Core.SessionId UInt64
  nextTouchTimestamp : UInt64
  roots : Table Core.SessionId Bytes
  windowLastCwd : Table Core.WindowId Bytes
  releasedKeepEmpty : Table Core.SessionId Unit
  killedPending : List Core.SessionId

namespace SessionTable

def new : SessionTable :=
  ⟨.new, fun _ => none, 1, fun _ => none, fun _ => none, fun _ => none, []⟩

def touch : SessionTable :=
  { t with
    lastTouched := t.lastTouched.insert session t.nextTouchTimestamp
    nextTouchTimestamp := saturatingNext64 t.nextTouchTimestamp }

def findByName (name : String) : Option Core.SessionId :=
  (t.registry.sessions.entries.find? fun (_, s) => s.name = name).map Prod.fst

def rename (current newName : String) : SessionTable :=
  match t.findByName current with
  | none => t
  | some id =>
    if current ≠ newName ∧ (t.findByName newName).isSome then t
    else { t with registry.sessions := t.registry.sessions.modify id fun s =>
      { s with name := newName } }

/-- A session with one window and one terminal. `none` stands for the panics of the
parents just created not being there. -/
def seed (name : String) (now : Int) :
    Option (SessionTable × Core.SessionId × Core.WindowId × Core.ResourceId) :=
  let (r, sid) := t.registry.newSession name now
  match r.newWindow sid with
  | (_, .error _) => none
  | (r, .ok wid) =>
    match r.newTerminal wid with
    | (_, .error _) => none
    | (r, .ok pid) => some ({ t with registry := r }, sid, wid, pid)

def seedEmpty (name : String) (now : Int) : SessionTable × Core.SessionId :=
  let (r, sid) := t.registry.newSession name now
  ({ t with registry := { r with
      sessions := r.sessions.modify sid fun s => { s with keepEmpty := true } } }, sid)

/-- A terminal in the session's first window, or in a new one when it has none. -/
def addPane : Option (SessionTable × Core.ResourceId) :=
  match t.registry.sessions.get session with
  | none => none
  | some s =>
    match s.windows with
    | wid :: _ =>
      match t.registry.newTerminal wid with
      | (_, .error _) => none
      | (r, .ok pid) => some ({ t with registry := r }, pid)
    | [] =>
      match t.registry.newWindow session with
      | (_, .error _) => none
      | (r, .ok wid) =>
        match r.newTerminal wid with
        | (_, .error _) => none
        | (r, .ok pid) => some ({ t with registry := r }, pid)

def addPaneBeside (owner : Core.ResourceId) : Option (SessionTable × Core.ResourceId) :=
  match (t.registry.resources.get owner).bind Core.ResourceDescriptor.window with
  | none => none
  | some window =>
    match t.registry.newTerminal window with
    | (_, .error _) => none
    | (r, .ok pid) => some ({ t with registry := r }, pid)

def recordRoot (root : Bytes) : SessionTable :=
  match t.roots session with
  | some _ => t
  | none => { t with roots := t.roots.insert session root }

def recordLastCwd (window : Core.WindowId) (cwd : Bytes) : SessionTable :=
  { t with windowLastCwd := t.windowLastCwd.insert window cwd }

def forgetWindow (window : Core.WindowId) : SessionTable :=
  { t with windowLastCwd := t.windowLastCwd.erase window }

def forgetSession : SessionTable :=
  { t with
    lastTouched := t.lastTouched.erase session
    roots := t.roots.erase session
    releasedKeepEmpty := t.releasedKeepEmpty.erase session }

def noteRemoved : SessionTable :=
  match t.releasedKeepEmpty session with
  | none => t
  | some _ =>
    { t with
      releasedKeepEmpty := t.releasedKeepEmpty.erase session
      killedPending := t.killedPending ++ [session] }

end SessionTable

/-- The wire ids of sessions, terminals and windows, and the token that names their space. -/
structure IdSpace where
  sessions : IdBridge Core.SessionId
  terminals : IdBridge Core.ResourceId
  windows : IdBridge Core.WindowId
  token : ServerInstance

structure SpawnRecord where
  spawner : ClientId
  usedByOther : Bool
deriving DecidableEq

/-- What is keyed on a live resource: its actor's handle and token, its subscribers, the
pumps of the clients that attached it, and who spawned it. -/
structure ResourceTable where
  handles : Table Core.ResourceId Unit
  tokens : Table Core.ResourceId Unit
  subscribers : Table Core.ResourceId (List ClientId)
  pumps : Table (ClientId × Core.ResourceId) BootstrapId
  /-- How many output pump tasks run. -/
  outputPumps : Table (ClientId × Core.ResourceId) Nat
  spawns : Table Core.ResourceId SpawnRecord

namespace ResourceTable

def new : ResourceTable :=
  ⟨fun _ => none, fun _ => none, fun _ => none, fun _ => none, fun _ => none, fun _ => none⟩

def register (t : ResourceTable) (terminal : Core.ResourceId) : ResourceTable :=
  { t with handles := t.handles.insert terminal (), tokens := t.tokens.insert terminal () }

def noteUse (t : ResourceTable) (client : ClientId) (terminal : Core.ResourceId) : ResourceTable :=
  match t.spawns terminal with
  | none => t
  | some record =>
    if record.spawner = client then t
    else { t with spawns := t.spawns.insert terminal { record with usedByOther := true } }

def subscribe (t : ResourceTable) (client : ClientId) (terminal : Core.ResourceId) :
    ResourceTable :=
  let t := t.noteUse client terminal
  let subs := (t.subscribers terminal).getD []
  { t with subscribers :=
      t.subscribers.insert terminal (if client ∈ subs then subs else subs ++ [client]) }

def recordSpawn (t : ResourceTable) (terminal : Core.ResourceId) (spawner : ClientId) :
    ResourceTable :=
  { t with spawns := t.spawns.insert terminal ⟨spawner, false⟩ }

def unattachedSinceSpawn (t : ResourceTable) (terminal : Core.ResourceId) : Bool :=
  match t.spawns terminal with
  | none => false
  | some record => !record.usedByOther

/-- The subscribers of every resource without `client`, and no entry left empty. -/
def dropClientSubscriptions (t : ResourceTable) (client : ClientId) : ResourceTable :=
  { t with subscribers := fun k =>
      (t.subscribers k).bind fun subs =>
        let subs := subs.filter (· ≠ client)
        if subs = [] then none else some subs }

def cancelPumpsForClient (t : ResourceTable) (client : ClientId) : ResourceTable :=
  { t with
    pumps := fun k => if k.1 = client then none else t.pumps k
    outputPumps := fun k => if k.1 = client then none else t.outputPumps k }

def forgetResource (t : ResourceTable) (terminal : Core.ResourceId) : ResourceTable where
  outputPumps := fun k => if k.2 = terminal then none else t.outputPumps k
  handles := t.handles.erase terminal
  tokens := t.tokens.erase terminal
  subscribers := t.subscribers.erase terminal
  spawns := t.spawns.erase terminal
  pumps := fun k => if k.2 = terminal then none else t.pumps k

end ResourceTable

inductive EventScope where
  | server
  | terminal (id : ResourceId)
deriving DecidableEq

/-- The session each attached client is on, and the scopes each listens to. -/
structure ClientTable where
  attached : Table ClientId Core.SessionId
  eventSubscriptions : Table ClientId (List EventScope)

structure MetadataStore where
  terminal : Table ResourceId (Table String Bytes)
  group : Table GroupId (Table String Bytes)
  global : Table String Bytes
  subscriptions : List (ClientId × Scope × String)

def MAX_SUBSCRIPTIONS_PER_CLIENT : Nat := 512

namespace MetadataStore

def set (m : MetadataStore) (scope : Scope) (key : String) (value : Bytes) : MetadataStore :=
  match scope with
  | .resource id =>
    let bucket := (m.terminal id).getD fun _ => none
    { m with terminal := m.terminal.insert id (bucket.insert key value) }
  | .group id =>
    let bucket := (m.group id).getD fun _ => none
    { m with group := m.group.insert id (bucket.insert key value) }
  | .global => { m with global := m.global.insert key value }

def delete (m : MetadataStore) (scope : Scope) (key : String) : MetadataStore :=
  match scope with
  | .resource id =>
    match m.terminal id with
    | none => m
    | some bucket => { m with terminal := m.terminal.insert id (bucket.erase key) }
  | .group id =>
    match m.group id with
    | none => m
    | some bucket => { m with group := m.group.insert id (bucket.erase key) }
  | .global => { m with global := m.global.erase key }

def forgetTerminal (m : MetadataStore) (id : ResourceId) : MetadataStore :=
  { m with
    terminal := m.terminal.erase id
    subscriptions := m.subscriptions.filter fun (_, scope, _) => scope ≠ .resource id }

def subscribe (m : MetadataStore) (client : ClientId) (scope : Scope) (key : String) :
    MetadataStore :=
  if (client, scope, key) ∈ m.subscriptions then m
  else if MAX_SUBSCRIPTIONS_PER_CLIENT ≤
      (m.subscriptions.filter fun (c, _, _) => c = client).length then m
  else { m with subscriptions := m.subscriptions ++ [(client, scope, key)] }

def dropClient (m : MetadataStore) (client : ClientId) : MetadataStore :=
  { m with subscriptions := m.subscriptions.filter fun (c, _, _) => c ≠ client }

end MetadataStore

/-- What is known of the agents in the panes: the questions pending, by key, and the
records kept of them, by wire id. -/
structure AgentState where
  asked : Table Core.ResourceId Bytes
  records : Table ResourceId Bytes

structure ServerState where
  sessions : SessionTable
  clients : ClientTable
  resources : ResourceTable
  /-- Who holds the input of each terminal. -/
  inputLeases : Table Core.ResourceId ClientId
  idspace : IdSpace
  metadata : MetadataStore
  agent : AgentState
  closeReasons : Table Core.ResourceId CloseReason

def DEFAULT_GROUP_ID : GroupId := ⟨1⟩

def TUI_LAYOUT_KEY : String := "phux.tui.layout/v1"

def RESOURCE_AGENT_SESSION_KEY : String := "phux.agent-session/v1"

def DEFAULT_SPAWN_DIMS : UInt16 × UInt16 := (80, 24)

namespace ServerState

def new (token : ServerInstance) : ServerState where
  sessions := .new
  clients := ⟨fun _ => none, fun _ => none⟩
  resources := .new
  inputLeases := fun _ => none
  idspace := ⟨.new, .new, .new, token⟩
  metadata := ⟨fun _ => none, fun _ => none, fun _ => none, []⟩
  agent := ⟨fun _ => none, fun _ => none⟩
  closeReasons := fun _ => none

def registry : Core.Registry := s.sessions.registry

def internSession (id : Core.SessionId) : Option (ServerState × UInt32) :=
  (s.idspace.sessions.intern id).map fun (b, wire) => ({ s with idspace.sessions := b }, wire)

def internWindow (id : Core.WindowId) : Option (ServerState × UInt32) :=
  (s.idspace.windows.intern id).map fun (b, wire) => ({ s with idspace.windows := b }, wire)

def internTerminal (id : Core.ResourceId) : Option (ServerState × UInt32) :=
  (s.idspace.terminals.intern id).map fun (b, wire) => ({ s with idspace.terminals := b }, wire)

def registerResourceHandle : Option (ServerState × UInt32) :=
  (s.internTerminal terminal).map fun (s, wire) =>
    ({ s with resources := s.resources.register terminal }, wire)

def modifyTerminal (id : Core.ResourceId)
    (f : Core.TerminalFacet → Core.TerminalFacet) : ServerState :=
  { s with sessions.registry.resources := s.registry.resources.modify id fun t =>
      { t with terminal := t.terminal.map f } }

def modifySession (id : Core.SessionId) (f : Core.Session → Core.Session) : ServerState :=
  { s with sessions.registry.sessions := s.registry.sessions.modify id f }

def forgetTerminalBookkeeping (pane : Core.ResourceId) : ServerState :=
  let s := { s with
    resources := s.resources.forgetResource pane
    closeReasons := s.closeReasons.erase pane
    agent.asked := s.agent.asked.erase pane }
  match s.idspace.terminals.forget pane with
  | (_, none) => s
  | (terminals, some wire) =>
    { s with
      idspace.terminals := terminals
      metadata := s.metadata.forgetTerminal (.local wire)
      agent.records := s.agent.records.erase (.local wire) }

def forgetWindowBookkeeping (window : Core.WindowId) : ServerState :=
  { s with
    idspace.windows := (s.idspace.windows.forget window).1
    sessions := s.sessions.forgetWindow window }

def forgetSessionBookkeeping : ServerState :=
  { s with
    idspace.sessions := (s.idspace.sessions.forget session).1
    sessions := s.sessions.forgetSession session }

/-- Remove a session that has no windows and is not kept, and say whether it was. -/
def reapSessionIfEmpty (id : Core.SessionId) : ServerState × Bool :=
  match s.registry.sessions.get id with
  | none => (s, false)
  | some session =>
    if session.windows = [] ∧ !session.keepEmpty then
      let s := { s with sessions.registry := (s.registry.removeSession id).1 }
      let s := { s with sessions := s.sessions.noteRemoved id }
      (s.forgetSessionBookkeeping id, true)
    else (s, false)

/-- A kept session that lost its last window also loses its stored layout. -/
def forgetLayoutOfEmptiedSession (id : Core.SessionId) : ServerState :=
  match s.registry.sessions.get id with
  | none => s
  | some session =>
    if session.keepEmpty ∧ session.windows = [] then
      match s.idspace.sessions.wire id with
      | none => s
      | some wire =>
        let key := TUI_LAYOUT_KEY ++ "/" ++ toString wire.toNat
        { s with metadata := s.metadata.delete (.group DEFAULT_GROUP_ID) key }
    else s

def reapWindowIfEmpty (id : Core.WindowId) : ServerState :=
  match s.registry.windows.get id with
  | none => s
  | some window =>
    if window.slots ≠ [] then s
    else
      let s := { s with sessions.registry := (s.registry.removeWindow id).1 }
      let s := s.forgetWindowBookkeeping id
      match s.reapSessionIfEmpty window.session with
      | (s, true) => s
      | (s, false) => s.forgetLayoutOfEmptiedSession window.session

/-- Remove a pane and, if that empties them, its window and its session. -/
def reapTerminal (pane : Core.ResourceId) : ServerState :=
  match s.registry.resources.get pane with
  | none => s
  | some resource =>
    let s := { s with sessions.registry := (s.registry.removeResource pane).1 }
    let s := s.forgetTerminalBookkeeping pane
    match resource.window with
    | none => s
    | some window => s.reapWindowIfEmpty window

def beginResourceClose (id : Core.ResourceId) : Option ServerState :=
  (s.registry.resources.get id).map fun _ => { s with closeReasons := s.closeReasons.erase id }

def closeChild (child : Core.ResourceId) : Option ServerState :=
  match s.beginResourceClose child with
  | none => some s
  | some s =>
    match s.internTerminal child with
    | none => none
    | some (s, _) => some (s.reapTerminal child)

/-- What the exit watcher does when a pane's actor ends: its children close first. -/
def paneExited (pane : Core.ResourceId) : Option ServerState :=
  match s.beginResourceClose pane with
  | none => some s
  | some s =>
    match s.internTerminal pane with
    | none => none
    | some (s, _) =>
      let parent := (s.registry.resources.get pane).bind Core.ResourceDescriptor.parent
      match parent.elim (some s) fun parent => (s.internTerminal parent).map Prod.fst with
      | none => none
      | some s =>
        match (s.registry.children pane).foldlM closeChild s with
        | none => none
        | some s =>
          let s := s.reapTerminal pane
          some { s with sessions.killedPending := [] }

def setAgentSession (value : Option Bytes) : Option ServerState :=
  match value with
  | none => some s
  | some value => (s.internTerminal terminal).map fun (s, wire) =>
      { s with metadata :=
          s.metadata.set (.resource (.local wire)) RESOURCE_AGENT_SESSION_KEY value }

/-- Start the actor of a new pane, or take the pane back if it cannot be built. -/
def startActor (built : Bool) : Option ServerState :=
  if built then (s.registerResourceHandle terminal).map Prod.fst
  else some (s.reapTerminal terminal)

def seedSessionWithActor (name : String) (now : Int)
    (agentSession : Option Bytes) (built : Bool) : Option ServerState := do
  let (sessions, _, _, terminal) ← s.sessions.seed name now
  let s ← { s with sessions := sessions }.setAgentSession terminal agentSession
  s.startActor terminal built

def stampSpawnCwd (cwd : Option Bytes) : ServerState :=
  match cwd with
  | none => s
  | some cwd => s.modifyTerminal terminal fun t => { t with cwd := cwd }

def seedSessionWithPty (name : String) (now : Int) (cwd : Option Bytes)
    (agentSession : Option Bytes) (built : Bool) : Option ServerState := do
  let (sessions, _, _, terminal) ← s.sessions.seed name now
  let (s, _) ← ({ s with sessions := sessions }.stampSpawnCwd terminal cwd).internTerminal terminal
  let s ← s.setAgentSession terminal agentSession
  s.startActor terminal built

inductive SpawnOwnership where
  | session (id : Core.SessionId)
  | terminal (wire : UInt32)

def addPaneFor : SpawnOwnership → Option (SessionTable × Core.ResourceId)
  | .session id => s.sessions.addPane id
  | .terminal wire => (s.idspace.terminals.resolve wire).bind s.sessions.addPaneBeside

/-- Subscribe the client that asked for a pane, and note that it did. -/
def subscribeSpawningClient (terminal : Core.ResourceId) : Option ServerState :=
  (s.internTerminal terminal).map fun (s, _) =>
    let s := { s with resources := s.resources.recordSpawn terminal client }
    match s.clients.attached client with
    | none => s
    | some _ => { s with resources := s.resources.subscribe client terminal }

def spawnPane (owner : SpawnOwnership) (cwd : Option Bytes)
    (initialSize : Option (UInt16 × UInt16)) (agentSession : Option Bytes) (built : Bool) :
    Option ServerState :=
  match s.addPaneFor owner with
  | none => some s
  | some (sessions, terminal) => do
    let dims := initialSize.elim DEFAULT_SPAWN_DIMS fun (cols, rows) => (max cols 1, max rows 1)
    let s := ({ s with sessions := sessions }.stampSpawnCwd terminal cwd).modifyTerminal terminal
      fun t => { t with dims := dims }
    let (s, _) ← s.internTerminal terminal
    let s ← s.setAgentSession terminal agentSession
    let s ← s.startActor terminal built
    if built then s.subscribeSpawningClient client terminal else pure s

def spawnAgentSession (parent : UInt32) (agent : Core.AgentFacet) : Option ServerState :=
  match s.idspace.terminals.resolve parent with
  | none => some s
  | some parent =>
    match s.registry.newAgentSession parent agent with
    | (_, .error _) => some s
    | (r, .ok id) => do
      let (s, _) ← { s with sessions.registry := r }.registerResourceHandle id
      pure { s with resources := (s.resources.recordSpawn id client).subscribe client id }

def moveTerminal (terminal owner : UInt32) : ServerState :=
  match s.idspace.terminals.resolve terminal, s.idspace.terminals.resolve owner with
  | some moved, some owner =>
    match (s.registry.resources.get owner).bind Core.ResourceDescriptor.window with
    | none => s
    | some dest =>
      let source := (s.registry.resources.get moved).bind Core.ResourceDescriptor.window
      match s.registry.moveTerminal moved dest with
      | (_, .error _) => s
      | (r, .ok _) =>
        let s := { s with sessions.registry := r }
        match source with
        | none => s
        | some window => s.reapWindowIfEmpty window
  | _, _ => s

def setSessionKeepEmpty (name : String) (keep : Bool) : ServerState :=
  match s.sessions.findByName name with
  | none => s
  | some id =>
    ((s.modifySession id fun session => { session with keepEmpty := keep }).reapSessionIfEmpty id).1

def sessionTerminals (session : Core.Session) : List Core.ResourceId :=
  session.windows.flatMap fun w => (s.registry.windows.get w).elim [] Core.Window.slots

def sessionTerminalsWithin (session : Core.Session) (targets : List Core.ResourceId) : Bool :=
  s.sessionTerminals session ≠ [] && (s.sessionTerminals session).all (· ∈ targets)

def releaseKeepEmptyCoveredBy (targets : List Core.ResourceId) : ServerState :=
  let covered := (s.registry.sessions.entries.filter fun (_, session) =>
    session.keepEmpty && s.sessionTerminalsWithin session targets).map Prod.fst
  covered.foldl (fun s id =>
    let s := s.modifySession id fun session => { session with keepEmpty := false }
    { s with sessions.releasedKeepEmpty := s.sessions.releasedKeepEmpty.insert id () }) s

def subscribeSession (id : Core.SessionId) : ServerState :=
  let panes := (s.registry.sessions.get id).elim [] s.sessionTerminals
  { s with resources := panes.foldl (fun t pane => t.subscribe client pane) s.resources }

def attach (name : String) : ServerState :=
  match s.sessions.findByName name with
  | none => s
  | some id =>
    match s.clients.attached client with
    | some existing => if existing ≠ id then s else s.subscribeSession client id
    | none =>
      { s with clients.attached := s.clients.attached.insert client id }.subscribeSession client id

def detach : ServerState :=
  { s with
    clients.attached := s.clients.attached.erase client
    clients.eventSubscriptions := s.clients.eventSubscriptions.erase client
    inputLeases := fun t => (s.inputLeases t).filter (· ≠ client)
    resources := (s.resources.cancelPumpsForClient client).dropClientSubscriptions client
    metadata := s.metadata.dropClient client }

def acquireInput : ServerState :=
  { s with inputLeases := s.inputLeases.insert terminal client }

def releaseInput : ServerState :=
  if s.inputLeases terminal = some client then
    { s with inputLeases := s.inputLeases.erase terminal }
  else s

def subscribeEvents (terminal : Option ResourceId) : ServerState :=
  let scope := terminal.elim EventScope.server EventScope.terminal
  let scopes := (s.clients.eventSubscriptions client).getD []
  let scopes := if scope ∈ scopes then scopes else scopes ++ [scope]
  { s with clients.eventSubscriptions := s.clients.eventSubscriptions.insert client scopes }

def markResourceClosing (id : Core.ResourceId) (reason : CloseReason) : ServerState :=
  { s with closeReasons := s.closeReasons.insert id ((s.closeReasons id).getD reason) }

def internOptional {α : Type} (intern : ServerState → α → Option (ServerState × UInt32))
    (s : ServerState) : Option α → Option ServerState
  | none => some s
  | some id => (intern s id).map Prod.fst

def snapshotPane (pane : Core.ResourceId) : Option ServerState :=
  match s.registry.terminal pane with
  | none => some s
  | some _ => (s.internTerminal pane).map Prod.fst

def snapshotWindow (id : Core.WindowId) : Option ServerState :=
  match s.registry.windows.get id with
  | none => some s
  | some window => do
    let (s, _) ← s.internWindow id
    let s ← internOptional internTerminal s window.active
    window.slots.foldlM snapshotPane s

def snapshotSession (entry : Core.SessionId × Core.Session) : Option ServerState := do
  let (s, _) ← s.internSession entry.1
  let s ← internOptional internWindow s entry.2.active
  entry.2.windows.foldlM snapshotWindow s

def snapshotResource (entry : Core.ResourceId × Core.ResourceDescriptor) : Option ServerState :=
  if entry.2.kind = .terminal then some s
  else do
    let (s, _) ← s.internTerminal entry.1
    internOptional internTerminal s entry.2.parent

def focusPair (session : Core.Session) : Option (Core.WindowId × Core.ResourceId) :=
  session.active.bind fun window =>
    (s.registry.windows.get window).bind fun w => w.active.map fun pane => (window, pane)

/-- The wire ids a snapshot gives out: of every session, window and pane, then of every
other resource and its parent, and of what the client focuses. -/
def buildSessionSnapshot (focus : Core.SessionId) : Option ServerState := do
  let s ← s.registry.sessions.entries.foldlM snapshotSession s
  let s ← s.registry.resources.entries.foldlM snapshotResource s
  match s.registry.sessions.get focus with
  | none => pure s
  | some session => do
    let pair := s.focusPair session
    let (s, _) ← s.internSession focus
    match pair with
    | none => pure s
    | some (window, pane) => do
      let (s, _) ← s.internWindow window
      let (s, _) ← s.internTerminal pane
      pure s

end ServerState

end Phux.Server
