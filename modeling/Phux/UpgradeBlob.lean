import Phux.ServerRuns

/-! The graceful upgrade: the blob a server leaves of its tree, and the tree the next image
builds from it. -/

namespace Phux.Server

open ByteReader

structure PaneUpgradeHandle where
  masterFd : Option Int
  childPid : Option Int
  cols : UInt16
  rows : UInt16
  cellPx : Option (UInt16 × UInt16)
  title : Option String
  cwd : Option Bytes
  vtReplayBytes : Bytes
  scrollbackBytes : Bytes
deriving DecidableEq

inductive LayoutBlob where
  | leaf (wire : UInt32)
  | split (dir : SplitDir) (ratio : F32) (left right : LayoutBlob)
deriving DecidableEq

structure SessionBlob where
  wireId : UInt32
  name : String
  windowWireIds : List UInt32
  activeWindow : Option UInt32
  createdAtUnixNanos : Nat
  lastTouched : Option UInt64
  root : Option Bytes
  keepEmpty : Bool
deriving DecidableEq

structure WindowBlob where
  wireId : UInt32
  sessionWireId : UInt32
  paneWireIds : List UInt32
  activeResource : Option UInt32
  layout : Option LayoutBlob
  lastCwd : Option Bytes
deriving DecidableEq

structure PaneBlob where
  wireId : UInt32
  windowWireId : UInt32
  cols : UInt16
  rows : UInt16
  cellPx : Option (UInt16 × UInt16)
  cwd : Bytes
  title : Option String
  term : String
  childPid : Option Int
  masterFd : Option Int
  vtReplayBytes : Bytes
  scrollbackBytes : Bytes
deriving DecidableEq

@[ext]
structure Counters where
  nextSessionWireId : UInt32
  nextTerminalWireId : UInt32
  nextWindowWireId : UInt32
  nextTouchTimestamp : UInt64
  serverInstance : Option ServerInstance
deriving DecidableEq

@[ext]
structure StateBlob where
  version : UInt32
  listenerFd : Int
  counters : Counters
  sessions : List SessionBlob
  windows : List WindowBlob
  panes : List PaneBlob
deriving DecidableEq

def BLOB_VERSION : UInt32 := 1

/-- The pane's entry, from the actor's answer first and its descriptor without one. -/
def paneBlob (wireId windowWireId : UInt32) (desc : Core.TerminalFacet) (term : String)
    (handoff : Option PaneUpgradeHandle) : PaneBlob where
  wireId
  windowWireId
  cols := handoff.elim desc.dims.1 PaneUpgradeHandle.cols
  rows := handoff.elim desc.dims.2 PaneUpgradeHandle.rows
  cellPx := handoff.bind PaneUpgradeHandle.cellPx
  cwd := (handoff.bind PaneUpgradeHandle.cwd).getD desc.cwd
  title := (handoff.bind PaneUpgradeHandle.title).or desc.title
  term
  childPid := handoff.bind PaneUpgradeHandle.childPid
  masterFd := handoff.bind PaneUpgradeHandle.masterFd
  vtReplayBytes := handoff.elim [] PaneUpgradeHandle.vtReplayBytes
  scrollbackBytes := handoff.elim [] PaneUpgradeHandle.scrollbackBytes

namespace ServerState

def layoutToBlob (s : ServerState) : Core.LayoutNode → Option LayoutBlob
  | .leaf id => (s.idspace.terminals.wire id).map .leaf
  | .split dir ratio left right =>
    match s.layoutToBlob left, s.layoutToBlob right with
    | some left, some right => some (.split dir ratio left right)
    | _, _ => none

def sessionBlob (s : ServerState) (wireId : UInt32) (id : Core.SessionId)
    (session : Core.Session) : SessionBlob where
  wireId
  name := session.name
  windowWireIds := session.windows.filterMap s.idspace.windows.wire
  activeWindow := session.active.bind s.idspace.windows.wire
  createdAtUnixNanos := session.createdAt.toNat
  lastTouched := s.sessions.lastTouched id
  root := s.sessions.roots id
  keepEmpty := session.keepEmpty

def windowBlob (s : ServerState) (wireId sessionWireId : UInt32) (id : Core.WindowId)
    (window : Core.Window) : WindowBlob where
  wireId
  sessionWireId
  paneWireIds := window.slots.filterMap s.idspace.terminals.wire
  activeResource := window.active.bind s.idspace.terminals.wire
  layout := window.layout.bind s.layoutToBlob
  lastCwd := s.sessions.windowLastCwd id

def blobWindows (s : ServerState) (session : Core.Session) :
    List (UInt32 × Core.WindowId × Core.Window) :=
  session.windows.filterMap fun id =>
    match s.registry.windows.get id, s.idspace.windows.wire id with
    | some window, some wire => some (wire, id, window)
    | _, _ => none

def blobSessions (s : ServerState) : List (UInt32 × Core.SessionId × Core.Session) :=
  s.registry.sessions.entries.filterMap fun (id, session) =>
    (s.idspace.sessions.wire id).map fun wire => (wire, id, session)

def blobPanes (s : ServerState) (term : String)
    (handoffs : Table Core.ResourceId PaneUpgradeHandle) (windowWire : UInt32)
    (window : Core.Window) : List PaneBlob :=
  window.slots.filterMap fun id =>
    match s.registry.terminal id, s.idspace.terminals.wire id with
    | some desc, some wire => some (paneBlob wire windowWire desc term (handoffs id))
    | _, _ => none

/-- Everything that has a wire id, session by session and window by window. -/
def assembleUpgradeBlob (s : ServerState) (term : String) (listenerFd : Int)
    (handoffs : Table Core.ResourceId PaneUpgradeHandle) : StateBlob where
  version := BLOB_VERSION
  listenerFd
  counters :=
    { nextSessionWireId := s.idspace.sessions.next
      nextTerminalWireId := s.idspace.terminals.next
      nextWindowWireId := s.idspace.windows.next
      nextTouchTimestamp := s.sessions.nextTouchTimestamp
      serverInstance := some s.idspace.token }
  sessions := s.blobSessions.map fun (wire, id, session) => s.sessionBlob wire id session
  windows := s.blobSessions.flatMap fun (sessionWire, _, session) =>
    (s.blobWindows session).map fun (wire, id, window) => s.windowBlob wire sessionWire id window
  panes := s.blobSessions.flatMap fun (_, _, session) =>
    (s.blobWindows session).flatMap fun (wire, _, window) =>
      s.blobPanes term handoffs wire window

end ServerState

def PaneUpgradeHandle.validPair (h : PaneUpgradeHandle) : Bool :=
  match h.masterFd, h.childPid with
  | some _, some pid => 1 ≤ pid
  | none, none => true
  | _, _ => false

inductive RebuildError where
  | registry (error : Core.RegistryError)
  /-- A pane's actor could not be built around its PTY. -/
  | actor
  | danglingSession (id : UInt32)
  | danglingWindow (id : UInt32)
  | invalidPtyPair (wireId : UInt32)
  /-- The server ran out of wire ids and stopped. -/
  | exhausted

def unixNanosToSystemTime (nanos : Nat) : Option Int :=
  if nanos < 2 ^ 64 then some nanos else none

def resolveIds {κ : Type} (wireIds : List UInt32) (map : Table UInt32 κ) : List κ :=
  wireIds.filterMap map

def layoutFromBlob (panes : Table UInt32 Core.ResourceId) : LayoutBlob → Option Core.LayoutNode
  | .leaf wire => (panes wire).map .leaf
  | .split dir ratio left right =>
    match layoutFromBlob panes left, layoutFromBlob panes right with
    | some left, some right => some (.split dir ratio left right)
    | _, _ => none

/-- Whether a pane's PTY can be taken over; `builds` says whether its actor comes up. -/
def paneActorBundle (builds : PaneBlob → Bool) (p : PaneBlob) : Except RebuildError Unit :=
  match p.masterFd, p.childPid with
  | some _, some _ | none, none => if builds p then .ok () else .error .actor
  | _, _ => .error (.invalidPtyPair p.wireId)

namespace ServerState

def rebuildSession (now : Int) (acc : ServerState × Table UInt32 Core.SessionId)
    (b : SessionBlob) : ServerState × Table UInt32 Core.SessionId :=
  let (s, cores) := acc
  let (r, core) := s.registry.newSession b.name now
  let s := { s with
    sessions.registry := r
    idspace.sessions := s.idspace.sessions.bind core b.wireId }
  let s := match unixNanosToSystemTime b.createdAtUnixNanos with
    | none => s
    | some created => s.modifySession core fun session => { session with createdAt := created }
  let s := s.modifySession core fun session => { session with keepEmpty := b.keepEmpty }
  let s := match b.lastTouched with
    | none => s
    | some ts => { s with sessions.lastTouched := s.sessions.lastTouched.insert core ts }
  let s := match b.root with
    | none => s
    | some root => { s with sessions.roots := s.sessions.roots.insert core root }
  (s, cores.insert b.wireId core)

def rebuildWindow (sessionCore : Table UInt32 Core.SessionId)
    (acc : ServerState × Table UInt32 Core.WindowId) (b : WindowBlob) :
    Except RebuildError (ServerState × Table UInt32 Core.WindowId) :=
  let (s, cores) := acc
  match sessionCore b.sessionWireId with
  | none => .error (.danglingSession b.sessionWireId)
  | some session =>
    match s.registry.newWindow session with
    | (_, .error error) => .error (.registry error)
    | (r, .ok core) =>
      let s := { s with
        sessions.registry := r
        idspace.windows := s.idspace.windows.bind core b.wireId }
      let s := match b.lastCwd with
        | none => s
        | some cwd => { s with sessions := s.sessions.recordLastCwd core cwd }
      .ok (s, cores.insert b.wireId core)

/-- The server being rebuilt, the panes by wire id, and the blob each came from. -/
structure RebuiltPanes where
  state : ServerState
  coreIds : Table UInt32 Core.ResourceId
  resumed : Table Core.ResourceId PaneBlob

def rebuildPane (builds : PaneBlob → Bool) (windowCore : Table UInt32 Core.WindowId)
    (acc : RebuiltPanes) (b : PaneBlob) : Except RebuildError RebuiltPanes :=
  match windowCore b.windowWireId with
  | none => .error (.danglingWindow b.windowWireId)
  | some window =>
    match acc.state.registry.newTerminal window with
    | (_, .error error) => .error (.registry error)
    | (r, .ok core) =>
      let s := { acc.state with sessions.registry := r }
      let s := s.modifyTerminal core fun _ => ⟨(b.cols, b.rows), b.cwd, b.title⟩
      match paneActorBundle builds b with
      | .error error => .error error
      | .ok _ =>
        -- bound before the actor registers, so that it gets no fresh id
        let s := { s with idspace.terminals := s.idspace.terminals.bind core b.wireId }
        match s.registerResourceHandle core with
        | none => .error .exhausted
        | some (s, _) =>
          .ok ⟨s, acc.coreIds.insert b.wireId core, acc.resumed.insert core b⟩

def relinkWindow (windowCore : Table UInt32 Core.WindowId)
    (paneCore : Table UInt32 Core.ResourceId) (s : ServerState) (b : WindowBlob) : ServerState :=
  match windowCore b.wireId with
  | none => s
  | some core =>
    { s with sessions.registry.windows := s.registry.windows.modify core fun window =>
        { window with
          slots := resolveIds b.paneWireIds paneCore
          active := b.activeResource.bind paneCore
          layout := b.layout.bind (layoutFromBlob paneCore) } }

def relinkSession (sessionCore : Table UInt32 Core.SessionId)
    (windowCore : Table UInt32 Core.WindowId) (s : ServerState) (b : SessionBlob) : ServerState :=
  match sessionCore b.wireId with
  | none => s
  | some core =>
    s.modifySession core fun session =>
      { session with
        windows := resolveIds b.windowWireIds windowCore
        active := b.activeWindow.bind windowCore }

def restoreCounters (s : ServerState) (c : Counters) : ServerState :=
  { s with
    idspace.sessions := s.idspace.sessions.setNext c.nextSessionWireId
    idspace.terminals := s.idspace.terminals.setNext c.nextTerminalWireId
    idspace.windows := s.idspace.windows.setNext c.nextWindowWireId
    idspace.token := c.serverInstance.getD s.idspace.token
    sessions.nextTouchTimestamp := c.nextTouchTimestamp }

/-- Recreate every entry under its wire id, relink the tree and restore the counters. The
second part says which blob each pane's actor was started from. -/
def rebuildFromBlob (s : ServerState) (blob : StateBlob) (now : Int) (builds : PaneBlob → Bool) :
    Except RebuildError (ServerState × Table Core.ResourceId PaneBlob) := do
  let (s, sessionCore) := blob.sessions.foldl (rebuildSession now) (s, fun _ => none)
  let (s, windowCore) ← blob.windows.foldlM (rebuildWindow sessionCore) (s, fun _ => none)
  let panes ← blob.panes.foldlM (rebuildPane builds windowCore) ⟨s, fun _ => none, fun _ => none⟩
  let s := blob.windows.foldl (relinkWindow windowCore panes.coreIds) panes.state
  let s := blob.sessions.foldl (relinkSession sessionCore windowCore) s
  pure (s.restoreCounters blob.counters, panes.resumed)

end ServerState

end Phux.Server
