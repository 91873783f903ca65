import Phux.SlotMap
import Phux.Snapshot

/-! The registry of sessions, windows and resources: three slot maps whose entries
point at each other, and a split tree over each window's slots. -/

namespace Phux.Core

open ByteReader

variable (r : Registry)

inductive SessionTag : Type

inductive WindowTag : Type

inductive ResourceTag : Type

abbrev SessionId := SlotKey SessionTag

abbrev WindowId := SlotKey WindowTag

abbrev ResourceId := SlotKey ResourceTag

inductive ResourceKind where
  | terminal | agentSession
deriving DecidableEq

inductive LayoutNode where
  | leaf (pane : ResourceId)
  | split (dir : SplitDir) (ratio : F32) (left right : LayoutNode)
deriving DecidableEq

inductive LayoutError where
  | paneNotInLayout (pane : ResourceId)
  | invalidRatio (ratio : F32)
  | lastPane
deriving DecidableEq

namespace LayoutNode

def contains (pane : ResourceId) : LayoutNode → Bool
  | leaf p => p = pane
  | split _ _ left right => left.contains pane || right.contains pane

def leaves : LayoutNode → List ResourceId
  | leaf p => [p]
  | split _ _ left right => left.leaves ++ right.leaves

def splitAt (target newPane : ResourceId) (dir : SplitDir) (ratio : F32) :
    LayoutNode → Except LayoutError LayoutNode
  | leaf p =>
    if p = target then .ok (.split dir ratio (.leaf target) (.leaf newPane))
    else .error (.paneNotInLayout target)
  | split d r left right =>
    if left.contains target then
      (splitAt target newPane dir ratio left).map fun left => .split d r left right
    else if right.contains target then
      (splitAt target newPane dir ratio right).map fun right => .split d r left right
    else .error (.paneNotInLayout target)

/-- Take the leaf of `target` out, its sibling in its parent's place, and say whether it
was found. -/
def collapse (target : ResourceId) : LayoutNode → LayoutNode × Bool
  | leaf p => (leaf p, false)
  | split dir ratio left right =>
    if left = .leaf target then (right, true)
    else if right = .leaf target then (left, true)
    else
      let (newLeft, foundLeft) := collapse target left
      if foundLeft then (.split dir ratio newLeft right, true)
      else
        let (newRight, foundRight) := collapse target right
        (.split dir ratio newLeft newRight, foundRight)

end LayoutNode

def validateRatio (ratio : F32) : Except LayoutError Unit :=
  if ratio.isNaN || ratio.le .zero || F32.one.le ratio then .error (.invalidRatio ratio) else .ok ()

structure Window where
  id : WindowId
  session : SessionId
  slots : List ResourceId
  layout : Option LayoutNode
  active : Option ResourceId
deriving DecidableEq

namespace Window

def split (w : Window) (target newPane : ResourceId) (dir : SplitDir) (ratio : F32) :
    Window × Except LayoutError Unit :=
  match validateRatio ratio with
  | .error error => (w, .error error)
  | .ok _ =>
    match w.layout with
    | none => (w, .error (.paneNotInLayout target))
    | some layout =>
      match layout.splitAt target newPane dir ratio with
      | .error error => (w, .error error)
      | .ok layout => ({ w with layout := some layout }, .ok ())

def seedLayout (w : Window) (pane : ResourceId) : Window × Except LayoutError Unit :=
  if w.layout.isSome then (w, .error (.paneNotInLayout pane))
  else ({ w with layout := some (.leaf pane) }, .ok ())

def killPane (w : Window) (target : ResourceId) : Window × Except LayoutError Unit :=
  match w.layout with
  | none => (w, .error (.paneNotInLayout target))
  | some (.leaf p) =>
    -- the only leaf: the layout goes, and the caller is told to remove the window
    if p = target then ({ w with layout := none }, .error .lastPane)
    else (w, .error (.paneNotInLayout target))
  | some (.split dir ratio left right) =>
    let (root, found) := LayoutNode.collapse target (.split dir ratio left right)
    ({ w with layout := some root },
      if found then .ok () else .error (.paneNotInLayout target))

/-- Append a pane: seed an empty window, else split the active slot in half. -/
def place (w : Window) (id : ResourceId) : Window :=
  let target := w.active
  let w := { w with slots := w.slots ++ [id] }
  match target with
  | none => { (w.seedLayout id).1 with active := some id }
  | some t => (w.split t id .horizontal .half).1

/-- Drop a pane from the slots and the layout, and move the focus off it. -/
def vacate (w : Window) (id : ResourceId) : Window :=
  let w := { w with slots := w.slots.filter (· ≠ id) }
  let w := (w.killPane id).1
  if w.active = some id then { w with active := w.slots.head? } else w

end Window

structure Session where
  id : SessionId
  name : String
  windows : List WindowId
  active : Option WindowId
  /-- Nanoseconds since the epoch, negative before it. -/
  createdAt : Int
  keepEmpty : Bool
deriving DecidableEq

structure TerminalFacet where
  dims : UInt16 × UInt16
  cwd : Bytes
  title : Option String
deriving DecidableEq

structure AgentFacet where
  provider : String
  nativeId : Option String
  state : Option String
deriving DecidableEq

structure ResourceDescriptor where
  id : ResourceId
  kind : ResourceKind
  parent : Option ResourceId
  window : Option WindowId
  terminal : Option TerminalFacet
  agent : Option AgentFacet
deriving DecidableEq

inductive RegistryError where
  | unknownSession (id : SessionId)
  | unknownWindow (id : WindowId)
  | unknownResource (id : ResourceId)
  | parentKindMismatch (parent : ResourceId) (actual required : ResourceKind)
deriving DecidableEq

structure Registry where
  sessions : SlotMap SessionTag Session
  windows : SlotMap WindowTag Window
  resources : SlotMap ResourceTag ResourceDescriptor

namespace Registry

def new : Registry := ⟨.empty, .empty, .empty⟩

def newSession (name : String) (now : Int) : Registry × SessionId :=
  ({ r with sessions := r.sessions.insert ⟨r.sessions.nextKey, name, [], none, now, false⟩ },
    r.sessions.nextKey)

def newWindow (session : SessionId) : Registry × Except RegistryError WindowId :=
  if !r.sessions.contains session then (r, .error (.unknownSession session))
  else
    let id := r.windows.nextKey
    ({ r with
      windows := r.windows.insert ⟨id, session, [], none, none⟩
      sessions := r.sessions.modify session fun s =>
        { s with windows := s.windows ++ [id], active := s.active.or (some id) } }, .ok id)

def newTerminal (window : WindowId) : Registry × Except RegistryError ResourceId :=
  if !r.windows.contains window then (r, .error (.unknownWindow window))
  else
    let id := r.resources.nextKey
    ({ r with
      resources := r.resources.insert
        ⟨id, .terminal, none, some window, some ⟨(80, 24), [], none⟩, none⟩
      windows := r.windows.modify window fun w => w.place id }, .ok id)

def newAgentSession (parent : ResourceId) (agent : AgentFacet) :
    Registry × Except RegistryError ResourceId :=
  match r.resources.get parent with
  | none => (r, .error (.unknownResource parent))
  | some resource =>
    if resource.kind ≠ .terminal then
      (r, .error (.parentKindMismatch parent resource.kind .terminal))
    else
      let id := r.resources.nextKey
      ({ r with
        resources := r.resources.insert ⟨id, .agentSession, some parent, none, none, some agent⟩ },
        .ok id)

def moveTerminal (id : ResourceId) (window : WindowId) : Registry × Except RegistryError Unit :=
  if !r.windows.contains window then (r, .error (.unknownWindow window))
  else
    match (r.resources.get id).bind ResourceDescriptor.window with
    | none => (r, .error (.unknownResource id))
    | some source =>
      if source = window then (r, .ok ())
      else
        ({ r with
          windows := (r.windows.modify source fun w => w.vacate id).modify window
            fun w => w.place id
          resources := r.resources.modify id fun t => { t with window := some window } }, .ok ())

def children (parent : ResourceId) : List ResourceId :=
  (r.resources.entries.filter fun (_, resource) => resource.parent = some parent).map Prod.fst

def removeChildrenOf (parent : ResourceId) : Registry :=
  { r with resources := (r.children parent).foldl SlotMap.remove r.resources }

def removeResource (id : ResourceId) : Registry × Option ResourceDescriptor :=
  match r.resources.get id with
  | none => (r, none)
  | some resource =>
    let r := { r with resources := r.resources.remove id }.removeChildrenOf id
    (match resource.window with
      | none => r
      | some window => { r with windows := r.windows.modify window fun w => w.vacate id },
      some resource)

def removeSlots (slots : List ResourceId) : Registry :=
  slots.foldl (fun r id => { r with resources := r.resources.remove id }.removeChildrenOf id) r

def removeWindow (id : WindowId) : Registry × Option Window :=
  match r.windows.get id with
  | none => (r, none)
  | some window =>
    let r := { r with windows := r.windows.remove id }.removeSlots window.slots
    ({ r with
      sessions := r.sessions.modify window.session fun s =>
        let windows := s.windows.filter (· ≠ id)
        { s with
          windows
          active := if s.active = some id then windows.head? else s.active } }, some window)

def dropWindow (id : WindowId) : Registry :=
  match r.windows.get id with
  | none => r
  | some window => { r with windows := r.windows.remove id }.removeSlots window.slots

def removeSession (id : SessionId) : Registry × Option Session :=
  match r.sessions.get id with
  | none => (r, none)
  | some session =>
    (session.windows.foldl dropWindow { r with sessions := r.sessions.remove id }, some session)

def terminal (id : ResourceId) : Option TerminalFacet :=
  (r.resources.get id).bind ResourceDescriptor.terminal

end Registry

end Phux.Core
