import Phux.RecordCodec
import Phux.KeyedRows
import Mathlib.Tactic.DeriveEncodable
import Mathlib.Logic.Encodable.Pi

/-! The session snapshot: sessions, windows with their layout trees, resources,
and the trailing sections that later revisions of the format appended. -/

namespace Phux

open ByteReader KeyedRows List

variable {moreFollow : Bool} {bs : Bytes} {sessions : List SessionInfo}
  {report : Option RemoteListenersReport}

namespace F32

def isNaN (x : F32) : Bool :=
  x.bits &&& 0x7f800000 == 0x7f800000 && x.bits &&& 0x007fffff != 0

def isFinite (x : F32) : Bool := x.bits &&& 0x7f800000 != 0x7f800000

def key (x : F32) : Int :=
  if x.bits &&& 0x80000000 = 0 then (x.bits &&& 0x7fffffff).toNat
  else -((x.bits &&& 0x7fffffff).toNat : Int)

def le (x y : F32) : Bool := !x.isNaN && !y.isNaN && decide (x.key ≤ y.key)

def zero : F32 := ⟨0⟩

def one : F32 := ⟨0x3f800000⟩

def half : F32 := ⟨0x3f000000⟩

def isRatio (x : F32) : Bool := x.isFinite && zero.le x && x.le one

end F32

inductive SplitDir where
  | horizontal | vertical
deriving DecidableEq

inductive LayoutNode where
  | leaf (pane : ResourceId)
  | split (dir : SplitDir) (ratio : F32) (left right : LayoutNode)
deriving DecidableEq

namespace LayoutNode

def depth : LayoutNode → Nat
  | leaf _ => 0
  | split _ _ left right => max left.depth right.depth + 1

def RatiosValid : LayoutNode → Prop
  | leaf _ => True
  | split _ ratio left right => ratio.isRatio = true ∧ left.RatiosValid ∧ right.RatiosValid

end LayoutNode

def encodeSplitDir : SplitDir → UInt8
  | .horizontal => 0
  | .vertical => 1

def decodeSplitDir : Decode SplitDir := do
  match ← readU8 with
  | 0 => pure .horizontal
  | 1 => pure .vertical
  | other => unknownTag "SplitDir" other

theorem decodes_splitDir {d : SplitDir} : Decodes decodeSplitDir (writeU8 (encodeSplitDir d)) d := by
  cases d with
  | horizontal | vertical => exact decodes_u8.thenPure rfl

def encodeLayoutNode : LayoutNode → Bytes
  | .leaf pane => writeU8 0 ++ encodeTerminalId pane
  | .split dir ratio left right =>
    writeU8 1 ++ (writeU8 (encodeSplitDir dir) ++ (writeF32Be ratio ++
      (encodeLayoutNode left ++ encodeLayoutNode right)))

def maxLayoutDepth : Nat := 64

def decodeLayoutNodeDepth : Nat → Decode LayoutNode
  | 0 => throw .layoutTooDeep
  | levels + 1 => do
    match ← readU8 with
    | 0 =>
      let pane ← decodeTerminalId
      pure (.leaf pane)
    | 1 =>
      let dir ← decodeSplitDir
      let ratio ← readF32Be
      failIf (ratio.isRatio = false) (DecodeError.malformedLayoutRatio ratio)
      let left ← decodeLayoutNodeDepth levels
      let right ← decodeLayoutNodeDepth levels
      pure (.split dir ratio left right)
    | other => unknownTag "LayoutNode" other

def decodeLayoutNode : Decode LayoutNode := decodeLayoutNodeDepth maxLayoutDepth

theorem decodes_layoutNodeDepth {node : LayoutNode} {levels : Nat} (hd : node.depth < levels)
    (hr : node.RatiosValid) : Decodes (decodeLayoutNodeDepth levels) (encodeLayoutNode node) node := by
  induction node generalizing levels with
  | leaf pane =>
    obtain ⟨levels, rfl⟩ : ∃ k, levels = k + 1 := ⟨levels - 1, by omega⟩
    exact decodes_u8.bind (decodes_terminalId.map _)
  | split dir ratio left right ihl ihr =>
    obtain ⟨levels, rfl⟩ : ∃ k, levels = k + 1 := ⟨levels - 1, by omega⟩
    simp only [LayoutNode.depth] at hd
    obtain ⟨hratio, hl, hr⟩ := hr
    have hok : ¬ ratio.isRatio = false := by simp [hratio]
    exact decodes_u8.bind <| decodes_splitDir.bind <| decodes_f32.bind <|
      Reads.failIf hok <| (ihl (by omega) hl).bind <| (ihr (by omega) hr).map _

def encodeOptionLayoutNode : Option LayoutNode → Bytes := encodeOptional encodeLayoutNode

def decodeOptionLayoutNode : Decode (Option LayoutNode) :=
  decodeOptional "Option<LayoutNode> tag" decodeLayoutNode

def encodeOptionWindowId : Option WindowId → Bytes := encodeOptional fun id => writeU32Be id.raw

def decodeOptionWindowId : Decode (Option WindowId) :=
  decodeOptional "Option<WindowId> tag" do
    let raw ← readU32Be
    pure ⟨raw⟩

theorem decodes_optionWindowId {o : Option WindowId} :
    Decodes decodeOptionWindowId (encodeOptionWindowId o) o :=
  decodes_optional fun _ _ => decodes_u32.map WindowId.mk

def encodeOptionTerminalId : Option ResourceId → Bytes := encodeOptional encodeTerminalId

def decodeOptionTerminalId : Decode (Option ResourceId) :=
  decodeOptional "Option<ResourceId> tag" decodeTerminalId

theorem decodes_optionTerminalId {o : Option ResourceId} :
    Decodes decodeOptionTerminalId (encodeOptionTerminalId o) o :=
  decodes_optional fun _ _ => decodes_terminalId

structure SessionInfo where
  id : SessionId
  name : String
  activeWindow : Option WindowId
  createdAtUnixSecs : Int64
  windowCount : UInt16
  attachedClientCount : UInt16
  keepEmpty : Bool
deriving DecidableEq

def encodeSessionInfo (info : SessionInfo) : Bytes :=
  writeU32Be info.id.raw ++ (writeStr info.name ++ (encodeOptionWindowId info.activeWindow ++
    (writeI64Be info.createdAtUnixSecs ++ (writeU16Be info.windowCount ++
      writeU16Be info.attachedClientCount))))

def decodeSessionInfo : Decode SessionInfo := do
  let id ← readU32Be
  let name ← readStr
  let activeWindow ← decodeOptionWindowId
  let createdAtUnixSecs ← readI64Be
  let windowCount ← readU16Be
  let attachedClientCount ← readU16Be
  pure { id := ⟨id⟩, name, activeWindow, createdAtUnixSecs, windowCount, attachedClientCount,
         keepEmpty := false }

def SessionInfo.strip (info : SessionInfo) : SessionInfo := { info with keepEmpty := false }

theorem decodes_sessionInfo {info : SessionInfo} :
    Decodes decodeSessionInfo (encodeSessionInfo info) info.strip :=
  decodes_u32.bind <| decodes_str.bind <| decodes_optionWindowId.bind <| decodes_i64.bind <|
    decodes_u16.bind <| decodes_u16.map _

structure WindowInfo where
  id : WindowId
  sessionId : SessionId
  index : UInt16
  name : String
  activeResource : Option ResourceId
  layout : Option LayoutNode
deriving DecidableEq

def encodeWindowInfo (info : WindowInfo) : Bytes :=
  writeU32Be info.id.raw ++ (writeU32Be info.sessionId.raw ++ (writeU16Be info.index ++
    (writeStr info.name ++ (encodeOptionTerminalId info.activeResource ++
      encodeOptionLayoutNode info.layout))))

def decodeWindowInfo : Decode WindowInfo := do
  let id ← readU32Be
  let sessionId ← readU32Be
  let index ← readU16Be
  let name ← readStr
  let activeResource ← decodeOptionTerminalId
  let layout ← decodeOptionLayoutNode
  pure { id := ⟨id⟩, sessionId := ⟨sessionId⟩, index, name, activeResource, layout }

/-- The layout is one the decoder takes: shallow enough, with proper ratios. -/
def WindowInfo.LayoutValid (info : WindowInfo) : Prop :=
  ∀ node, info.layout = some node → node.depth < maxLayoutDepth ∧ node.RatiosValid

theorem decodes_windowInfo {info : WindowInfo} (h : info.LayoutValid) :
    Decodes decodeWindowInfo (encodeWindowInfo info) info := by
  have hlayout : Decodes decodeOptionLayoutNode (encodeOptionLayoutNode info.layout) info.layout :=
    decodes_optional fun node hn => decodes_layoutNodeDepth (h node hn).1 (h node hn).2
  exact decodes_u32.bind <| decodes_u32.bind <| decodes_u16.bind <| decodes_str.bind <|
    decodes_optionTerminalId.bind <| hlayout.map _

structure AgentFacet where
  provider : String
  nativeId : Option String
  state : String
deriving DecidableEq

structure ResourceInfo where
  id : ResourceId
  windowId : WindowId
  cols : UInt16
  rows : UInt16
  title : Option String
  cwd : Option String
  kind : ResourceKind
  parent : Option ResourceId
  agent : Option AgentFacet
deriving DecidableEq

namespace ResourceInfo

def hasResourceFacets (info : ResourceInfo) : Bool :=
  !info.kind.isTerminal || info.parent.isSome || info.agent.isSome

def strip (info : ResourceInfo) : ResourceInfo :=
  { info with kind := .terminal, parent := none, agent := none }

end ResourceInfo

def encodeTerminalInfo (info : ResourceInfo) : Bytes :=
  encodeTerminalId info.id ++ (writeU32Be info.windowId.raw ++ (writeU16Be info.cols ++
    (writeU16Be info.rows ++ (encodeOptionalStr info.title ++ encodeOptionalStr info.cwd))))

def decodeTerminalInfo : Decode ResourceInfo := do
  let id ← decodeTerminalId
  let windowId ← readU32Be
  let cols ← readU16Be
  let rows ← readU16Be
  let title ← decodeOptionalStr
  let cwd ← decodeOptionalStr
  pure { id, windowId := ⟨windowId⟩, cols, rows, title, cwd, kind := .terminal, parent := none,
         agent := none }

theorem decodes_terminalInfo {info : ResourceInfo} :
    Decodes decodeTerminalInfo (encodeTerminalInfo info) info.strip :=
  decodes_terminalId.bind <| decodes_u32.bind <| decodes_u16.bind <| decodes_u16.bind <|
    decodes_optionalStr.bind <| decodes_optionalStr.map _

def encodeAgentFacet (agent : AgentFacet) : Bytes :=
  writeStr agent.provider ++ (encodeOptionalStr agent.nativeId ++ writeStr agent.state)

def decodeAgentFacet : Decode AgentFacet := do
  let provider ← readStr
  let nativeId ← decodeOptionalStr
  let state ← readStr
  pure { provider, nativeId, state }

theorem decodes_agentFacet {a : AgentFacet} : Decodes decodeAgentFacet (encodeAgentFacet a) a :=
  decodes_str.bind <| decodes_optionalStr.bind <| decodes_str.map _

structure FacetRow where
  id : ResourceId
  kind : ResourceKind
  parent : Option ResourceId
  agent : Option AgentFacet
deriving DecidableEq

def ResourceInfo.facetRow (info : ResourceInfo) : FacetRow :=
  { id := info.id, kind := info.kind, parent := info.parent, agent := info.agent }

def FacetRow.patch (row : FacetRow) (info : ResourceInfo) : ResourceInfo :=
  { info with kind := row.kind, parent := row.parent, agent := row.agent }

def encodeFacetRow (row : FacetRow) : Bytes :=
  encodeTerminalId row.id ++ (writeU8 row.kind.asWire ++ (encodeOptionTerminalId row.parent ++
    encodeOptional encodeAgentFacet row.agent))

def decodeResourceKind : Decode ResourceKind := do
  let tag ← readU8
  pure (.fromWire tag)

theorem decodes_resourceKind {k : ResourceKind} (h : k.ReallyUnknown) :
    Decodes decodeResourceKind (writeU8 k.asWire) k :=
  decodes_u8.thenPure (by rw [ResourceKind.fromWire_asWire h])

def decodeFacetRow : Decode FacetRow := do
  let id ← decodeTerminalId
  let kind ← decodeResourceKind
  let parent ← decodeOptionTerminalId
  let agent ← decodeOptional "Option<AgentFacet> tag" decodeAgentFacet
  pure { id, kind, parent, agent }

theorem decodes_facetRow {row : FacetRow} (h : row.kind.ReallyUnknown) :
    Decodes decodeFacetRow (encodeFacetRow row) row :=
  decodes_terminalId.bind <| (decodes_resourceKind h).bind <| decodes_optionTerminalId.bind <|
    (decodes_optional fun _ _ => decodes_agentFacet).map _

theorem facetColumns :
    Columns ResourceInfo.id FacetRow.id ResourceInfo.hasResourceFacets ResourceInfo.strip
      ResourceInfo.facetRow FacetRow.patch where
  strip_key _ := rfl
  row_key _ := rfl
  patch_row _ _ := rfl
  strip_unmarked info h := by
    obtain ⟨id, windowId, cols, rows, title, cwd, kind, parent, agent⟩ := info
    cases kind <;> cases parent <;> cases agent <;>
      simp_all [ResourceInfo.hasResourceFacets, ResourceInfo.strip, ResourceKind.isTerminal]

/-- A counted list that is left out when it is empty and nothing follows it. -/
def encodeSection {α : Type} (enc : α → Bytes) (rows : List α) (moreFollow : Bool) : Bytes :=
  if rows.isEmpty && !moreFollow then [] else encodeList enc rows

def encodeResourceFacets (resources : List ResourceInfo) (moreFollow : Bool) : Bytes :=
  encodeSection encodeFacetRow
    ((resources.filter ResourceInfo.hasResourceFacets).map ResourceInfo.facetRow) moreFollow

def decodeResourceFacets (resources : List ResourceInfo) : Decode (List ResourceInfo) :=
  trailing resources do
    let rows ← readU32Be
    foldRows decodeFacetRow (applyRow ResourceInfo.id FacetRow.id FacetRow.patch) rows.toNat resources

structure HostSessionInfo where
  id : SessionId
  name : String
  createdAtUnixSecs : Int64
  windowCount : UInt16
  paneCount : UInt16
  attachedClientCount : UInt16
  activeResource : Option ResourceId
deriving DecidableEq

structure HostInventory where
  host : SatelliteHost
  unreachable : Option String
  sessions : List HostSessionInfo
deriving DecidableEq

def encodeHostSession (session : HostSessionInfo) : Bytes :=
  writeU32Be session.id.raw ++ (writeStr session.name ++ (writeI64Be session.createdAtUnixSecs ++
    (writeU16Be session.windowCount ++ (writeU16Be session.paneCount ++
      (writeU16Be session.attachedClientCount ++ encodeOptionTerminalId session.activeResource)))))

def decodeHostSession : Decode HostSessionInfo := do
  let id ← readU32Be
  let name ← readStr
  let createdAtUnixSecs ← readI64Be
  let windowCount ← readU16Be
  let paneCount ← readU16Be
  let attachedClientCount ← readU16Be
  let activeResource ← decodeOptionTerminalId
  pure { id := ⟨id⟩, name, createdAtUnixSecs, windowCount, paneCount, attachedClientCount,
         activeResource }

theorem decodes_hostSession {s : HostSessionInfo} :
    Decodes decodeHostSession (encodeHostSession s) s :=
  decodes_u32.bind <| decodes_str.bind <| decodes_i64.bind <|
    decodes_u16.bind <| decodes_u16.bind <| decodes_u16.bind <| decodes_optionTerminalId.map _

def encodeHostRow (row : HostInventory) : Bytes :=
  writeStr row.host.name ++ (encodeOptionalStr row.unreachable ++
    encodeList encodeHostSession row.sessions)

def decodeHostRow : Decode HostInventory := do
  let host ← readStr
  let unreachable ← decodeOptionalStr
  let sessions ← decodeList decodeHostSession
  pure { host := ⟨host⟩, unreachable, sessions }

theorem writeU32Be_ne_nil (x : UInt32) (bs : Bytes) : writeU32Be x ++ bs ≠ [] := by
  simp [writeU32Be, beBytes]

theorem decodes_hostRow {row : HostInventory} : Decodes decodeHostRow (encodeHostRow row) row :=
  decodes_str.bind <| decodes_optionalStr.bind <|
    (decodes_list (fun s _ => writeU32Be_ne_nil s.id.raw _) fun _ _ => decodes_hostSession).map _

def encodeHostInventory : List HostInventory → Bool → Bytes := encodeSection encodeHostRow

def decodeHostInventory : Decode (List HostInventory) := trailing [] (decodeList decodeHostRow)

structure SessionFacetRow where
  id : SessionId
  flags : UInt8
deriving DecidableEq

def SessionInfo.facetRow (info : SessionInfo) : SessionFacetRow :=
  { id := info.id, flags := 0x01 }

def SessionFacetRow.patch (row : SessionFacetRow) (info : SessionInfo) : SessionInfo :=
  { info with keepEmpty := row.flags &&& 0x01 != 0 }

def encodeSessionFacetRow (row : SessionFacetRow) : Bytes :=
  writeU32Be row.id.raw ++ writeU8 row.flags

def decodeSessionFacetRow : Decode SessionFacetRow := do
  let id ← readU32Be
  let flags ← readU8
  pure { id := ⟨id⟩, flags }

theorem decodes_sessionFacetRow {row : SessionFacetRow} :
    Decodes decodeSessionFacetRow (encodeSessionFacetRow row) row :=
  decodes_u32.bind (decodes_u8.map _)

def encodeSessionFacets (sessions : List SessionInfo) (moreFollow : Bool) : Bytes :=
  encodeSection encodeSessionFacetRow
    ((sessions.filter SessionInfo.keepEmpty).map SessionInfo.facetRow) moreFollow

def decodeSessionFacets (sessions : List SessionInfo) : Decode (List SessionInfo) :=
  trailing sessions do
    let rows ← readU32Be
    foldRows decodeSessionFacetRow
      (applyRow SessionInfo.id SessionFacetRow.id SessionFacetRow.patch) rows.toNat sessions

theorem sessionColumns :
    Columns SessionInfo.id SessionFacetRow.id SessionInfo.keepEmpty SessionInfo.strip
      SessionInfo.facetRow SessionFacetRow.patch where
  strip_key _ := rfl
  row_key _ := rfl
  patch_row info h := by
    cases info
    simp_all [SessionFacetRow.patch, SessionInfo.facetRow, SessionInfo.strip]
  strip_unmarked info h := by
    cases info
    simp_all [SessionInfo.strip]

inductive ListenerDisabledReason where
  | tokenStoreLoadFailed | tlsSetupFailed | certProvisionFailed | bindFailed | overlayGateClosed
  | noOverlayAddress
deriving DecidableEq

inductive RemoteListenerTransport where
  | wss | quic | wt
deriving DecidableEq

structure RemoteListenerSlot where
  transport : RemoteListenerTransport
  expected : Bool
  bound : Bool
  addr : Option String
  disabledReason : Option ListenerDisabledReason
deriving DecidableEq

structure RemoteListenersReport where
  schemaVersion : UInt32
  listeners : List RemoteListenerSlot
deriving DecidableEq

/-- What the codec takes from outside: the JSON serializer of the listener
report and the inflater of compressed frames. -/
structure External where
  toJson : RemoteListenersReport → String
  fromJson : String → Option RemoteListenersReport
  inflate : Bytes → Nat → Option Bytes

def External.JsonRoundTrips (ext : External) : Prop := ∀ r, ext.fromJson (ext.toJson r) = some r

instance encodableUInt32 : Encodable UInt32 := Encodable.ofLeftInverse UInt32.toNat UInt32.ofNat fun x => by simp

instance encodableChar : Encodable Char := Encodable.ofLeftInverse Char.toNat Char.ofNat fun x => by simp

instance encodableString : Encodable String :=
  Encodable.ofLeftInverse String.toList String.ofList fun x => by simp

deriving instance Encodable for ListenerDisabledReason, RemoteListenerTransport,
  RemoteListenerSlot, RemoteListenersReport

/-- A serializer that numbers the reports and writes the number in unary. -/
def External.unary : External where
  toJson report := String.ofList (List.replicate (Encodable.encode report) '1')
  fromJson json := Encodable.decode json.length
  inflate _ _ := none

theorem External.unary_jsonRoundTrips : unary.JsonRoundTrips := by
  intro report
  simp [unary]

/-- The last two trailing sections, kept only when one of them has content. -/
structure SessionSnapshotTrail where
  hosts : List HostInventory
  listeners : Option RemoteListenersReport
  nonempty : hosts ≠ [] ∨ listeners ≠ none

def SessionSnapshotTrail.of (hosts : List HostInventory) (listeners : Option RemoteListenersReport) :
    Option SessionSnapshotTrail :=
  if h : hosts ≠ [] ∨ listeners ≠ none then some ⟨hosts, listeners, h⟩ else none

structure SessionSnapshot where
  sessions : List SessionInfo
  windows : List WindowInfo
  resources : List ResourceInfo
  focusedSession : SessionId
  focusedWindow : WindowId
  focusedResource : ResourceId
  trail : Option SessionSnapshotTrail

namespace SessionSnapshot

variable (snap : SessionSnapshot)

def hosts : List HostInventory := (snap.trail.map (·.hosts)).getD []

def listeners : Option RemoteListenersReport :=
  snap.trail.bind (·.listeners)

def setHosts (hosts : List HostInventory) : SessionSnapshot :=
  { snap with trail := SessionSnapshotTrail.of hosts snap.listeners }

def setListeners (listeners : Option RemoteListenersReport) : SessionSnapshot :=
  { snap with trail := SessionSnapshotTrail.of snap.hosts listeners }

structure Bounded (snap : SessionSnapshot) : Prop where
  layouts : ∀ w ∈ snap.windows, w.LayoutValid
  kinds : ∀ r ∈ snap.resources, r.kind.ReallyUnknown
  resourceIds : (snap.resources.map ResourceInfo.id).Nodup
  sessionIds : (snap.sessions.map SessionInfo.id).Nodup

/-- What it takes for a snapshot to come back from the wire: an id may repeat, but only its first
entry may have facets. -/
structure Legible (snap : SessionSnapshot) : Prop where
  layouts : ∀ w ∈ snap.windows, w.LayoutValid
  kinds : ∀ r ∈ snap.resources, r.kind.ReallyUnknown
  resources : Leading ResourceInfo.id ResourceInfo.hasResourceFacets snap.resources
  sessions : Leading SessionInfo.id SessionInfo.keepEmpty snap.sessions

theorem Bounded.legible {snap : SessionSnapshot} (h : snap.Bounded) : snap.Legible :=
  ⟨h.layouts, h.kinds, leading_of_nodup h.resourceIds, leading_of_nodup h.sessionIds⟩

end SessionSnapshot

variable (ext : External)

def encodeListeners (report : Option RemoteListenersReport) : Bytes :=
  match report with
  | none => []
  | some report => encodeOptionalStr (some (ext.toJson report))

def decodeListeners : Decode (Option RemoteListenersReport) :=
  trailing none do
    let json ← decodeOptionalStr
    pure (json.bind ext.fromJson)

def encodeTrail (snap : SessionSnapshot) : Bytes :=
  let listenersFollow := snap.listeners.isSome
  let sessionFacetsFollow := (snap.sessions.any (·.keepEmpty)) || listenersFollow
  let hostsFollow := !snap.hosts.isEmpty || sessionFacetsFollow
  encodeResourceFacets snap.resources hostsFollow ++
    (encodeHostInventory snap.hosts sessionFacetsFollow ++
      (encodeSessionFacets snap.sessions listenersFollow ++ encodeListeners ext snap.listeners))

def encodeSessionSnapshot (snap : SessionSnapshot) : Bytes :=
  encodeList encodeSessionInfo snap.sessions ++ (encodeList encodeWindowInfo snap.windows ++
    (encodeList encodeTerminalInfo snap.resources ++ (writeU32Be snap.focusedSession.raw ++
      (writeU32Be snap.focusedWindow.raw ++ (encodeTerminalId snap.focusedResource ++
        encodeTrail ext snap)))))

def SessionSnapshot.withTrail (snap : SessionSnapshot) (hosts : List HostInventory)
    (listeners : Option RemoteListenersReport) : SessionSnapshot :=
  let snap := if hosts.isEmpty then snap else snap.setHosts hosts
  match listeners with
  | none => snap
  | some listeners => snap.setListeners (some listeners)

def decodeSessionSnapshot : Decode SessionSnapshot := do
  let sessions ← decodeList decodeSessionInfo
  let windows ← decodeList decodeWindowInfo
  let resources ← decodeList decodeTerminalInfo
  let focusedSession ← readU32Be
  let focusedWindow ← readU32Be
  let focusedResource ← decodeTerminalId
  let resources ← decodeResourceFacets resources
  let hosts ← decodeHostInventory
  let sessions ← decodeSessionFacets sessions
  let listeners ← decodeListeners ext
  let snapshot : SessionSnapshot :=
    { sessions, windows, resources, focusedSession := ⟨focusedSession⟩,
      focusedWindow := ⟨focusedWindow⟩, focusedResource, trail := none }
  pure (snapshot.withTrail hosts listeners)

theorem decodesToEnd_section {α β γ : Type} {enc : α → Bytes} {rows : List α} {p : Decode β}
    {f : β → Decode γ} {absent a : β} {b : γ} (hempty : rows = [] → absent = a)
    (hlast : moreFollow = false → bs = []) (hp : Decodes p (encodeList enc rows) a)
    (hf : DecodesToEnd (f a) bs b) :
    DecodesToEnd (trailing absent p >>= f) (encodeSection enc rows moreFollow ++ bs) b := by
  unfold encodeSection
  split_ifs with h
  · simp only [Bool.and_eq_true, List.isEmpty_iff, Bool.not_eq_true'] at h
    rw [hempty h.1]
    rw [hlast h.2] at hf ⊢
    exact .trailing_absent hf
  · exact .trailing_present (writeU32Be_ne_nil _ _) hp hf

theorem decodes_foldRows {α σ : Type} {enc : α → Bytes} {dec : Decode α} {f : σ → α → σ}
    {rows : List α} {s t : σ} (hs : rows.foldl f s = t) (hne : ∀ x ∈ rows, enc x ≠ [])
    (h : ∀ x ∈ rows, Decodes dec (enc x) x) :
    Decodes (do let n ← readU32Be; foldRows dec f n.toNat s) (encodeList enc rows) t := by
  intro hb
  have hrep : Decodes (foldRows dec f (saturateU32 rows.length).toNat s) (rows.flatMap enc) t := by
    rw [saturate_count hne hb, ← hs]
    exact reads_foldRows s h
  exact decodes_u32.bind hrep hb

theorem withTrail_hosts_listeners (snap : SessionSnapshot) :
    ({ snap with trail := none } : SessionSnapshot).withTrail snap.hosts snap.listeners = snap := by
  obtain ⟨sessions, windows, resources, fs, fw, fr, trail⟩ := snap
  cases trail with
  | none => rfl
  | some trail =>
    obtain ⟨hosts, listeners, hne⟩ := trail
    cases hosts with
    | nil =>
      cases listeners with
      | none => exact absurd hne (by simp)
      | some listeners => rfl
    | cons host hosts => cases listeners <;> rfl

variable {ext}

theorem decodesToEnd_listeners {β : Type} (hjson : ext.JsonRoundTrips)
    {f : Option RemoteListenersReport → Decode β} {b : β}
    (hf : DecodesToEnd (f report) [] b) :
    DecodesToEnd (decodeListeners ext >>= f) (encodeListeners ext report) b := by
  cases report with
  | none => exact .trailing_absent hf
  | some report =>
    have hp : Decodes (do let json ← decodeOptionalStr; pure (json.bind ext.fromJson))
        (encodeOptionalStr (some (ext.toJson report))) (some report) :=
      decodes_optionalStr.thenPure (by rw [Option.bind_some, hjson report])
    rw [← append_nil (encodeListeners ext (some report))]
    exact .trailing_present writeU8_ne_nil hp hf

theorem encodeSection_eq_nil {α : Type} {enc : α → Bytes} {rows : List α} (h : rows = []) :
    encodeSection enc rows false = [] := by
  simp [encodeSection, h]

theorem encodeListeners_eq_nil (h : report.isSome = false) : encodeListeners ext report = [] := by
  cases report with
  | none => rfl
  | some report => simp at h

theorem encodeSessionFacets_eq_nil (h : (sessions.any (·.keepEmpty) || report.isSome) = false) :
    encodeSessionFacets sessions report.isSome ++ encodeListeners ext report = [] := by
  obtain ⟨hs, hr⟩ := Bool.or_eq_false_iff.mp h
  have hrows : sessions.filter SessionInfo.keepEmpty = [] := by
    rw [filter_eq_nil_iff]
    exact any_eq_false.mp hs
  rw [encodeListeners_eq_nil hr, hr, encodeSessionFacets, encodeSection_eq_nil (by simp [hrows]),
    append_nil]

theorem decodesToEnd_sessionSnapshot (hjson : ext.JsonRoundTrips)
    {snap : SessionSnapshot} (h : snap.Legible) :
    DecodesToEnd (decodeSessionSnapshot ext) (encodeSessionSnapshot ext snap) snap := by
  have hsessions : Decodes (decodeList decodeSessionInfo) (encodeList encodeSessionInfo snap.sessions)
      (snap.sessions.map .strip) :=
    decodes_listMap (fun s _ => writeU32Be_ne_nil s.id.raw _) fun _ _ => decodes_sessionInfo
  have hwindows : Decodes (decodeList decodeWindowInfo) (encodeList encodeWindowInfo snap.windows)
      snap.windows :=
    decodes_list (fun w _ => writeU32Be_ne_nil w.id.raw _)
      fun w hw => decodes_windowInfo (h.layouts w hw)
  have hresources : Decodes (decodeList decodeTerminalInfo)
      (encodeList encodeTerminalInfo snap.resources) (snap.resources.map .strip) :=
    decodes_listMap (fun r _ => by simp [encodeTerminalInfo, encodeTerminalId_ne_nil])
      fun _ _ => decodes_terminalInfo
  have hfacets := foldl_applyRow facetColumns h.resources
  have hkept := foldl_applyRow sessionColumns h.sessions
  refine hsessions.bindToEnd <| hwindows.bindToEnd <| hresources.bindToEnd <|
    decodes_u32.bindToEnd <| decodes_u32.bindToEnd <| decodes_terminalId.bindToEnd <|
    decodesToEnd_section (fun he => by rw [he] at hfacets; exact hfacets) ?_
      (decodes_foldRows hfacets (fun row _ => by simp [encodeFacetRow, encodeTerminalId_ne_nil])
        fun row hm => ?_) <|
    decodesToEnd_section (fun he => he.symm) ?_
      (decodes_list (fun r _ => by simp [encodeHostRow, writeStr_ne_nil]) fun r _ =>
        decodes_hostRow) <| decodesToEnd_section (fun he => by rw [he] at hkept; exact hkept) ?_
      (decodes_foldRows hkept (fun row _ => writeU32Be_ne_nil row.id.raw _)
        fun _ _ => decodes_sessionFacetRow) <| decodesToEnd_listeners hjson ?_
  · intro hlast
    obtain ⟨hhosts, hrest⟩ := Bool.or_eq_false_iff.mp hlast
    rw [encodeSessionFacets_eq_nil hrest, hrest, encodeHostInventory,
      encodeSection_eq_nil (by simpa using hhosts), append_nil]
  · obtain ⟨r, hr, rfl⟩ := mem_map.mp hm
    exact decodes_facetRow (h.kinds r (mem_of_mem_filter hr))
  · exact encodeSessionFacets_eq_nil
  · exact encodeListeners_eq_nil
  · show DecodesToEnd
      (pure (({ snap with trail := none } : SessionSnapshot).withTrail snap.hosts snap.listeners))
      [] snap
    rw [withTrail_hosts_listeners]
    exact (reads_pure snap).toEnd

end Phux
