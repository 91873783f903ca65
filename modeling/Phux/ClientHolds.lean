import Phux.HubLease
import Phux.ServerRuns

/-! Everything a server keeps under a client's name, and what tearing the client down leaves
of it. -/

namespace Phux.Server

variable {s : HubState} {c d : ClientId} {terminal : UInt32} {host : SatelliteHost}

/-- The server's state with the ledgers that only clients appear in. -/
structure HubState where
  server : ServerState
  /-- Who holds the input of each satellite terminal, among this hub's clients. -/
  satelliteLeases : Table (SatelliteHost × UInt32) ClientId
  satelliteProxyAttaches : List (ClientId × SatelliteHost × UInt32)
  layers : Table ClientId LayerSet
  peerIdentities : Table ClientId Unit
  metadataMailboxes : Table ClientId Unit
  terminalMailboxes : Table ClientId Unit
  sessionCreateResults : Table ClientId (List String)

inductive Hold where
  | attached (session : Core.SessionId)
  | inputLease (terminal : Core.ResourceId)
  | satelliteLease (host : SatelliteHost) (terminal : UInt32)
  | satelliteProxy (host : SatelliteHost) (terminal : UInt32)
  | subscription (terminal : Core.ResourceId)
  | pump (terminal : Core.ResourceId) (bootstrap : BootstrapId)
  | outputPump (terminal : Core.ResourceId) (tasks : Nat)
  | events (scopes : List EventScope)
  | metadata (scope : Scope) (key : String)
  | layers (layers : LayerSet)
  | peerIdentity
  | metadataMailbox
  | terminalMailbox
  | createResults (keys : List String)

inductive AcquireOutcome where
  | notFound
  | wrongKind
  | denied (holder : ClientId)
  | granted (action : ControlAction)
deriving DecidableEq

namespace ServerState

def handleAcquireInput (s : ServerState) (client : ClientId) (terminal : UInt32)
    (mode : InputMode) : ServerState × AcquireOutcome :=
  match s.idspace.terminals.resolve terminal with
  | none => (s, .notFound)
  | some core =>
    match s.resources.handles core with
    | none => (s, .notFound)
    | some _ =>
      if (s.registry.resources.get core).any fun t => t.kind ≠ .terminal then (s, .wrongKind)
      else
        match s.inputLeases core with
        | none => (s.acquireInput core client, .granted .acquired)
        | some holder =>
          if holder = client then (s.acquireInput core client, .granted .acquired)
          else if mode = .cooperative then (s, .denied holder)
          else (s.acquireInput core client, .granted .seized)

end ServerState

namespace HubState

def new (token : ServerInstance) : HubState :=
  ⟨.new token, fun _ => none, [], fun _ => none, fun _ => none, fun _ => none, fun _ => none,
    fun _ => none⟩

def Holds (s : HubState) (client : ClientId) : Hold → Prop
  | .attached session => s.server.clients.attached client = some session
  | .inputLease terminal => s.server.inputLeases terminal = some client
  | .satelliteLease host terminal => s.satelliteLeases (host, terminal) = some client
  | .satelliteProxy host terminal => (client, host, terminal) ∈ s.satelliteProxyAttaches
  | .subscription terminal => client ∈ (s.server.resources.subscribers terminal).getD []
  | .pump terminal bootstrap => s.server.resources.pumps (client, terminal) = some bootstrap
  | .outputPump terminal tasks => s.server.resources.outputPumps (client, terminal) = some tasks
  | .events scopes => s.server.clients.eventSubscriptions client = some scopes
  | .metadata scope key => (client, scope, key) ∈ s.server.metadata.subscriptions
  | .layers layers => s.layers client = some layers
  | .peerIdentity => s.peerIdentities client = some ()
  | .metadataMailbox => s.metadataMailboxes client = some ()
  | .terminalMailbox => s.terminalMailboxes client = some ()
  | .createResults keys => s.sessionCreateResults client = some keys

/-- `LeaseTable::set_satellite`, once the satellite has granted the relayed acquire. -/
def setSatelliteLease (s : HubState) (host : SatelliteHost) (terminal : UInt32)
    (client : ClientId) : HubState :=
  { s with satelliteLeases := s.satelliteLeases.insert (host, terminal) client }

def releaseSatelliteLease (s : HubState) (host : SatelliteHost) (terminal : UInt32)
    (client : ClientId) : HubState :=
  if s.satelliteLeases (host, terminal) = some client then
    { s with satelliteLeases := s.satelliteLeases.erase (host, terminal) }
  else s

/-- `relay_satellite_acquire_input`; `relayed` is what the satellite answers. -/
def relaySatelliteAcquireInput (s : HubState) (client : ClientId) (host : SatelliteHost)
    (terminal : UInt32) (mode : InputMode) (relayed : CommandResult) : HubState × CommandResult :=
  match s.satelliteLeases (host, terminal) with
  | some holder =>
    if mode = .cooperative ∧ holder ≠ client then
      (s, .error .inputLeaseHeld ("input lease held by client " ++ toString holder.raw))
    else if HubLease.isError relayed then (s, relayed)
    else (s.setSatelliteLease host terminal client, relayed)
  | none =>
    if HubLease.isError relayed then (s, relayed)
    else (s.setSatelliteLease host terminal client, relayed)

def registerSatelliteProxyAttach (s : HubState) (client : ClientId) (host : SatelliteHost)
    (terminal : UInt32) : HubState :=
  if (client, host, terminal) ∈ s.satelliteProxyAttaches then s
  else { s with satelliteProxyAttaches := s.satelliteProxyAttaches ++ [(client, host, terminal)] }

def unregisterSatelliteProxyAttach (s : HubState) (client : ClientId) (host : SatelliteHost)
    (terminal : UInt32) : HubState :=
  { s with satelliteProxyAttaches :=
      s.satelliteProxyAttaches.filter (· ≠ (client, host, terminal)) }

def relaysSatelliteInput (s : HubState) (client : ClientId) (host : SatelliteHost)
    (terminal : UInt32) : Bool :=
  (client, host, terminal) ∈ s.satelliteProxyAttaches ∧
    (s.satelliteLeases (host, terminal)).all (· = client)

def metadataSubscribe (s : HubState) (client : ClientId) (scope : Scope) (key : String) :
    HubState :=
  let metadata := s.server.metadata.subscribe client scope key
  { s with
    server.metadata := metadata
    metadataMailboxes :=
      if metadata.subscriptions.contains (client, scope, key) then
        s.metadataMailboxes.insert client ()
      else s.metadataMailboxes }

def MAX_PENDING_PER_CLIENT : Nat := 256

def trackSessionCreateResult (s : HubState) (client : ClientId) (key : String) : HubState :=
  match (s.sessionCreateResults client).getD [] with
  | [] => { s with sessionCreateResults := s.sessionCreateResults.insert client [key] }
  | oldest :: keys =>
    if MAX_PENDING_PER_CLIENT ≤ (oldest :: keys).length then
      { s with
        sessionCreateResults := s.sessionCreateResults.insert client (keys ++ [key])
        server.metadata := s.server.metadata.delete .global oldest }
    else
      { s with
        sessionCreateResults := s.sessionCreateResults.insert client (oldest :: keys ++ [key]) }

def detach (s : HubState) (client : ClientId) : HubState :=
  let server := s.server.detach client
  { s with
    server := { server with
      metadata := ((s.sessionCreateResults client).getD []).foldl
        (fun m key => m.delete .global key) server.metadata }
    satelliteLeases := fun k => (s.satelliteLeases k).filter (· ≠ client)
    metadataMailboxes := s.metadataMailboxes.erase client
    terminalMailboxes := s.terminalMailboxes.erase client
    sessionCreateResults := s.sessionCreateResults.erase client }

def forgetConnection (s : HubState) (client : ClientId) : HubState :=
  let s := s.detach client
  { s with
    layers := s.layers.erase client
    peerIdentities := s.peerIdentities.erase client }

/-- `release_connection_state`: the teardown of a closed transport. -/
def releaseConnectionState (s : HubState) (client : ClientId) : HubState :=
  (s.detach client).forgetConnection client

end HubState

inductive HubOp where
  | server (op : ServerOp)
  | accept (client : ClientId)
  | setLayers (client : ClientId) (layers : LayerSet)
  | acquireInput (client : ClientId) (terminal : UInt32) (mode : InputMode)
  | acquireSatellite (client : ClientId) (host : SatelliteHost) (terminal : UInt32)
    (mode : InputMode) (relayed : CommandResult)
  | releaseSatellite (client : ClientId) (host : SatelliteHost) (terminal : UInt32)
  | attachSatellite (client : ClientId) (host : SatelliteHost) (terminal : UInt32)
  | detachSatellite (client : ClientId) (host : SatelliteHost) (terminal : UInt32)
  | rememberTerminalMailbox (client : ClientId)
  | trackSessionCreateResult (client : ClientId) (key : String)
  | disconnect (client : ClientId)

namespace HubState

def step (s : HubState) : HubOp → Option HubState
  | .server (.detach client) => some (s.detach client)
  | .server (.subscribeMetadata client scope key) => some (s.metadataSubscribe client scope key)
  | .server op => (s.server.step op).map fun server => { s with server }
  | .accept client => some { s with peerIdentities := s.peerIdentities.insert client () }
  | .setLayers client layers => some { s with layers := s.layers.insert client layers }
  | .acquireInput client terminal mode =>
    some { s with server := (s.server.handleAcquireInput client terminal mode).1 }
  | .acquireSatellite client host terminal mode relayed =>
    some (s.relaySatelliteAcquireInput client host terminal mode relayed).1
  | .releaseSatellite client host terminal => some (s.releaseSatelliteLease host terminal client)
  | .attachSatellite client host terminal =>
    some (s.registerSatelliteProxyAttach client host terminal)
  | .detachSatellite client host terminal =>
    some (s.unregisterSatelliteProxyAttach client host terminal)
  | .rememberTerminalMailbox client =>
    some { s with terminalMailboxes := s.terminalMailboxes.insert client () }
  | .trackSessionCreateResult client key => some (s.trackSessionCreateResult client key)
  | .disconnect client => some (s.releaseConnectionState client)

def after (token : ServerInstance) (ops : List HubOp) : Option HubState :=
  ops.foldlM step (new token)

theorem deleteAll_subscriptions (keys : List String) (m : MetadataStore) :
    (keys.foldl (fun m key => m.delete .global key) m).subscriptions = m.subscriptions := by
  induction keys generalizing m with
  | nil => rfl
  | cons key keys ih => exact ih _

theorem mem_dropClientSubscriptions {t : ResourceTable} {k : Core.ResourceId} :
    d ∈ ((t.dropClientSubscriptions c).subscribers k).getD [] ↔
      d ∈ (t.subscribers k).getD [] ∧ d ≠ c := by
  simp only [ResourceTable.dropClientSubscriptions]
  cases t.subscribers k with
  | none => simp
  | some subs =>
    by_cases hnil : subs.filter (· ≠ c) = []
    · have hnone : ∀ a ∈ subs, a = c := by simpa [List.filter_eq_nil_iff] using hnil
      simp only [Option.bind_some, hnil, ↓reduceIte, Option.getD_none, List.not_mem_nil,
        Option.getD_some, false_iff, not_and, not_not]
      exact hnone d
    · rw [Option.bind_some, if_neg hnil]
      simp

end HubState

/-- What the end of an attachment leaves: what HELLO settled, and the satellite proxies. -/
def Hold.outlivesDetach : Hold → Bool
  | .satelliteProxy _ _ | .layers _ | .peerIdentity => true
  | _ => false

def Hold.isSatelliteProxy : Hold → Bool
  | .satelliteProxy _ _ => true
  | _ => false

namespace HubState

theorem leaves {p q r : Prop} (h : p ↔ q ∧ r) : p ↔ q ∧ (r ∨ false = true) := by simpa using h

theorem stays {q r : Prop} : q ↔ q ∧ (r ∨ true = true) := by simp

/-- An entry is there after a detach if it was before and is another client's, or one of the
kinds that stay. -/
theorem detach_holds (s : HubState) (c d : ClientId) (h : Hold) :
    (s.detach c).Holds d h ↔ s.Holds d h ∧ (d ≠ c ∨ h.outlivesDetach = true) := by
  cases h with
  | attached | events | metadataMailbox | terminalMailbox | createResults =>
    exact leaves Table.erase_eq_some
  | inputLease | satelliteLease => exact leaves (by simp [Holds, detach, ServerState.detach])
  | subscription => exact leaves mem_dropClientSubscriptions
  | pump | outputPump =>
    refine leaves ?_
    by_cases hd : d = c <;> simp [Holds, detach, ServerState.detach,
      ResourceTable.dropClientSubscriptions, ResourceTable.cancelPumpsForClient, hd]
  | satelliteProxy | layers | peerIdentity => exact stays
  | metadata scope key =>
    refine leaves ?_
    simp [Holds, detach, ServerState.detach, deleteAll_subscriptions, MetadataStore.dropClient]

theorem forgetConnection_holds (s : HubState) (c d : ClientId) (h : Hold) :
    (s.forgetConnection c).Holds d h ↔ s.Holds d h ∧ (d ≠ c ∨ h.isSatelliteProxy = true) := by
  have hdetach := detach_holds s c d h
  cases h with
  | layers | peerIdentity => exact leaves Table.erase_eq_some
  | _ => exact hdetach

theorem releaseConnectionState_holds {h : Hold} :
    (s.releaseConnectionState c).Holds d h ↔ s.Holds d h ∧ (d ≠ c ∨ h.isSatelliteProxy = true) := by
  have hstays : h.isSatelliteProxy = true → h.outlivesDetach = true := by
    cases h with
    | satelliteProxy host terminal => exact fun _ => rfl
    | _ => exact fun hproxy => absurd hproxy Bool.false_ne_true
  rw [releaseConnectionState, forgetConnection_holds, detach_holds]
  tauto

theorem handleAcquireInput_free {s : ServerState} {core : Core.ResourceId}
    (hwire : s.idspace.terminals.resolve terminal = some core)
    (hhandle : s.resources.handles core ≠ none)
    (hkind : ∀ t, s.registry.resources.get core = some t → t.kind = .terminal)
    (hfree : s.inputLeases core = none) (client : ClientId) (mode : InputMode) :
    s.handleAcquireInput client terminal mode =
      (s.acquireInput core client, .granted .acquired) := by
  obtain ⟨handle, hhandle⟩ := Option.ne_none_iff_exists'.mp hhandle
  have hterminal : (s.registry.resources.get core).any (fun t => t.kind ≠ .terminal) = false := by
    cases hget : s.registry.resources.get core with
    | none => rfl
    | some t => simp [hkind t hget]
  simp only [ServerState.handleAcquireInput, hwire, hhandle, hterminal, hfree,
    Bool.false_eq_true, ↓reduceIte]

structure Released (c : ClientId) (before after : HubState) : Prop where
  gone : ∀ h, ¬after.Holds c h
  others : ∀ d, d ≠ c → ∀ h, after.Holds d h ↔ before.Holds d h
  panes : ∀ core terminal, before.server.inputLeases core = some c →
    before.server.idspace.terminals.resolve terminal = some core →
    before.server.resources.handles core ≠ none →
    (∀ t, before.server.registry.resources.get core = some t → t.kind = .terminal) →
    ∀ d mode, after.server.handleAcquireInput d terminal mode =
      (after.server.acquireInput core d, .granted .acquired)
  satellites : ∀ host terminal, before.satelliteLeases (host, terminal) = some c →
    ∀ d mode relayed, HubLease.isError relayed = false →
      after.relaySatelliteAcquireInput d host terminal mode relayed =
        (after.setSatelliteLease host terminal d, relayed)

theorem released_of_no_proxies
    (hnone : ∀ host terminal, ¬s.Holds c (.satelliteProxy host terminal)) :
    Released c s (s.releaseConnectionState c) where
  gone h hafter := by
    obtain ⟨hbefore, hne | hproxy⟩ := releaseConnectionState_holds.mp hafter
    · exact hne rfl
    · cases h with
      | satelliteProxy host terminal => exact hnone host terminal hbefore
      | _ => exact Bool.false_ne_true hproxy
  others d hd h := by
    rw [releaseConnectionState_holds]
    exact and_iff_left (.inl hd)
  panes core terminal hheld hwire hhandle hkind d mode :=
    handleAcquireInput_free (s := (s.releaseConnectionState c).server) hwire hhandle hkind
      (by simp [releaseConnectionState, forgetConnection, detach, ServerState.detach, hheld]) d mode
  satellites host terminal hheld d mode relayed hrelayed := by
    have hfree : (s.releaseConnectionState c).satelliteLeases (host, terminal) = none := by
      simp [releaseConnectionState, forgetConnection, detach, hheld]
    simp [relaySatelliteAcquireInput, hfree, hrelayed]

/-- A teardown releases everything exactly for a client with no satellite pane attached:
`release_all_for` leaves the proxy attachments in place. -/
theorem disconnect_releases_every_hold (s : HubState) (c : ClientId) :
    Released c s (s.releaseConnectionState c) ↔
      ∀ host terminal, ¬s.Holds c (.satelliteProxy host terminal) := by
  constructor
  · intro hreleased host terminal hproxy
    exact hreleased.gone _ (releaseConnectionState_holds.mpr ⟨hproxy, .inr rfl⟩)
  · exact released_of_no_proxies

/-- Client 7 with a pane and a satellite terminal in its hands, and client 8 beside it. -/
def twoClients : List HubOp :=
  [.server (.seedSessionWithPty "main" 0 none none true), .accept ⟨7⟩, .setLayers ⟨7⟩ .new,
    .accept ⟨8⟩, .server (.attach ⟨7⟩ "main"), .server (.attach ⟨8⟩ "main"),
    .server (.subscribe ⟨7⟩ ⟨0, 1⟩), .acquireInput ⟨7⟩ 1 .cooperative,
    .acquireSatellite ⟨7⟩ ⟨"far"⟩ 3 .cooperative .ok]

theorem disconnect_releases_two_clients :
    ∃ s, after zeroInstance twoClients = some s ∧ s.Holds ⟨7⟩ (.inputLease ⟨0, 1⟩) ∧
      s.Holds ⟨7⟩ (.satelliteLease ⟨"far"⟩ 3) ∧ s.Holds ⟨7⟩ (.subscription ⟨0, 1⟩) ∧
      Released ⟨7⟩ s (s.releaseConnectionState ⟨7⟩) := by
  refine ⟨_, rfl, rfl, rfl, List.Mem.head _, ?_⟩
  refine (disconnect_releases_every_hold _ _).mpr fun host terminal hproxy => ?_
  exact absurd hproxy List.not_mem_nil

/-- Client 7 attaches a satellite terminal and goes: its name is still on the proxy list, and
would pass the gate of satellite input. -/
theorem satellite_proxy_outlives_client :
    ∃ s, after zeroInstance [.accept ⟨7⟩, .setLayers ⟨7⟩ .new, .attachSatellite ⟨7⟩ ⟨"far"⟩ 3,
        .disconnect ⟨7⟩] = some s ∧
      s.Holds ⟨7⟩ (.satelliteProxy ⟨"far"⟩ 3) ∧ s.relaysSatelliteInput ⟨7⟩ ⟨"far"⟩ 3 = true :=
  ⟨_, rfl, List.mem_singleton.mpr rfl, by decide⟩

end HubState

end Phux.Server
