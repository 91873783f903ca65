import Phux.ServerRuns

/-! What reaping a pane drops from the server's ledgers, and what it leaves behind. -/

namespace Phux.Server

open ByteReader ServerState Core.Registry SlotMap Option IdBridge

variable {w : Core.WindowId} {W : Core.Window} {S : Core.Session} {r : Core.Registry}
  {id : Core.SessionId}

/-- What an entry of a ledger is about. A wire id stands for the resource it resolves to. -/
inductive Subject where
  | session (id : Core.SessionId)
  | window (id : Core.WindowId)
  | resource (id : Core.ResourceId)
  | wire (id : UInt32)

inductive Entry where
  | sessionWire (id : Core.SessionId) (wire : UInt32)
  | lastTouched (id : Core.SessionId) (at_ : UInt64)
  | root (id : Core.SessionId) (path : Bytes)
  | released (id : Core.SessionId)
  | attached (client : ClientId) (id : Core.SessionId)
  | windowWire (id : Core.WindowId) (wire : UInt32)
  | windowCwd (id : Core.WindowId) (cwd : Bytes)
  | terminalWire (id : Core.ResourceId) (wire : UInt32)
  | handle (id : Core.ResourceId)
  | token (id : Core.ResourceId)
  | subscribers (id : Core.ResourceId) (clients : List ClientId)
  | pump (client : ClientId) (id : Core.ResourceId) (bootstrap : BootstrapId)
  | outputPump (client : ClientId) (id : Core.ResourceId) (tasks : Nat)
  | spawn (id : Core.ResourceId) (record : SpawnRecord)
  | inputLease (id : Core.ResourceId) (holder : ClientId)
  | closeReason (id : Core.ResourceId) (reason : CloseReason)
  | asked (id : Core.ResourceId) (question : Bytes)
  | record (wire : UInt32) (value : Bytes)
  | metadata (wire : UInt32) (bucket : Table String Bytes)
  | metadataSubscription (client : ClientId) (wire : UInt32) (key : String)
  | eventScope (client : ClientId) (wire : UInt32)

namespace Entry

def subject : Entry → Subject
  | sessionWire id _ | lastTouched id _ | root id _ | released id | attached _ id => .session id
  | windowWire id _ | windowCwd id _ => .window id
  | terminalWire id _ | handle id | token id | subscribers id _ | pump _ id _ | outputPump _ id _
  | spawn id _ | inputLease id _ | closeReason id _ | asked id _ => .resource id
  | record wire _ | metadata wire _ | metadataSubscription _ wire _ | eventScope _ wire => .wire wire

/-- Whether reaping what it is about drops the entry. Leases, event scopes and the sessions
of attached clients stay. -/
def swept : Entry → Bool
  | attached _ _ | inputLease _ _ | eventScope _ _ => false
  | _ => true

end Entry

def Holds (s : ServerState) : Entry → Prop
  | .sessionWire id wire => s.idspace.sessions.wire id = some wire
  | .lastTouched id ts => s.sessions.lastTouched id = some ts
  | .root id path => s.sessions.roots id = some path
  | .released id => s.sessions.releasedKeepEmpty id = some ()
  | .attached client id => s.clients.attached client = some id
  | .windowWire id wire => s.idspace.windows.wire id = some wire
  | .windowCwd id cwd => s.sessions.windowLastCwd id = some cwd
  | .terminalWire id wire => s.idspace.terminals.wire id = some wire
  | .handle id => s.resources.handles id = some ()
  | .token id => s.resources.tokens id = some ()
  | .subscribers id clients => s.resources.subscribers id = some clients
  | .pump client id bootstrap => s.resources.pumps (client, id) = some bootstrap
  | .outputPump client id tasks => s.resources.outputPumps (client, id) = some tasks
  | .spawn id record => s.resources.spawns id = some record
  | .inputLease id holder => s.inputLeases id = some holder
  | .closeReason id reason => s.closeReasons id = some reason
  | .asked id question => s.agent.asked id = some question
  | .record wire value => s.agent.records (.local wire) = some value
  | .metadata wire bucket => s.metadata.terminal (.local wire) = some bucket
  | .metadataSubscription client wire key =>
    (client, .resource (.local wire), key) ∈ s.metadata.subscriptions
  | .eventScope client wire => ∃ scopes, s.clients.eventSubscriptions client = some scopes ∧
      .terminal (.local wire) ∈ scopes

def Live (s : ServerState) : Subject → Prop
  | .session id => s.registry.sessions.get id ≠ none
  | .window id => s.registry.windows.get id ≠ none
  | .resource id => s.registry.resources.get id ≠ none
  | .wire wire => ∃ id, s.idspace.terminals.resolve wire = some id ∧
      s.registry.resources.get id ≠ none

def NoDangling (s : ServerState) : Prop := ∀ e, Holds s e → Live s e.subject

def EmptiesWindow (s : ServerState) (pane : Core.ResourceId) (w : Core.WindowId) : Prop :=
  ∃ t W, s.registry.resources.get pane = some t ∧ t.window = some w ∧
    s.registry.windows.get w = some W ∧ W.slots.filter (· ≠ pane) = []

/-- The session of that window, when the window is all it has and it is not kept empty. -/
def EmptiesSession (s : ServerState) (pane : Core.ResourceId) (id : Core.SessionId) : Prop :=
  ∃ w W S, EmptiesWindow s pane w ∧ s.registry.windows.get w = some W ∧ W.session = id ∧
    s.registry.sessions.get id = some S ∧ S.windows.filter (· ≠ w) = [] ∧ S.keepEmpty = false

/-- A resource bound to the pane, which the registry removes with it. -/
def Bound (s : ServerState) (pane id : Core.ResourceId) : Prop :=
  ∃ t, s.registry.resources.get id = some t ∧ t.parent = some pane

/-- What reaping the pane looks after: the pane, its window and its session. -/
def Reaped (s : ServerState) (pane : Core.ResourceId) : Subject → Prop
  | .session id => EmptiesSession s pane id
  | .window id => EmptiesWindow s pane id
  | .resource id => id = pane
  | .wire wire => s.idspace.terminals.resolve wire = some pane

def BoundTo (s : ServerState) (pane : Core.ResourceId) : Subject → Prop
  | .session _ | .window _ => False
  | .resource id => Bound s pane id
  | .wire wire => ∃ id, s.idspace.terminals.resolve wire = some id ∧ Bound s pane id

def InCascade (s : ServerState) (pane : Core.ResourceId) (subject : Subject) : Prop :=
  Reaped s pane subject ∨ BoundTo s pane subject

def Sweeps (gone : Subject → Prop) (s s' : ServerState) : Prop :=
  ∀ e, Holds s' e ↔ Holds s e ∧ ¬(e.swept = true ∧ gone e.subject)

variable {s s' : ServerState} {pane : Core.ResourceId} {gone gone' : Subject → Prop}

theorem Sweeps.trans {t : ServerState} (h : Sweeps gone s s') (h' : Sweeps gone' s' t) :
    Sweeps (fun x => gone x ∨ gone' x) s t := by
  intro e
  rw [h' e, h e]
  cases hswept : e.swept with
  | false => simp
  | true => simp [not_or, and_assoc]

theorem Sweeps.congr (h : Sweeps gone s s') (hiff : ∀ x, gone x ↔ gone' x) : Sweeps gone' s s' := by
  intro e
  rw [h e, hiff]

def OfPane (s : ServerState) (pane : Core.ResourceId) : Subject → Prop
  | .session _ | .window _ => False
  | .resource id => id = pane
  | .wire wire => s.idspace.terminals.resolve wire = some pane

theorem forgetTerminal_sweeps (hs : s.idspace.terminals.Sound) (r : Core.Registry) :
    Sweeps (OfPane s pane) s
      (forgetTerminalBookkeeping { s with sessions.registry := r } pane) := by
  have hresolve : ∀ wire, s.idspace.terminals.resolve wire = some pane ↔
      s.idspace.terminals.forward pane = some wire := fun wire => (hs.inverse pane wire).symm
  intro e
  simp only [forgetTerminalBookkeeping, forget]
  cases hwire : s.idspace.terminals.forward pane with
  | none =>
    cases e with
    | terminalWire id wire =>
      simp only [Holds, IdBridge.wire, Entry.swept, Entry.subject, OfPane, true_and, iff_self_and]
      rintro hid rfl
      rw [hwire] at hid
      cases hid
    | _ =>
      simp [Holds, Entry.swept, Entry.subject, ResourceTable.forgetResource, Table.erase_eq_some,
        wire, OfPane, hresolve, hwire, and_comm]
  | some w =>
    cases e with
    | _ =>
      simp [Holds, Entry.swept, Entry.subject, ResourceTable.forgetResource, Table.erase_eq_some,
        wire, MetadataStore.forgetTerminal, OfPane, hresolve, hwire, and_comm, @eq_comm _ w]

theorem forgetWindow_sweeps (s : ServerState) (r : Core.Registry) (w : Core.WindowId) :
    Sweeps (· = .window w) s (forgetWindowBookkeeping { s with sessions.registry := r } w) := by
  intro e
  cases e with
  | windowWire id wire =>
    simp [Holds, Entry.swept, Entry.subject, forgetWindowBookkeeping, IdBridge.wire,
      IdBridge.forget_forward, and_comm]
  | _ =>
    simp [Holds, Entry.swept, Entry.subject, forgetWindowBookkeeping,
      SessionTable.forgetWindow, Table.erase_eq_some]

theorem forgetSession_sweeps (s : ServerState) (r : Core.Registry) (id : Core.SessionId) :
    Sweeps (· = .session id) s (forgetSessionBookkeeping
      { s with sessions := { s.sessions with registry := r }.noteRemoved id } id) := by
  intro e
  simp only [SessionTable.noteRemoved]
  cases hreleased : s.sessions.releasedKeepEmpty id with
  | none | some _ =>
    cases e with
    | _ =>
      simp [Holds, Entry.swept, Entry.subject, forgetSessionBookkeeping, wire,
        forget_forward, SessionTable.forgetSession, Table.erase_eq_some, and_comm]

theorem forgetLayout_holds (s : ServerState) (id : Core.SessionId) (e : Entry) :
    Holds (s.forgetLayoutOfEmptiedSession id) e ↔ Holds s e := by
  have hdelete : ∀ key, (s.metadata.delete (.group DEFAULT_GROUP_ID) key).terminal =
      s.metadata.terminal ∧ (s.metadata.delete (.group DEFAULT_GROUP_ID) key).subscriptions =
        s.metadata.subscriptions := by
    intro key
    cases hgroup : s.metadata.group DEFAULT_GROUP_ID with
    | none | some bucket => simp [MetadataStore.delete, hgroup]
  unfold forgetLayoutOfEmptiedSession
  repeat' split
  all_goals first
    | rfl
    | cases e with
      | _ => simp [Holds, hdelete]

theorem forgetLayout_registry (s : ServerState) (id : Core.SessionId) :
    (s.forgetLayoutOfEmptiedSession id).registry = s.registry := by
  unfold forgetLayoutOfEmptiedSession
  repeat' split
  all_goals rfl

theorem forgetTerminal_registry (s : ServerState) (r : Core.Registry) (pane : Core.ResourceId) :
    (forgetTerminalBookkeeping { s with sessions.registry := r } pane).registry = r := by
  unfold forgetTerminalBookkeeping
  dsimp only
  split
  all_goals rfl

theorem removeResource_get {t : Core.ResourceDescriptor} (ht : r.resources.get pane = some t)
    (k : Core.ResourceId) (t' : Core.ResourceDescriptor) :
    (r.removeResource pane).1.resources.get k = some t' ↔
      r.resources.get k = some t' ∧ k ≠ pane ∧ t'.parent ≠ some pane := by
  have hres : (r.removeResource pane).1.resources =
      ({ r with resources := r.resources.remove pane }.removeChildrenOf pane).resources := by
    cases hw : t.window with
    | none | some w => simp [removeResource, ht, hw]
  rw [hres, Core.removeChildrenOf_get, get_remove]
  by_cases hk : k = pane
  · simp [hk]
  · simp [hk]

theorem removeEmptyWindow (hW : r.windows.get w = some W) (hslots : W.slots = []) :
    (r.removeWindow w).1.resources = r.resources ∧
      (r.removeWindow w).1.windows = r.windows.remove w ∧
      (r.removeWindow w).1.sessions = r.sessions.modify W.session fun S => { S with
          windows := S.windows.filter (· ≠ w)
          active := if S.active = some w then (S.windows.filter (· ≠ w)).head? else S.active } := by
  simp [removeWindow, hW, hslots, removeSlots]

theorem removeEmptySession (hS : r.sessions.get id = some S) (hwindows : S.windows = []) :
    (r.removeSession id).1 = { r with sessions := r.sessions.remove id } := by
  simp [removeSession, hS, hwindows]

structure ReapSpec (s : ServerState) (pane : Core.ResourceId) (s' : ServerState) : Prop where
  sweeps : Sweeps (Reaped s pane) s s'
  resources : ∀ k t, s'.registry.resources.get k = some t ↔
    s.registry.resources.get k = some t ∧ k ≠ pane ∧ t.parent ≠ some pane
  windows : ∀ w, s'.registry.windows.get w ≠ none ↔
    s.registry.windows.get w ≠ none ∧ ¬EmptiesWindow s pane w
  sessions : ∀ id, s'.registry.sessions.get id ≠ none ↔
    s.registry.sessions.get id ≠ none ∧ ¬EmptiesSession s pane id

section

variable {t : Core.ResourceDescriptor}

theorem reap_pane (hs : s.idspace.terminals.Sound) (ht : s.registry.resources.get pane = some t)
    (hstays : ∀ w, ¬EmptiesWindow s pane w) : ReapSpec s pane (forgetTerminalBookkeeping
      { s with sessions.registry := (s.registry.removeResource pane).1 } pane) := by
  obtain ⟨hsessions, hwindows⟩ := Core.removeResource_windows ht
  refine ⟨(forgetTerminal_sweeps hs _).congr fun x => ?_, fun k t' => ?_, fun w => ?_, fun id => ?_⟩
  · cases x with
    | session id =>
      refine ⟨False.elim, ?_⟩
      rintro ⟨w, W, S, hempties, -⟩
      exact hstays w hempties
    | window w => exact ⟨False.elim, hstays w⟩
    | resource id | wire wire => exact .rfl
  · rw [forgetTerminal_registry]
    exact removeResource_get ht k t'
  · rw [forgetTerminal_registry, hwindows]
    simp only [hstays w, not_false_eq_true, and_true]
    cases t.window with
    | none => exact .rfl
    | some w' =>
      rw [get_modify]
      split
      · rename_i hw
        rw [hw]
        simp
      · exact .rfl
  · rw [forgetTerminal_registry, hsessions]
    have hstays' : ¬EmptiesSession s pane id := by
      rintro ⟨w, W, S, hempties, -⟩
      exact hstays w hempties
    simp [hstays']

theorem emptiesWindow_iff (ht : s.registry.resources.get pane = some t) (htw : t.window = some w)
    (hW : s.registry.windows.get w = some W) (hslots : W.slots.filter (· ≠ pane) = [])
    (w' : Core.WindowId) : EmptiesWindow s pane w' ↔ w' = w := by
  constructor
  · rintro ⟨t', W', ht', htw', -⟩
    rw [ht] at ht'
    cases ht'
    rw [htw] at htw'
    exact (some.inj htw').symm
  · rintro rfl
    exact ⟨t, W, ht, htw, hW, hslots⟩

theorem emptiesSession_iff (ht : s.registry.resources.get pane = some t) (htw : t.window = some w)
    (hW : s.registry.windows.get w = some W) (hslots : W.slots.filter (· ≠ pane) = [])
    (hS : s.registry.sessions.get W.session = some S) (id : Core.SessionId) :
    EmptiesSession s pane id ↔
      id = W.session ∧ S.windows.filter (· ≠ w) = [] ∧ S.keepEmpty = false := by
  constructor
  · rintro ⟨w', W', S', hempties, hW', hid, hS', hlast⟩
    rw [emptiesWindow_iff ht htw hW hslots] at hempties
    subst hempties
    rw [hW] at hW'
    cases hW'
    rw [← hid, hS] at hS'
    cases hS'
    exact ⟨hid.symm, hlast⟩
  · rintro ⟨rfl, hlast⟩
    exact ⟨w, W, S, ⟨t, W, ht, htw, hW, hslots⟩, hW, rfl, hS, hlast⟩

theorem reapSessionIfEmpty_last (hS : s.registry.sessions.get id = some S)
    (h : S.windows = [] ∧ S.keepEmpty = false) : s.reapSessionIfEmpty id = (forgetSessionBookkeeping
      { s with sessions := { s.sessions with
        registry := (s.registry.removeSession id).1 }.noteRemoved id } id, true) := by
  simp [reapSessionIfEmpty, hS, h.1, h.2]

theorem reapWindowIfEmpty_kept (hW : s.registry.windows.get w = some W) (h : W.slots ≠ []) :
    s.reapWindowIfEmpty w = s := by
  simp [reapWindowIfEmpty, hW, h]

/-- What removing an empty window does, with its session if that was its last. -/
structure WindowReaped (s : ServerState) (w : Core.WindowId) (id : Core.SessionId) (last : Prop)
    (s' : ServerState) : Prop where
  sweeps : Sweeps (fun x => x = .window w ∨ last ∧ x = .session id) s s'
  resources : s'.registry.resources = s.registry.resources
  windows : ∀ w', s'.registry.windows.get w' = if w' = w then none else s.registry.windows.get w'
  sessions : ∀ id', s'.registry.sessions.get id' ≠ none ↔
    s.registry.sessions.get id' ≠ none ∧ ¬(id' = id ∧ last)

theorem reapWindowIfEmpty_spec (hW : s.registry.windows.get w = some W) (hslots : W.slots = [])
    (hS : s.registry.sessions.get W.session = some S) {last : Prop}
    (hlast : last ↔ S.windows.filter (· ≠ w) = [] ∧ S.keepEmpty = false) :
    WindowReaped s w W.session last (s.reapWindowIfEmpty w) := by
  obtain ⟨hresources, hwindows, hsessions⟩ := removeEmptyWindow hW hslots
  have hsweeps := forgetWindow_sweeps s (s.registry.removeWindow w).1 w
  have hlive : ∀ id, (s.registry.removeWindow w).1.sessions.get id ≠ none ↔
      s.registry.sessions.get id ≠ none := by
    intro id
    rw [hsessions, get_modify]
    split
    · rename_i hid
      rw [hid]
      simp
    · exact Iff.rfl
  have hwindow : ∀ w', (s.registry.removeWindow w).1.windows.get w' =
      if w' = w then none else s.registry.windows.get w' := by
    intro w'
    rw [hwindows, get_remove]
  have hS' : (s.registry.removeWindow w).1.sessions.get W.session = some { S with
      windows := S.windows.filter (· ≠ w)
      active := if S.active = some w then (S.windows.filter (· ≠ w)).head? else S.active } := by
    rw [hsessions, get_modify, hS]
    simp
  have hmid : (forgetWindowBookkeeping
      { s with sessions.registry := (s.registry.removeWindow w).1 } w).registry =
        (s.registry.removeWindow w).1 := rfl
  simp only [reapWindowIfEmpty, hW, hslots, ne_eq, not_true_eq_false, ↓reduceIte]
  generalize forgetWindowBookkeeping
    { s with sessions.registry := (s.registry.removeWindow w).1 } w = mid at hsweeps hmid ⊢
  rw [← hmid] at hresources hlive hwindow hS'
  by_cases h : last
  · have hgone := removeEmptySession hS' (hlast.mp h).1
    rw [reapSessionIfEmpty_last hS' (hlast.mp h)]
    have hsession := forgetSession_sweeps mid (mid.registry.removeSession W.session).1 W.session
    have hregistry : (forgetSessionBookkeeping
        { mid with sessions := { mid.sessions with
          registry := (mid.registry.removeSession W.session).1 }.noteRemoved W.session }
        W.session).registry = { mid.registry with
          sessions := mid.registry.sessions.remove W.session } := by
      rw [← hgone]
      exact noteRemoved_registry _ _
    refine ⟨(hsweeps.trans hsession).congr fun x => by simp [h], ?_, ?_, ?_⟩
    · rw [hregistry]
      exact hresources
    · rw [hregistry]
      exact hwindow
    · intro id'
      rw [hregistry, get_remove, ← hlive]
      by_cases hid : id' = W.session
      · simp [hid, h]
      · simp [hid]
  · simp only [reapSessionIfEmpty, hS', Bool.not_eq_true', ← hlast, h, ↓reduceIte]
    refine ⟨fun e => ?_, ?_, ?_, ?_⟩
    · rw [forgetLayout_holds, hsweeps e]
      simp
    · rw [forgetLayout_registry]
      exact hresources
    · rw [forgetLayout_registry]
      exact hwindow
    · intro id'
      rw [forgetLayout_registry, hlive]
      simp

theorem reap_window (hok : Ok s) (ht : s.registry.resources.get pane = some t)
    (htw : t.window = some w) (hW : s.registry.windows.get w = some W)
    (hslots : W.slots.filter (· ≠ pane) = []) : ReapSpec s pane ((forgetTerminalBookkeeping
      { s with sessions.registry := (s.registry.removeResource pane).1 }
        pane).reapWindowIfEmpty w) := by
  obtain ⟨hsessions, hwindows⟩ := Core.removeResource_windows ht
  have hresources := removeResource_get ht
  have hsweeps : Sweeps (OfPane s pane) s _ :=
    forgetTerminal_sweeps hok.terminals (s.registry.removeResource pane).1
  have hregistry := forgetTerminal_registry s (s.registry.removeResource pane).1 pane
  generalize forgetTerminalBookkeeping
    { s with sessions.registry := (s.registry.removeResource pane).1 } pane = mid
    at hsweeps hregistry ⊢
  simp only [htw] at hwindows
  rw [← hregistry] at hsessions hwindows hresources
  obtain ⟨hsession, hvacated, -⟩ := Core.Window.vacate_spec W pane
  have hW' : mid.registry.windows.get w = some (W.vacate pane) := by
    rw [hwindows, get_modify, hW]
    simp
  obtain ⟨S, hS, -⟩ := hok.linked.listed.listed hW
  have hspec := reapWindowIfEmpty_spec hW' (hvacated.trans hslots) (S := S)
    (by rw [hsession, hsessions, hS]) Iff.rfl
  rw [hsession] at hspec
  have hempties := emptiesWindow_iff ht htw hW hslots
  have hlast := emptiesSession_iff ht htw hW hslots hS
  refine ⟨(hsweeps.trans hspec.sweeps).congr fun x => ?_, fun k t' => ?_, fun w' => ?_,
    fun id => ?_⟩
  · cases x with
    | session id => simp [OfPane, Reaped, hlast, and_comm]
    | window id => simp [OfPane, Reaped, hempties]
    | resource id | wire wire => simp [OfPane, Reaped]
  · rw [hspec.resources]
    exact hresources k t'
  · rw [hspec.windows, hempties]
    by_cases hw : w' = w
    · simp [hw]
    · rw [if_neg hw, hwindows, get_modify, if_neg hw]
      simp [hw]
  · rw [hspec.sessions, hsessions, hlast]

theorem reap_spec (hok : Ok s) (ht : s.registry.resources.get pane = some t) :
    ReapSpec s pane (s.reapTerminal pane) := by
  simp only [reapTerminal, ht]
  cases htw : t.window with
  | none =>
    refine reap_pane hok.terminals ht ?_
    rintro w ⟨t', W, ht', htw', -⟩
    rw [ht] at ht'
    cases ht'
    rw [htw] at htw'
    cases htw'
  | some w =>
    obtain ⟨W, hW, -⟩ := hok.linked.placed.seated ht htw
    by_cases hslots : W.slots.filter (· ≠ pane) = []
    · exact reap_window hok ht htw hW hslots
    · obtain ⟨-, hwindows⟩ := Core.removeResource_windows ht
      have hwindow : (s.registry.removeResource pane).1.windows.get w = some (W.vacate pane) := by
        rw [hwindows, htw, get_modify, hW]
        simp
      have hvacated := (Core.Window.vacate_spec W pane).2.1
      have hkept := reapWindowIfEmpty_kept ((congrArg (fun r => r.windows.get w)
        (forgetTerminal_registry s _ pane)).trans hwindow) (hvacated.trans_ne hslots)
      change ReapSpec s pane (reapWindowIfEmpty _ w)
      rw [hkept]
      refine reap_pane hok.terminals ht fun w' hempties => ?_
      · obtain ⟨t', W', ht', htw', hW', hslots'⟩ := hempties
        rw [ht] at ht'
        cases ht'
        rw [htw] at htw'
        cases htw'
        rw [hW] at hW'
        cases hW'
        exact hslots hslots'

end

theorem Bound.ne (hok : Ok s) {id : Core.ResourceId} (h : Bound s pane id) : id ≠ pane := by
  rintro rfl
  obtain ⟨t, ht, hparent⟩ := h
  cases hkind : t.kind with
  | terminal =>
    rw [(hok.linked.placed.terminal ht hkind).1] at hparent
    cases hparent
  | agentSession =>
    obtain ⟨-, p, T, hp, hT, hTkind⟩ := hok.linked.placed.agent ht hkind
    rw [hparent] at hp
    cases hp
    rw [ht] at hT
    cases hT
    rw [hkind] at hTkind
    cases hTkind

theorem ReapSpec.live (hspec : ReapSpec s pane s') (hs : s.idspace.terminals.Sound)
    (hs' : s'.idspace.terminals.Sound) (x : Subject) :
    Live s' x ↔ Live s x ∧ ¬InCascade s pane x := by
  have hresource : ∀ id, s'.registry.resources.get id ≠ none ↔
      s.registry.resources.get id ≠ none ∧ id ≠ pane ∧ ¬Bound s pane id := by
    intro id
    simp only [ne_none_iff_exists', hspec.resources]
    constructor
    · rintro ⟨t, ht, hne, hparent⟩
      refine ⟨⟨t, ht⟩, hne, ?_⟩
      rintro ⟨t', ht', hparent'⟩
      rw [ht] at ht'
      cases ht'
      exact hparent hparent'
    · rintro ⟨⟨t, ht⟩, hne, hbound⟩
      exact ⟨t, ht, hne, fun hparent => hbound ⟨t, ht, hparent⟩⟩
  cases x with
  | session id => simpa [Live, InCascade, Reaped, BoundTo] using hspec.sessions id
  | window id => simpa [Live, InCascade, Reaped, BoundTo] using hspec.windows id
  | resource id => simpa [Live, InCascade, Reaped, BoundTo, not_or] using hresource id
  | wire wire =>
    have hresolve : ∀ id, s'.idspace.terminals.resolve wire = some id ↔
        s.idspace.terminals.resolve wire = some id ∧ id ≠ pane := by
      intro id
      have hheld := hspec.sweeps (.terminalWire id wire)
      simp only [Holds, Entry.swept, Entry.subject, Reaped, true_and] at hheld
      exact ((hs'.inverse id wire).symm.trans hheld).trans (and_congr_left' (hs.inverse id wire))
    simp only [Live, InCascade, Reaped, BoundTo, hresolve, hresource, not_or, not_exists, not_and]
    constructor
    · rintro ⟨id, ⟨hid, hne⟩, hlive, -, hbound⟩
      refine ⟨⟨id, hid, hlive⟩, ?_, ?_⟩
      · rw [hid]
        exact fun he => hne (some.inj he)
      · intro id' hid'
        rw [hid] at hid'
        cases hid'
        exact hbound
    · rintro ⟨⟨id, hid, hlive⟩, hne, hbound⟩
      have hpane : id ≠ pane := by
        rintro rfl
        exact hne hid
      exact ⟨id, ⟨hid, hpane⟩, hlive, hpane, hbound id hid⟩

/-- What must be so of the ledgers before a reaping: outside the cascade nothing dangles,
nothing at all is filed under what is bound to the pane, and of what is reaped only entries
that the reaping sweeps. -/
structure ReapClean (s : ServerState) (pane : Core.ResourceId) : Prop where
  outside : ∀ e, Holds s e → ¬InCascade s pane e.subject → Live s e.subject
  swept : ∀ e, Holds s e → Reaped s pane e.subject → e.swept = true
  bound : ∀ e, Holds s e → ¬BoundTo s pane e.subject

/-- After a resource of a reachable state is reaped, no entry of any ledger dangles exactly
when the ledgers were clean before. Entries outside the cascade, and resources outside it, are
as they were. -/
theorem reap_no_dangling {token : ServerInstance} {ops : List ServerOp}
    (h : after token ops = some s) {t : Core.ResourceDescriptor}
    (ht : s.registry.resources.get pane = some t) :
    (NoDangling (s.reapTerminal pane) ↔ ReapClean s pane) ∧
      (∀ e : Entry, ¬InCascade s pane e.subject → (Holds (s.reapTerminal pane) e ↔ Holds s e)) ∧
      ∀ id, ¬InCascade s pane (.resource id) →
        (s.reapTerminal pane).registry.resources.get id = s.registry.resources.get id := by
  obtain ⟨hok, -⟩ := after_ok h
  have hspec := reap_spec hok ht
  have hlive := hspec.live hok.terminals ((reapTerminal_shrunk s pane).ok hok).terminals
  refine ⟨⟨fun hno => ⟨?_, ?_, ?_⟩, fun hclean e he => ?_⟩, ?_, ?_⟩
  · intro e he hout
    have hkept := (hspec.sweeps e).mpr ⟨he, fun hswept => hout (.inl hswept.2)⟩
    exact ((hlive e.subject).mp (hno e hkept)).1
  · intro e he hreaped
    by_contra hswept
    have hkept := (hspec.sweeps e).mpr ⟨he, fun hboth => hswept hboth.1⟩
    exact ((hlive e.subject).mp (hno e hkept)).2 (.inl hreaped)
  · intro e he hbound
    have hkept := (hspec.sweeps e).mpr ⟨he, fun hboth => ?_⟩
    · exact ((hlive e.subject).mp (hno e hkept)).2 (.inr hbound)
    · -- what is bound to the pane is not the pane
      revert hbound hboth
      cases e.subject with
      | session id | window id => exact fun hbound => hbound.elim
      | resource id => exact fun hbound hboth => hbound.ne hok hboth.2
      | wire wire =>
        rintro ⟨id, hid, hbound⟩ ⟨-, hreaped⟩
        rw [Reaped, hid] at hreaped
        exact hbound.ne hok (some.inj hreaped)
  · obtain ⟨he, hkept⟩ := (hspec.sweeps e).mp he
    have hreaped : ¬Reaped s pane e.subject := fun hr => hkept ⟨hclean.swept e he hr, hr⟩
    have hout : ¬InCascade s pane e.subject := by
      rintro (hr | hb)
      · exact hreaped hr
      · exact hclean.bound e he hb
    exact (hlive e.subject).mpr ⟨hclean.outside e he hout, hout⟩
  · intro e hout
    rw [hspec.sweeps e]
    exact and_iff_left fun hboth => hout (.inl hboth.2)
  · intro id hout
    refine ext fun t' => ?_
    rw [hspec.resources]
    refine and_iff_left_of_imp fun ht' => ⟨fun he => hout (.inl he), fun hparent => hout (.inr ?_)⟩
    exact ⟨t', ht', hparent⟩

def lonePane : List ServerOp := [.seedSessionWithActor "main" 0 none true]

theorem lonePane_holds (h : after zeroInstance lonePane = some s)
    {e : Entry} (he : Holds s e) : e.subject = .resource ⟨0, 1⟩ ∧ e.swept = true := by
  cases h
  cases e with
  | terminalWire id wire =>
    by_cases hid : id = ⟨0, 1⟩
    · exact ⟨by rw [hid]; rfl, rfl⟩
    · have hnone : Table.insert (fun _ => none) (⟨0, 1⟩ : Core.ResourceId) 1 id = some wire := he
      simp [hid] at hnone
  | handle id | token id =>
    by_cases hid : id = ⟨0, 1⟩
    · exact ⟨by rw [hid]; rfl, rfl⟩
    · have hnone : Table.insert (fun _ => none) (⟨0, 1⟩ : Core.ResourceId) () id = some () := he
      simp [hid] at hnone
  | eventScope client wire =>
    obtain ⟨scopes, hscopes, -⟩ := he
    cases hscopes
  | metadataSubscription client wire key => cases he
  | _ => cases he

theorem reap_no_dangling_lone : ∃ s, after zeroInstance lonePane = some s ∧ ReapClean s ⟨0, 1⟩ ∧
      NoDangling (s.reapTerminal ⟨0, 1⟩) := by
  have h : after zeroInstance lonePane =
      some ((after zeroInstance lonePane).get (by decide)) := (some_get _).symm
  have hclean : ReapClean ((after zeroInstance lonePane).get (by decide)) ⟨0, 1⟩ := by
    refine ⟨fun e he hout => ?_, fun e he _ => (lonePane_holds h he).2, fun e he => ?_⟩
    · rw [(lonePane_holds h he).1] at hout
      exact absurd (.inl rfl) hout
    · rw [(lonePane_holds h he).1]
      rintro ⟨t, ht, hparent⟩
      cases ht
      cases hparent
  exact ⟨_, h, hclean, (reap_no_dangling h rfl).1.mpr hclean⟩

/-- A pane whose input a client holds: the lease outlives the pane. -/
theorem lease_outlives_pane : ∃ s, after zeroInstance [.seedSessionWithPty "main" 0 none none true,
        .acquireInput ⟨0, 1⟩ ⟨7⟩] = some s ∧ s.registry.resources.get ⟨0, 1⟩ ≠ none ∧
      (s.reapTerminal ⟨0, 1⟩).registry.resources.get ⟨0, 1⟩ = none ∧
      (s.reapTerminal ⟨0, 1⟩).inputLeases ⟨0, 1⟩ = some ⟨7⟩ ∧
      ¬NoDangling (s.reapTerminal ⟨0, 1⟩) := by
  refine ⟨_, rfl, by decide, rfl, rfl, fun hno => ?_⟩
  exact hno (.inputLease ⟨0, 1⟩ ⟨7⟩) rfl rfl

end Phux.Server
