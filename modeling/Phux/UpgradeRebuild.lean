import Phux.IdHistory
import Phux.SlotFill
import Phux.UpgradeBlob

/-! Rebuilding from a blob puts every entry under its wire id and links it as the blob says. -/

namespace Phux.Server

open ByteReader SessionBlob ServerState SlotMap List

def createdOrNow (now : Int) (nanos : Nat) : Int := (unixNanosToSystemTime nanos).getD now

structure SessionKept (now : Int) (touched : Table Core.SessionId UInt64)
    (roots : Table Core.SessionId Bytes) (k : Core.SessionId) (S : Core.Session)
    (b : SessionBlob) : Prop where
  name : S.name = b.name
  created : S.createdAt = createdOrNow now b.createdAtUnixNanos
  keepEmpty : S.keepEmpty = b.keepEmpty
  touched : touched k = b.lastTouched
  root : roots k = b.root

structure WindowKept (sessionCore : Table UInt32 Core.SessionId)
    (lastCwd : Table Core.WindowId Bytes) (k : Core.WindowId) (W : Core.Window)
    (b : WindowBlob) : Prop where
  session : sessionCore b.sessionWireId = some W.session
  lastCwd : lastCwd k = b.lastCwd

structure PaneKept (windowCore : Table UInt32 Core.WindowId)
    (resumed : Table Core.ResourceId PaneBlob) (k : Core.ResourceId)
    (t : Core.ResourceDescriptor) (b : PaneBlob) : Prop where
  seated : ∃ w, windowCore b.windowWireId = some w ∧
    t = ⟨k, .terminal, none, some w, some ⟨(b.cols, b.rows), b.cwd, b.title⟩, none⟩
  resumed : resumed k = some b

structure Cores where
  sessions : Table UInt32 Core.SessionId
  windows : Table UInt32 Core.WindowId
  panes : Table UInt32 Core.ResourceId
  resumed : Table Core.ResourceId PaneBlob

/-- The state holds the entries of the blob read so far, and nothing else. -/
structure Built (now : Int) (s : ServerState) (c : Cores) (ss : List SessionBlob)
    (ws : List WindowBlob) (ps : List PaneBlob) : Prop where
  sessions : SlotMap.Filled (SessionKept now s.sessions.lastTouched s.sessions.roots)
    wireId s.registry.sessions c.sessions s.idspace.sessions.forward ss
  windows : SlotMap.Filled (WindowKept c.sessions s.sessions.windowLastCwd)
    WindowBlob.wireId s.registry.windows c.windows s.idspace.windows.forward ws
  panes : SlotMap.Filled (PaneKept c.windows c.resumed)
    PaneBlob.wireId s.registry.resources c.panes s.idspace.terminals.forward ps
  unseen : ∀ k, s.registry.sessions.get k = none →
    s.sessions.lastTouched k = none ∧ s.sessions.roots k = none
  unvisited : ∀ k, s.registry.windows.get k = none → s.sessions.windowLastCwd k = none
  boundSessions : s.idspace.sessions.Bound (ss.map wireId)
  boundWindows : s.idspace.windows.Bound (ws.map WindowBlob.wireId)
  boundPanes : s.idspace.terminals.Bound (ps.map PaneBlob.wireId)
  handles : ∀ k, s.registry.resources.get k ≠ none → s.resources.handles k ≠ none

def Cores.none : Cores :=
  ⟨fun _ => Option.none, fun _ => Option.none, fun _ => Option.none, fun _ => Option.none⟩

variable {now : Int} {s : ServerState} {c : Cores} {ss : List SessionBlob} {ws : List WindowBlob}
  {ps : List PaneBlob}

theorem insertOptional {κ ν : Type} [DecidableEq κ] {t : Table κ ν} {k : κ} (h : t k = none)
    (v : Option ν) : (v.elim t fun v => t.insert k v) k = v := by
  cases v with
  | none => exact h
  | some v => simp

theorem insertOptional_of_ne {κ ν : Type} [DecidableEq κ] {t : Table κ ν} {k k' : κ}
    (h : k' ≠ k) {v : Option ν} : (v.elim t fun v => t.insert k v) k' = t k' := by
  cases v with
  | none => rfl
  | some v => simp [h]

theorem rebuildSession_eq (now : Int) (s : ServerState) (cores : Table UInt32 Core.SessionId)
    (b : SessionBlob) : rebuildSession now (s, cores) b = ({ s with
      sessions.registry.sessions := s.registry.sessions.insert ⟨s.registry.sessions.nextKey,
        b.name, [], none, createdOrNow now b.createdAtUnixNanos, b.keepEmpty⟩
      sessions.lastTouched := b.lastTouched.elim s.sessions.lastTouched
        fun ts => s.sessions.lastTouched.insert s.registry.sessions.nextKey ts
      sessions.roots := b.root.elim s.sessions.roots
        fun root => s.sessions.roots.insert s.registry.sessions.nextKey root
      idspace.sessions := s.idspace.sessions.bind s.registry.sessions.nextKey b.wireId },
      cores.insert b.wireId s.registry.sessions.nextKey) := by
  simp only [rebuildSession, Core.Registry.newSession, createdOrNow]
  cases unixNanosToSystemTime b.createdAtUnixNanos with
  | none | some created =>
    rcases b.lastTouched with _ | ts <;> rcases b.root with _ | root
    all_goals simp [modifySession, registry, modify_insert]

variable {cores : Table UInt32 Core.SessionId} {s' : ServerState}

theorem rebuildSession_built (h : Built now s c ss [] []) {b : SessionBlob}
    (hb : b.wireId ∉ ss.map wireId)
    (hs : rebuildSession now (s, c.sessions) b = (s', cores)) :
    Built now s' { c with sessions := cores } (ss ++ [b]) [] [] := by
  rw [rebuildSession_eq, Prod.mk.injEq] at hs
  obtain ⟨rfl, rfl⟩ := hs
  have hnew := h.unseen _ (get_nextKey s.registry.sessions)
  have hold : ∀ k v, s.registry.sessions.get k = some v → k ≠ s.registry.sessions.nextKey := by
    rintro k v hk rfl
    rw [get_nextKey] at hk
    cases hk
  refine ⟨?_, h.windows.imp (by simp), h.panes, ?_, h.unvisited, ?_, h.boundWindows, h.boundPanes,
    h.handles⟩
  · refine h.sessions.push hb ?_ fun k v b hk hkept => ?_
    · exact ⟨rfl, rfl, rfl, insertOptional hnew.1 _, insertOptional hnew.2 _⟩
    · have hne := hold k v hk
      exact { hkept with
        touched := (insertOptional_of_ne hne).trans hkept.touched
        root := (insertOptional_of_ne hne).trans hkept.root }
  · intro k hk
    simp only [registry, get_insert] at hk
    split at hk
    · cases hk
    · rename_i hne
      obtain ⟨htouched, hroot⟩ := h.unseen k hk
      exact ⟨(insertOptional_of_ne hne).trans htouched, (insertOptional_of_ne hne).trans hroot⟩
  · rw [map_append]
    exact h.boundSessions.bind h.sessions.unnamed b.wireId

theorem rebuildWindow_built (h : Built now s c ss ws []) {b : WindowBlob}
    (hb : b.wireId ∉ ws.map WindowBlob.wireId) (hsession : b.sessionWireId ∈ ss.map wireId) :
    ∃ s' cores, rebuildWindow c.sessions (s, c.windows) b = .ok (s', cores) ∧
      Built now s' { c with windows := cores } ss (ws ++ [b]) [] := by
  obtain ⟨sb, hsb, hwire⟩ := mem_map.mp hsession
  obtain ⟨sid, S, hsid, -, hS, -⟩ := h.sessions.lookup hsb
  rw [hwire] at hsid
  have hfree := h.unvisited _ (get_nextKey s.registry.windows)
  have heq : rebuildWindow c.sessions (s, c.windows) b = .ok ({ s with
      sessions.registry.windows := s.registry.windows.insert ⟨s.registry.windows.nextKey, sid, [],
        none, none⟩
      sessions.registry.sessions := s.registry.sessions.modify sid fun S => { S with
        windows := S.windows ++ [s.registry.windows.nextKey]
        active := S.active.or (some s.registry.windows.nextKey) }
      sessions.windowLastCwd := b.lastCwd.elim s.sessions.windowLastCwd
        fun cwd => s.sessions.windowLastCwd.insert s.registry.windows.nextKey cwd
      idspace.windows := s.idspace.windows.bind s.registry.windows.nextKey b.wireId },
      c.windows.insert b.wireId s.registry.windows.nextKey) := by
    simp only [rebuildWindow, hsid, Core.newWindow_eq hS]
    cases b.lastCwd with
    | none => rfl
    | some cwd => rfl
  refine ⟨_, _, heq, ⟨?_, ?_, h.panes.imp (by simp), ?_, ?_, h.boundSessions, ?_, h.boundPanes,
    h.handles⟩⟩
  · refine h.sessions.modify fun k v b _ _ hkept => ?_
    by_cases hk : k = sid
    · simp only [hk, ↓reduceIte]
      exact { hkept with touched := hk ▸ hkept.touched, root := hk ▸ hkept.root }
    · simpa only [hk, ↓reduceIte] using hkept
  · refine h.windows.push hb ⟨hsid, insertOptional hfree _⟩ fun k v b hk hkept => ?_
    have hne : k ≠ s.registry.windows.nextKey := by
      rintro rfl
      rw [get_nextKey] at hk
      cases hk
    exact ⟨hkept.session, (insertOptional_of_ne hne).trans hkept.lastCwd⟩
  · intro k hk
    simp only [registry, get_modify] at hk
    split at hk
    · rename_i hkid
      exact h.unseen k (hkid ▸ Option.map_eq_none_iff.mp hk)
    · exact h.unseen k hk
  · intro k hk
    simp only [registry, get_insert] at hk
    split at hk
    · cases hk
    · rename_i hne
      exact (insertOptional_of_ne hne).trans (h.unvisited k hk)
  · rw [map_append]
    exact h.boundWindows.bind h.windows.unnamed b.wireId

variable {builds : PaneBlob → Bool} {b : PaneBlob}

theorem paneActorBundle_ok (hbuilds : builds b = true)
    (hpair : b.masterFd.isSome = b.childPid.isSome) : paneActorBundle builds b = .ok () := by
  unfold paneActorBundle
  cases hfd : b.masterFd <;> cases hpid : b.childPid <;> simp_all

theorem rebuildPane_built (h : Built now s c ss ws ps)
    (hb : b.wireId ∉ ps.map PaneBlob.wireId) (hwindow : b.windowWireId ∈ ws.map WindowBlob.wireId)
    (hbuilds : builds b = true) (hpair : b.masterFd.isSome = b.childPid.isSome) :
    ∃ acc, rebuildPane builds c.windows ⟨s, c.panes, c.resumed⟩ b = .ok acc ∧
      Built now acc.state { c with panes := acc.coreIds, resumed := acc.resumed } ss ws
        (ps ++ [b]) := by
  obtain ⟨wb, hwb, hwire⟩ := mem_map.mp hwindow
  obtain ⟨wid, W, hwid, -, hW, -⟩ := h.windows.lookup hwb
  rw [hwire] at hwid
  have hforward : ∀ bridge : IdBridge Core.ResourceId, ∀ k, (bridge.bind k b.wireId).intern k =
      some (bridge.bind k b.wireId, b.wireId) := by
    intro bridge k
    simp [IdBridge.intern, IdBridge.bind]
  have heq : rebuildPane builds c.windows ⟨s, c.panes, c.resumed⟩ b = .ok ⟨{ s with
      sessions.registry.resources := s.registry.resources.insert ⟨s.registry.resources.nextKey,
        .terminal, none, some wid, some ⟨(b.cols, b.rows), b.cwd, b.title⟩, none⟩
      sessions.registry.windows := s.registry.windows.modify wid
        fun W => W.place s.registry.resources.nextKey
      idspace.terminals := s.idspace.terminals.bind s.registry.resources.nextKey b.wireId
      resources := s.resources.register s.registry.resources.nextKey },
      c.panes.insert b.wireId s.registry.resources.nextKey,
      c.resumed.insert s.registry.resources.nextKey b⟩ := by
    simp only [rebuildPane, hwid, Core.newTerminal_eq hW]
    simp only [paneActorBundle_ok hbuilds hpair, modifyTerminal, registry, registerResourceHandle,
      internTerminal, hforward, Option.map_some, modify_insert]
  refine ⟨_, heq, h.sessions, ?_, ?_, h.unseen, ?_, h.boundSessions, h.boundWindows, ?_, ?_⟩
  · refine h.windows.modify fun k v b _ _ hkept => ?_
    by_cases hk : k = wid
    · simp only [hk, ↓reduceIte]
      exact ⟨hkept.session.trans (by rw [Core.place_session]), hk ▸ hkept.lastCwd⟩
    · simpa only [hk, ↓reduceIte] using hkept
  · refine h.panes.push hb ⟨⟨wid, hwid, rfl⟩, by simp⟩ fun k v b hk hkept => ?_
    have hne : k ≠ s.registry.resources.nextKey := by
      rintro rfl
      rw [get_nextKey] at hk
      cases hk
    exact ⟨hkept.seated, by simpa [hne] using hkept.resumed⟩
  · intro k hk
    simp only [registry, get_modify] at hk
    split at hk
    · rename_i hkid
      exact h.unvisited k (hkid ▸ Option.map_eq_none_iff.mp hk)
    · exact h.unvisited k hk
  · rw [map_append]
    exact h.boundPanes.bind h.panes.unnamed b.wireId
  · intro k hk
    simp only [registry, get_insert] at hk
    split at hk
    · rename_i hnew
      simp [ResourceTable.register, registry, hnew]
    · rename_i hnew
      simpa [ResourceTable.register, registry, hnew] using h.handles k hk

/-- What the passes need of a blob: ids given once, parents in it, whole PTY pairs. -/
structure Readable (blob : StateBlob) : Prop where
  sessions : (blob.sessions.map wireId).Nodup
  windows : (blob.windows.map WindowBlob.wireId).Nodup
  panes : (blob.panes.map PaneBlob.wireId).Nodup
  session : ∀ b ∈ blob.windows, b.sessionWireId ∈ blob.sessions.map wireId
  window : ∀ b ∈ blob.panes, b.windowWireId ∈ blob.windows.map WindowBlob.wireId
  pair : ∀ b ∈ blob.panes, b.masterFd.isSome = b.childPid.isSome

theorem not_mem_done {α β : Type} {f : α → β} {l done rest : List α} {a : α}
    (h : (l.map f).Nodup) (hl : l = done ++ a :: rest) : f a ∉ done.map f := by
  rw [hl, map_append, map_cons] at h
  intro hmem
  exact (nodup_append.mp h).2.2 (f a) hmem (f a) (by simp) rfl

variable {blob : StateBlob}

theorem rebuildSessions_built (h : Readable blob) {token : ServerInstance}
    (hs : blob.sessions.foldl (rebuildSession now) (.new token, fun _ => none) = (s', cores)) :
    Built now s' { Cores.none with sessions := cores } blob.sessions [] [] := by
  have hbuilt := Loop.foldl_prefix (l := blob.sessions) (f := rebuildSession now)
    (s := (new token, fun _ => none))
    (P := fun done acc => Built now acc.1 { Cores.none with sessions := acc.2 } done [] [])
    ⟨.empty, .empty, .empty, fun _ _ => ⟨rfl, rfl⟩, fun _ _ => rfl, IdBridge.bound_new,
      IdBridge.bound_new, IdBridge.bound_new, fun _ h => absurd rfl h⟩ fun done b rest acc hl hacc =>
      rebuildSession_built hacc (not_mem_done h.sessions hl) rfl
  rw [hs] at hbuilt
  exact hbuilt

theorem rebuildWindows_built (h : Readable blob) (hs : Built now s c blob.sessions [] []) :
    ∃ acc,
      blob.windows.foldlM (rebuildWindow c.sessions) (s, c.windows) = .ok acc ∧
        Built now acc.1 { c with windows := acc.2 } blob.sessions blob.windows [] := by
  refine Loop.foldlM_prefix
    (P := fun done (acc : ServerState × Table UInt32 Core.WindowId) =>
      Built now acc.1 { c with windows := acc.2 } blob.sessions done []) hs ?_
  intro done b rest acc hl hacc
  obtain ⟨s', cores, hstep, hbuilt⟩ := rebuildWindow_built hacc (not_mem_done h.windows hl)
    (h.session b (by simp [hl]))
  exact ⟨(s', cores), hstep, hbuilt⟩

theorem rebuildPanes_built (h : Readable blob) (hbuilds : ∀ b ∈ blob.panes, builds b = true)
    (hs : Built now s c blob.sessions blob.windows []) : ∃ acc,
      blob.panes.foldlM (rebuildPane builds c.windows) ⟨s, c.panes, c.resumed⟩ = .ok acc ∧
        Built now acc.state { c with panes := acc.coreIds, resumed := acc.resumed } blob.sessions
          blob.windows blob.panes := by
  refine Loop.foldlM_prefix
    (P := fun done (acc : ServerState.RebuiltPanes) => Built now acc.state
      { c with panes := acc.coreIds, resumed := acc.resumed } blob.sessions blob.windows done) hs ?_
  intro done b rest acc hl hacc
  have hmem : b ∈ blob.panes := by simp [hl]
  exact rebuildPane_built hacc (not_mem_done h.panes hl) (h.window b hmem) (hbuilds b hmem)
    (h.pair b hmem)

def relinkedWindow (panes : Table UInt32 Core.ResourceId) (b : WindowBlob) (W : Core.Window) :
    Core.Window :=
  { W with
    slots := resolveIds b.paneWireIds panes
    active := b.activeResource.bind panes
    layout := b.layout.bind (layoutFromBlob panes) }

def relinkedSession (windows : Table UInt32 Core.WindowId) (b : SessionBlob) (S : Core.Session) :
    Core.Session :=
  { S with
    windows := resolveIds b.windowWireIds windows
    active := b.activeWindow.bind windows }

theorem relinkWindows_eq (windows : Table UInt32 Core.WindowId)
    (panes : Table UInt32 Core.ResourceId) (bs : List WindowBlob) (s : ServerState) :
    bs.foldl (relinkWindow windows panes) s = { s with
        sessions.registry.windows :=
          bs.foldl (fun m b => (windows b.wireId).elim m fun k => m.modify k
            (relinkedWindow panes b)) s.registry.windows } := by
  refine foldl_hom (fun m => { s with sessions.registry.windows := m }) fun m b => ?_
  unfold relinkWindow
  cases windows b.wireId <;> rfl

theorem relinkSessions_eq (sessions : Table UInt32 Core.SessionId)
    (windows : Table UInt32 Core.WindowId) (bs : List SessionBlob) (s : ServerState) :
    bs.foldl (relinkSession sessions windows) s = { s with
        sessions.registry.sessions :=
          bs.foldl (fun m b => (sessions b.wireId).elim m fun k => m.modify k
            (relinkedSession windows b)) s.registry.sessions } := by
  refine foldl_hom (fun m => { s with sessions.registry.sessions := m }) fun m b => ?_
  unfold relinkSession
  cases sessions b.wireId <;> rfl

structure SessionRelinked (now : Int) (t : SessionTable) (c : Cores) (k : Core.SessionId)
    (S : Core.Session) (b : SessionBlob) : Prop where
  kept : SessionKept now t.lastTouched t.roots k S b
  windows : S.windows = resolveIds b.windowWireIds c.windows
  active : S.active = b.activeWindow.bind c.windows

structure WindowRelinked (t : SessionTable) (c : Cores) (k : Core.WindowId) (W : Core.Window)
    (b : WindowBlob) : Prop where
  kept : WindowKept c.sessions t.windowLastCwd k W b
  slots : W.slots = resolveIds b.paneWireIds c.panes
  active : W.active = b.activeResource.bind c.panes
  layout : W.layout = b.layout.bind (layoutFromBlob c.panes)

/-- The state holds the blob's entries, linked as the blob links them, and its counters. -/
structure Rebuilt (now : Int) (s : ServerState) (c : Cores) (blob : StateBlob) : Prop where
  sessions : SlotMap.Filled (SessionRelinked now s.sessions c) wireId
    s.registry.sessions c.sessions s.idspace.sessions.forward blob.sessions
  windows : SlotMap.Filled (WindowRelinked s.sessions c) WindowBlob.wireId s.registry.windows
    c.windows s.idspace.windows.forward blob.windows
  panes : SlotMap.Filled (PaneKept c.windows c.resumed) PaneBlob.wireId s.registry.resources
    c.panes s.idspace.terminals.forward blob.panes
  nextSession : s.idspace.sessions.next = blob.counters.nextSessionWireId
  nextTerminal : s.idspace.terminals.next = blob.counters.nextTerminalWireId
  nextWindow : s.idspace.windows.next = blob.counters.nextWindowWireId
  nextTouch : s.sessions.nextTouchTimestamp = blob.counters.nextTouchTimestamp
  token : ∀ token, blob.counters.serverInstance = some token → s.idspace.token = token
  boundSessions : ∃ b : IdBridge Core.SessionId, b.Bound (blob.sessions.map wireId) ∧
    s.idspace.sessions = b.setNext blob.counters.nextSessionWireId
  boundWindows : ∃ b : IdBridge Core.WindowId, b.Bound (blob.windows.map WindowBlob.wireId) ∧
    s.idspace.windows = b.setNext blob.counters.nextWindowWireId
  boundPanes : ∃ b : IdBridge Core.ResourceId, b.Bound (blob.panes.map PaneBlob.wireId) ∧
    s.idspace.terminals = b.setNext blob.counters.nextTerminalWireId
  handles : ∀ k, s.registry.resources.get k ≠ none → s.resources.handles k ≠ none

theorem rebuildFromBlob_rebuilt (h : Readable blob) (token : ServerInstance) (now : Int)
    (hbuilds : ∀ b ∈ blob.panes, builds b = true) :
    ∃ s c, (new token).rebuildFromBlob blob now builds = .ok (s, c.resumed) ∧
      Rebuilt now s c blob := by
  rcases hsessions : blob.sessions.foldl (rebuildSession now)
    (.new token, fun _ => none) with ⟨s₁, sessionCore⟩
  have hbuilt₁ := rebuildSessions_built h hsessions
  obtain ⟨⟨s₂, windowCore⟩, hwindows, hbuilt₂⟩ := rebuildWindows_built h hbuilt₁
  obtain ⟨⟨s₃, paneCore, resumed⟩, hpanes, hbuilt⟩ := rebuildPanes_built h hbuilds hbuilt₂
  have hrun : (new token).rebuildFromBlob blob now builds =
      .ok (((blob.sessions.foldl (relinkSession sessionCore windowCore)
        (blob.windows.foldl (relinkWindow windowCore paneCore) s₃)).restoreCounters
          blob.counters), resumed) := by
    have hwindows' : blob.windows.foldlM (rebuildWindow sessionCore)
        (s₁, fun _ => none) = .ok (s₂, windowCore) := hwindows
    have hpanes' : blob.panes.foldlM (rebuildPane builds windowCore)
        ⟨s₂, fun _ => none, fun _ => none⟩ = .ok ⟨s₃, paneCore, resumed⟩ := hpanes
    simp only [rebuildFromBlob, hsessions, hwindows', hpanes', bind, Except.bind, pure, Except.pure]
  refine ⟨_, ⟨sessionCore, windowCore, paneCore, resumed⟩, hrun, ?_⟩
  rw [relinkWindows_eq, relinkSessions_eq]
  exact {
    sessions := hbuilt.sessions.relink h.sessions fun k S b _ hkept => ⟨{ hkept with }, rfl, rfl⟩
    windows := hbuilt.windows.relink h.windows fun k W b _ hkept => ⟨{ hkept with }, rfl, rfl, rfl⟩
    panes := hbuilt.panes
    nextSession := rfl
    nextTerminal := rfl
    nextWindow := rfl
    nextTouch := rfl
    token := by
      intro token htoken
      simp [restoreCounters, htoken]
    boundSessions := ⟨_, hbuilt.boundSessions, rfl⟩
    boundWindows := ⟨_, hbuilt.boundWindows, rfl⟩
    boundPanes := ⟨_, hbuilt.boundPanes, rfl⟩
    handles := hbuilt.handles }

end Phux.Server
