import Phux.UpgradeOutline

/-! Assembling what was rebuilt from a blob gives the blob back. -/

namespace Phux.Server

open ByteReader ServerState SessionEntry List

variable {e : SessionEntry} {w : WindowEntry} {W : Core.Window} {κ : Type} {k : Core.WindowId}
  {keys : Table UInt32 κ} {ids : List UInt32}

def DEFAULT_CELL_PX : UInt16 × UInt16 := (8, 16)

/-- What lies outside the server: the directory a pane's child is found in, and the scrollback
and viewport an engine of a given size shows after it was fed bytes. -/
structure Host where
  paneCwd : Option Int → Option Bytes
  replay : UInt16 → UInt16 → Bytes → Bytes × Bytes

/-- What the actor resumed from a pane's entry answers to the next upgrade request. -/
def resumedHandle (host : Host) (p : PaneBlob) : PaneUpgradeHandle where
  masterFd := p.masterFd
  childPid := p.childPid
  cols := p.cols
  rows := p.rows
  cellPx := some DEFAULT_CELL_PX
  title := none
  cwd := host.paneCwd p.childPid
  vtReplayBytes := (host.replay p.cols p.rows (p.scrollbackBytes ++ p.vtReplayBytes)).2
  scrollbackBytes := (host.replay p.cols p.rows (p.scrollbackBytes ++ p.vtReplayBytes)).1

def PaneBlob.again (host : Host) (term : String) (p : PaneBlob) : PaneBlob :=
  paneBlob p.wireId p.windowWireId ⟨(p.cols, p.rows), p.cwd, p.title⟩ term
    (some (resumedHandle host p))

def SessionBlob.again (now : Int) (b : SessionBlob) : SessionBlob :=
  { b with createdAtUnixNanos := (createdOrNow now b.createdAtUnixNanos).toNat }

def WindowEntry.again (host : Host) (term : String) (e : WindowEntry) : WindowEntry :=
  { e with panes := e.panes.map (PaneBlob.again host term) }

def SessionEntry.again (host : Host) (term : String) (now : Int) (e : SessionEntry) :
    SessionEntry where
  session := e.session.again now
  windows := e.windows.map (WindowEntry.again host term)

variable {now : Int} {s : ServerState} {c : Cores} {blob : StateBlob} {o : List SessionEntry}

theorem filterMap_resolveIds {wire : κ → Option UInt32}
    (h : ∀ w ∈ ids, ∃ k, keys w = some k ∧ wire k = some w) :
    (resolveIds ids keys).filterMap wire = ids := by
  rw [resolveIds, filterMap_filterMap]
  refine (filterMap_congr fun w hw => ?_).trans filterMap_some
  obtain ⟨k, hk, hwire⟩ := h w hw
  simp [hk, hwire]

theorem layout_round_trip {panes : Table UInt32 Core.ResourceId} {l : LayoutBlob}
    (h : ∀ w ∈ l.leaves, ∃ k, panes w = some k ∧ s.idspace.terminals.wire k = some w) :
    ∃ node, layoutFromBlob panes l = some node ∧ s.layoutToBlob node = some l ∧
      node.leaves = resolveIds l.leaves panes := by
  induction l with
  | leaf w =>
    obtain ⟨k, hk, hwire⟩ := h w (by simp [LayoutBlob.leaves])
    exact ⟨.leaf k, by simp [layoutFromBlob, hk], by simp [layoutToBlob, hwire],
      by simp [Core.LayoutNode.leaves, LayoutBlob.leaves, resolveIds, hk]⟩
  | split dir ratio left right ihl ihr =>
    obtain ⟨nl, hl, hbl, hll⟩ := ihl fun w hw => h w (mem_append_left _ hw)
    obtain ⟨nr, hr, hbr, hlr⟩ := ihr fun w hw => h w (mem_append_right _ hw)
    exact ⟨.split dir ratio nl nr, by simp [layoutFromBlob, hl, hr],
      by simp [layoutToBlob, hbl, hbr],
      by simp [Core.LayoutNode.leaves, LayoutBlob.leaves, resolveIds, hll, hlr]⟩

structure Lists (blob : StateBlob) (o : List SessionEntry) : Prop where
  sessions : blob.sessions = o.map session
  windows : blob.windows = o.flatMap fun e => e.windows.map WindowEntry.window
  panes : blob.panes = o.flatMap fun e => e.windows.flatMap WindowEntry.panes

theorem Lists.window (h : Lists blob o) (he : e ∈ o) (hw : w ∈ e.windows) :
    w.window ∈ blob.windows := by
  rw [h.windows]
  exact mem_flatMap.mpr ⟨e, he, mem_map.mpr ⟨w, hw, rfl⟩⟩

variable {p : PaneBlob}

theorem Lists.pane (h : Lists blob o) (he : e ∈ o) (hw : w ∈ e.windows)
    (hp : p ∈ w.panes) : p ∈ blob.panes := by
  rw [h.panes]
  exact mem_flatMap.mpr ⟨e, he, mem_flatMap.mpr ⟨w, hw, hp⟩⟩

theorem filterMap_resolve {α β : Type} {id : α → UInt32}
    {read : κ → Option β} {f : α → β} {l : List α}
    (h : ∀ a ∈ l, ∃ k, keys (id a) = some k ∧ read k = some (f a)) :
    (resolveIds (l.map id) keys).filterMap read = l.map f := by
  rw [resolveIds, filterMap_filterMap, filterMap_map, ← filterMap_eq_map]
  refine filterMap_congr fun a ha => ?_
  obtain ⟨k, hk, hread⟩ := h a ha
  simp [hk, hread]

theorem filterMap_forall₂ {α β γ : Type} {f : α → Option γ} {g : β → γ} {l : List α}
    {l' : List β} (h : Forall₂ (fun a b => f a = some (g b)) l l') : l.filterMap f = l'.map g := by
  induction h with
  | nil => rfl
  | cons hab _ ih => simp [hab, ih]

def StateBlob.again (host : Host) (term : String) (now : Int) (blob : StateBlob) : StateBlob :=
  { blob with
    sessions := blob.sessions.map (SessionBlob.again now)
    panes := blob.panes.map (PaneBlob.again host term) }

/-- Every actor answered, with both of its PTY's identities or neither, and the next image
finds its child in the same directory and its engine showing the same bytes. -/
structure Answered (host : Host) (s : ServerState)
    (handoffs : Table Core.ResourceId PaneUpgradeHandle) : Prop where
  all : ∀ id, s.resources.handles id ≠ none → handoffs id ≠ none
  pair : ∀ id h, handoffs id = some h → h.validPair = true
  cwd : ∀ id h, handoffs id = some h → host.paneCwd h.childPid = h.cwd
  replay : ∀ id h, handoffs id = some h →
    host.replay h.cols h.rows (h.scrollbackBytes ++ h.vtReplayBytes) =
      (h.scrollbackBytes, h.vtReplayBytes)

variable {handoffs : Table Core.ResourceId PaneUpgradeHandle} {term : String}

theorem pane_again {host : Host} (hanswered : Answered host s handoffs) (hok : Ok s) (hw : Wired s)
    {listenerFd : Int}
    (hp : p ∈ (s.assembleUpgradeBlob term listenerFd handoffs).panes) :
    p.again host term = { p with cellPx := some DEFAULT_CELL_PX } := by
  obtain ⟨entry, hentry, hp⟩ := mem_flatMap.mp hp
  obtain ⟨window, hwindow, hp⟩ := mem_flatMap.mp hp
  obtain ⟨t, ht, he⟩ := mem_filterMap.mp hp
  obtain ⟨d, hd, hkind, -⟩ := hok.linked.placed.live (of_mem_blobWindows hwindow).2.1 ht
  obtain ⟨h, hh⟩ := Option.ne_none_iff_exists'.mp
    (hanswered.all t (hw t ⟨d, hd, hkind⟩ fun h => h).2)
  have hcwd := hanswered.cwd t h hh
  have hreplay := hanswered.replay t h hh
  split at he
  · cases he
    -- the resumed actor's answer, or else what was stored in the descriptor
    have hdir : ∀ cwd, h.cwd.getD (h.cwd.getD cwd) = h.cwd.getD cwd := by
      intro cwd
      cases h.cwd with
      | none => rfl
      | some dir => rfl
    simp [PaneBlob.again, paneBlob, resumedHandle, hh, hreplay, hcwd, hdir]
  · cases he

theorem resolveIds_nodup {names : Table κ UInt32}
    (hinv : ∀ {w k}, keys w = some k ↔ names k = some w) (h : ids.Nodup) :
    (resolveIds ids keys).Nodup := by
  refine h.filterMap fun a a' k hk hk' => ?_
  have ha := hinv.mp hk
  rw [hinv.mp hk'] at ha
  exact (Option.some.inj ha).symm

theorem Rebuilt.window_origin (h : Rebuilt now s c blob) (hl : Lists blob o)
    (hW : s.registry.windows.get k = some W) :
    ∃ e ∈ o, ∃ w ∈ e.windows, c.windows w.window.wireId = some k ∧
      WindowRelinked s.sessions c k W w.window := by
  obtain ⟨b, hb, hk, hrelinked⟩ := h.windows.only hW
  rw [hl.windows] at hb
  obtain ⟨e, he, hb⟩ := mem_flatMap.mp hb
  obtain ⟨w, hw, rfl⟩ := mem_map.mp hb
  exact ⟨e, he, w, hw, hk, hrelinked⟩

variable {S : Core.Session}

theorem Rebuilt.session_origin (h : Rebuilt now s c blob) (hl : Lists blob o) {k : Core.SessionId}
    (hS : s.registry.sessions.get k = some S) : ∃ e ∈ o, c.sessions e.session.wireId = some k ∧
      SessionRelinked now s.sessions c k S e.session := by
  obtain ⟨b, hb, hk, hrelinked⟩ := h.sessions.only hS
  rw [hl.sessions] at hb
  obtain ⟨e, he, rfl⟩ := mem_map.mp hb
  exact ⟨e, he, hk, hrelinked⟩

theorem WellOutlined.windowIds_nodup (ho : WellOutlined o) (he : e ∈ o) :
    e.session.windowWireIds.Nodup := by
  rw [(ho.entries e he).ids]
  exact (nodup_flatMap.mp ho.windows).1 e he

/-- The blob with what the next image does not restore: creation times past a `u64` of
nanoseconds and cell sizes. -/
def StateBlob.resumedAt (now : Int) (blob : StateBlob) : StateBlob :=
  { blob with
    sessions := blob.sessions.map (SessionBlob.again now)
    panes := blob.panes.map fun p => { p with cellPx := some DEFAULT_CELL_PX } }

section

variable (h : Rebuilt now s c blob) (hl : Lists blob o) (ho : WellOutlined o)
include h hl ho

theorem Rebuilt.pane_bound (he : e ∈ o) (hw : w ∈ e.windows) {id : UInt32}
    (hid : id ∈ w.window.paneWireIds) :
    ∃ k, c.panes id = some k ∧ s.idspace.terminals.wire k = some id := by
  rw [((ho.entries e he).windows w hw).ids] at hid
  obtain ⟨p, hp, rfl⟩ := mem_map.mp hid
  obtain ⟨k, t, hk, hwire, -, -⟩ := h.panes.lookup (hl.pane he hw hp)
  exact ⟨k, hk, hwire⟩

theorem Rebuilt.panes_again (he : e ∈ o) (hw : w ∈ e.windows) (host : Host) (term : String)
    (hslots : W.slots = resolveIds w.window.paneWireIds c.panes) :
    s.blobPanes term (fun k => (c.resumed k).map (resumedHandle host)) w.window.wireId W =
      w.panes.map (PaneBlob.again host term) := by
  have hwell := (ho.entries e he).windows w hw
  rw [blobPanes, hslots, hwell.ids]
  refine filterMap_resolve fun p hp => ?_
  obtain ⟨k, t, hk, hwire, ht, hkept⟩ := h.panes.lookup (hl.pane he hw hp)
  obtain ⟨window, -, rfl⟩ := hkept.seated
  refine ⟨k, hk, ?_⟩
  have hterminal : s.registry.terminal k = some ⟨(p.cols, p.rows), p.cwd, p.title⟩ := by
    simp [Core.Registry.terminal, ht]
  have hwire : s.idspace.terminals.wire k = some p.wireId := hwire
  simp [hterminal, hwire, hkept.resumed, PaneBlob.again, hwell.seated p hp]

theorem Rebuilt.window_again (he : e ∈ o) (hw : w ∈ e.windows) (host : Host) (term : String) :
    ∃ k W, c.windows w.window.wireId = some k ∧ s.registry.windows.get k = some W ∧
      s.idspace.windows.wire k = some w.window.wireId ∧
      s.windowEntry term (fun k => (c.resumed k).map (resumedHandle host)) e.session.wireId
        (w.window.wireId, k, W) = w.again host term := by
  have hwell := (ho.entries e he).windows w hw
  obtain ⟨k, W, hk, hwire, hW, hrelinked⟩ := h.windows.lookup (hl.window he hw)
  have hbound : ∀ id ∈ w.window.paneWireIds, _ := fun id hid => h.pane_bound hl ho he hw hid
  have hslots : W.slots.filterMap s.idspace.terminals.wire = w.window.paneWireIds := by
    rw [hrelinked.slots]
    exact filterMap_resolveIds hbound
  have hactive : W.active.bind s.idspace.terminals.wire = w.window.activeResource := by
    rw [hrelinked.active]
    rcases hwell.focused with ⟨hnone, -⟩ | ⟨id, hid, hsome⟩
    · simp [hnone]
    · obtain ⟨p, hp, hpwire⟩ := hbound id hid
      simp [hsome, hp, hpwire]
  have hlayout : W.layout.bind s.layoutToBlob = w.window.layout := by
    rw [hrelinked.layout]
    cases hb : w.window.layout with
    | none => rfl
    | some l =>
      obtain ⟨node, hnode, hback, -⟩ := layout_round_trip
        fun id hid => hbound id ((hwell.leaves l hb).mem_iff.mp hid)
      simp [hnode, hback]
  refine ⟨k, W, hk, hW, hwire, ?_⟩
  simp only [windowEntry, WindowEntry.again, h.panes_again hl ho he hw host term hrelinked.slots]
  have hwindow : s.windowBlob w.window.wireId e.session.wireId k W = w.window := by
    rw [windowBlob, hslots, hactive, hlayout, hrelinked.kept.lastCwd,
      ← (ho.entries e he).owned w hw]
  rw [hwindow]

theorem Rebuilt.session_again (he : e ∈ o) (host : Host) (term : String) {k : Core.SessionId}
    (hrelinked : SessionRelinked now s.sessions c k S e.session) :
    s.sessionEntry term (fun k => (c.resumed k).map (resumedHandle host)) (e.session.wireId, k, S) =
      e.again host term now := by
  have hwell := ho.entries e he
  have hbound : ∀ id ∈ e.session.windowWireIds,
      ∃ k, c.windows id = some k ∧ s.idspace.windows.wire k = some id := by
    intro id hid
    rw [hwell.ids] at hid
    obtain ⟨w, hw, rfl⟩ := mem_map.mp hid
    obtain ⟨k, W, hk, hwire, -, -⟩ := h.windows.lookup (hl.window he hw)
    exact ⟨k, hk, hwire⟩
  have hids : S.windows.filterMap s.idspace.windows.wire = e.session.windowWireIds := by
    rw [hrelinked.windows]
    exact filterMap_resolveIds hbound
  have hactive : S.active.bind s.idspace.windows.wire = e.session.activeWindow := by
    rw [hrelinked.active]
    cases hactive : e.session.activeWindow with
    | none => rfl
    | some id =>
      obtain ⟨w, hw, hwire⟩ := hbound id (hwell.active id hactive)
      simp [hw, hwire]
  have hsession : s.sessionBlob e.session.wireId k S = e.session.again now := by
    simp only [sessionBlob, SessionBlob.again, hids, hactive, hrelinked.kept.name,
      hrelinked.kept.created, hrelinked.kept.keepEmpty, hrelinked.kept.touched, hrelinked.kept.root]
  have hwindows : (s.blobWindows S).map (s.windowEntry term
      (fun k => (c.resumed k).map (resumedHandle host)) e.session.wireId) =
        e.windows.map (.again host term) := by
    rw [blobWindows, hrelinked.windows, hwell.ids, map_filterMap]
    refine filterMap_resolve fun w hw => ?_
    obtain ⟨k, W, hk, hW, hwire, hentry⟩ := h.window_again hl ho he hw host term
    exact ⟨k, hk, by simp [hW, hwire, hentry]⟩
  simp only [sessionEntry, again, hsession, hwindows]

theorem Rebuilt.outline_again (host : Host) (term : String) :
    s.outline term (fun k => (c.resumed k).map (resumedHandle host)) =
      o.map (again host term now) := by
  rw [outline, blobSessions, map_filterMap]
  refine filterMap_forall₂ ?_
  have hentries := h.sessions.entries
  rw [hl.sessions, forall₂_map_right_iff] at hentries
  refine forall₂_iff_get.mpr ⟨hentries.length_eq, fun i hi hi' => ?_⟩
  obtain ⟨hkey, hrelinked⟩ := (forall₂_iff_get.mp hentries).2 i hi hi'
  have hwire : s.idspace.sessions.wire (s.registry.sessions.entries.get ⟨i, hi⟩).1 =
      some (o.get ⟨i, hi'⟩).session.wireId := h.sessions.inverse.mp hkey
  simp only [hwire, Option.map_some]
  rw [h.session_again hl ho (get_mem _ _) host term hrelinked]

theorem Rebuilt.assemble_again (host : Host) (term : String) (hversion : blob.version = BLOB_VERSION)
    {token : ServerInstance} (htoken : blob.counters.serverInstance = some token) :
    s.assembleUpgradeBlob term blob.listenerFd
        (fun k => (c.resumed k).map (resumedHandle host)) = blob.again host term now := by
  have houtline := h.outline_again hl ho host term
  refine StateBlob.ext hversion.symm rfl ?_ ?_ ?_ ?_
  · exact Counters.ext h.nextSession h.nextTerminal h.nextWindow h.nextTouch
      ((congrArg some (h.token token htoken)).trans htoken.symm)
  · rw [assemble_sessions, houtline, StateBlob.again, hl.sessions, map_map, map_map]
    rfl
  · rw [assemble_windows, houtline, StateBlob.again, hl.windows, flatMap_map]
    simp [again, WindowEntry.again, Function.comp_def]
  · rw [assemble_panes, houtline, StateBlob.again, hl.panes, flatMap_map]
    simp [again, WindowEntry.again, flatMap_map, map_flatMap]

variable (hW : s.registry.windows.get k = some W)

include hW

theorem Rebuilt.slots_live {id : Core.ResourceId} (hid : id ∈ W.slots) :
    ∃ t, s.registry.resources.get id = some t ∧ t.kind = .terminal ∧ t.window = some k := by
  obtain ⟨e, he, w, hw, hk, hrelinked⟩ := h.window_origin hl hW
  have hwell := (ho.entries e he).windows w hw
  rw [hrelinked.slots, hwell.ids] at hid
  obtain ⟨wire, hwire, hid⟩ := mem_filterMap.mp hid
  obtain ⟨p, hp, rfl⟩ := mem_map.mp hwire
  obtain ⟨k', t, hk', -, ht, hkept⟩ := h.panes.lookup (hl.pane he hw hp)
  rw [hid] at hk'
  cases hk'
  obtain ⟨w', hw', rfl⟩ := hkept.seated
  rw [hwell.seated p hp, hk] at hw'
  cases hw'
  exact ⟨_, ht, rfl, rfl⟩

theorem Rebuilt.focused : Core.Focused W.active W.slots := by
  obtain ⟨e, he, w, hw, -, hrelinked⟩ := h.window_origin hl hW
  rw [hrelinked.active, hrelinked.slots]
  rcases ((ho.entries e he).windows w hw).focused with ⟨hnone, hnil⟩ | ⟨id, hid, hsome⟩
  · exact .inl ⟨by simp [hnone], by simp [hnil, resolveIds]⟩
  · obtain ⟨t, ht, -⟩ := h.pane_bound hl ho he hw hid
    exact .inr ⟨t, mem_filterMap.mpr ⟨id, hid, ht⟩, by simp [hsome, ht]⟩

theorem Rebuilt.listed : ∃ S, s.registry.sessions.get W.session = some S ∧ S.windows.count k = 1 ∧
      ∀ id S', s.registry.sessions.get id = some S' → k ∈ S'.windows → id = W.session := by
  obtain ⟨e, he, w, hw, hk, hrelinked⟩ := h.window_origin hl hW
  have hsession := hrelinked.kept.session
  rw [(ho.entries e he).owned w hw] at hsession
  obtain ⟨sid, S, hsid, -, hS, hlinked⟩ := h.sessions.lookup (b := e.session)
    (by rw [hl.sessions]; exact mem_map.mpr ⟨e, he, rfl⟩)
  rw [hsession] at hsid
  cases hsid
  refine ⟨S, hS, count_eq_one_of_mem ?_ ?_, ?_⟩
  · rw [hlinked.windows]
    exact resolveIds_nodup h.windows.inverse (ho.windowIds_nodup he)
  · rw [hlinked.windows, (ho.entries e he).ids]
    exact mem_filterMap.mpr ⟨w.window.wireId, mem_map.mpr ⟨w, hw, rfl⟩, hk⟩
  · intro id S' hS' hmem
    obtain ⟨e', he', hkey, hlinked'⟩ := h.session_origin hl hS'
    rw [hlinked'.windows, (ho.entries e' he').ids] at hmem
    obtain ⟨wire, hwire, hk'⟩ := mem_filterMap.mp hmem
    obtain ⟨w', hw', rfl⟩ := mem_map.mp hwire
    -- one id, one window of the blob, one owner
    have hids : w'.window.wireId = w.window.wireId := by
      have hname := h.windows.inverse.mp hk'
      rw [h.windows.inverse.mp hk] at hname
      exact (Option.some.inj hname).symm
    have hsame : w'.window = w.window :=
      inj_on_of_nodup_map (ho.readable hl.sessions hl.windows hl.panes).windows
        (hl.window he' hw') (hl.window he hw) hids
    have howner := (ho.entries e' he').owned w' hw'
    rw [hsame, (ho.entries e he).owned w hw] at howner
    rw [← howner, hsession] at hkey
    exact (Option.some.inj hkey).symm

omit hW

theorem Rebuilt.wellLinked : Core.WellLinked s.registry where
  slots k W hW := by
    refine ⟨?_, fun id hid => h.slots_live hl ho hW hid⟩
    obtain ⟨e, he, w, hw, -, hrelinked⟩ := h.window_origin hl hW
    rw [hrelinked.slots]
    refine resolveIds_nodup h.panes.inverse ?_
    rw [((ho.entries e he).windows w hw).ids]
    exact (nodup_flatMap.mp ((nodup_flatMap.mp ho.panes).1 e he)).1 w hw
  active k W hW := h.focused hl ho hW
  listed k W hW := h.listed hl ho hW
  parent id t ht hkind := by
    obtain ⟨b, -, -, hkept⟩ := h.panes.only ht
    obtain ⟨w, -, rfl⟩ := hkept.seated
    cases hkind

theorem Rebuilt.tiled : Core.Tiled s.registry := by
  intro k W hW
  obtain ⟨e, he, w, hw, -, hrelinked⟩ := h.window_origin hl hW
  have hwell := (ho.entries e he).windows w hw
  have hbound : ∀ id ∈ w.window.paneWireIds, _ := fun id hid => h.pane_bound hl ho he hw hid
  cases hb : w.window.layout with
  | none =>
    have hnil := hwell.absent.mp hb
    have hlayout : W.layout = none := by simp [hrelinked.layout, hb]
    have hslots : W.slots = [] := by simp [hrelinked.slots, hnil, resolveIds]
    refine ⟨by simp [hlayout, hslots], fun l hl => ?_⟩
    rw [hlayout] at hl
    cases hl
  | some l =>
    obtain ⟨node, hnode, -, hleaves⟩ := layout_round_trip
      fun id hid => hbound id ((hwell.leaves l hb).mem_iff.mp hid)
    have hlayout : W.layout = some node := by simp [hrelinked.layout, hb, hnode]
    have hne : w.window.paneWireIds ≠ [] := by
      intro hnil
      rw [hwell.absent.mpr hnil] at hb
      cases hb
    obtain ⟨id, hid⟩ := exists_mem_of_ne_nil _ hne
    obtain ⟨t, ht, -⟩ := hbound id hid
    have hmem : t ∈ W.slots := by
      rw [hrelinked.slots]
      exact mem_filterMap.mpr ⟨id, hid, ht⟩
    refine ⟨by simp [hlayout, ne_nil_of_mem hmem], fun l' hl' => ?_⟩
    rw [hlayout] at hl'
    cases hl'
    rw [hleaves, hrelinked.slots]
    exact (hwell.leaves l hb).filterMap _

end

theorem map_eq_self_iff {α : Type} {f : α → α} {l : List α} : l.map f = l ↔ ∀ a ∈ l, f a = a := by
  have hid := map_inj_left (f := f) (g := id) (l := l)
  simpa using hid

theorem SessionBlob.again_eq_iff {b : SessionBlob} :
    b.again now = b ↔ b.createdAtUnixNanos < 2 ^ 64 ∨ b.createdAtUnixNanos = now.toNat := by
  obtain ⟨wireId, name, windows, active, nanos, touched, root, keepEmpty⟩ := b
  simp only [again, createdOrNow, unixNanosToSystemTime, mk.injEq, true_and, and_true]
  by_cases hlt : nanos < 2 ^ 64
  · simp only [hlt, ↓reduceIte, Option.getD_some, Int.toNat_natCast, true_or]
  · simp only [hlt, ↓reduceIte, Option.getD_none, false_or, eq_comm]

theorem StateBlob.resumedAt_eq_iff : blob.resumedAt now = blob ↔
      (∀ b ∈ blob.sessions, b.createdAtUnixNanos < 2 ^ 64 ∨ b.createdAtUnixNanos = now.toNat) ∧
        ∀ p ∈ blob.panes, p.cellPx = some DEFAULT_CELL_PX := by
  have hpane : ∀ p : PaneBlob, { p with cellPx := some DEFAULT_CELL_PX } = p ↔
      p.cellPx = some DEFAULT_CELL_PX := by
    intro p
    obtain ⟨wireId, windowWireId, cols, rows, cellPx, cwd, title, term, pid, fd, vt, back⟩ := p
    simp [eq_comm]
  rw [StateBlob.ext_iff]
  simp only [StateBlob.resumedAt, true_and, map_eq_self_iff, SessionBlob.again_eq_iff, hpane]

def Allocates {κ : Type} [DecidableEq κ] (b : IdBridge κ) (wire : UInt32) : Prop :=
  ∃ k b', b.wire k = none ∧ b.intern k = some (b', wire)

variable {wire : UInt32}

theorem Allocates.eq_next [DecidableEq κ] {b : IdBridge κ} (h : Allocates b wire) :
    wire = b.next := by
  obtain ⟨k, b', hnone, hintern⟩ := h
  rcases IdBridge.intern_eq_some hintern with ⟨-, hsome⟩ | ⟨-, hwire, -⟩
  · rw [IdBridge.wire, hsome] at hnone
    cases hnone
  · exact hwire

theorem not_mem_of_allocates [DecidableEq κ] {b b' : IdBridge κ} (hb : b.Sound)
    (hids : ∀ w ∈ ids, ∃ k, b.wire k = some w) (hlater : b.next ≤ b'.next)
    (h : Allocates b' wire) : wire ∉ ids := by
  intro hmem
  obtain ⟨k, hk⟩ := hids wire hmem
  have hlt := UInt32.lt_of_lt_of_le (hb.below k wire hk) hlater
  rw [h.eq_next] at hlt
  exact UInt32.lt_irrefl _ hlt

theorem outline_ids
    (he : e ∈ s.outline term handoffs) : (∃ k, s.idspace.sessions.wire k = some e.session.wireId) ∧
      ∀ w ∈ e.windows, (∃ k, s.idspace.windows.wire k = some w.window.wireId) ∧
        ∀ p ∈ w.panes, ∃ k, s.idspace.terminals.wire k = some p.wireId := by
  obtain ⟨entry, hentry, rfl⟩ := mem_map.mp he
  refine ⟨⟨_, (of_mem_blobSessions hentry).2⟩, fun w hw => ?_⟩
  obtain ⟨window, hwindow, rfl⟩ := mem_map.mp hw
  refine ⟨⟨_, (of_mem_blobWindows hwindow).2.2⟩, fun p hp => ?_⟩
  obtain ⟨t, -, hpane⟩ := mem_filterMap.mp hp
  split at hpane
  · rename_i hwire
    cases hpane
    exact ⟨t, hwire⟩
  · cases hpane

structure Borrows (s : ServerState) (blob : StateBlob) : Prop where
  sessions : ∀ wire ∈ blob.sessions.map SessionBlob.wireId, ∃ k, s.idspace.sessions.wire k = some wire
  windows : ∀ wire ∈ blob.windows.map WindowBlob.wireId, ∃ k, s.idspace.windows.wire k = some wire
  terminals : ∀ wire ∈ blob.panes.map PaneBlob.wireId, ∃ k, s.idspace.terminals.wire k = some wire

theorem assemble_borrows (s : ServerState) (term : String) (listenerFd : Int)
    (handoffs : Table Core.ResourceId PaneUpgradeHandle) :
    Borrows s (s.assembleUpgradeBlob term listenerFd handoffs) where
  sessions wire hw := by
    rw [assemble_sessions, map_map] at hw
    obtain ⟨e, he, rfl⟩ := mem_map.mp hw
    exact (outline_ids he).1
  windows wire hw := by
    rw [assemble_windows] at hw
    obtain ⟨b, hb, rfl⟩ := mem_map.mp hw
    obtain ⟨e, he, hb⟩ := mem_flatMap.mp hb
    obtain ⟨window, hwindow, rfl⟩ := mem_map.mp hb
    exact ((outline_ids he).2 window hwindow).1
  terminals wire hw := by
    rw [assemble_panes] at hw
    obtain ⟨p, hp, rfl⟩ := mem_map.mp hw
    obtain ⟨e, he, hp⟩ := mem_flatMap.mp hp
    obtain ⟨window, hwindow, hp⟩ := mem_flatMap.mp hp
    exact ((outline_ids he).2 window hwindow).2 p hp

structure Fresh (s : ServerState) (blob : StateBlob) : Prop where
  sessions : ∀ wire, Allocates s.idspace.sessions wire → wire ∉ blob.sessions.map SessionBlob.wireId
  windows : ∀ wire, Allocates s.idspace.windows wire → wire ∉ blob.windows.map WindowBlob.wireId
  terminals : ∀ wire, Allocates s.idspace.terminals wire → wire ∉ blob.panes.map PaneBlob.wireId

theorem Borrows.fresh (h : Borrows s blob) (hok : Ok s) {s' : ServerState}
    (hsessions : s.idspace.sessions.next ≤ s'.idspace.sessions.next)
    (hterminals : s.idspace.terminals.next ≤ s'.idspace.terminals.next)
    (hwindows : s.idspace.windows.next ≤ s'.idspace.windows.next) : Fresh s' blob where
  sessions _ := not_mem_of_allocates hok.sessions h.sessions hsessions
  windows _ := not_mem_of_allocates hok.windows h.windows hwindows
  terminals _ := not_mem_of_allocates hok.terminals h.terminals hterminals

/-- For every reachable state whose actors answered, the next image rebuilds a linked and
tiled registry. What it assembles is the blob it was given, but for the creation times and
cell sizes it does not restore, and no id it hands out later is in the blob. -/
theorem upgrade_round_trip {token : ServerInstance} {ops : List ServerOp}
    (h : after token ops = some s) {host : Host}
    {handoffs : Table Core.ResourceId PaneUpgradeHandle} (hanswered : Answered host s handoffs)
    (term : String) (listenerFd : Int) (token' : ServerInstance) (now : Int)
    (builds : PaneBlob → Bool) {blob : StateBlob}
    (hblob : blob = s.assembleUpgradeBlob term listenerFd handoffs)
    (hbuilds : ∀ p ∈ blob.panes, builds p = true) :
    ∃ s' resumed, (new token').rebuildFromBlob blob now builds = .ok (s', resumed) ∧
      Core.WellLinked s'.registry ∧ Core.Tiled s'.registry ∧
      s'.assembleUpgradeBlob term listenerFd (fun k => (resumed k).map (resumedHandle host)) =
        blob.resumedAt now ∧
      (s'.assembleUpgradeBlob term listenerFd (fun k => (resumed k).map (resumedHandle host)) =
          blob ↔ (∀ b ∈ blob.sessions, b.createdAtUnixNanos < 2 ^ 64 ∨
          b.createdAtUnixNanos = now.toNat) ∧ ∀ p ∈ blob.panes, p.cellPx = some DEFAULT_CELL_PX) ∧
      ∀ (later : List ServerOp) s'', later.foldlM step s' = some s'' → Fresh s'' blob := by
  obtain ⟨hok, hw⟩ := after_ok h
  have ho : WellOutlined (s.outline term handoffs) := outline_well hok hw hanswered.pair
  have hl : Lists blob (s.outline term handoffs) := by
    rw [hblob]
    exact ⟨assemble_sessions .., assemble_windows .., assemble_panes ..⟩
  obtain ⟨s', c, hrun, hrebuilt⟩ := rebuildFromBlob_rebuilt
    (ho.readable hl.sessions hl.windows hl.panes) token' now hbuilds
  have hlinked := hrebuilt.wellLinked hl ho
  have htiled := hrebuilt.tiled hl ho
  subst hblob
  have hagain : s'.assembleUpgradeBlob term listenerFd
      (fun k => (c.resumed k).map (resumedHandle host)) =
        (s.assembleUpgradeBlob term listenerFd handoffs).resumedAt now := by
    refine (hrebuilt.assemble_again hl ho host term rfl rfl).trans ?_
    rw [StateBlob.again, map_congr_left fun p hp => pane_again hanswered hok hw hp]
    rfl
  refine ⟨s', c.resumed, hrun, hlinked, htiled, hagain, ?_, ?_⟩
  · rw [hagain]
    exact StateBlob.resumedAt_eq_iff
  · intro later s'' hlater
    have hids := (foldlM_keeps (fun s s' op h => step_keeps h) hlater).later
    have hsessions := hrebuilt.nextSession ▸ hids.sessions.next_le
    have hterminals := hrebuilt.nextTerminal ▸ hids.terminals.next_le
    have hwindows := hrebuilt.nextWindow ▸ hids.windows.next_le
    exact (assemble_borrows s term listenerFd handoffs).fresh hok hsessions hterminals hwindows

def plainHost : Host := ⟨fun _ => some [47], fun _ _ bytes => ([], bytes)⟩

def plainAnswer (cellPx : UInt16 × UInt16) : PaneUpgradeHandle :=
  ⟨some 9, some 4242, 80, 24, some cellPx, none, some [47], [104, 105], []⟩

theorem plain_answered {cellPx : UInt16 × UInt16} :
    Answered plainHost s fun _ => some (plainAnswer cellPx) where
  all _ _ := by simp
  pair _ h hh := by cases hh; rfl
  cwd _ h hh := by cases hh; rfl
  replay _ h hh := by cases hh; rfl

theorem upgrade_round_trip_shown : ∃ s, after zeroInstance shownSession = some s ∧
      ∃ s' resumed, (new zeroInstance).rebuildFromBlob
          (s.assembleUpgradeBlob "xterm" 3 fun _ => some (plainAnswer DEFAULT_CELL_PX)) 7
          (fun _ => true) = .ok (s', resumed) ∧
        s'.assembleUpgradeBlob "xterm" 3 (fun k => (resumed k).map (resumedHandle plainHost)) =
          s.assembleUpgradeBlob "xterm" 3 fun _ => some (plainAnswer DEFAULT_CELL_PX) := by
  have h : after zeroInstance shownSession =
      some ((after zeroInstance shownSession).get (by decide)) :=
    (Option.some_get _).symm
  obtain ⟨s', resumed, hrun, -, -, -, hiff, -⟩ := upgrade_round_trip h
    plain_answered "xterm" 3 zeroInstance 7 (fun _ => true) rfl fun _ _ => rfl
  refine ⟨_, h, s', resumed, hrun, hiff.mpr ⟨?_, ?_⟩⟩
  · decide
  · decide

/-- A pane that a client gave cells of 10 by 20 pixels comes back with cells of 8 by 16. -/
theorem cell_size_lost : ∃ s, after zeroInstance shownSession = some s ∧
      ∃ s' resumed, (new zeroInstance).rebuildFromBlob
          (s.assembleUpgradeBlob "xterm" 3 fun _ => some (plainAnswer (10, 20))) 7
          (fun _ => true) = .ok (s', resumed) ∧
        (s.assembleUpgradeBlob "xterm" 3 fun _ => some (plainAnswer (10, 20))).panes.map
          PaneBlob.cellPx = [some (10, 20)] ∧ (s'.assembleUpgradeBlob "xterm" 3 fun k =>
          (resumed k).map (resumedHandle plainHost)).panes.map PaneBlob.cellPx = [some (8, 16)] ∧
        (s'.assembleUpgradeBlob "xterm" 3 fun k => (resumed k).map (resumedHandle plainHost)) ≠
          s.assembleUpgradeBlob "xterm" 3 fun _ => some (plainAnswer (10, 20)) := by
  refine ⟨_, rfl, _, _, rfl, rfl, rfl, fun heq => ?_⟩
  have hcells := congrArg (fun b => b.panes.map PaneBlob.cellPx) heq
  exact absurd hcells (by decide)

end Phux.Server
