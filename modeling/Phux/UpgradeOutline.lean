import Phux.UpgradeComplete
import Phux.UpgradeRebuild

/-! The blob as the tree it is written from: who owns what, each id given once. -/

namespace Phux.Server
open ServerState List Function

structure WindowEntry where
  window : WindowBlob
  panes : List PaneBlob

structure SessionEntry where
  session : SessionBlob
  windows : List WindowEntry

def LayoutBlob.leaves : LayoutBlob → List UInt32
  | .leaf wire => [wire]
  | .split _ _ left right => left.leaves ++ right.leaves

namespace ServerState

def windowEntry (s : ServerState) (term : String)
    (handoffs : Table Core.ResourceId PaneUpgradeHandle) (sessionWire : UInt32)
    (entry : UInt32 × Core.WindowId × Core.Window) : WindowEntry where
  window := s.windowBlob entry.1 sessionWire entry.2.1 entry.2.2
  panes := s.blobPanes term handoffs entry.1 entry.2.2

def sessionEntry (s : ServerState) (term : String)
    (handoffs : Table Core.ResourceId PaneUpgradeHandle)
    (entry : UInt32 × Core.SessionId × Core.Session) : SessionEntry where
  session := s.sessionBlob entry.1 entry.2.1 entry.2.2
  windows := (s.blobWindows entry.2.2).map (s.windowEntry term handoffs entry.1)

def outline (s : ServerState) (term : String)
    (handoffs : Table Core.ResourceId PaneUpgradeHandle) : List SessionEntry :=
  s.blobSessions.map (s.sessionEntry term handoffs)

end ServerState

variable (s : ServerState) (term : String) (listenerFd : Int)
  (hand : Table Core.ResourceId PaneUpgradeHandle)

theorem assemble_sessions : (s.assembleUpgradeBlob term listenerFd hand).sessions =
      (s.outline term hand).map SessionEntry.session := by
  simp [assembleUpgradeBlob, outline, sessionEntry]

theorem assemble_windows : (s.assembleUpgradeBlob term listenerFd hand).windows =
      (s.outline term hand).flatMap fun e => e.windows.map WindowEntry.window := by
  simp [assembleUpgradeBlob, outline, sessionEntry, windowEntry, flatMap_map, comp_def]

theorem assemble_panes : (s.assembleUpgradeBlob term listenerFd hand).panes =
      (s.outline term hand).flatMap fun e => e.windows.flatMap WindowEntry.panes := by
  simp [assembleUpgradeBlob, outline, sessionEntry, windowEntry, flatMap_map]

variable {s term hand}

structure WindowEntry.Well (e : WindowEntry) : Prop where
  ids : e.window.paneWireIds = e.panes.map PaneBlob.wireId
  seated : ∀ p ∈ e.panes, p.windowWireId = e.window.wireId
  focused : Core.Focused e.window.activeResource e.window.paneWireIds
  absent : e.window.layout = none ↔ e.window.paneWireIds = []
  leaves : ∀ l, e.window.layout = some l → l.leaves.Perm e.window.paneWireIds
  pair : ∀ p ∈ e.panes, p.masterFd.isSome = p.childPid.isSome

structure SessionEntry.Well (e : SessionEntry) : Prop where
  ids : e.session.windowWireIds = e.windows.map fun w => w.window.wireId
  owned : ∀ w ∈ e.windows, w.window.sessionWireId = e.session.wireId
  active : ∀ a, e.session.activeWindow = some a → a ∈ e.session.windowWireIds
  windows : ∀ w ∈ e.windows, w.Well

/-- An outline whose entries agree with each other and give each id once. -/
structure WellOutlined (o : List SessionEntry) : Prop where
  entries : ∀ e ∈ o, e.Well
  sessions : (o.map fun e => e.session.wireId).Nodup
  windows : (o.flatMap fun e => e.windows.map fun w => w.window.wireId).Nodup
  panes : (o.flatMap fun e => e.windows.flatMap fun w => w.panes.map PaneBlob.wireId).Nodup

variable {S : Core.Session} {W : Core.Window}

variable {wire : UInt32} {id : Core.SessionId}

theorem of_mem_blobSessions (h : (wire, id, S) ∈ s.blobSessions) :
    s.registry.sessions.get id = some S ∧ s.idspace.sessions.wire id = some wire := by
  obtain ⟨⟨id', S'⟩, hmem, he⟩ := mem_filterMap.mp h
  obtain ⟨w, hw, he⟩ := Option.map_eq_some_iff.mp he
  cases he
  exact ⟨SlotMap.mem_entries.mp hmem, hw⟩

theorem of_mem_blobWindows {id : Core.WindowId}
    (h : (wire, id, W) ∈ s.blobWindows S) : id ∈ S.windows ∧ s.registry.windows.get id = some W ∧
      s.idspace.windows.wire id = some wire := by
  obtain ⟨id', hmem, he⟩ := mem_filterMap.mp h
  split at he
  · rename_i hW hw
    cases he
    exact ⟨hmem, hW, hw⟩
  · cases he

theorem blobSessions_ids (s : ServerState) : s.blobSessions.map Prod.fst =
      (s.registry.sessions.entries.map Prod.fst).filterMap s.idspace.sessions.wire := by
  rw [blobSessions, map_filterMap, filterMap_map]
  refine filterMap_congr fun e he => ?_
  simp [Option.map_map, comp_def]

theorem blobWindows_ids (hok : Ok s) (hS : s.registry.sessions.get id = some S) :
    (s.blobWindows S).map Prod.fst = S.windows.filterMap s.idspace.windows.wire := by
  rw [blobWindows, map_filterMap]
  refine filterMap_congr fun w hw => ?_
  obtain ⟨W, hW, -⟩ := hok.linked.listed.owned hS hw
  cases hwire : s.idspace.windows.wire w with
  | none => simp [hW]
  | some v => simp [hW]

variable {w : Core.WindowId}

theorem terminal_of_seated (hok : Ok s) (hW : s.registry.windows.get w = some W)
    {t : Core.ResourceId} (ht : t ∈ W.slots) : ∃ desc, s.registry.terminal t = some desc := by
  obtain ⟨d, hd, hkind, -⟩ := hok.linked.placed.live hW ht
  obtain ⟨desc, hdesc⟩ := Option.ne_none_iff_exists'.mp (hok.linked.faceted t d hd hkind)
  exact ⟨desc, by simp [Core.Registry.terminal, hd, hdesc]⟩

theorem blobPanes_ids (hok : Ok s) (hW : s.registry.windows.get w = some W) :
    (s.blobPanes term hand wire W).map PaneBlob.wireId =
      W.slots.filterMap s.idspace.terminals.wire := by
  rw [blobPanes, map_filterMap]
  refine filterMap_congr fun t ht => ?_
  obtain ⟨desc, hdesc⟩ := terminal_of_seated hok hW ht
  cases hwire : s.idspace.terminals.wire t with
  | none => simp [hdesc]
  | some v => simp [hdesc, paneBlob]

theorem layoutToBlob_leaves {l : Core.LayoutNode} {b : LayoutBlob}
    (h : s.layoutToBlob l = some b) : b.leaves = l.leaves.filterMap s.idspace.terminals.wire := by
  induction l generalizing b with
  | leaf id =>
    obtain ⟨v, hv, rfl⟩ := Option.map_eq_some_iff.mp h
    simp [LayoutBlob.leaves, Core.LayoutNode.leaves, hv]
  | split dir ratio left right ihl ihr =>
    simp only [layoutToBlob] at h
    split at h
    · rename_i hl hr
      cases h
      simp [LayoutBlob.leaves, Core.LayoutNode.leaves, ihl hl, ihr hr, filterMap_append]
    · cases h

theorem windowEntry_well (hok : Ok s) (hw : Wired s)
    (hpairs : ∀ t h, hand t = some h → h.validPair = true)
    {entry : UInt32 × Core.WindowId × Core.Window} (hmem : entry ∈ s.blobWindows S)
    (sessionWire : UInt32) : (s.windowEntry term hand sessionWire entry).Well := by
  obtain ⟨wire, w, W⟩ := entry
  obtain ⟨-, hW, hwire⟩ := of_mem_blobWindows hmem
  have hwired : ∀ t ∈ W.slots, s.idspace.terminals.wire t ≠ none := fun t ht =>
    seated_wired hok hw hW ht
  have htiled := hok.linked.tiled w W hW
  have hlayout : ∀ l, W.layout = some l → ∃ b, s.layoutToBlob l = some b := by
    intro l hl
    obtain ⟨b, hb, -⟩ := layoutToBlob_matches fun t ht =>
      hwired t ((htiled.leaves l hl).mem_iff.mp ht)
    exact ⟨b, hb⟩
  refine ⟨?_, ?_, ?_, ?_, ?_, ?_⟩
  · exact (blobPanes_ids hok hW).symm
  · intro p hp
    obtain ⟨t, ht, he⟩ := mem_filterMap.mp hp
    split at he
    · cases he
      rfl
    · cases he
  · rcases hok.linked.placed.focused hW with ⟨hnone, hnil⟩ | ⟨t, ht, hsome⟩
    · exact .inl ⟨by simp [windowEntry, windowBlob, hnone], by simp [windowEntry, windowBlob, hnil]⟩
    · obtain ⟨v, hv⟩ := Option.ne_none_iff_exists'.mp (hwired t ht)
      refine .inr ⟨v, mem_filterMap.mpr ⟨t, ht, hv⟩, ?_⟩
      simp [windowEntry, windowBlob, hsome, hv]
  · have hslots : W.slots.filterMap s.idspace.terminals.wire = [] ↔ W.slots = [] := by
      rw [filterMap_eq_nil_iff]
      constructor
      · intro hall
        by_contra hne
        obtain ⟨t, ht⟩ := exists_mem_of_ne_nil _ hne
        exact hwired t ht (hall t ht)
      · intro hnil
        simp [hnil]
    rw [windowEntry, windowBlob]
    rw [hslots, ← htiled.absent]
    cases hl : W.layout with
    | none => simp
    | some l =>
      obtain ⟨b, hb⟩ := hlayout l hl
      simp [hb]
  · intro b hb
    obtain ⟨l, hl, hlb⟩ := Option.bind_eq_some_iff.mp hb
    rw [layoutToBlob_leaves hlb]
    exact (htiled.leaves l hl).filterMap _
  · intro p hp
    obtain ⟨t, ht, he⟩ := mem_filterMap.mp hp
    split at he
    · cases he
      cases hh : hand t with
      | none => simp [paneBlob]
      | some h =>
        have hvalid := hpairs t h hh
        unfold PaneUpgradeHandle.validPair at hvalid
        split at hvalid
        · rename_i hfd hpid
          simp [paneBlob, hfd, hpid]
        · rename_i hfd hpid
          simp [paneBlob, hfd, hpid]
        · cases hvalid
    · cases he

theorem blobSessions_nodup (s : ServerState) : (s.blobSessions.map fun e => e.2.1).Nodup := by
  have hkeys := SlotMap.entries_nodup s.registry.sessions
  have hsub : (s.blobSessions.map fun e => e.2.1) = (s.registry.sessions.entries.map
      Prod.fst).filterMap fun id => (s.idspace.sessions.wire id).map fun _ => id := by
    rw [blobSessions, map_filterMap, filterMap_map]
    refine filterMap_congr fun e he => ?_
    simp [Option.map_map, comp_def]
  rw [hsub]
  refine hkeys.filterMap fun a a' b hb hb' => ?_
  obtain ⟨-, -, rfl⟩ := Option.map_eq_some_iff.mp hb
  obtain ⟨-, -, rfl⟩ := Option.map_eq_some_iff.mp hb'
  rfl

theorem blobSessions_windows_nodup (hok : Ok s) :
    (s.blobSessions.flatMap fun e => e.2.2.windows).Nodup := by
  refine nodup_flatMap.mpr ⟨?_, ?_⟩
  · rintro ⟨wire, id, S⟩ hmem
    exact hok.linked.listed.nodup (of_mem_blobSessions hmem).1
  · have hpair := pairwise_map.mp (blobSessions_nodup s)
    refine (Pairwise.and_mem.mp hpair).imp ?_
    rintro ⟨wire, id, S⟩ ⟨wire', id', S'⟩ ⟨hmem, hmem', hne⟩ w hw hw'
    obtain ⟨W, hW, hsession⟩ := hok.linked.listed.owned (of_mem_blobSessions hmem).1 hw
    obtain ⟨W', hW', hsession'⟩ := hok.linked.listed.owned (of_mem_blobSessions hmem').1 hw'
    rw [hW] at hW'
    cases hW'
    exact hne (hsession.symm.trans hsession')

theorem blobWindows_nodup (hok : Ok s) :
    ((s.blobSessions.flatMap fun e => s.blobWindows e.2.2).map fun e => e.2.1).Nodup := by
  obtain ⟨hnodup, hdisjoint⟩ := nodup_flatMap.mp (blobSessions_windows_nodup hok)
  have hmem : ∀ {S w}, w ∈ (s.blobWindows S).map (fun e => e.2.1) → w ∈ S.windows := by
    intro S w hw
    obtain ⟨e, he, rfl⟩ := mem_map.mp hw
    exact (of_mem_blobWindows he).1
  rw [map_flatMap]
  refine nodup_flatMap.mpr ⟨fun e he => ?_, hdisjoint.imp fun hd w hw hw' => ?_⟩
  · rw [blobWindows, map_filterMap]
    refine (hnodup e he).filterMap fun a a' b hb hb' => ?_
    obtain ⟨x, hx, rfl⟩ := Option.map_eq_some_iff.mp hb
    obtain ⟨y, hy, hkey⟩ := Option.map_eq_some_iff.mp hb'
    split at hx
    · cases hx
      split at hy
      · cases hy
        exact hkey.symm
      · cases hy
    · cases hx
  · exact hd (hmem hw) (hmem hw')

theorem blobWindows_slots_nodup (hok : Ok s) :
    ((s.blobSessions.flatMap fun e => s.blobWindows e.2.2).flatMap fun e => e.2.2.slots).Nodup := by
  have hlive : ∀ e ∈ s.blobSessions.flatMap fun e => s.blobWindows e.2.2,
      s.registry.windows.get e.2.1 = some e.2.2 := by
    intro e he
    obtain ⟨x, hx, he⟩ := mem_flatMap.mp he
    exact (of_mem_blobWindows he).2.1
  refine nodup_flatMap.mpr ⟨fun e he => hok.linked.placed.nodup (hlive e he), ?_⟩
  have hpair := pairwise_map.mp (blobWindows_nodup hok)
  refine (Pairwise.and_mem.mp hpair).imp ?_
  rintro e e' ⟨hmem, hmem', hne⟩ t ht ht'
  obtain ⟨d, hd, -, hwindow⟩ := hok.linked.placed.live (hlive e hmem) ht
  obtain ⟨d', hd', -, hwindow'⟩ := hok.linked.placed.live (hlive e' hmem') ht'
  rw [hd] at hd'
  cases hd'
  rw [hwindow] at hwindow'
  exact hne (Option.some.inj hwindow')

theorem filterMap_wire_nodup {κ : Type} [DecidableEq κ] {b : IdBridge κ} (h : b.Sound) {l : List κ}
    (hl : l.Nodup) : (l.filterMap b.wire).Nodup :=
  hl.filterMap fun _ _ _ hw hw' => h.injective hw hw'

theorem outline_well (hok : Ok s) (hw : Wired s)
    (hpairs : ∀ t h, hand t = some h → h.validPair = true) :
    WellOutlined (s.outline term hand) where
  entries e he := by
    obtain ⟨entry, hentry, rfl⟩ := mem_map.mp he
    obtain ⟨wire, id, S⟩ := entry
    obtain ⟨hS, hwire⟩ := of_mem_blobSessions hentry
    refine ⟨?_, ?_, ?_, ?_⟩
    · simp only [sessionEntry, sessionBlob, map_map]
      exact (blobWindows_ids hok hS).symm
    · intro w hwmem
      obtain ⟨entry, -, rfl⟩ := mem_map.mp hwmem
      rfl
    · intro a ha
      obtain ⟨w, hactive, ha⟩ := Option.bind_eq_some_iff.mp ha
      exact mem_filterMap.mpr ⟨w, hok.linked.listed.chosen hS w hactive, ha⟩
    · intro w hwmem
      obtain ⟨entry, hentry, rfl⟩ := mem_map.mp hwmem
      exact windowEntry_well hok hw hpairs hentry wire
  sessions := by
    have hids : ((s.outline term hand).map fun e => e.session.wireId) =
        s.blobSessions.map Prod.fst := by
      simp [outline, sessionEntry, sessionBlob, comp_def]
    rw [hids, blobSessions_ids]
    exact filterMap_wire_nodup hok.sessions (SlotMap.entries_nodup _)
  windows := by
    have hids : ((s.outline term hand).flatMap fun e =>
        e.windows.map fun w => w.window.wireId) =
          (s.blobSessions.flatMap fun e => e.2.2.windows).filterMap s.idspace.windows.wire := by
      rw [outline, flatMap_map, filterMap_flatMap]
      refine flatMap_congr fun e he => ?_
      rw [← blobWindows_ids hok (of_mem_blobSessions he).1]
      simp [sessionEntry, windowEntry, windowBlob, comp_def]
    rw [hids]
    exact filterMap_wire_nodup hok.windows (blobSessions_windows_nodup hok)
  panes := by
    have hids : ((s.outline term hand).flatMap fun e =>
        e.windows.flatMap fun w => w.panes.map PaneBlob.wireId) =
          ((s.blobSessions.flatMap fun e => s.blobWindows e.2.2).flatMap fun e =>
            e.2.2.slots).filterMap s.idspace.terminals.wire := by
      rw [outline, flatMap_map, flatMap_assoc, filterMap_flatMap]
      refine flatMap_congr fun e he => ?_
      rw [sessionEntry, flatMap_map, filterMap_flatMap]
      refine flatMap_congr fun w hw => ?_
      exact blobPanes_ids hok (of_mem_blobWindows hw).2.1
    rw [hids]
    exact filterMap_wire_nodup hok.terminals (blobWindows_slots_nodup hok)

theorem WellOutlined.readable {o : List SessionEntry} (h : WellOutlined o) {blob : StateBlob}
    (hsessions : blob.sessions = o.map SessionEntry.session)
    (hwindows : blob.windows = o.flatMap fun e => e.windows.map WindowEntry.window)
    (hpanes : blob.panes = o.flatMap fun e => e.windows.flatMap WindowEntry.panes) :
    Readable blob where
  sessions := by
    rw [hsessions, map_map]
    exact h.sessions
  windows := by
    rw [hwindows, map_flatMap]
    simpa [comp_def] using h.windows
  panes := by
    rw [hpanes, map_flatMap]
    simpa [map_flatMap] using h.panes
  session b hb := by
    rw [hwindows] at hb
    obtain ⟨e, he, hb⟩ := mem_flatMap.mp hb
    obtain ⟨w, hw, rfl⟩ := mem_map.mp hb
    rw [(h.entries e he).owned w hw, hsessions, map_map]
    exact mem_map.mpr ⟨e, he, rfl⟩
  window b hb := by
    rw [hpanes] at hb
    obtain ⟨e, he, hb⟩ := mem_flatMap.mp hb
    obtain ⟨w, hw, hb⟩ := mem_flatMap.mp hb
    rw [((h.entries e he).windows w hw).seated b hb, hwindows]
    refine mem_map.mpr ⟨w.window, mem_flatMap.mpr ⟨e, he, ?_⟩, rfl⟩
    exact mem_map.mpr ⟨w, hw, rfl⟩
  pair b hb := by
    rw [hpanes] at hb
    obtain ⟨e, he, hb⟩ := mem_flatMap.mp hb
    obtain ⟨w, hw, hb⟩ := mem_flatMap.mp hb
    exact ((h.entries e he).windows w hw).pair b hb

end Phux.Server
