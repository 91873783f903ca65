import Phux.UpgradeBlob

/-! When the upgrade blob lists the whole tree. -/

namespace Phux.Server

open Phux.Core (Linked LiveTerminal)
open ServerState List Option

inductive LayoutMatches (wire : Core.ResourceId → Option UInt32) :
    Core.LayoutNode → LayoutBlob → Prop
  | leaf {id w} (h : wire id = some w) : LayoutMatches wire (.leaf id) (.leaf w)
  | split {left right leftBlob rightBlob} (dir ratio) (hleft : LayoutMatches wire left leftBlob)
    (hright : LayoutMatches wire right rightBlob) :
    LayoutMatches wire (.split dir ratio left right) (.split dir ratio leftBlob rightBlob)

/-- Every session, window and pane of the tree stands in the blob, with the complete window
order, slots, layout and focus. -/
structure Complete (s : ServerState) (blob : StateBlob) : Prop where
  session : ∀ id S, s.registry.sessions.get id = some S → ∃ b ∈ blob.sessions,
    s.idspace.sessions.wire id = some b.wireId ∧ b.name = S.name ∧
      S.windows.map s.idspace.windows.wire = b.windowWireIds.map some
  window : ∀ id W, s.registry.windows.get id = some W → ∃ b ∈ blob.windows,
    s.idspace.windows.wire id = some b.wireId ∧
      s.idspace.sessions.wire W.session = some b.sessionWireId ∧
      W.slots.map s.idspace.terminals.wire = b.paneWireIds.map some ∧
      W.active.map s.idspace.terminals.wire = b.activeResource.map some ∧
      Option.Rel (LayoutMatches s.idspace.terminals.wire) W.layout b.layout
  pane : ∀ id w W, s.registry.windows.get w = some W → id ∈ W.slots → ∃ b ∈ blob.panes,
    s.idspace.terminals.wire id = some b.wireId ∧ s.idspace.windows.wire w = some b.windowWireId

variable {s : ServerState}

theorem map_filterMap_some {α β : Type} {f : α → Option β} {xs : List α}
    (h : ∀ x ∈ xs, f x ≠ none) : xs.map f = (xs.filterMap f).map some := by
  induction xs with
  | nil => rfl
  | cons x xs ih =>
    obtain ⟨y, hy⟩ := ne_none_iff_exists'.mp (h x mem_cons_self)
    rw [map_cons, filterMap_cons_some hy, map_cons, hy, ih fun x hx => h x (mem_cons_of_mem _ hx)]

theorem layoutToBlob_matches {l : Core.LayoutNode}
    (h : ∀ id ∈ l.leaves, s.idspace.terminals.wire id ≠ none) :
    ∃ b, s.layoutToBlob l = some b ∧ LayoutMatches s.idspace.terminals.wire l b := by
  induction l with
  | leaf id =>
    obtain ⟨w, hw⟩ := ne_none_iff_exists'.mp (h id (by simp [Core.LayoutNode.leaves]))
    exact ⟨.leaf w, by simp [layoutToBlob, hw], .leaf hw⟩
  | split dir ratio left right ihl ihr =>
    obtain ⟨bl, hbl, hml⟩ := ihl fun id hid => h id (mem_append_left _ hid)
    obtain ⟨br, hbr, hmr⟩ := ihr fun id hid => h id (mem_append_right _ hid)
    exact ⟨.split dir ratio bl br, by simp [layoutToBlob, hbl, hbr], .split dir ratio hml hmr⟩

variable {w : Core.WindowId} {W : Core.Window}

theorem seated_wired (hok : Ok s) (hw : Wired s)
    (hW : s.registry.windows.get w = some W) {id : Core.ResourceId} (hid : id ∈ W.slots) :
    s.idspace.terminals.wire id ≠ none := by
  obtain ⟨t, ht, hkind, -⟩ := hok.linked.placed.live hW hid
  exact (hw id ⟨t, ht, hkind⟩ fun h => h).1

theorem mem_blobSessions {id : Core.SessionId} {S : Core.Session} {wire : UInt32}
    (hS : s.registry.sessions.get id = some S) (hwire : s.idspace.sessions.wire id = some wire) :
    (wire, id, S) ∈ s.blobSessions := by
  refine mem_filterMap.mpr ⟨(id, S), SlotMap.mem_entries.mpr hS, ?_⟩
  simp [hwire]

theorem window_in_blob (hok : Ok s) (hW : s.registry.windows.get w = some W)
    (hsessions : ∀ id S, s.registry.sessions.get id = some S → s.idspace.sessions.wire id ≠ none)
    (hwindows : s.idspace.windows.wire w ≠ none) :
    ∃ S wire sessionWire, s.idspace.windows.wire w = some wire ∧
      s.idspace.sessions.wire W.session = some sessionWire ∧
      (sessionWire, W.session, S) ∈ s.blobSessions ∧ (wire, w, W) ∈ s.blobWindows S := by
  obtain ⟨S, hS, hmem⟩ := hok.linked.listed.listed hW
  obtain ⟨wire, hwire⟩ := ne_none_iff_exists'.mp hwindows
  obtain ⟨sessionWire, hsession⟩ := ne_none_iff_exists'.mp (hsessions _ S hS)
  exact ⟨S, wire, sessionWire, hwire, hsession, mem_blobSessions hS hsession,
    mem_filterMap.mpr ⟨w, hmem, by simp [hW, hwire]⟩⟩

theorem complete_of_interned (hok : Ok s) (hw : Wired s) {term : String} {listenerFd : Int}
    {handoffs : Table Core.ResourceId PaneUpgradeHandle}
    (hsessions : ∀ id S, s.registry.sessions.get id = some S → s.idspace.sessions.wire id ≠ none)
    (hwindows : ∀ id W, s.registry.windows.get id = some W → s.idspace.windows.wire id ≠ none) :
    Complete s (s.assembleUpgradeBlob term listenerFd handoffs) := by
  refine ⟨?_, ?_, ?_⟩
  · intro id S hS
    obtain ⟨wire, hwire⟩ := ne_none_iff_exists'.mp (hsessions id S hS)
    refine ⟨s.sessionBlob wire id S, mem_map.mpr ⟨_, mem_blobSessions hS hwire, rfl⟩, hwire,
      rfl, map_filterMap_some fun w hmem => ?_⟩
    obtain ⟨W, hW, -⟩ := hok.linked.listed.owned hS hmem
    exact hwindows w W hW
  · intro id W hW
    obtain ⟨S, wire, sessionWire, hwire, hsession, hS, hmem⟩ :=
      window_in_blob hok hW hsessions (hwindows id W hW)
    refine ⟨s.windowBlob wire sessionWire id W, ?_, hwire, hsession, ?_, ?_, ?_⟩
    · exact mem_flatMap.mpr ⟨_, hS, mem_map.mpr ⟨_, hmem, rfl⟩⟩
    · exact map_filterMap_some fun t ht => seated_wired hok hw hW ht
    · rcases hok.linked.placed.focused hW with ⟨hnone, -⟩ | ⟨t, ht, hsome⟩
      · simp [windowBlob, hnone]
      · obtain ⟨v, hv⟩ := ne_none_iff_exists'.mp (seated_wired hok hw hW ht)
        simp [windowBlob, hsome, hv]
    · cases hl : W.layout with
      | none =>
        simp only [windowBlob, hl, bind_none]
        exact .none
      | some l =>
        have hleaves := (hok.linked.tiled id W hW).leaves l hl
        obtain ⟨b, hb, hmatch⟩ := layoutToBlob_matches fun t ht =>
          seated_wired hok hw hW (hleaves.mem_iff.mp ht)
        simp only [windowBlob, hl, bind_some, hb]
        exact .some hmatch
  · intro t w W hW ht
    obtain ⟨S, wire, sessionWire, hwire, hsession, hS, hmem⟩ :=
      window_in_blob hok hW hsessions (hwindows w W hW)
    obtain ⟨v, hv⟩ := ne_none_iff_exists'.mp (seated_wired hok hw hW ht)
    obtain ⟨d, hd, hkind, -⟩ := hok.linked.placed.live hW ht
    obtain ⟨desc, hdesc⟩ := ne_none_iff_exists'.mp (hok.linked.faceted t d hd hkind)
    have hterminal : s.registry.terminal t = some desc := by
      simp [Core.Registry.terminal, hd, hdesc]
    refine ⟨paneBlob v wire desc term (handoffs t), ?_, hv, hwire⟩
    refine mem_flatMap.mpr ⟨_, hS, mem_flatMap.mpr ⟨_, hmem, ?_⟩⟩
    exact mem_filterMap.mpr ⟨t, ht, by simp [hterminal, hv]⟩

/-- Whether or not a snapshot was ever taken, the blob of a reachable state is complete
exactly when every live session and every live window has a wire id. -/
theorem upgrade_complete_iff {token : ServerInstance} {ops : List ServerOp}
    (h : after token ops = some s) (term : String) (listenerFd : Int)
    (handoffs : Table Core.ResourceId PaneUpgradeHandle) :
    Complete s (s.assembleUpgradeBlob term listenerFd handoffs) ↔
      (∀ id S, s.registry.sessions.get id = some S → s.idspace.sessions.wire id ≠ none) ∧
      ∀ id W, s.registry.windows.get id = some W → s.idspace.windows.wire id ≠ none := by
  obtain ⟨hok, hw⟩ := after_ok h
  constructor
  · intro hc
    refine ⟨fun id S hS => ?_, fun id W hW => ?_⟩
    · obtain ⟨b, -, hwire, -⟩ := hc.session id S hS
      simp [hwire]
    · obtain ⟨b, -, hwire, -⟩ := hc.window id W hW
      simp [hwire]
  · rintro ⟨hsessions, hwindows⟩
    exact complete_of_interned hok hw hsessions hwindows

def shownSession : List ServerOp :=
  [.seedSessionWithActor "main" 0 none true, .snapshot ⟨0, 1⟩]

theorem upgrade_complete_shown : ∃ s, after zeroInstance shownSession = some s ∧
      Complete s (s.assembleUpgradeBlob "xterm" 3 fun _ => none) := by
  have h : after zeroInstance shownSession =
      some ((after zeroInstance shownSession).get (by decide)) :=
    (some_get _).symm
  refine ⟨_, h, (upgrade_complete_iff h "xterm" 3 fun _ => none).mpr ⟨?_, ?_⟩⟩
  · have hwires : ∀ p ∈ ((after zeroInstance shownSession).get
        (by decide)).registry.sessions.entries, ((after zeroInstance
        shownSession).get (by decide)).idspace.sessions.wire p.1 ≠ none := by decide
    exact fun id S hS => hwires (id, S) (SlotMap.mem_entries.mpr hS)
  · have hwires : ∀ p ∈ ((after zeroInstance shownSession).get
        (by decide)).registry.windows.entries, ((after zeroInstance
        shownSession).get (by decide)).idspace.windows.wire p.1 ≠ none := by decide
    exact fun id W hW => hwires (id, W) (SlotMap.mem_entries.mpr hW)

/-- A session created and its id told to the client that asked for it, with no snapshot
taken: the session is in the blob, its window and its running pane are not. -/
theorem unseen_window_lost : ∃ s, after zeroInstance [.seedSessionWithPty "main" 0 none none true,
        .internSession ⟨0, 1⟩] = some s ∧
      s.registry.windows.get ⟨0, 1⟩ ≠ none ∧ s.registry.terminal ⟨0, 1⟩ ≠ none ∧
      (s.assembleUpgradeBlob "xterm" 3 fun _ => none).sessions.map SessionBlob.windowWireIds =
        [[]] ∧ (s.assembleUpgradeBlob "xterm" 3 fun _ => none).windows = [] ∧
      (s.assembleUpgradeBlob "xterm" 3 fun _ => none).panes = [] ∧
      ¬Complete s (s.assembleUpgradeBlob "xterm" 3 fun _ => none) := by
  refine ⟨_, rfl, by decide, by decide, by decide, rfl, rfl, fun hc => ?_⟩
  obtain ⟨b, hb, -⟩ := hc.window ⟨0, 1⟩ _ rfl
  exact absurd hb not_mem_nil

end Phux.Server
