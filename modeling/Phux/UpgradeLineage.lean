import Phux.UpgradeRoundTrip

/-! A server through its upgrades. Each image hands its tree to the next, which rebuilds it,
or stops at a pane that does not come up, and serves either way. -/

namespace Phux.Server

open List Option ServerState
open IdBridge (Served Stable)

namespace ServerState

def windowLeft (sessionCore : Table UInt32 Core.SessionId)
    (acc : ServerState × Table UInt32 Core.WindowId) (b : WindowBlob) :
    ServerState × Table UInt32 Core.WindowId :=
  match sessionCore b.sessionWireId with
  | none => acc
  | some session =>
    ({ acc.1 with sessions.registry := (acc.1.registry.newWindow session).1 }, acc.2)

/-- What a pane that cannot be rebuilt leaves: its entry in the registry, if it got one. -/
def paneLeft (windowCore : Table UInt32 Core.WindowId) (acc : RebuiltPanes) (b : PaneBlob) :
    RebuiltPanes :=
  match windowCore b.windowWireId with
  | none => acc
  | some window =>
    match acc.state.registry.newTerminal window with
    | (r, .error _) => { acc with state.sessions.registry := r }
    | (r, .ok core) =>
      let s := { acc.state with sessions.registry := r }
      { acc with state := s.modifyTerminal core fun _ => ⟨(b.cols, b.rows), b.cwd, b.title⟩ }

/-- The state a resumed server serves. An error of `rebuildFromBlob` is logged, and what was
rebuilt before it stays. -/
def resumeSessionTree (s : ServerState) (blob : StateBlob) (now : Int)
    (builds : PaneBlob → Bool) : ServerState :=
  let (s, sessionCore) := blob.sessions.foldl (rebuildSession now) (s, fun _ => none)
  match Loop.run (Loop.stopping (rebuildWindow sessionCore) (windowLeft sessionCore)) blob.windows
    (s, fun _ => none) with
  | ((s, _), some _) => s
  | ((s, windowCore), none) =>
    match Loop.run (Loop.stopping (rebuildPane builds windowCore) (paneLeft windowCore)) blob.panes
      ⟨s, fun _ => none, fun _ => none⟩ with
    | (panes, some _) => panes.state
    | (panes, none) =>
      let s := blob.windows.foldl (relinkWindow windowCore panes.coreIds) panes.state
      let s := blob.sessions.foldl (relinkSession sessionCore windowCore) s
      s.restoreCounters blob.counters

end ServerState

/-- An upgrade: what the old image's actors answer, and what the new one starts with. -/
structure Upgrade where
  term : String
  listenerFd : Int
  answers : List (Core.ResourceId × PaneUpgradeHandle)
  token : ServerInstance
  now : Int
  builds : PaneBlob → Bool

/-- The answers by pane; half a PTY in one of them calls the upgrade off. -/
def collectPaneHandoffs (answers : List (Core.ResourceId × PaneUpgradeHandle)) :
    Option (Table Core.ResourceId PaneUpgradeHandle) :=
  if answers.all fun a => a.2.validPair then some fun id => answers.lookup id else none

inductive ImageOp where
  | serve (op : ServerOp)
  | upgrade (u : Upgrade)

namespace ServerState

/-- The blob the old image leaves, unless it calls the upgrade off. -/
def prepareUpgrade (s : ServerState) (u : Upgrade) : Option StateBlob :=
  (collectPaneHandoffs u.answers).map fun handoffs =>
    s.assembleUpgradeBlob u.term u.listenerFd handoffs

def image (s : ServerState) : ImageOp → Option ServerState
  | .serve op => s.step op
  | .upgrade u =>
    match s.prepareUpgrade u with
    | none => some s
    | some blob => some ((ServerState.new u.token).resumeSessionTree blob u.now u.builds)

/-- A server's life; `none` once it ran out of wire ids and stopped. -/
def images (s : Option ServerState) (op : ImageOp) : Option ServerState := s.bind (image · op)

def lineage (token : ServerInstance) (ops : List ImageOp) : Option ServerState :=
  Machine.run images (some (.new token)) ops

end ServerState

def Completes : Option ServerState → ImageOp → Prop
  | some s, .upgrade u =>
    ∀ p ∈ (s.prepareUpgrade u).elim [] StateBlob.panes, u.builds p = true
  | _, _ => True

instance Completes.decidable : ∀ s op, Decidable (Completes s op)
  | some _, .upgrade _ => inferInstanceAs (Decidable (∀ p ∈ _, _))
  | none, _ => isTrue trivial
  | some _, .serve _ => isTrue trivial

variable {s : ServerState} {now : Int} {c : Cores} {blob : StateBlob} {o : List SessionEntry}
  {builds : PaneBlob → Bool}

variable {s' : ServerState}

theorem resumeSessionTree_of_ok {resumed : Table Core.ResourceId PaneBlob}
    (h : s.rebuildFromBlob blob now builds = .ok (s', resumed)) :
    s.resumeSessionTree blob now builds = s' := by
  rcases hsessions : blob.sessions.foldl (rebuildSession now)
    (s, fun _ => none) with ⟨s₁, sessionCore⟩
  rw [rebuildFromBlob, hsessions] at h
  obtain ⟨⟨s₂, windowCore⟩, hwindows, h⟩ := Fallible.bind_eq_ok.mp h
  obtain ⟨panes, hpanes, h⟩ := Fallible.bind_eq_ok.mp h
  cases h
  simp only [resumeSessionTree, hsessions, Loop.run_stopping_none.mpr hwindows,
    Loop.run_stopping_none.mpr hpanes]

section

variable (h : Rebuilt now s c blob) (hl : Lists blob o) (ho : WellOutlined o)

include h

theorem Rebuilt.wired : Wired s := by
  rintro k ⟨t, ht, -⟩ -
  obtain ⟨p, -, hk, -⟩ := h.panes.only ht
  exact ⟨by simp [h.panes.inverse.mp hk], h.handles k (by simp [ht])⟩

include hl ho

variable {w : Core.WindowId}

theorem Rebuilt.pane_seated {id : Core.ResourceId} {t : Core.ResourceDescriptor}
    (ht : s.registry.resources.get id = some t) (hw : t.window = some w) :
    ∃ W, s.registry.windows.get w = some W ∧ id ∈ W.slots := by
  obtain ⟨p, hp, hid, hkept⟩ := h.panes.only ht
  obtain ⟨w', hw', rfl⟩ := hkept.seated
  cases hw
  rw [hl.panes] at hp
  obtain ⟨e, he, hp⟩ := mem_flatMap.mp hp
  obtain ⟨entry, hentry, hp⟩ := mem_flatMap.mp hp
  have hwell := (ho.entries e he).windows entry hentry
  obtain ⟨k, W, hk, -, hW, hlinked⟩ := h.windows.lookup (hl.window he hentry)
  rw [hwell.seated p hp, hk] at hw'
  cases hw'
  refine ⟨W, hW, ?_⟩
  rw [hlinked.slots, hwell.ids]
  exact mem_filterMap.mpr ⟨p.wireId, mem_map.mpr ⟨p, hp, rfl⟩, hid⟩

theorem Rebuilt.placed : Core.Placed s.registry where
  nodup hW := ((h.wellLinked hl ho).slots _ _ hW).1
  focused hW := h.focused hl ho hW
  live hW hmem := h.slots_live hl ho hW hmem
  seated ht hw := h.pane_seated hl ho ht hw
  terminal ht _ := by
    obtain ⟨p, -, -, hkept⟩ := h.panes.only ht
    obtain ⟨w, -, rfl⟩ := hkept.seated
    exact ⟨rfl, w, rfl⟩
  agent ht hkind := by
    obtain ⟨p, -, -, hkept⟩ := h.panes.only ht
    obtain ⟨w, -, rfl⟩ := hkept.seated
    cases hkind

theorem Rebuilt.sessionWindow {k : Core.SessionId} {S : Core.Session}
    (hS : s.registry.sessions.get k = some S)
    (hw : w ∈ S.windows) :
    ∃ W, s.registry.windows.get w = some W ∧ W.session = k := by
  obtain ⟨e, he, hk, hlinked⟩ := h.session_origin hl hS
  rw [hlinked.windows, (ho.entries e he).ids] at hw
  obtain ⟨wire, hwire, hw⟩ := mem_filterMap.mp hw
  obtain ⟨entry, hentry, rfl⟩ := mem_map.mp hwire
  obtain ⟨k', W, hk', -, hW, hrelinked⟩ := h.windows.lookup (hl.window he hentry)
  rw [hw] at hk'
  cases hk'
  have hsession := hrelinked.kept.session
  rw [(ho.entries e he).owned entry hentry, hk] at hsession
  exact ⟨W, hW, (some.inj hsession).symm⟩

theorem Rebuilt.listedAll : Core.Listed s.registry where
  nodup hS := by
    obtain ⟨e, he, -, hlinked⟩ := h.session_origin hl hS
    rw [hlinked.windows]
    exact resolveIds_nodup h.windows.inverse (ho.windowIds_nodup he)
  chosen hS := by
    obtain ⟨e, he, -, hlinked⟩ := h.session_origin hl hS
    intro a ha
    rw [hlinked.active] at ha
    obtain ⟨wire, hwire, ha⟩ := bind_eq_some_iff.mp ha
    rw [hlinked.windows]
    exact mem_filterMap.mpr ⟨wire, (ho.entries e he).active wire hwire, ha⟩
  listed hW := by
    obtain ⟨S, hS, hcount, -⟩ := h.listed hl ho hW
    exact ⟨S, hS, count_pos_iff.mp (by omega)⟩
  owned hS hw := h.sessionWindow hl ho hS hw

theorem Rebuilt.linked : Core.Linked s.registry where
  placed := h.placed hl ho
  listed := h.listedAll hl ho
  tiled := h.tiled hl ho
  faceted := by
    intro id t ht _
    obtain ⟨p, -, -, hkept⟩ := h.panes.only ht
    obtain ⟨w, -, rfl⟩ := hkept.seated
    simp

end

/-- What a server holds after any number of upgrades that completed. -/
structure Sustained (s : ServerState) : Prop where
  ok : Ok s
  wired : Wired s
  sessions : ∃ minted told, Served minted told s.idspace.sessions
  windows : ∃ minted told, Served minted told s.idspace.windows
  terminals : ∃ minted told, Served minted told s.idspace.terminals

structure Descends (s s' : ServerState) : Prop where
  sessions : s.idspace.sessions.Succeeds s'.idspace.sessions
  windows : s.idspace.windows.Succeeds s'.idspace.windows
  terminals : s.idspace.terminals.Succeeds s'.idspace.terminals

theorem Descends.refl (s : ServerState) : Descends s s := ⟨.refl _, .refl _, .refl _⟩

theorem Descends.trans {s'' : ServerState} (h : Descends s s') (h' : Descends s' s'') :
    Descends s s'' :=
  ⟨h.sessions.trans h'.sessions, h.windows.trans h'.windows, h.terminals.trans h'.terminals⟩

theorem Keeps.descends (h : Keeps s s') : Descends s s' :=
  ⟨h.later.sessions.succeeds, h.later.windows.succeeds, h.later.terminals.succeeds⟩

variable (h : Sustained s)

include h

theorem Sustained.descends (hdesc : Descends s s')
    (hlinked : Core.Linked s'.registry) (hwired : Wired s') : Sustained s' := by
  obtain ⟨minted₁, told₁, h₁⟩ := h.sessions
  obtain ⟨minted₂, told₂, h₂⟩ := h.windows
  obtain ⟨minted₃, told₃, h₃⟩ := h.terminals
  obtain ⟨_, _, h₁, -⟩ := hdesc.sessions _ _ h₁
  obtain ⟨_, _, h₂, -⟩ := hdesc.windows _ _ h₂
  obtain ⟨_, _, h₃, -⟩ := hdesc.terminals _ _ h₃
  exact ⟨⟨hlinked, h₁.sound, h₃.sound, h₂.sound⟩, hwired, ⟨_, _, h₁⟩, ⟨_, _, h₂⟩, ⟨_, _, h₃⟩⟩

variable {u : Upgrade}

theorem prepareUpgrade_readable (hblob : s.prepareUpgrade u = some blob) :
    (∃ o, Lists blob o ∧ WellOutlined o) ∧ Borrows s blob ∧
      blob.counters.nextSessionWireId = s.idspace.sessions.next ∧
      blob.counters.nextWindowWireId = s.idspace.windows.next ∧
      blob.counters.nextTerminalWireId = s.idspace.terminals.next := by
  obtain ⟨handoffs, hcollect, rfl⟩ := map_eq_some_iff.mp hblob
  have hpairs : ∀ t a, handoffs t = some a → a.validPair = true := by
    intro t a ha
    unfold collectPaneHandoffs at hcollect
    split at hcollect
    · rename_i hall
      cases hcollect
      obtain ⟨before, after, heq⟩ := lookup_eq_some_iff.mp ha
      exact all_eq_true.mp hall (t, a) (by simp [heq.1])
    · cases hcollect
  refine ⟨⟨s.outline u.term handoffs, ?_, outline_well h.ok h.wired hpairs⟩,
    assemble_borrows s u.term u.listenerFd handoffs, rfl, rfl, rfl⟩
  exact ⟨assemble_sessions s u.term u.listenerFd handoffs,
    assemble_windows s u.term u.listenerFd handoffs, assemble_panes s u.term u.listenerFd handoffs⟩

theorem Sustained.upgrade (hblob : s.prepareUpgrade u = some blob)
    (hbuilds : ∀ p ∈ blob.panes, u.builds p = true)
    (hs' : (new u.token).resumeSessionTree blob u.now u.builds = s') :
    Sustained s' ∧ Descends s s' := by
  obtain ⟨⟨o, hl, ho⟩, hborrows, hsession, hwindow, hterminal⟩ := prepareUpgrade_readable h hblob
  have hread := ho.readable hl.sessions hl.windows hl.panes
  obtain ⟨t, c, hrun, hrebuilt⟩ := rebuildFromBlob_rebuilt hread u.token u.now hbuilds
  obtain rfl : t = s' := (resumeSessionTree_of_ok hrun).symm.trans hs'
  have hdesc : Descends s t := by
    obtain ⟨b₁, hb₁, he₁⟩ := hrebuilt.boundSessions
    obtain ⟨b₂, hb₂, he₂⟩ := hrebuilt.boundWindows
    obtain ⟨b₃, hb₃, he₃⟩ := hrebuilt.boundPanes
    rw [hsession] at he₁
    rw [hwindow] at he₂
    rw [hterminal] at he₃
    refine ⟨?_, ?_, ?_⟩
    · rw [he₁]
      exact hb₁.succeeds hread.sessions hborrows.sessions
    · rw [he₂]
      exact hb₂.succeeds hread.windows hborrows.windows
    · rw [he₃]
      exact hb₃.succeeds hread.panes hborrows.terminals
  exact ⟨h.descends hdesc (hrebuilt.linked hl ho) hrebuilt.wired, hdesc⟩

theorem Sustained.image {op : ImageOp}
    (himage : s.image op = some s') (hop : Completes (some s) op) :
    Sustained s' ∧ Descends s s' := by
  cases op with
  | serve op =>
    have hkeeps := step_keeps himage
    exact ⟨h.descends hkeeps.descends (hkeeps.ok h.ok).linked (hkeeps.wired h.wired),
      hkeeps.descends⟩
  | upgrade u =>
    simp only [ServerState.image] at himage
    split at himage
    · cases himage
      exact ⟨h, .refl s⟩
    · rename_i blob hblob
      have hbuilds : ∀ p ∈ blob.panes, u.builds p = true := by simpa [Completes, hblob] using hop
      exact h.upgrade hblob hbuilds (some.inj himage)

theorem Sustained.run {ops : List ImageOp} (hops : Machine.EveryStep images Completes (some s) ops)
    (hrun : Machine.run images (some s) ops = some s') : Sustained s' ∧ Descends s s' := by
  have hall := Machine.EveryStep.invariant
    (P := fun t : Option ServerState => ∀ s', t = some s' → Sustained s' ∧ Descends s s') ?_ ?_ hops
  · exact hall s' hrun
  · intro t op ht hop s' hs'
    obtain ⟨t, rfl, himage⟩ := bind_eq_some_iff.mp hs'
    obtain ⟨hsus, hdesc⟩ := ht t rfl
    obtain ⟨hsus', hdesc'⟩ := hsus.image himage hop
    exact ⟨hsus', hdesc.trans hdesc'⟩
  · intro s' hs'
    cases hs'
    exact ⟨h, .refl s⟩

omit h

variable {windowCore : Table UInt32 Core.WindowId} {p : PaneBlob}

theorem rebuildPane_builds {acc acc' : ServerState.RebuiltPanes}
    (h : rebuildPane builds windowCore acc p = .ok acc') : builds p = true := by
  by_contra hstuck
  have hbundle : ∃ e, paneActorBundle builds p = .error e := by
    unfold paneActorBundle
    split
    all_goals simp [hstuck]
  obtain ⟨e, hbundle⟩ := hbundle
  unfold rebuildPane at h
  simp only [hbundle] at h
  repeat' split at h
  all_goals cases h

theorem rebuildPanes_builds {acc acc' : ServerState.RebuiltPanes} {ps : List PaneBlob}
    (h : ps.foldlM (rebuildPane builds windowCore) acc = .ok acc') : ∀ p ∈ ps, builds p = true := by
  induction ps generalizing acc with
  | nil => simp
  | cons p ps ih =>
    rw [foldlM_cons] at h
    obtain ⟨mid, hp, hrest⟩ := Fallible.bind_eq_ok.mp h
    exact forall_mem_cons.mpr ⟨rebuildPane_builds hp, ih hrest⟩

theorem Readable.panesUpTo (h : Readable blob) {done rest : List PaneBlob}
    (hpanes : blob.panes = done ++ rest) : Readable { blob with panes := done } where
  sessions := h.sessions
  windows := h.windows
  panes := by
    have hnodup := h.panes
    rw [hpanes, map_append] at hnodup
    exact hnodup.of_append_left
  session := h.session
  window b hb := h.window b (by rw [hpanes]; exact mem_append_left _ hb)
  pair b hb := h.pair b (by rw [hpanes]; exact mem_append_left _ hb)

theorem allocates_one {κ : Type} [DecidableEq κ] {b : IdBridge κ} {ids : List UInt32}
    (h : b.Bound ids) {core : κ} (hfree : b.wire core = none) : Allocates b 1 := by
  have hnone : b.forward core = none := hfree
  refine ⟨core, ⟨b.forward.insert core 1, b.reverse.insert 1 core, 2⟩, hfree, ?_⟩
  simp only [IdBridge.intern, hnone, h.next]
  rfl

theorem resume_stopped (h : Readable blob) (token : ServerInstance) (now : Int)
    (hp : p ∈ blob.panes) (hstuck : builds p = false) :
    Allocates ((new token).resumeSessionTree blob now builds).idspace.terminals 1 := by
  rcases hsessions : blob.sessions.foldl (rebuildSession now)
    (.new token, fun _ => none) with ⟨s₁, sessionCore⟩
  have hbuilt₁ := rebuildSessions_built h hsessions
  obtain ⟨⟨s₂, windowCore⟩, hwindows, hbuilt₂⟩ := rebuildWindows_built h hbuilt₁
  have hwindows' : blob.windows.foldlM (rebuildWindow sessionCore)
      (s₁, fun _ => none) = .ok (s₂, windowCore) := hwindows
  simp only [resumeSessionTree, hsessions, Loop.run_stopping_none.mpr hwindows']
  rcases hrun : Loop.run (Loop.stopping (rebuildPane builds windowCore)
    (paneLeft windowCore)) blob.panes ⟨s₂, fun _ => none, fun _ => none⟩ with
    ⟨panes, _ | error⟩
  · have hall := rebuildPanes_builds (Loop.run_stopping_none.mp hrun)
    rw [hall p hp] at hstuck
    cases hstuck
  · obtain ⟨done, b, rest, acc, hpanes, hdone, -, rfl⟩ := Loop.run_stopping_some hrun
    obtain ⟨acc', hacc', hbuilt⟩ := rebuildPanes_built (h.panesUpTo hpanes)
      (rebuildPanes_builds hdone) hbuilt₂
    have hsame : (.ok acc : Except RebuildError ServerState.RebuiltPanes) = .ok acc' :=
      hdone.symm.trans hacc'
    cases hsame
    rw [show (paneLeft _ acc b).state.idspace = acc.state.idspace by
      unfold paneLeft
      repeat' split
      all_goals rfl]
    exact allocates_one hbuilt.boundPanes hbuilt.panes.unnamed

/-- What a table's calls up to an earlier and a later moment come to: keys and ids pair up
one to one, no id is 0 or minted twice, and no id minted by the earlier moment is handed to
a key that has none at the later. -/
structure WireIdsKept {κ : Type} [DecidableEq κ] (earlier later : IdBridge κ) : Prop where
  served : ∃ minted told, Served minted told later
  stable : ∀ minted told, Served minted told later → Stable minted told later
  succeeds : earlier.Succeeds later
  retired : ∀ minted told, Served minted told earlier → ∀ wire ∈ minted, ¬Allocates later wire

theorem wireIdsKept {κ : Type} [DecidableEq κ] {earlier later : IdBridge κ}
    (hserved : ∃ minted told, Served minted told later) (h : earlier.Succeeds later) :
    WireIdsKept earlier later where
  served := hserved
  stable _ _ hlater := hlater.stable
  succeeds := h
  retired minted told hearlier wire hwire halloc := by
    obtain ⟨minted', told', hlater, hmore⟩ := h minted told hearlier
    have hlt := (hlater.mem_minted.mp (hmore.subset hwire)).2
    rw [halloc.eq_next] at hlt
    exact Nat.lt_irrefl _ hlt

/-- Along a server's life, while every pane an upgrade hands over comes up, each table keeps
its ids. An upgrade goes on keeping them exactly when all its panes come up. -/
theorem wire_ids_stable {token : ServerInstance} {before after : List ImageOp} {s₁ s₂ : ServerState}
    (hops : Machine.EveryStep ServerState.images Completes (some (.new token)) (before ++ after))
    (hbefore : ServerState.lineage token before = some s₁)
    (hafter : ServerState.lineage token (before ++ after) = some s₂) :
    WireIdsKept s₁.idspace.sessions s₂.idspace.sessions ∧
      WireIdsKept s₁.idspace.windows s₂.idspace.windows ∧
      WireIdsKept s₁.idspace.terminals s₂.idspace.terminals ∧
      ∀ (u : Upgrade) (blob : StateBlob), s₂.prepareUpgrade u = some blob →
        ((∀ p ∈ blob.panes, u.builds p = true) ↔ WireIdsKept s₂.idspace.terminals
          ((ServerState.new u.token).resumeSessionTree blob u.now u.builds).idspace.terminals) := by
  obtain ⟨hops₁, hops₂⟩ := (Machine.everyStep_append after).mp hops
  obtain ⟨hs₁, -⟩ := Sustained.run ⟨new_keeps.1, new_keeps.2, ⟨_, _, .boot⟩,
    ⟨_, _, .boot⟩, ⟨_, _, .boot⟩⟩ hops₁ hbefore
  have hrun : Machine.run images (some s₁) after = some s₂ := by
    rw [← hbefore, ← hafter]
    exact (foldl_append).symm
  have hbefore' : Machine.run images (some (.new token)) before = some s₁ := hbefore
  rw [hbefore'] at hops₂
  obtain ⟨hs₂, hdesc⟩ := hs₁.run hops₂ hrun
  refine ⟨wireIdsKept hs₂.sessions hdesc.sessions, wireIdsKept hs₂.windows hdesc.windows,
    wireIdsKept hs₂.terminals hdesc.terminals, fun u blob hblob => ⟨fun hbuilds => ?_, ?_⟩⟩
  · obtain ⟨hs₃, hdesc₃⟩ := hs₂.upgrade hblob hbuilds rfl
    exact wireIdsKept hs₃.terminals hdesc₃.terminals
  · intro hkept p hp
    by_contra hstuck
    obtain ⟨⟨o, hl, ho⟩, hborrows, -⟩ := prepareUpgrade_readable hs₂ hblob
    have hread := ho.readable hl.sessions hl.windows hl.panes
    have hone := resume_stopped hread u.token u.now hp (eq_false_of_ne_true hstuck)
    -- the pane's id was minted, so 1 was
    obtain ⟨k, hk⟩ := hborrows.terminals p.wireId (mem_map.mpr ⟨p, hp, rfl⟩)
    obtain ⟨minted, told, hserved⟩ := hs₂.terminals
    have hminted := hserved.stable.known k _ (hserved.stable.held k _ hk)
    have hbounds := hserved.mem_minted.mp hminted
    have hfirst : (1 : UInt32) ∈ minted := by
      refine hserved.mem_minted.mpr ⟨Nat.le_refl 1, ?_⟩
      have hval : (1 : UInt32).toNat = 1 := rfl
      omega
    exact hkept.retired minted told hserved 1 hfirst hone

/-- An upgrade of a server with one pane, whose actor comes up in the next image or not. -/
def onePaneUpgrade (builds : Bool) : Upgrade :=
  ⟨"xterm", 3, [(⟨0, 1⟩, plainAnswer DEFAULT_CELL_PX)], zeroInstance, 7, fun _ => builds⟩

def upgradedAndShown (builds : Bool) : List ImageOp :=
  [.upgrade (onePaneUpgrade builds), .serve (.seedSessionWithActor "other" 8 none true),
    .serve (.snapshot ⟨1, 1⟩)]

theorem wire_ids_stable_upgraded :
    ∃ s₁ s₂, ServerState.lineage zeroInstance (shownSession.map .serve) = some s₁ ∧
      ServerState.lineage zeroInstance (shownSession.map .serve ++ upgradedAndShown true) =
        some s₂ ∧
      s₁.idspace.sessions.wire ⟨0, 1⟩ = some 1 ∧ s₂.idspace.sessions.wire ⟨0, 1⟩ = some 1 ∧
      s₂.idspace.sessions.wire ⟨1, 1⟩ = some 2 ∧
      WireIdsKept s₁.idspace.sessions s₂.idspace.sessions := by
  have hops : Machine.EveryStep images Completes (some (.new zeroInstance))
      (shownSession.map .serve ++ upgradedAndShown true) := by decide
  have hbefore : lineage zeroInstance (shownSession.map .serve) =
      some ((lineage zeroInstance (shownSession.map .serve)).get (by decide)) :=
    (some_get _).symm
  have hafter : lineage zeroInstance
      (shownSession.map .serve ++ upgradedAndShown true) = some ((lineage zeroInstance
        (shownSession.map .serve ++ upgradedAndShown true)).get (by decide)) :=
    (some_get _).symm
  exact ⟨_, _, hbefore, hafter, by decide, by decide, by decide,
    (wire_ids_stable hops hbefore hafter).1⟩

/-- The pane of the first session does not come up in the next image, which then gives the
wire id of that session to the second one. -/
theorem wire_id_reissued :
    ∃ s, ServerState.lineage zeroInstance (shownSession.map .serve ++ upgradedAndShown false) =
        some s ∧ s.idspace.sessions.wire ⟨0, 1⟩ = some 1 ∧ s.idspace.sessions.wire ⟨1, 1⟩ = some 1 ∧
      s.idspace.sessions.resolve 1 = some ⟨1, 1⟩ := by
  refine ⟨(lineage zeroInstance
    (shownSession.map .serve ++ upgradedAndShown false)).get (by decide),
    (some_get _).symm, ?_, ?_, ?_⟩
  all_goals decide

end Phux.Server
