import Phux.ServerInvariant

/-! Every run of server operations keeps the registry linked, the wire ids sound and every
live terminal wired. -/

namespace Phux.Server

open Phux.Core (Linked LiveTerminal)
open ByteReader SessionTable ResourceTable Option ServerState

variable {s s' : ServerState}

variable {pid : Core.ResourceId} {built : Bool} {r : Core.Registry} {t : ServerState}
  {name : String} {now : Int} {t' : SessionTable} {value : Option Bytes} {client : ClientId}

structure Shrunk (gone : Core.ResourceId → Prop) (s s' : ServerState) : Prop where
  ok : Ok s → Ok s'
  live : ∀ k, LiveTerminal s'.registry k → LiveTerminal s.registry k ∧ ¬gone k
  wire : ∀ k, ¬gone k → s'.idspace.terminals.forward k = s.idspace.terminals.forward k
  handle : ∀ k, ¬gone k → s'.resources.handles k = s.resources.handles k
  later : s.idspace.Later s'.idspace

def nothing (_ : Core.ResourceId) : Prop := False

theorem Shrunk.refl (s : ServerState) : Shrunk nothing s s :=
  ⟨id, fun _ h => ⟨h, not_false⟩, fun _ _ => rfl, fun _ _ => rfl, .refl _⟩

variable {gone : Core.ResourceId → Prop}

theorem Shrunk.trans {gone' : Core.ResourceId → Prop} (h : Shrunk gone s s')
    (h' : Shrunk gone' s' t) : Shrunk (fun k => gone k ∨ gone' k) s t where
  ok hs := h'.ok (h.ok hs)
  live k hk := by
    obtain ⟨hk, hgone'⟩ := h'.live k hk
    obtain ⟨hk, hgone⟩ := h.live k hk
    exact ⟨hk, by simp [hgone, hgone']⟩
  wire k hk := (h'.wire k fun hg => hk (.inr hg)).trans (h.wire k fun hg => hk (.inl hg))
  handle k hk := (h'.handle k fun hg => hk (.inr hg)).trans (h.handle k fun hg => hk (.inl hg))
  later := h.later.trans h'.later

theorem Shrunk.after (h : Shrunk gone s s') (h' : Shrunk nothing s' t) : Shrunk gone s t := by
  have hboth := h.trans h'
  simpa [nothing] using hboth

theorem WiredBut.shrunk {but : Core.ResourceId → Prop} (h : WiredBut but s)
    (hs : Shrunk gone s s') : WiredBut (fun k => but k ∧ ¬gone k) s' := by
  intro k hlive hbut
  obtain ⟨hlive, hgone⟩ := hs.live k hlive
  obtain ⟨hwire, hhandle⟩ := h k hlive fun hb => hbut ⟨hb, hgone⟩
  rw [hs.wire k hgone, hs.handle k hgone]
  exact ⟨hwire, hhandle⟩

theorem noteRemoved_registry (t : SessionTable) (id : Core.SessionId) :
    (t.noteRemoved id).registry = t.registry := by
  unfold noteRemoved
  split
  all_goals rfl

theorem reapSessionIfEmpty_shrunk (s : ServerState) (id : Core.SessionId) :
    Shrunk nothing s (s.reapSessionIfEmpty id).1 := by
  unfold reapSessionIfEmpty
  cases hS : s.registry.sessions.get id with
  | none => exact .refl s
  | some session =>
    dsimp only
    split
    · have hcall := IdBridge.Called.forget s.idspace.sessions id
      refine ⟨fun h => ⟨?_, h.sessions.forget id, h.terminals, h.windows⟩, ?_, fun _ _ => rfl,
        fun _ _ => rfl, ⟨.single hcall, .refl, .refl⟩⟩
      · change Linked (noteRemoved _ id).registry
        rw [noteRemoved_registry]
        exact h.linked.next (.removeSession id) not_false
      · rintro k ⟨t, ht, hkind⟩
        change (noteRemoved _ id).registry.resources.get k = some t at ht
        rw [noteRemoved_registry] at ht
        exact ⟨⟨t, Core.removeSession_resources ht, hkind⟩, fun h => h⟩
    · exact .refl s

theorem forgetLayout_shrunk {id : Core.SessionId} :
    Shrunk nothing s (s.forgetLayoutOfEmptiedSession id) := by
  unfold forgetLayoutOfEmptiedSession
  repeat' split
  all_goals exact ⟨fun h => { h with }, fun _ h => ⟨h, not_false⟩, fun _ _ => rfl, fun _ _ => rfl,
    .refl _⟩

theorem reapWindowIfEmpty_shrunk {id : Core.WindowId} :
    Shrunk nothing s (s.reapWindowIfEmpty id) := by
  unfold reapWindowIfEmpty
  cases hW : s.registry.windows.get id with
  | none => exact .refl s
  | some window =>
    by_cases hslots : window.slots ≠ []
    · simp only [hslots, ne_eq, not_false_eq_true, ↓reduceIte]
      exact .refl s
    · simp only [hslots, ↓reduceIte]
      generalize hmid : forgetWindowBookkeeping
        { s with sessions.registry := (s.registry.removeWindow id).1 } id = mid
      have hdrop : Shrunk nothing s mid := by
        rw [← hmid]
        have hcall := IdBridge.Called.forget s.idspace.windows id
        refine ⟨fun h => ⟨?_, h.sessions, h.terminals, h.windows.forget id⟩, ?_, fun _ _ => rfl,
          fun _ _ => rfl, ⟨.refl, .refl, .single hcall⟩⟩
        · exact h.linked.next (.removeWindow id) not_false
        · rintro k ⟨t, ht, hkind⟩
          exact ⟨⟨t, Core.removeWindow_resources ht, hkind⟩, fun h => h⟩
      have hreap := reapSessionIfEmpty_shrunk mid window.session
      split
      · rename_i t ht
        rw [ht] at hreap
        exact hdrop.after hreap
      · rename_i t ht
        rw [ht] at hreap
        exact (hdrop.after hreap).after forgetLayout_shrunk

theorem forgetTerminal_shrunk (s : ServerState) (pane : Core.ResourceId) :
    Shrunk (· = pane) s (forgetTerminalBookkeeping
      { s with sessions.registry := (s.registry.removeResource pane).1 } pane) := by
  have hlinked : Ok s → Linked (s.registry.removeResource pane).1 := fun h =>
    h.linked.next (.removeResource pane) not_false
  have hforget := IdBridge.forget_forward s.idspace.terminals pane
  have hsound : s.idspace.terminals.Sound → (s.idspace.terminals.forget pane).1.Sound :=
    fun h => h.forget pane
  have hnone : (s.idspace.terminals.forget pane).2 = none →
      (s.idspace.terminals.forget pane).1 = s.idspace.terminals := by
    unfold IdBridge.forget
    split
    · exact fun _ => rfl
    · intro h
      cases h
  unfold forgetTerminalBookkeeping
  simp only
  have hcall := IdBridge.Called.forget s.idspace.terminals pane
  generalize s.idspace.terminals.forget pane = forgotten at hforget hsound hnone hcall
  obtain ⟨terminals, wire⟩ := forgotten
  cases wire with
  | none =>
    refine ⟨fun h => ⟨hlinked h, h.sessions, h.terminals, h.windows⟩,
      fun k hk => Core.removeResource_live hk, fun k hk => rfl, fun k hk => ?_, .refl _⟩
    simp [forgetResource, hk]
  | some wire =>
    refine ⟨fun h => ⟨hlinked h, h.sessions, hsound h.terminals, h.windows⟩,
      fun k hk => Core.removeResource_live hk, fun k hk => ?_, fun k hk => ?_,
      ⟨.refl, .single hcall, .refl⟩⟩
    · have hkept := hforget k
      rwa [if_neg hk] at hkept
    · simp [forgetResource, hk]

theorem reapTerminal_shrunk (s : ServerState) (pane : Core.ResourceId) :
    Shrunk (fun k => k = pane ∧ s.registry.resources.get pane ≠ none) s (s.reapTerminal pane) := by
  unfold reapTerminal
  cases hpane : s.registry.resources.get pane with
  | none => exact ⟨id, fun k hk => ⟨hk, by simp⟩, fun _ _ => rfl, fun _ _ => rfl, .refl _⟩
  | some resource =>
    have hforget := forgetTerminal_shrunk s pane
    simp only [ne_eq, reduceCtorEq, not_false_eq_true, and_true]
    cases resource.window with
    | none => exact hforget
    | some window => exact hforget.after reapWindowIfEmpty_shrunk

structure Keeps (s s' : ServerState) : Prop where
  ok : Ok s → Ok s'
  wired : Wired s → Wired s'
  later : s.idspace.Later s'.idspace

theorem Keeps.refl (s : ServerState) : Keeps s s := ⟨id, id, .refl _⟩

theorem Keeps.trans (h : Keeps s s') (h' : Keeps s' t) : Keeps s t :=
  ⟨fun hs => h'.ok (h.ok hs), fun hs => h'.wired (h.wired hs), h.later.trans h'.later⟩

theorem Shrunk.keeps (h : Shrunk gone s s') : Keeps s s' := by
  refine ⟨h.ok, fun hw k hlive _ => ?_, h.later⟩
  exact WiredBut.shrunk hw h k hlive fun hk => hk.1

theorem Grown.keeps (h : Grown s s') : Keeps s s' :=
  ⟨fun hs => hs.grown h, fun hs => hs.grown h, h.later⟩

theorem foldlM_keeps {α : Type} {f : ServerState → α → Option ServerState}
    (hf : ∀ s s' a, f s a = some s' → Keeps s s') {xs : List α} (h : xs.foldlM f s = some s') :
    Keeps s s' := by
  induction xs generalizing s with
  | nil =>
    cases h
    exact .refl _
  | cons a xs ih =>
    obtain ⟨t, ht, hrest⟩ := bind_eq_some_iff.mp h
    exact (hf s t a ht).trans (ih hrest)

theorem Shrunk.of_same (hregistry : s'.registry = s.registry) (hidspace : s'.idspace = s.idspace)
    (hhandles : s'.resources.handles = s.resources.handles) : Shrunk nothing s s' where
  ok h := ⟨hregistry ▸ h.linked, hidspace ▸ h.sessions, hidspace ▸ h.terminals,
    hidspace ▸ h.windows⟩
  live _ hk := ⟨hregistry ▸ hk, fun h => h⟩
  wire k _ := by rw [hidspace]
  handle k _ := by rw [hhandles]
  later := hidspace ▸ .refl _

theorem Keeps.of_same (hregistry : s'.registry = s.registry) (hidspace : s'.idspace = s.idspace)
    (hhandles : s'.resources.handles = s.resources.handles) : Keeps s s' :=
  (Shrunk.of_same hregistry hidspace hhandles).keeps

variable {id : Core.ResourceId}

theorem subscribe_handles {t : ResourceTable} : (t.subscribe client id).handles = t.handles := by
  unfold subscribe noteUse
  repeat' split
  all_goals rfl

theorem subscribeAll_handles (client : ClientId) (panes : List Core.ResourceId)
    (t : ResourceTable) :
    (panes.foldl (fun t pane => t.subscribe client pane) t).handles = t.handles := by
  induction panes generalizing t with
  | nil => rfl
  | cons pane panes ih => exact (ih _).trans subscribe_handles

theorem modifyTerminal_shrunk (s : ServerState) (id : Core.ResourceId)
    (f : Core.TerminalFacet → Core.TerminalFacet) : Shrunk nothing s (s.modifyTerminal id f) where
  ok h := { h with
    linked := h.linked.modifyResource id (fun _ => rfl) (fun _ => rfl) (fun _ => rfl) (by simp) }
  live := by
    rintro k ⟨t, ht, hkind⟩
    exact ⟨SlotMap.of_get_modify ht
      (fun t₀ ht₀ hkind => ⟨t₀, ht₀, hkind⟩) (fun _ ht hkind => ⟨t, ht, hkind⟩) hkind, not_false⟩
  wire _ _ := rfl
  handle _ _ := rfl
  later := .refl _

theorem modifySession_shrunk (s : ServerState) (id : Core.SessionId)
    {f : Core.Session → Core.Session} (hwindows : ∀ S, (f S).windows = S.windows)
    (hactive : ∀ S, (f S).active = S.active) : Shrunk nothing s (s.modifySession id f) where
  ok h := { h with linked := h.linked.modifySession id hwindows hactive }
  live _ hk := ⟨hk, fun h => h⟩
  wire _ _ := rfl
  handle _ _ := rfl
  later := .refl _

/-- One terminal more, `pid`, and nothing else of the session table touched. -/
structure Adds (t t' : SessionTable) (pid : Core.ResourceId) : Prop where
  linked : Linked t.registry → Linked t'.registry
  resources : ∀ k d, t'.registry.resources.get k = some d →
    k = pid ∨ t.registry.resources.get k = some d

variable {w : Core.WindowId}

theorem newTerminal_adds {t : SessionTable}
    (hlinked : Linked t.registry → Linked r) (hres : r.resources = t.registry.resources)
    {r' : Core.Registry} (h : r.newTerminal w = (r', .ok pid)) :
    Adds t { t with registry := r' } pid := by
  obtain ⟨hnext, hgrow⟩ := Core.newTerminal_ok h
  refine ⟨fun ht => ?_, fun k d hk => ?_⟩
  · exact hnext ▸ (hlinked ht).next (.newTerminal w) not_false
  · exact hres ▸ hgrow k d hk

theorem seed_adds {t : SessionTable} {sid : Core.SessionId} {wid : Core.WindowId}
    (h : t.seed name now = some (t', sid, wid, pid)) : Adds t t' pid := by
  unfold seed at h
  dsimp only at h
  split at h
  · cases h
  · rename_i r w hwindow
    split at h
    · cases h
    · rename_i r' p hterminal
      obtain ⟨hnext, hres⟩ := Core.newWindow_ok hwindow
      cases h
      refine newTerminal_adds (fun ht => ?_) hres hterminal
      have hsession := ht.next (.newSession name now) not_false
      exact hnext ▸ hsession.next (.newWindow _) not_false

theorem addPane_adds {t : SessionTable} {session : Core.SessionId}
    (h : t.addPane session = some (t', pid)) : Adds t t' pid := by
  unfold addPane at h
  split at h
  · cases h
  · split at h
    · split at h
      · cases h
      · rename_i hterminal
        cases h
        exact newTerminal_adds (fun ht => ht) rfl hterminal
    · split at h
      · cases h
      · rename_i hwindow
        split at h
        · cases h
        · rename_i hterminal
          obtain ⟨hnext, hres⟩ := Core.newWindow_ok hwindow
          cases h
          exact newTerminal_adds (fun ht => hnext ▸ ht.next (.newWindow _) not_false) hres hterminal

variable {owner : ServerState.SpawnOwnership}

theorem addPaneFor_adds (h : s.addPaneFor owner = some (t', pid)) : Adds s.sessions t' pid := by
  cases owner with
  | session id => exact addPane_adds h
  | terminal wire =>
    obtain ⟨owner, -, h⟩ := bind_eq_some_iff.mp h
    unfold addPaneBeside at h
    split at h
    · cases h
    · split at h
      · cases h
      · rename_i hterminal
        cases h
        exact newTerminal_adds (fun ht => ht) rfl hterminal

theorem Adds.ok (h : Adds s.sessions t' pid) (hok : Ok s) : Ok { s with sessions := t' } :=
  { hok with linked := h.linked hok.linked }

theorem Adds.wiredBut (h : Adds s.sessions t' pid) (hw : Wired s) :
    WiredBut (· = pid) { s with sessions := t' } := by
  rintro k ⟨t, ht, hkind⟩ hk
  exact hw k ⟨t, (h.resources k t ht).resolve_left hk, hkind⟩ fun h => h

/-- The terminal `pid` gets its wire id and its handle, or is reaped. -/
theorem startActor_keeps (h : s.startActor pid built = some s') :
    (Ok s → Ok s') ∧ (WiredBut (· = pid) s → Wired s') ∧ s.idspace.Later s'.idspace := by
  unfold startActor at h
  split at h
  · obtain ⟨⟨t, w⟩, ht, rfl⟩ := map_eq_some_iff.mp h
    obtain ⟨⟨u, w'⟩, hu, he⟩ := map_eq_some_iff.mp ht
    cases he
    obtain ⟨hg, hwire⟩ := internTerminal_grown hu
    refine ⟨fun hok => { hok.grown hg with }, fun hw k hlive _ => ?_, hg.later⟩
    by_cases hk : k = pid
    · exact ⟨by simp [hk, hwire], by simp [hk, register]⟩
    · obtain ⟨hkwire, hhandle⟩ := hw.grown hg k hlive hk
      exact ⟨hkwire, by simpa [register, hk] using hhandle⟩
  · cases h
    have hreap := reapTerminal_shrunk s pid
    refine ⟨hreap.ok, fun hw k hlive _ => hw.shrunk hreap k hlive ?_, hreap.later⟩
    rintro ⟨rfl, hstay⟩
    obtain ⟨⟨t, ht, -⟩, -⟩ := hreap.live k hlive
    exact hstay ⟨rfl, by simp [ht]⟩

theorem setAgentSession_grown (h : s.setAgentSession pid value = some s') : Grown s s' := by
  cases value with
  | none =>
    cases h
    exact .refl s
  | some value =>
    obtain ⟨⟨t, w⟩, ht, rfl⟩ := map_eq_some_iff.mp h
    obtain ⟨hg, -⟩ := internTerminal_grown ht
    exact { hg with }

theorem stampSpawnCwd_shrunk (s : ServerState) (id : Core.ResourceId) (cwd : Option Bytes) :
    Shrunk nothing s (s.stampSpawnCwd id cwd) := by
  cases cwd with
  | none => exact .refl s
  | some cwd => exact modifyTerminal_shrunk s id _

theorem WiredBut.shrunk_nothing {but : Core.ResourceId → Prop} (h : WiredBut but s)
    (hs : Shrunk nothing s s') : WiredBut but s' := fun k hlive hbut =>
  h.shrunk hs k hlive fun hk => hbut hk.1

theorem spawn_keeps {u : ServerState} (hok : Ok s → Ok t) (hw : Wired s → WiredBut (· = pid) t)
    (hlater : s.idspace.Later t.idspace) (hset : t.setAgentSession pid value = some u)
    (hstart : u.startActor pid built = some s') : Keeps s s' := by
  have hg := setAgentSession_grown hset
  obtain ⟨hok', hw', hlater'⟩ := startActor_keeps hstart
  exact ⟨fun hs => hok' ((hok hs).grown hg), fun hs => hw' ((hw hs).grown hg),
    (hlater.trans hg.later).trans hlater'⟩

theorem seedSessionWithPty_keeps {cwd : Option Bytes}
    (h : s.seedSessionWithPty name now cwd value built = some s') : Keeps s s' := by
  obtain ⟨⟨t', sid, wid, pid⟩, hseed, h⟩ := bind_eq_some_iff.mp h
  obtain ⟨⟨t, w⟩, hintern, h⟩ := bind_eq_some_iff.mp h
  obtain ⟨u, hset, hstart⟩ := bind_eq_some_iff.mp h
  have hadds := seed_adds hseed
  have hstamp := stampSpawnCwd_shrunk { s with sessions := t' } pid cwd
  obtain ⟨hg, -⟩ := internTerminal_grown hintern
  refine spawn_keeps (fun hs => (hstamp.ok (hadds.ok hs)).grown hg) (fun hs => ?_)
    (hstamp.later.trans hg.later) hset hstart
  exact ((hadds.wiredBut hs).shrunk_nothing hstamp).grown hg

theorem subscribeSpawningClient_grown (h : s.subscribeSpawningClient client pid = some s') :
    Grown s s' := by
  obtain ⟨⟨t, w⟩, ht, rfl⟩ := map_eq_some_iff.mp h
  obtain ⟨hg, -⟩ := internTerminal_grown ht
  dsimp only
  split
  · exact { hg with }
  · exact { hg with handles := subscribe_handles.trans hg.handles }

theorem spawnPane_keeps {cwd : Option Bytes} {size : Option (UInt16 × UInt16)}
    (h : s.spawnPane client owner cwd size value built = some s') : Keeps s s' := by
  unfold spawnPane at h
  split at h
  · cases h
    exact .refl s
  · rename_i t' pid hadd
    have hadds := addPaneFor_adds hadd
    obtain ⟨⟨t, w⟩, hintern, h⟩ := bind_eq_some_iff.mp h
    obtain ⟨u, hset, h⟩ := bind_eq_some_iff.mp h
    obtain ⟨v, hstart, h⟩ := bind_eq_some_iff.mp h
    have hstamp := stampSpawnCwd_shrunk { s with sessions := t' } pid cwd
    have hdims := fun f => hstamp.after (modifyTerminal_shrunk _ pid f)
    obtain ⟨hg, -⟩ := internTerminal_grown hintern
    have hspawn : Keeps s v := by
      refine spawn_keeps (fun hs => ((hdims _).ok (hadds.ok hs)).grown hg) (fun hs => ?_)
        ((hdims _).later.trans hg.later) hset hstart
      exact ((hadds.wiredBut hs).shrunk_nothing (hdims _)).grown hg
    split at h
    · exact hspawn.trans (subscribeSpawningClient_grown h).keeps
    · cases h
      exact hspawn

theorem Keeps.of_registry (hlinked : Linked s.registry → Linked r)
    (hlive : ∀ k, LiveTerminal r k → LiveTerminal s.registry k) :
    Keeps s { s with sessions.registry := r } :=
  ⟨fun hs => { hs with linked := hlinked hs.linked },
    fun hs k hk _ => hs k (hlive k hk) not_false, .refl _⟩

variable {agent : Core.AgentFacet}

theorem newAgentSession_live {parent k : Core.ResourceId}
    (h : LiveTerminal (r.newAgentSession parent agent).1 k) : LiveTerminal r k := by
  obtain ⟨t, ht, hkind⟩ := h
  unfold Core.Registry.newAgentSession at ht
  split at ht
  · exact ⟨t, ht, hkind⟩
  · split at ht
    · exact ⟨t, ht, hkind⟩
    · refine SlotMap.of_get_insert ht (fun hkind => ?_) (fun ht hkind => ⟨t, ht, hkind⟩) hkind
      cases hkind

theorem moveTerminal_live {k : Core.ResourceId}
    (h : LiveTerminal (r.moveTerminal id w).1 k) : LiveTerminal r k := by
  obtain ⟨t, ht, hkind⟩ := h
  unfold Core.Registry.moveTerminal at ht
  split at ht
  · exact ⟨t, ht, hkind⟩
  · split at ht
    · exact ⟨t, ht, hkind⟩
    · split at ht
      · exact ⟨t, ht, hkind⟩
      · exact SlotMap.of_get_modify ht
          (fun t₀ ht₀ hkind => ⟨t₀, ht₀, hkind⟩) (fun _ ht hkind => ⟨t, ht, hkind⟩) hkind

theorem spawnAgentSession_keeps {parent : UInt32}
    (h : s.spawnAgentSession client parent agent = some s') : Keeps s s' := by
  unfold spawnAgentSession at h
  split at h
  · cases h
    exact .refl s
  · rename_i p _
    split at h
    · cases h
      exact .refl s
    · rename_i r id hnew
      have hr : (s.registry.newAgentSession p agent).1 = r := by rw [hnew]
      have hregistry : Keeps s { s with sessions.registry := r } := by
        refine .of_registry (fun hs => ?_) fun k hk => newAgentSession_live (hr.symm ▸ hk)
        exact hr ▸ hs.next (.newAgentSession p agent) not_false
      obtain ⟨⟨t, w⟩, ht, h⟩ := bind_eq_some_iff.mp h
      obtain ⟨⟨u, w'⟩, hu, he⟩ := map_eq_some_iff.mp ht
      cases he
      cases h
      have hg := hregistry.trans (internTerminal_grown hu).1.keeps
      refine ⟨fun hs => ?_, fun hs k hk _ => ?_, hg.later⟩
      · exact { hg.ok hs with }
      · obtain ⟨hwire, hhandle⟩ := hg.wired hs k hk fun h => h
        refine ⟨hwire, ?_⟩
        rw [subscribe_handles]
        by_cases hid : k = id
        · simp [recordSpawn, register, hid]
        · simpa [recordSpawn, register, hid] using hhandle

theorem moveTerminal_keeps {terminal owner : UInt32} :
    Keeps s (s.moveTerminal terminal owner) := by
  unfold moveTerminal
  split
  · rename_i moved o _ _
    split
    · exact .refl s
    · rename_i dest _
      dsimp only
      split
      · exact .refl s
      · rename_i r _ hmove
        have hr : (s.registry.moveTerminal moved dest).1 = r := by rw [hmove]
        have hregistry : Keeps s { s with sessions.registry := r } := by
          refine .of_registry (fun hs => ?_) fun k hk => moveTerminal_live (hr.symm ▸ hk)
          exact hr ▸ hs.next (.moveTerminal moved dest) not_false
        split
        · exact hregistry
        · exact hregistry.trans reapWindowIfEmpty_shrunk.keeps
  · exact .refl s

theorem beginResourceClose_shrunk
    (h : s.beginResourceClose id = some s') : Shrunk nothing s s' := by
  obtain ⟨t, ht, rfl⟩ := map_eq_some_iff.mp h
  exact .of_same rfl rfl rfl

theorem closeChild_keeps {child : Core.ResourceId} (h : s.closeChild child = some s') :
    Keeps s s' := by
  unfold closeChild at h
  split at h
  · cases h
    exact .refl s
  · rename_i t hbegin
    split at h
    · cases h
    · rename_i u w hintern
      cases h
      have hclose := (beginResourceClose_shrunk hbegin).keeps
      have hgrown := hclose.trans (internTerminal_grown hintern).1.keeps
      exact hgrown.trans (reapTerminal_shrunk u child).keeps

theorem paneExited_keeps {pane : Core.ResourceId} (h : s.paneExited pane = some s') :
    Keeps s s' := by
  unfold paneExited at h
  split at h
  · cases h
    exact .refl s
  · rename_i t hbegin
    split at h
    · cases h
    · rename_i u w hintern
      dsimp only at h
      have hgrown := (beginResourceClose_shrunk hbegin).keeps.trans
        (internTerminal_grown hintern).1.keeps
      split at h
      · cases h
      · rename_i v hparent
        have hparent : Keeps u v := by
          cases hp : (u.registry.resources.get pane).bind Core.ResourceDescriptor.parent with
          | none =>
            rw [hp] at hparent
            cases hparent
            exact .refl _
          | some parent =>
            rw [hp] at hparent
            obtain ⟨⟨x, w'⟩, hx, rfl⟩ := map_eq_some_iff.mp hparent
            exact (internTerminal_grown hx).1.keeps
        split at h
        · cases h
        · rename_i y hchildren
          cases h
          have hclosed := (hgrown.trans hparent).trans
            (foldlM_keeps (fun s s' a h => closeChild_keeps h) hchildren)
          have hreaped := hclosed.trans (reapTerminal_shrunk y pane).keeps
          exact hreaped.trans (.of_same rfl rfl rfl)

theorem releaseAll_keeps (covered : List Core.SessionId) (s : ServerState) :
    Keeps s (covered.foldl (fun s id =>
      let s := s.modifySession id fun session => { session with keepEmpty := false }
      { s with sessions.releasedKeepEmpty := s.sessions.releasedKeepEmpty.insert id () }) s) := by
  induction covered generalizing s with
  | nil => exact .refl s
  | cons id covered ih =>
    have hsession := modifySession_shrunk s id (f := fun S => { S with keepEmpty := false })
      (fun _ => rfl) fun _ => rfl
    refine .trans ?_ (ih _)
    exact hsession.keeps.trans (.of_same rfl rfl rfl)

theorem subscribeSession_keeps {id : Core.SessionId} :
    Keeps s (s.subscribeSession client id) :=
  .of_same rfl rfl (subscribeAll_handles client _ s.resources)

theorem attach_keeps : Keeps s (s.attach client name) := by
  unfold ServerState.attach
  split
  · exact .refl s
  · rename_i id _
    split
    · split
      · exact .refl s
      · exact subscribeSession_keeps
    · have hattached : Shrunk nothing s
          { s with clients.attached := s.clients.attached.insert client id } :=
        .of_same rfl rfl rfl
      exact hattached.keeps.trans subscribeSession_keeps

/-- What clients and the runtime do to the state, one critical section each. The first
eleven change the tree or its wire ids; the rest only write the ledgers beside it. -/
inductive ServerOp where
  | seedSessionWithActor (name : String) (now : Int) (agentSession : Option Bytes) (built : Bool)
  | seedSessionWithPty (name : String) (now : Int) (cwd agentSession : Option Bytes) (built : Bool)
  | seedEmpty (name : String) (now : Int)
  | spawnPane (client : ClientId) (owner : ServerState.SpawnOwnership) (cwd : Option Bytes)
      (initialSize : Option (UInt16 × UInt16)) (agentSession : Option Bytes) (built : Bool)
  | spawnAgentSession (client : ClientId) (parent : UInt32) (agent : Core.AgentFacet)
  | moveTerminal (terminal owner : UInt32)
  | paneExited (pane : Core.ResourceId)
  | reapTerminal (pane : Core.ResourceId)
  | setKeepEmpty (name : String) (keep : Bool)
  | snapshot (focus : Core.SessionId)
  | internSession (id : Core.SessionId)
  | internTerminal (id : Core.ResourceId)
  | releaseKeepEmpty (targets : List Core.ResourceId)
  | rename (current newName : String)
  | modifyTerminal (id : Core.ResourceId) (facet : Core.TerminalFacet)
  | touch (id : Core.SessionId)
  | recordRoot (id : Core.SessionId) (root : Bytes)
  | recordLastCwd (id : Core.WindowId) (cwd : Bytes)
  | attach (client : ClientId) (name : String)
  | detach (client : ClientId)
  | subscribe (client : ClientId) (id : Core.ResourceId)
  | acquireInput (id : Core.ResourceId) (client : ClientId)
  | releaseInput (id : Core.ResourceId) (client : ClientId)
  | subscribeEvents (client : ClientId) (terminal : Option ResourceId)
  | setMetadata (scope : Scope) (key : String) (value : Bytes)
  | deleteMetadata (scope : Scope) (key : String)
  | subscribeMetadata (client : ClientId) (scope : Scope) (key : String)
  | markResourceClosing (id : Core.ResourceId) (reason : CloseReason)
  /-- The pumps that run, the questions asked and the records kept, whatever they are now. -/
  | otherLedgers (pumps : Table (ClientId × Core.ResourceId) BootstrapId)
      (outputPumps : Table (ClientId × Core.ResourceId) Nat) (agent : AgentState)

/-- One operation; `none` when the server ran out of wire ids and stopped. -/
def ServerState.step (s : ServerState) : ServerOp → Option ServerState
  | .seedSessionWithActor name now value built => s.seedSessionWithActor name now value built
  | .seedSessionWithPty name now cwd value built => s.seedSessionWithPty name now cwd value built
  | .seedEmpty name now => some { s with sessions := (s.sessions.seedEmpty name now).1 }
  | .spawnPane client owner cwd size value built => s.spawnPane client owner cwd size value built
  | .spawnAgentSession client parent agent => s.spawnAgentSession client parent agent
  | .moveTerminal terminal owner => some (s.moveTerminal terminal owner)
  | .paneExited pane => s.paneExited pane
  | .reapTerminal pane => some (s.reapTerminal pane)
  | .setKeepEmpty name keep => some (s.setSessionKeepEmpty name keep)
  | .snapshot focus => s.buildSessionSnapshot focus
  | .internSession id => (s.internSession id).map Prod.fst
  | .internTerminal id => (s.internTerminal id).map Prod.fst
  | .releaseKeepEmpty targets => some (s.releaseKeepEmptyCoveredBy targets)
  | .rename current newName => some { s with sessions := s.sessions.rename current newName }
  | .modifyTerminal id facet => some (s.modifyTerminal id fun _ => facet)
  | .touch id => some { s with sessions := s.sessions.touch id }
  | .recordRoot id root => some { s with sessions := s.sessions.recordRoot id root }
  | .recordLastCwd id cwd => some { s with sessions := s.sessions.recordLastCwd id cwd }
  | .attach client name => some (s.attach client name)
  | .detach client => some (s.detach client)
  | .subscribe client id => some { s with resources := s.resources.subscribe client id }
  | .acquireInput id client => some (s.acquireInput id client)
  | .releaseInput id client => some (s.releaseInput id client)
  | .subscribeEvents client terminal => some (s.subscribeEvents client terminal)
  | .setMetadata scope key value => some { s with metadata := s.metadata.set scope key value }
  | .deleteMetadata scope key => some { s with metadata := s.metadata.delete scope key }
  | .subscribeMetadata client scope key =>
    some { s with metadata := s.metadata.subscribe client scope key }
  | .markResourceClosing id reason => some (s.markResourceClosing id reason)
  | .otherLedgers pumps outputPumps agent =>
    some { s with resources.pumps := pumps, resources.outputPumps := outputPumps, agent := agent }

def zeroInstance : ServerInstance := ⟨Vector.replicate 16 0⟩

def ServerState.after (token : ServerInstance) (ops : List ServerOp) : Option ServerState :=
  ops.foldlM ServerState.step (.new token)

theorem step_keeps {op : ServerOp} (h : s.step op = some s') : Keeps s s' := by
  cases op with
  | seedSessionWithActor name now value built =>
    obtain ⟨⟨t', sid, wid, pid⟩, hseed, h⟩ := bind_eq_some_iff.mp h
    obtain ⟨u, hset, hstart⟩ := bind_eq_some_iff.mp h
    have hadds := seed_adds hseed
    exact spawn_keeps hadds.ok hadds.wiredBut (.refl _) hset hstart
  | seedSessionWithPty name now cwd value built => exact seedSessionWithPty_keeps h
  | seedEmpty name now =>
    cases h
    refine ⟨fun hs => ⟨?_, hs.sessions, hs.terminals, hs.windows⟩, fun hs => hs, .refl _⟩
    have hnew := hs.linked.next (.newSession name now) not_false
    exact hnew.modifySession _ (fun _ => rfl) fun _ => rfl
  | spawnPane client owner cwd size value built => exact spawnPane_keeps h
  | spawnAgentSession client parent agent => exact spawnAgentSession_keeps h
  | moveTerminal terminal owner =>
    cases h
    exact moveTerminal_keeps
  | paneExited pane => exact paneExited_keeps h
  | reapTerminal pane =>
    cases h
    exact (reapTerminal_shrunk s pane).keeps
  | setKeepEmpty name keep =>
    cases h
    unfold setSessionKeepEmpty
    split
    · exact .refl s
    · rename_i id _
      have hsession := modifySession_shrunk s id (f := fun S => { S with keepEmpty := keep })
        (fun _ => rfl) fun _ => rfl
      exact (hsession.after (reapSessionIfEmpty_shrunk _ id)).keeps
  | snapshot focus => exact (buildSessionSnapshot_grown focus s s' h).keeps
  | internSession id =>
    obtain ⟨⟨t, w⟩, ht, rfl⟩ := map_eq_some_iff.mp h
    exact (internSession_grown ht).1.keeps
  | internTerminal id =>
    obtain ⟨⟨t, w⟩, ht, rfl⟩ := map_eq_some_iff.mp h
    exact (internTerminal_grown ht).1.keeps
  | releaseKeepEmpty targets =>
    cases h
    exact releaseAll_keeps _ s
  | rename current newName =>
    cases h
    unfold rename
    split
    · exact .refl s
    · rename_i id _
      split
      · exact .refl s
      · exact (modifySession_shrunk s id (f := fun S => { S with name := newName })
          (fun _ => rfl) fun _ => rfl).keeps
  | modifyTerminal id facet =>
    cases h
    exact (modifyTerminal_shrunk s id _).keeps
  | recordRoot id root =>
    cases h
    refine .of_same ?_ rfl rfl
    unfold recordRoot
    split <;> rfl
  | attach client name =>
    cases h
    exact attach_keeps
  | subscribe client id =>
    cases h
    exact .of_same rfl rfl subscribe_handles
  | releaseInput id client =>
    cases h
    unfold releaseInput
    split <;> exact .of_same rfl rfl rfl
  | _ =>
    cases h
    exact .of_same rfl rfl rfl

variable {token : ServerInstance}

theorem new_keeps : Ok (.new token) ∧ Wired (.new token) := by
  refine ⟨⟨.new, .new, .new, .new⟩, ?_⟩
  rintro k ⟨t, ht, -⟩
  cases ht

theorem after_ok {ops : List ServerOp} (h : after token ops = some s) : Ok s ∧ Wired s := by
  obtain ⟨hok, hwired⟩ := new_keeps
  have hkeeps := foldlM_keeps (fun s s' op h => step_keeps h) h
  exact ⟨hkeeps.ok hok, hkeeps.wired hwired⟩

end Phux.Server
