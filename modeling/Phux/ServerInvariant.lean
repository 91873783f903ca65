import Phux.RegistryRuns
import Phux.ServerState

/-! What every reachable server state keeps: a linked registry, sound wire ids, and a wire
id and a handle for every live terminal. -/

namespace Phux.Core
open SlotMap Registry

variable {r r' : Registry}

def LiveTerminal (r : Registry) (id : ResourceId) : Prop :=
  ∃ t, r.resources.get id = some t ∧ t.kind = .terminal

theorem removeResource_resources {id k : ResourceId} {t : ResourceDescriptor}
    (ht : (r.removeResource id).1.resources.get k = some t) :
    r.resources.get k = some t ∧ k ≠ id := by
  unfold removeResource at ht
  cases hid : r.resources.get id with
  | none =>
    simp only [hid] at ht
    refine ⟨ht, fun hk => ?_⟩
    rw [hk, hid] at ht
    cases ht
  | some t₀ =>
    have hgone : ({ r with resources := r.resources.remove id }.removeChildrenOf
        id).resources.get k = some t := by
      cases hw : t₀.window with
      | none | some w => simpa [hid, hw] using ht
    rw [removeChildrenOf_get, get_remove] at hgone
    by_cases hk : k = id
    · simp [hk] at hgone
    · exact ⟨by simpa [hk] using hgone.1, hk⟩

theorem removeResource_live {id k : ResourceId} (h : LiveTerminal (r.removeResource id).1 k) :
    LiveTerminal r k ∧ k ≠ id := by
  obtain ⟨t, ht, hkind⟩ := h
  obtain ⟨ht, hk⟩ := removeResource_resources ht
  exact ⟨⟨t, ht, hkind⟩, hk⟩

variable {w : WindowId}

theorem dropWindow_resources {k : ResourceId} {t : ResourceDescriptor}
    (h : (r.dropWindow w).resources.get k = some t) : r.resources.get k = some t := by
  unfold dropWindow at h
  cases hW : r.windows.get w with
  | none => simpa [hW] using h
  | some W =>
    simp only [hW, removeSlots_get] at h
    exact h.1

theorem dropWindows_resources {ws : List WindowId} {k : ResourceId} {t : ResourceDescriptor}
    (h : (ws.foldl dropWindow r).resources.get k = some t) : r.resources.get k = some t := by
  induction ws generalizing r with
  | nil => exact h
  | cons w ws ih => exact dropWindow_resources (ih h)

theorem removeWindow_resources {k : ResourceId} {t : ResourceDescriptor}
    (h : (r.removeWindow w).1.resources.get k = some t) : r.resources.get k = some t := by
  rw [removeWindow_eq] at h
  cases hW : r.windows.get w with
  | none => simpa [hW] using h
  | some W =>
    simp only [hW] at h
    exact dropWindow_resources h

variable {s : SessionId}

theorem removeSession_resources {k : ResourceId} {t : ResourceDescriptor}
    (h : (r.removeSession s).1.resources.get k = some t) : r.resources.get k = some t := by
  unfold removeSession at h
  cases hS : r.sessions.get s with
  | none => simpa [hS] using h
  | some S =>
    simp only [hS] at h
    exact @dropWindows_resources { r with sessions := r.sessions.remove s } S.windows k t h

def Faceted (r : Registry) : Prop :=
  ∀ id t, r.resources.get id = some t → t.kind = .terminal → t.terminal ≠ none

theorem Effect.faceted {op : RegistryOp} {result : Except OpError Unit}
    (he : Effect r op r' result) (h : Faceted r) : Faceted r' := by
  intro id t ht hkind
  cases he with
  | idle | newSession name now => exact h id t ht hkind
  | newWindow hS =>
    rw [newWindow_eq hS] at ht
    exact h id t ht hkind
  | newTerminal hW =>
    rw [newTerminal_eq hW] at ht
    exact of_get_insert ht (by simp) fun ht => h id t ht hkind
  | newAgentSession agent hT hTkind =>
    simp only [Registry.newAgentSession, hT, hTkind, ne_eq, not_true_eq_false, ↓reduceIte] at ht
    refine of_get_insert ht (fun hkind => ?_) (h id t) hkind
    cases hkind
  | moveTerminal hW hT hsource hne =>
    rw [moveTerminal_eq hW hT hsource hne] at ht
    exact of_get_modify ht (h _) (fun _ => h id t) hkind
  | split target newPane dir ratio hW =>
    rw [(editWindow_retiled fun w => w.split_sameSlots target newPane dir ratio).resources] at ht
    exact h id t ht hkind
  | killPane target hW =>
    rw [(editWindow_retiled fun w => w.killPane_sameSlots target).resources] at ht
    exact h id t ht hkind
  | removeResource hT => exact h id t (removeResource_resources ht).1 hkind
  | removeWindow hW => exact h id t (removeWindow_resources ht) hkind
  | removeSession hS => exact h id t (removeSession_resources ht) hkind

structure Linked (r : Registry) : Prop where
  placed : Placed r
  listed : Listed r
  tiled : Tiled r
  faceted : Faceted r

theorem Linked.new : Linked .new :=
  ⟨new_placed, new_listed, (by intro w W hW; cases hW), (by intro id t ht; cases ht)⟩

theorem Linked.next (h : Linked r) (op : RegistryOp) (hop : ¬op.EditsTree) :
    Linked (r.next op) := by
  have he := apply_effect r op
  exact ⟨he.placed h.placed, he.listed h.placed h.listed, he.tiled h.placed h.tiled hop.elim,
    he.faceted h.faceted⟩

theorem Linked.modifySession (h : Linked r) (id : SessionId) {f : Session → Session}
    (hwindows : ∀ S, (f S).windows = S.windows) (hactive : ∀ S, (f S).active = S.active) :
    Linked { r with sessions := r.sessions.modify id f } := by
  have hback : ∀ {s S}, (r.sessions.modify id f).get s = some S →
      ∃ S₀, r.sessions.get s = some S₀ ∧ S.windows = S₀.windows ∧ S.active = S₀.active := by
    intro s S hS
    exact of_get_modify hS (fun S₀ hS₀ => ⟨S₀, hS₀, hwindows S₀, hactive S₀⟩)
      fun _ hS => ⟨S, hS, rfl, rfl⟩
  refine { h with placed := { h.placed with }, listed := ⟨?_, ?_, ?_, ?_⟩ }
  · intro s S hS
    obtain ⟨S₀, hS₀, hw, -⟩ := hback hS
    exact hw ▸ h.listed.nodup hS₀
  · intro s S hS
    obtain ⟨S₀, hS₀, hw, ha⟩ := hback hS
    rw [hw, ha]
    exact h.listed.chosen hS₀
  · intro w W hW
    obtain ⟨S, hS, hmem⟩ := h.listed.listed hW
    simp only [get_modify]
    by_cases hs : W.session = id
    · rw [hs] at hS
      exact ⟨f S, by simp [hs, hS], by rwa [hwindows]⟩
    · exact ⟨S, by simp [hs, hS], hmem⟩
  · intro s S w hS hmem
    obtain ⟨S₀, hS₀, hw, -⟩ := hback hS
    exact h.listed.owned hS₀ (hw ▸ hmem)

theorem Linked.modifyResource (h : Linked r) (id : ResourceId)
    {f : ResourceDescriptor → ResourceDescriptor} (hkind : ∀ t, (f t).kind = t.kind)
    (hparent : ∀ t, (f t).parent = t.parent) (hwindow : ∀ t, (f t).window = t.window)
    (hfacet : ∀ t, t.terminal ≠ none → (f t).terminal ≠ none) :
    Linked { r with resources := r.resources.modify id f } := by
  have hback : ∀ {k t}, (r.resources.modify id f).get k = some t → ∃ t₀,
      r.resources.get k = some t₀ ∧ t.kind = t₀.kind ∧ t.parent = t₀.parent ∧
        t.window = t₀.window := by
    intro k t ht
    exact of_get_modify ht (fun t₀ ht₀ => ⟨t₀, ht₀, hkind t₀, hparent t₀, hwindow t₀⟩)
      fun _ ht => ⟨t, ht, rfl, rfl, rfl⟩
  have hforth : ∀ {k t₀}, r.resources.get k = some t₀ → ∃ t,
      (r.resources.modify id f).get k = some t ∧ t.kind = t₀.kind ∧ t.window = t₀.window := by
    intro k t₀ ht₀
    rw [get_modify]
    by_cases hk : k = id
    · rw [hk] at ht₀
      exact ⟨f t₀, by simp [hk, ht₀], hkind t₀, hwindow t₀⟩
    · exact ⟨t₀, by simp [hk, ht₀], rfl, rfl⟩
  have hp := h.placed
  refine ⟨⟨hp.nodup, hp.focused, ?_, ?_, ?_, ?_⟩, { h.listed with }, h.tiled, ?_⟩
  · intro w W k hW hmem
    obtain ⟨t₀, ht₀, hk, hw⟩ := hp.live hW hmem
    obtain ⟨t, ht, hkind', hwindow'⟩ := hforth ht₀
    exact ⟨t, ht, hkind'.trans hk, hwindow'.trans hw⟩
  · intro k t w ht hw
    obtain ⟨t₀, ht₀, -, -, hwindow'⟩ := hback ht
    exact hp.seated ht₀ (hwindow' ▸ hw)
  · intro k t ht hk
    obtain ⟨t₀, ht₀, hkind', hparent', hwindow'⟩ := hback ht
    rw [hparent', hwindow']
    exact hp.terminal ht₀ (hkind' ▸ hk)
  · intro k t ht hk
    obtain ⟨t₀, ht₀, hkind', hparent', hwindow'⟩ := hback ht
    obtain ⟨hnone, p, T₀, hp', hT₀, hT⟩ := hp.agent ht₀ (hkind' ▸ hk)
    obtain ⟨T, hT', hkindT, -⟩ := hforth hT₀
    exact ⟨hwindow'.trans hnone, p, T, hparent'.trans hp', hT', hkindT.trans hT⟩
  · intro k t ht
    exact of_get_modify ht
      (fun t₀ ht₀ hk => hfacet t₀ (h.faceted id t₀ ht₀ (hkind t₀ ▸ hk))) fun _ => h.faceted k t

theorem newTerminal_ok {id : ResourceId} (h : r.newTerminal w = (r', .ok id)) :
    r' = r.next (.newTerminal w) ∧
      ∀ k t, r'.resources.get k = some t → k = id ∨ r.resources.get k = some t := by
  have hfst : (r.newTerminal w).1 = r' := by rw [h]
  refine ⟨hfst.symm, ?_⟩
  cases hW : r.windows.get w with
  | none => simp [newTerminal, contains, hW] at h
  | some W =>
    rw [newTerminal_eq hW, Prod.mk.injEq, Except.ok.injEq] at h
    obtain ⟨rfl, rfl⟩ := h
    intro k t ht
    exact of_get_insert ht (.inl rfl) .inr

theorem newWindow_ok (h : r.newWindow s = (r', .ok w)) :
    r' = r.next (.newWindow s) ∧ r'.resources = r.resources := by
  have hfst : (r.newWindow s).1 = r' := by rw [h]
  refine ⟨hfst.symm, ?_⟩
  cases hS : r.sessions.get s with
  | none => simp [newWindow, contains, hS] at h
  | some S =>
    rw [newWindow_eq hS, Prod.mk.injEq] at h
    rw [← h.1]

end Phux.Core

namespace Phux.Server

open Phux.Core (Linked LiveTerminal)

structure Ok (s : ServerState) : Prop where
  linked : Linked s.registry
  sessions : s.idspace.sessions.Sound
  terminals : s.idspace.terminals.Sound
  windows : s.idspace.windows.Sound

/-- Every live terminal but those of `but` has a wire id and a handle. -/
def WiredBut (but : Core.ResourceId → Prop) (s : ServerState) : Prop :=
  ∀ id, LiveTerminal s.registry id → ¬but id →
    s.idspace.terminals.forward id ≠ none ∧ s.resources.handles id ≠ none

def Wired (s : ServerState) : Prop := WiredBut (fun _ => False) s

variable {s s' : ServerState} {but : Core.ResourceId → Prop}

structure IdSpace.Later (ids ids' : IdSpace) : Prop where
  sessions : ids.sessions.Worked ids'.sessions
  terminals : ids.terminals.Worked ids'.terminals
  windows : ids.windows.Worked ids'.windows

theorem IdSpace.Later.refl (ids : IdSpace) : Later ids ids := ⟨.refl, .refl, .refl⟩

theorem IdSpace.Later.trans {a b c : IdSpace} (h : Later a b) (h' : Later b c) : Later a c :=
  ⟨h.sessions.trans h'.sessions, h.terminals.trans h'.terminals, h.windows.trans h'.windows⟩

/-- More wire ids handed out, the registry and the handles as they were. -/
structure Grown (s s' : ServerState) : Prop where
  registry : s'.registry = s.registry
  handles : s'.resources.handles = s.resources.handles
  sessions : s.idspace.sessions.Extends s'.idspace.sessions
  terminals : s.idspace.terminals.Extends s'.idspace.terminals
  windows : s.idspace.windows.Extends s'.idspace.windows

theorem Grown.refl (s : ServerState) : Grown s s := ⟨rfl, rfl, .refl _, .refl _, .refl _⟩

theorem Grown.trans {t : ServerState} (h : Grown s s') (h' : Grown s' t) : Grown s t where
  registry := h'.registry.trans h.registry
  handles := h'.handles.trans h.handles
  sessions := h.sessions.trans h'.sessions
  terminals := h.terminals.trans h'.terminals
  windows := h.windows.trans h'.windows

theorem Grown.later (h : Grown s s') : s.idspace.Later s'.idspace :=
  ⟨h.sessions.worked, h.terminals.worked, h.windows.worked⟩

theorem Ok.grown (h : Ok s) (hg : Grown s s') : Ok s' where
  linked := hg.registry ▸ h.linked
  sessions := hg.sessions.sound h.sessions
  terminals := hg.terminals.sound h.terminals
  windows := hg.windows.sound h.windows

theorem WiredBut.grown (h : WiredBut but s) (hg : Grown s s') : WiredBut but s' := by
  intro id hlive hbut
  rw [hg.registry] at hlive
  obtain ⟨hwire, hhandle⟩ := h id hlive hbut
  obtain ⟨w, hw⟩ := Option.ne_none_iff_exists'.mp hwire
  exact ⟨by simp [hg.terminals.kept id w hw], hg.handles ▸ hhandle⟩

theorem internSession_grown {id : Core.SessionId} (h : s.internSession id = some (s', wire)) :
    Grown s s' ∧ s'.idspace.sessions.forward id = some wire := by
  obtain ⟨⟨b, w⟩, hb, he⟩ := Option.map_eq_some_iff.mp h
  cases he
  exact ⟨⟨rfl, rfl, .intern hb, .refl _, .refl _⟩, by simp [IdBridge.intern_forward hb]⟩

theorem internTerminal_grown {id : Core.ResourceId} (h : s.internTerminal id = some (s', wire)) :
    Grown s s' ∧ s'.idspace.terminals.forward id = some wire := by
  obtain ⟨⟨b, w⟩, hb, he⟩ := Option.map_eq_some_iff.mp h
  cases he
  exact ⟨⟨rfl, rfl, .refl _, .intern hb, .refl _⟩, by simp [IdBridge.intern_forward hb]⟩

theorem internWindow_grown {id : Core.WindowId} (h : s.internWindow id = some (s', wire)) :
    Grown s s' ∧ s'.idspace.windows.forward id = some wire := by
  obtain ⟨⟨b, w⟩, hb, he⟩ := Option.map_eq_some_iff.mp h
  cases he
  exact ⟨⟨rfl, rfl, .refl _, .refl _, .intern hb⟩, by simp [IdBridge.intern_forward hb]⟩

/-- What a step of a snapshot or a spawn may do before it adds anything: hand out ids. -/
def Grows (f : ServerState → Option ServerState) : Prop := ∀ s s', f s = some s' → Grown s s'

theorem foldlM_grown {α : Type} {f : ServerState → α → Option ServerState}
    (hf : ∀ a, Grows fun s => f s a) (xs : List α) : Grows fun s => xs.foldlM f s := by
  intro s s' h
  induction xs generalizing s with
  | nil =>
    cases h
    exact .refl _
  | cons a xs ih =>
    obtain ⟨t, ht, hrest⟩ := Option.bind_eq_some_iff.mp h
    exact (hf a s t ht).trans (ih t hrest)

theorem internOptional_grown {α : Type} {intern : ServerState → α → Option (ServerState × UInt32)}
    (hf : ∀ s s' a w, intern s a = some (s', w) → Grown s s') (o : Option α) :
    Grows fun s => ServerState.internOptional intern s o := by
  intro s s' h
  cases o with
  | none =>
    cases h
    exact .refl s
  | some a =>
    obtain ⟨⟨t, w⟩, ht, rfl⟩ := Option.map_eq_some_iff.mp h
    exact hf s t a w ht

theorem snapshotPane_grown (pane : Core.ResourceId) :
    Grows fun s => ServerState.snapshotPane s pane := by
  intro s s' h
  simp only [ServerState.snapshotPane] at h
  split at h
  · cases h
    exact .refl s
  · obtain ⟨⟨t, w⟩, ht, rfl⟩ := Option.map_eq_some_iff.mp h
    exact (internTerminal_grown ht).1

theorem snapshotWindow_grown (id : Core.WindowId) :
    Grows fun s => ServerState.snapshotWindow s id := by
  intro s s' h
  simp only [ServerState.snapshotWindow] at h
  split at h
  · cases h
    exact .refl s
  · obtain ⟨⟨t, w⟩, ht, h⟩ := Option.bind_eq_some_iff.mp h
    obtain ⟨u, hu, h⟩ := Option.bind_eq_some_iff.mp h
    have hactive := internOptional_grown (fun s s' a w h => (internTerminal_grown h).1) _ t u hu
    exact ((internWindow_grown ht).1.trans hactive).trans (foldlM_grown snapshotPane_grown _ u s' h)

theorem snapshotSession_grown (entry : Core.SessionId × Core.Session) :
    Grows fun s => ServerState.snapshotSession s entry := by
  intro s s' h
  obtain ⟨⟨t, w⟩, ht, h⟩ := Option.bind_eq_some_iff.mp h
  obtain ⟨u, hu, h⟩ := Option.bind_eq_some_iff.mp h
  have hactive := internOptional_grown (fun s s' a w h => (internWindow_grown h).1) _ t u hu
  exact ((internSession_grown ht).1.trans hactive).trans
    (foldlM_grown snapshotWindow_grown _ u s' h)

theorem snapshotResource_grown (entry : Core.ResourceId × Core.ResourceDescriptor) :
    Grows fun s => ServerState.snapshotResource s entry := by
  intro s s' h
  simp only [ServerState.snapshotResource] at h
  split at h
  · cases h
    exact .refl s
  · obtain ⟨⟨t, w⟩, ht, h⟩ := Option.bind_eq_some_iff.mp h
    exact (internTerminal_grown ht).1.trans
      (internOptional_grown (fun s s' a w h => (internTerminal_grown h).1) _ t s' h)

theorem buildSessionSnapshot_grown (focus : Core.SessionId) :
    Grows fun s => s.buildSessionSnapshot focus := by
  intro s s' h
  obtain ⟨t, ht, h⟩ := Option.bind_eq_some_iff.mp h
  obtain ⟨u, hu, h⟩ := Option.bind_eq_some_iff.mp h
  have hwalk := (foldlM_grown snapshotSession_grown _ s t ht).trans
    (foldlM_grown snapshotResource_grown _ t u hu)
  cases hS : u.registry.sessions.get focus with
  | none =>
    simp only [hS] at h
    cases h
    exact hwalk
  | some session =>
    simp only [hS] at h
    obtain ⟨⟨v, w⟩, hv, h⟩ := Option.bind_eq_some_iff.mp h
    have hfocus := hwalk.trans (internSession_grown hv).1
    rcases hpair : u.focusPair session with _ | ⟨window, pane⟩
    · simp only [hpair] at h
      cases h
      exact hfocus
    · simp only [hpair] at h
      obtain ⟨⟨x, w'⟩, hx, h⟩ := Option.bind_eq_some_iff.mp h
      obtain ⟨⟨y, w''⟩, hy, h⟩ := Option.bind_eq_some_iff.mp h
      cases h
      exact (hfocus.trans (internWindow_grown hx).1).trans (internTerminal_grown hy).1

end Phux.Server
