import Phux.Machine
import Phux.WindowLayout

/-! The links between sessions, windows and resources hold after every sequence of
registry operations. -/

namespace Phux.Core
open Registry SlotMap List

structure Placed (r : Registry) : Prop where
  nodup : ∀ {w W}, r.windows.get w = some W → W.slots.Nodup
  focused : ∀ {w W}, r.windows.get w = some W → Focused W.active W.slots
  live : ∀ {w W id}, r.windows.get w = some W → id ∈ W.slots →
    ∃ t, r.resources.get id = some t ∧ t.kind = .terminal ∧ t.window = some w
  seated : ∀ {id t w}, r.resources.get id = some t → t.window = some w →
    ∃ W, r.windows.get w = some W ∧ id ∈ W.slots
  terminal : ∀ {id t}, r.resources.get id = some t → t.kind = .terminal →
    t.parent = none ∧ ∃ w, t.window = some w
  agent : ∀ {id t}, r.resources.get id = some t → t.kind = .agentSession →
    t.window = none ∧ ∃ p T, t.parent = some p ∧ r.resources.get p = some T ∧ T.kind = .terminal

structure Listed (r : Registry) : Prop where
  nodup : ∀ {s S}, r.sessions.get s = some S → S.windows.Nodup
  chosen : ∀ {s S}, r.sessions.get s = some S → ChosenFrom S.active S.windows
  listed : ∀ {w W}, r.windows.get w = some W →
    ∃ S, r.sessions.get W.session = some S ∧ w ∈ S.windows
  owned : ∀ {s S w}, r.sessions.get s = some S → w ∈ S.windows →
    ∃ W, r.windows.get w = some W ∧ W.session = s

def Tiled (r : Registry) : Prop := ∀ w W, r.windows.get w = some W → W.Tiled

variable {r r' : Registry}

variable {id : ResourceId}

theorem Placed.mem_slots (h : Placed r) {w : WindowId} {W : Window}
    {t : ResourceDescriptor} (hW : r.windows.get w = some W) (ht : r.resources.get id = some t) :
    id ∈ W.slots ↔ t.window = some w := by
  constructor
  · intro hmem
    obtain ⟨t', ht', -, hwindow⟩ := h.live hW hmem
    rw [ht] at ht'
    cases ht'
    exact hwindow
  · intro hwindow
    obtain ⟨W', hW', hmem⟩ := h.seated ht hwindow
    rw [hW] at hW'
    cases hW'
    exact hmem

theorem Placed.not_mem_of_dead (h : Placed r) {w : WindowId} {W : Window}
    (hW : r.windows.get w = some W) (hdead : r.resources.get id = none) : id ∉ W.slots := by
  intro hmem
  obtain ⟨t, ht, -⟩ := h.live hW hmem
  rw [hdead] at ht
  cases ht

/-- Windows replaced by ones with the same slots, focus and session. -/
structure Retiled (r r' : Registry) : Prop where
  sessions : r'.sessions = r.sessions
  resources : r'.resources = r.resources
  forward : ∀ {w W}, r.windows.get w = some W →
    ∃ W', r'.windows.get w = some W' ∧ W.SameSlots W'
  back : ∀ {w W'}, r'.windows.get w = some W' →
    ∃ W, r.windows.get w = some W ∧ W.SameSlots W'

theorem Placed.retiled (h : Placed r) (hr : Retiled r r') : Placed r' where
  nodup hW' := by
    obtain ⟨W, hW, hsame⟩ := hr.back hW'
    rw [hsame.slots]
    exact h.nodup hW
  focused hW' := by
    obtain ⟨W, hW, hsame⟩ := hr.back hW'
    rw [hsame.slots, hsame.active]
    exact h.focused hW
  live hW' hmem := by
    obtain ⟨W, hW, hsame⟩ := hr.back hW'
    rw [hsame.slots] at hmem
    rw [hr.resources]
    exact h.live hW hmem
  seated ht hw := by
    rw [hr.resources] at ht
    obtain ⟨W, hW, hmem⟩ := h.seated ht hw
    obtain ⟨W', hW', hsame⟩ := hr.forward hW
    exact ⟨W', hW', by rwa [hsame.slots]⟩
  terminal ht := h.terminal (hr.resources ▸ ht)
  agent ht := by
    rw [hr.resources] at ht ⊢
    exact h.agent ht

structure SameSessions (r r' : Registry) : Prop where
  sessions : r'.sessions = r.sessions
  windows : ∀ w, (r'.windows.get w).map Window.session = (r.windows.get w).map Window.session

theorem Listed.sameSessions (h : Listed r) (hr : SameSessions r r') : Listed r' where
  nodup hS := h.nodup (hr.sessions ▸ hS)
  chosen hS := h.chosen (hr.sessions ▸ hS)
  listed := by
    intro w W' hW'
    have hmap := hr.windows w
    rw [hW', eq_comm, Option.map_some, Option.map_eq_some_iff] at hmap
    obtain ⟨W, hW, hsession⟩ := hmap
    rw [hr.sessions, ← hsession]
    exact h.listed hW
  owned := by
    intro s S w hS hmem
    obtain ⟨W, hW, hsession⟩ := h.owned (hr.sessions ▸ hS) hmem
    have hmap := hr.windows w
    rw [hW, Option.map_some, Option.map_eq_some_iff] at hmap
    obtain ⟨W', hW', hsession'⟩ := hmap
    exact ⟨W', hW', hsession'.trans hsession⟩

/-- What goes when the resources of `gone` do: they, their children and their seats. -/
structure Dropped (r r' : Registry) (gone : ResourceId → Prop) : Prop where
  resources : ∀ k t, r'.resources.get k = some t ↔
    r.resources.get k = some t ∧ ¬gone k ∧ ∀ p, t.parent = some p → ¬gone p
  windows : ∀ {w W'}, r'.windows.get w = some W' → Focused W'.active W'.slots ∧
    ∃ W, r.windows.get w = some W ∧ W'.slots.Sublist W.slots ∧ ∀ id ∈ W'.slots, ¬gone id
  kept : ∀ {k t w}, r.resources.get k = some t → ¬gone k → t.window = some w →
    ∃ W', r'.windows.get w = some W' ∧ k ∈ W'.slots

theorem Placed.dropped (h : Placed r) {gone : ResourceId → Prop} (hr : Dropped r r' gone) :
    Placed r' where
  nodup hW' := by
    obtain ⟨-, W, hW, hsub, -⟩ := hr.windows hW'
    exact (h.nodup hW).sublist hsub
  focused hW' := (hr.windows hW').1
  live := by
    intro w W' id hW' hmem
    obtain ⟨-, W, hW, hsub, hstay⟩ := hr.windows hW'
    obtain ⟨t, ht, hkind, hwindow⟩ := h.live hW (hsub.subset hmem)
    obtain ⟨hparent, -⟩ := h.terminal ht hkind
    exact ⟨t, (hr.resources id t).mpr ⟨ht, hstay id hmem, by simp [hparent]⟩, hkind, hwindow⟩
  seated := by
    intro id t w ht hw
    obtain ⟨ht, hstay, -⟩ := (hr.resources id t).mp ht
    exact hr.kept ht hstay hw
  terminal ht := h.terminal ((hr.resources _ _).mp ht).1
  agent := by
    intro id t ht hkind
    obtain ⟨ht, -, hstay⟩ := (hr.resources id t).mp ht
    obtain ⟨hwindow, p, T, hp, hT, hTkind⟩ := h.agent ht hkind
    obtain ⟨hparent, -⟩ := h.terminal hT hTkind
    have hlive := (hr.resources p T).mpr ⟨hT, hstay p hp, by simp [hparent]⟩
    exact ⟨hwindow, p, T, hp, hlive, hTkind⟩

theorem removeChildrenOf_get (r : Registry) (parent k : ResourceId) (t : ResourceDescriptor) :
    (r.removeChildrenOf parent).resources.get k = some t ↔
      r.resources.get k = some t ∧ t.parent ≠ some parent := by
  have hchild : k ∈ r.children parent ↔
      ∃ t, r.resources.get k = some t ∧ t.parent = some parent := by
    simp [children, mem_entries]
  simp only [removeChildrenOf, get_foldl_remove, hchild]
  constructor
  · intro h
    split at h
    · cases h
    · rename_i hnot
      exact ⟨h, fun hp => hnot ⟨t, h, hp⟩⟩
  · rintro ⟨ht, hp⟩
    rw [if_neg, ht]
    rintro ⟨t', ht', hp'⟩
    rw [ht] at ht'
    cases ht'
    exact hp hp'

variable (slots : List ResourceId)

theorem removeSlots_frame (r : Registry) :
    (r.removeSlots slots).windows = r.windows ∧ (r.removeSlots slots).sessions = r.sessions := by
  induction slots generalizing r with
  | nil => exact ⟨rfl, rfl⟩
  | cons id slots ih => exact ih _

theorem removeSlots_get (r : Registry) (k : ResourceId)
    (t : ResourceDescriptor) : (r.removeSlots slots).resources.get k = some t ↔
      r.resources.get k = some t ∧ k ∉ slots ∧ ∀ p, t.parent = some p → p ∉ slots := by
  induction slots generalizing r with
  | nil => simp [removeSlots]
  | cons id slots ih =>
    have hcons : r.removeSlots (id :: slots) =
        ({ r with resources := r.resources.remove id }.removeChildrenOf id).removeSlots slots := rfl
    rw [hcons, ih, removeChildrenOf_get, get_remove]
    by_cases hk : k = id
    · simp [hk]
    · simp only [mem_cons, hk, false_or]
      constructor
      · rintro ⟨⟨ht, hp⟩, hmem, hstay⟩
        refine ⟨ht, hmem, fun p hparent hin => ?_⟩
        rcases hin with rfl | hin
        · exact hp hparent
        · exact hstay p hparent hin
      · rintro ⟨ht, hmem, hstay⟩
        exact ⟨⟨ht, fun hp => hstay id hp (.inl rfl)⟩, hmem, fun p hp hin => hstay p hp (.inr hin)⟩

theorem dropWindow_windows (r : Registry) (id w : WindowId) :
    (r.dropWindow id).windows.get w = if w = id then none else r.windows.get w := by
  unfold dropWindow
  split
  · rename_i hget
    by_cases hw : w = id
    · rw [if_pos hw, hw, hget]
    · rw [if_neg hw]
  · rw [(removeSlots_frame _ _).1]
    exact get_remove _ _ _

theorem dropWindow_dropped (h : Placed r) (id : WindowId) :
    Dropped r (r.dropWindow id) fun k => ∃ t, r.resources.get k = some t ∧ t.window = some id where
  resources := by
    intro k t
    unfold dropWindow
    cases hW : r.windows.get id with
    | none =>
      have hnone : ∀ k, ¬∃ t, r.resources.get k = some t ∧ t.window = some id := by
        rintro k ⟨t, ht, hw⟩
        obtain ⟨W, hW', -⟩ := h.seated ht hw
        rw [hW] at hW'
        cases hW'
      simp [hnone]
    | some W =>
      have hmem : ∀ k, k ∈ W.slots ↔ ∃ t, r.resources.get k = some t ∧ t.window = some id := by
        intro k
        constructor
        · intro hk
          obtain ⟨t, ht, -, hw⟩ := h.live hW hk
          exact ⟨t, ht, hw⟩
        · rintro ⟨t, ht, hw⟩
          exact (h.mem_slots hW ht).mpr hw
      simp [removeSlots_get, ← hmem]
  windows := by
    intro w W hW
    rw [dropWindow_windows] at hW
    split at hW
    · cases hW
    · rename_i hw
      refine ⟨h.focused hW, W, hW, .refl _, ?_⟩
      rintro k hk ⟨t, ht, hid⟩
      rw [(h.mem_slots hW ht).mp hk] at hid
      cases hid
      exact hw rfl
  kept := by
    intro k t w ht hstay hw
    obtain ⟨W, hW, hmem⟩ := h.seated ht hw
    refine ⟨W, ?_, hmem⟩
    rw [dropWindow_windows, if_neg, hW]
    rintro rfl
    exact hstay ⟨t, ht, hw⟩

theorem dropWindows_spec (ids : List WindowId) (h : Placed r) : Placed (ids.foldl dropWindow r) ∧
      (ids.foldl dropWindow r).sessions = r.sessions ∧ ∀ w, (ids.foldl dropWindow r).windows.get w =
        if w ∈ ids then none else r.windows.get w := by
  induction ids generalizing r with
  | nil => exact ⟨h, rfl, by simp⟩
  | cons id ids ih =>
    obtain ⟨hplaced, hsessions, hwindows⟩ := ih (h.dropped (dropWindow_dropped h id))
    have hkept : (r.dropWindow id).sessions = r.sessions := by
      unfold dropWindow
      split
      · rfl
      · exact (removeSlots_frame _ _).2
    refine ⟨hplaced, hsessions.trans hkept, fun w => ?_⟩
    rw [foldl_cons, hwindows, dropWindow_windows]
    by_cases hmem : w ∈ ids
    · simp [hmem]
    · by_cases hw : w = id
      · simp [hw]
      · simp [hw, hmem]

theorem removeWindow_eq (r : Registry) (id : WindowId) :
    (r.removeWindow id).1 = match r.windows.get id with
      | none => r
      | some W => { r.dropWindow id with
          sessions := r.sessions.modify W.session fun s =>
            { s with
              windows := s.windows.filter (· ≠ id)
              active := if s.active = some id then (s.windows.filter (· ≠ id)).head?
                else s.active } } := by
  unfold removeWindow dropWindow
  cases hW : r.windows.get id with
  | none => rfl
  | some W => simp [(removeSlots_frame _ _).2]

theorem removeResource_dropped (h : Placed r) (id : ResourceId) {t : ResourceDescriptor}
    (ht : r.resources.get id = some t) : Dropped r (r.removeResource id).1 (· = id) := by
  have hres : ∀ k t', ({ r with resources := r.resources.remove id }.removeChildrenOf
      id).resources.get k = some t' ↔
      r.resources.get k = some t' ∧ ¬k = id ∧ ∀ p, t'.parent = some p → ¬p = id := by
    intro k t'
    rw [removeChildrenOf_get, get_remove]
    by_cases hk : k = id
    · simp [hk]
    · simp only [hk, not_false_eq_true, true_and]
      exact and_congr_right fun _ => ⟨fun hp p hp' he => hp (he ▸ hp'), fun hp he => hp id he rfl⟩
  cases hw : t.window with
  | none =>
    have heq : (r.removeResource id).1 =
        { r with resources := r.resources.remove id }.removeChildrenOf id := by
      simp [removeResource, ht, hw]
    rw [heq]
    have hfree : ∀ {w W}, r.windows.get w = some W → id ∉ W.slots := by
      intro w W hW hmem
      rw [h.mem_slots hW ht, hw] at hmem
      cases hmem
    refine ⟨hres, fun {w W} hW => ?_, fun {k t w} hk _ hkw => h.seated hk hkw⟩
    exact ⟨h.focused hW, W, hW, .refl _, fun k hk he => hfree hW (he ▸ hk)⟩
  | some wid =>
    have heq : (r.removeResource id).1 =
        { { r with resources := r.resources.remove id }.removeChildrenOf id with
          windows := r.windows.modify wid fun w => w.vacate id } := by
      simp [removeResource, ht, hw, removeChildrenOf]
    rw [heq]
    refine ⟨hres, ?_, ?_⟩
    · intro w W' hW'
      refine of_get_modify hW' (fun W hW => ?_) fun hwid hW => ?_
      · refine ⟨Window.vacate_focused (h.focused hW) id, W, hW, ?_⟩
        rw [(Window.vacate_spec W id).2.1]
        exact ⟨filter_sublist, fun k hk => by simpa using (mem_filter.mp hk).2⟩
      · refine ⟨h.focused hW, W', hW, .refl _, ?_⟩
        rintro k hk rfl
        rw [h.mem_slots hW ht, hw] at hk
        exact hwid (Option.some.inj hk).symm
    · intro k t' w hk hne hkw
      obtain ⟨W, hW, hmem⟩ := h.seated hk hkw
      simp only [get_modify]
      by_cases hwid : w = wid
      · subst hwid
        refine ⟨W.vacate id, by simp [hW], ?_⟩
        rw [(Window.vacate_spec W id).2.1]
        exact mem_filter.mpr ⟨hmem, by simpa using hne⟩
      · exact ⟨W, by rw [if_neg hwid, hW], hmem⟩

end Phux.Core
