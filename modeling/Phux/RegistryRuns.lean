import Phux.RegistryInvariant

/-! Registry operations one by one, and whole sequences of them. -/

namespace Phux.Core

open Registry SlotMap Option

variable {r r' : Registry}

structure Reseated (id : ResourceId) (w w' : WindowId) (W W' : Window) : Prop where
  focused : Focused W'.active W'.slots
  nodup : W'.slots.Nodup
  slots : ∀ k, k ∈ W'.slots ↔ if k = id then w' = w else k ∈ W.slots

structure Seats (r r' : Registry) (id : ResourceId) (w : WindowId) (t : ResourceDescriptor) :
    Prop where
  resources : ∀ k, r'.resources.get k = if k = id then some t else r.resources.get k
  kind : t.kind = .terminal
  parent : t.parent = none
  window : t.window = some w
  target : r.windows.get w ≠ none
  windows : ∀ w', Option.Rel (Reseated id w w') (r.windows.get w') (r'.windows.get w')

variable {W : Window} {t : ResourceDescriptor} {S : Session}

theorem Seats.forward {id : ResourceId} {w w' : WindowId} (hr : Seats r r' id w t)
    (hW : r.windows.get w' = some W) :
    ∃ W', r'.windows.get w' = some W' ∧ Reseated id w w' W W' := by
  have hrel := hr.windows w'
  rw [hW] at hrel
  generalize hget : r'.windows.get w' = got at hrel
  cases hrel with
  | some h => exact ⟨_, rfl, h⟩

theorem Seats.back {id : ResourceId} {w w' : WindowId} {W' : Window} (hr : Seats r r' id w t)
    (hW' : r'.windows.get w' = some W') :
    ∃ W, r.windows.get w' = some W ∧ Reseated id w w' W W' := by
  have hrel := hr.windows w'
  rw [hW'] at hrel
  generalize hget : r.windows.get w' = got at hrel
  cases hrel with
  | some h => exact ⟨_, rfl, h⟩

theorem Placed.seats (h : Placed r) {id : ResourceId} {w : WindowId} (hr : Seats r r' id w t) :
    Placed r' where
  nodup hW' := by
    obtain ⟨W, hW, hseat⟩ := hr.back hW'
    exact hseat.nodup
  focused hW' := by
    obtain ⟨W, hW, hseat⟩ := hr.back hW'
    exact hseat.focused
  live := by
    intro w' W' k hW' hmem
    obtain ⟨W, hW, hseat⟩ := hr.back hW'
    rw [hseat.slots] at hmem
    rw [hr.resources]
    by_cases hk : k = id
    · rw [if_pos hk] at hmem ⊢
      exact ⟨t, rfl, hr.kind, hmem ▸ hr.window⟩
    · rw [if_neg hk] at hmem ⊢
      exact h.live hW hmem
  seated := by
    intro k t' w' ht' hw'
    rw [hr.resources] at ht'
    by_cases hk : k = id
    · rw [if_pos hk] at ht'
      cases ht'
      have hww : w = w' := some.inj (hr.window.symm.trans hw')
      obtain ⟨W, hW⟩ := ne_none_iff_exists'.mp hr.target
      obtain ⟨W', hW', hseat⟩ := hr.forward hW
      exact ⟨W', hww ▸ hW', (hseat.slots k).mpr (by rw [if_pos hk])⟩
    · rw [if_neg hk] at ht'
      obtain ⟨W, hW, hmem⟩ := h.seated ht' hw'
      obtain ⟨W', hW', hseat⟩ := hr.forward hW
      exact ⟨W', hW', (hseat.slots k).mpr (by rwa [if_neg hk])⟩
  terminal := by
    intro k t' ht' hkind
    rw [hr.resources] at ht'
    split at ht'
    · cases ht'
      exact ⟨hr.parent, w, hr.window⟩
    · exact h.terminal ht' hkind
  agent := by
    intro k t' ht' hkind
    rw [hr.resources] at ht'
    split at ht'
    · cases ht'
      rw [hr.kind] at hkind
      cases hkind
    · obtain ⟨hnone, p, T, hp, hT, hTkind⟩ := h.agent ht' hkind
      by_cases hpid : p = id
      · exact ⟨hnone, p, t, hp, by rw [hr.resources, if_pos hpid], hr.kind⟩
      · exact ⟨hnone, p, T, hp, by rw [hr.resources, if_neg hpid, hT], hTkind⟩

theorem Reseated.here {id : ResourceId} (w : WindowId) (hf : Focused W.active W.slots)
    (hn : W.slots.Nodup) (hid : id ∉ W.slots) : Reseated id w w W (W.place id) := by
  obtain ⟨-, hslots, hactive⟩ := Window.place_spec W id
  refine ⟨hslots ▸ hactive ▸ hf.append id, ?_, fun k => ?_⟩
  · rw [hslots, ← List.concat_eq_append]
    exact .concat hid hn
  · rw [hslots]
    by_cases hk : k = id
    · simp [hk]
    · simp [hk]

theorem Reseated.elsewhere {id : ResourceId} {w w' : WindowId} (hw : w' ≠ w)
    (hf : Focused W.active W.slots) (hn : W.slots.Nodup) (hid : id ∉ W.slots) :
    Reseated id w w' W W := by
  refine ⟨hf, hn, fun k => ?_⟩
  by_cases hk : k = id
  · simp [hk, hw, hid]
  · simp [hk]

theorem Reseated.left (id : ResourceId) {w w' : WindowId} (hw : w' ≠ w)
    (hf : Focused W.active W.slots) (hn : W.slots.Nodup) : Reseated id w w' W (W.vacate id) := by
  refine ⟨Window.vacate_focused hf id, ?_, fun k => ?_⟩
  · rw [(Window.vacate_spec W id).2.1]
    exact hn.filter _
  · rw [(Window.vacate_spec W id).2.1]
    by_cases hk : k = id
    · simp [hk, hw]
    · simp [hk]

theorem newWindow_eq {s : SessionId} (hS : r.sessions.get s = some S) : r.newWindow s = ({ r with
      windows := r.windows.insert ⟨r.windows.nextKey, s, [], none, none⟩
      sessions := r.sessions.modify s fun s => { s with
        windows := s.windows ++ [r.windows.nextKey]
        active := s.active.or (some r.windows.nextKey) } }, .ok r.windows.nextKey) := by
  simp [newWindow, contains, hS]

theorem newWindow_listed (h : Listed r) {s : SessionId} (hS : r.sessions.get s = some S) :
    Listed (r.newWindow s).1 := by
  rw [newWindow_eq hS]
  have hfresh : ∀ {s' S'}, r.sessions.get s' = some S' → r.windows.nextKey ∉ S'.windows := by
    intro s' S' hS' hmem
    obtain ⟨W, hW, -⟩ := h.owned hS' hmem
    rw [get_nextKey] at hW
    cases hW
  have hold : ∀ {s' S' w}, r.sessions.get s' = some S' → w ∈ S'.windows → ∃ W,
      (r.windows.insert ⟨r.windows.nextKey, s, [], none, none⟩).get w = some W ∧ W.session = s' := by
    intro s' S' w hS' hmem
    obtain ⟨W, hW, hsession⟩ := h.owned hS' hmem
    exact ⟨W, get_insert_of_get hW, hsession⟩
  refine ⟨fun hS' => ?_,
    fun hS' => of_get_modify hS' (fun S hS => (h.chosen hS).append _) fun _ => h.chosen, ?_, ?_⟩
  · refine of_get_modify hS' (fun S hS => ?_) fun _ => h.nodup
    exact List.nodup_append.mpr ⟨h.nodup hS, List.nodup_singleton _,
      fun a ha b hb he => hfresh hS (by simpa [← List.mem_singleton.mp hb, ← he] using ha)⟩
  · intro w W hW
    rw [get_modify, hS]
    refine of_get_insert hW (by simp) fun hW => ?_
    obtain ⟨S', hS', hmem⟩ := h.listed hW
    by_cases hs : W.session = s
    · rw [hs, hS] at hS'
      cases hS'
      simp [hs, hmem]
    · simp [hs, hS', hmem]
  · intro s' S' w hS'
    refine of_get_modify hS' (fun S hS hmem => ?_) fun _ => hold
    rcases List.mem_append.mp hmem with hmem | hmem
    · exact hold hS hmem
    · exact ⟨_, by rw [get_insert, if_pos (List.mem_singleton.mp hmem)], rfl⟩

theorem newTerminal_eq {w : WindowId} (hW : r.windows.get w = some W) : r.newTerminal w = ({ r with
      resources := r.resources.insert ⟨r.resources.nextKey, .terminal, none, some w,
        some ⟨(80, 24), [], none⟩, none⟩
      windows := r.windows.modify w fun w => w.place r.resources.nextKey },
      .ok r.resources.nextKey) := by
  simp [newTerminal, contains, hW]

theorem newTerminal_seats (h : Placed r) {w : WindowId} (hW : r.windows.get w = some W) :
    Seats r (r.newTerminal w).1 r.resources.nextKey w ⟨r.resources.nextKey, .terminal, none, some w,
      some ⟨(80, 24), [], none⟩, none⟩ := by
  rw [newTerminal_eq hW]
  have hdead := get_nextKey r.resources
  refine ⟨get_insert _ _, rfl, rfl, rfl, by simp [hW], fun w' => ?_⟩
  rw [get_modify]
  by_cases hw : w' = w
  · subst hw
    rw [if_pos rfl, hW]
    exact .some (.here w' (h.focused hW) (h.nodup hW) (h.not_mem_of_dead hW hdead))
  · rw [if_neg hw]
    cases hW' : r.windows.get w' with
    | none => exact .none
    | some W' =>
      exact .some (.elsewhere hw (h.focused hW') (h.nodup hW') (h.not_mem_of_dead hW' hdead))

theorem moveTerminal_eq {id : ResourceId} {w source : WindowId} (hW : r.windows.get w = some W)
    (ht : r.resources.get id = some t) (hsource : t.window = some source) (hne : source ≠ w) :
    r.moveTerminal id w = ({ r with
      windows := (r.windows.modify source fun w => w.vacate id).modify w fun w => w.place id
      resources := r.resources.modify id fun t => { t with window := some w } }, .ok ()) := by
  simp [moveTerminal, contains, hW, ht, hsource, hne]

theorem moveTerminal_seats (h : Placed r) {id : ResourceId} {w source : WindowId}
    (hW : r.windows.get w = some W) (ht : r.resources.get id = some t)
    (hsource : t.window = some source) (hne : source ≠ w) :
    Seats r (r.moveTerminal id w).1 id w { t with window := some w } := by
  rw [moveTerminal_eq hW ht hsource hne]
  have hkind : t.kind = .terminal := by
    cases hkind : t.kind with
    | terminal => rfl
    | agentSession => cases (h.agent ht hkind).1.symm.trans hsource
  have hout : ∀ {w' W'}, r.windows.get w' = some W' → w' ≠ source → id ∉ W'.slots := by
    intro w' W' hW' hw' hmem
    rw [h.mem_slots hW' ht, hsource] at hmem
    exact hw' (some.inj hmem).symm
  refine ⟨fun k => ?_, hkind, (h.terminal ht hkind).1, rfl, by simp [hW], fun w' => ?_⟩
  · rw [get_modify, ht, map_some]
  · rw [get_modify, get_modify, get_modify]
    by_cases hw : w' = w
    · subst hw
      rw [if_pos rfl, if_neg (Ne.symm hne), hW]
      exact .some (.here w' (h.focused hW) (h.nodup hW) (hout hW (.symm hne)))
    · rw [if_neg hw]
      by_cases hs : w' = source
      · rw [if_pos hs, hs]
        cases hW' : r.windows.get source with
        | none => exact .none
        | some W' => exact .some (.left id (hs ▸ hw) (h.focused hW') (h.nodup hW'))
      · rw [if_neg hs]
        cases hW' : r.windows.get w' with
        | none => exact .none
        | some W' => exact .some (.elsewhere hw (h.focused hW') (h.nodup hW') (hout hW' hs))

theorem newAgentSession_placed (h : Placed r) {p : ResourceId} {T : ResourceDescriptor}
    (hT : r.resources.get p = some T) (hkind : T.kind = .terminal) (agent : AgentFacet) :
    Placed (r.newAgentSession p agent).1 := by
  have heq : (r.newAgentSession p agent).1 = { r with
      resources := r.resources.insert
        ⟨r.resources.nextKey, .agentSession, some p, none, none, some agent⟩ } := by
    simp [newAgentSession, hT, hkind]
  rw [heq]
  refine ⟨h.nodup, h.focused, ?_, ?_, ?_, ?_⟩
  · intro w W id hW hmem
    obtain ⟨t, ht, hrest⟩ := h.live hW hmem
    exact ⟨t, get_insert_of_get ht, hrest⟩
  · intro id t w ht
    refine of_get_insert ht (fun hw => ?_) h.seated
    cases hw
  · intro id t ht
    refine of_get_insert ht (fun hk => ?_) h.terminal
    cases hk
  · intro id t ht hk
    refine of_get_insert ht ⟨rfl, p, T, rfl, get_insert_of_get hT, hkind⟩ fun ht => ?_
    obtain ⟨hnone, p', T', hp', hT', hkind'⟩ := h.agent ht hk
    exact ⟨hnone, p', T', hp', get_insert_of_get hT', hkind'⟩

theorem removeWindow_listed (h : Listed r) {id : WindowId} (hW : r.windows.get id = some W) :
    Listed (r.removeWindow id).1 := by
  rw [removeWindow_eq, hW]
  obtain ⟨S₀, hS₀, -⟩ := h.listed hW
  have hnot : ∀ {s S w}, r.sessions.get s = some S → w ∈ S.windows → s ≠ W.session → w ≠ id := by
    rintro s S w hS hmem hs rfl
    obtain ⟨W', hW', hsession⟩ := h.owned hS hmem
    rw [hW] at hW'
    cases hW'
    exact hs hsession.symm
  refine ⟨fun hS => of_get_modify hS (fun S hS => (h.nodup hS).filter _) fun _ => h.nodup,
    fun hS => of_get_modify hS (fun S hS => (h.chosen hS).filter id) fun _ => h.chosen, ?_, ?_⟩
  · intro w W' hW'
    simp only [dropWindow_windows] at hW'
    split at hW'
    · cases hW'
    · rename_i hw
      obtain ⟨S, hS, hmem⟩ := h.listed hW'
      simp only [get_modify, hS₀, map_some]
      by_cases hs : W'.session = W.session
      · rw [hs, hS₀] at hS
        cases hS
        refine ⟨_, if_pos hs, ?_⟩
        exact List.mem_filter.mpr ⟨hmem, by simpa using hw⟩
      · exact ⟨S, by rw [if_neg hs, hS], hmem⟩
  · intro s S w hS
    simp only [dropWindow_windows]
    refine of_get_modify hS (fun S hS hmem => ?_) fun hs hS hmem => ?_
    · obtain ⟨hmem, hw⟩ := List.mem_filter.mp hmem
      rw [if_neg (by simpa using hw)]
      exact h.owned hS hmem
    · rw [if_neg (hnot hS hmem hs)]
      exact h.owned hS hmem

theorem removeSession_spec (h : Placed r) {id : SessionId} (hS : r.sessions.get id = some S) :
    Placed (r.removeSession id).1 ∧ (r.removeSession id).1.sessions = r.sessions.remove id ∧
      ∀ w, (r.removeSession id).1.windows.get w =
        if w ∈ S.windows then none else r.windows.get w := by
  have heq : (r.removeSession id).1 =
      S.windows.foldl dropWindow { r with sessions := r.sessions.remove id } := by
    simp [removeSession, hS]
  have hplaced : Placed { r with sessions := r.sessions.remove id } := { h with }
  rw [heq]
  exact dropWindows_spec S.windows hplaced

theorem removeSession_listed (hp : Placed r) (h : Listed r) {id : SessionId}
    (hS : r.sessions.get id = some S) : Listed (r.removeSession id).1 := by
  obtain ⟨-, hsessions, hwindows⟩ := removeSession_spec hp hS
  have hget : ∀ {s S'}, (r.removeSession id).1.sessions.get s = some S' ↔
      s ≠ id ∧ r.sessions.get s = some S' := by
    intro s S'
    rw [hsessions, get_remove]
    by_cases hs : s = id <;> simp [hs]
  refine ⟨fun hS' => h.nodup (hget.mp hS').2, fun hS' => h.chosen (hget.mp hS').2, ?_, ?_⟩
  · intro w W hW
    rw [hwindows] at hW
    split at hW
    · cases hW
    · rename_i hout
      obtain ⟨S', hS', hmem⟩ := h.listed hW
      refine ⟨S', hget.mpr ⟨?_, hS'⟩, hmem⟩
      intro hid
      rw [hid, hS] at hS'
      cases hS'
      exact hout hmem
  · intro s S' w hS' hmem
    obtain ⟨hs, hS'⟩ := hget.mp hS'
    obtain ⟨W, hW, hsession⟩ := h.owned hS' hmem
    refine ⟨W, ?_, hsession⟩
    rw [hwindows, if_neg, hW]
    intro hin
    obtain ⟨W', hW', hsession'⟩ := h.owned hS hin
    rw [hW] at hW'
    cases hW'
    exact hs (hsession.symm.trans hsession')

inductive RegistryOp where
  | newSession (name : String) (now : Int)
  | newWindow (session : SessionId)
  | newTerminal (window : WindowId)
  | newAgentSession (parent : ResourceId) (agent : AgentFacet)
  | moveTerminal (id : ResourceId) (window : WindowId)
  | split (window : WindowId) (target newPane : ResourceId) (dir : SplitDir) (ratio : F32)
  | killPane (window : WindowId) (target : ResourceId)
  | removeResource (id : ResourceId)
  | removeWindow (id : WindowId)
  | removeSession (id : SessionId)

inductive OpError where
  | registry (error : RegistryError)
  | layout (error : LayoutError)
  /-- The entry to edit or remove is not there. -/
  | absent
deriving DecidableEq

def checked {α : Type} (p : Registry × Except RegistryError α) : Registry × Except OpError Unit :=
  (p.1, (p.2.map fun _ => ()).mapError .registry)

def removed {α : Type} (p : Registry × Option α) : Registry × Except OpError Unit :=
  (p.1, if p.2.isSome then .ok () else .error .absent)

def Registry.editWindow (r : Registry) (window : WindowId)
    (edit : Window → Window × Except LayoutError Unit) : Registry × Except OpError Unit :=
  match r.windows.get window with
  | none => (r, .error .absent)
  | some w =>
    ({ r with windows := r.windows.modify window fun _ => (edit w).1 }, (edit w).2.mapError .layout)

def Registry.apply (r : Registry) : RegistryOp → Registry × Except OpError Unit
  | .newSession name now => ((r.newSession name now).1, .ok ())
  | .newWindow session => checked (r.newWindow session)
  | .newTerminal window => checked (r.newTerminal window)
  | .newAgentSession parent agent => checked (r.newAgentSession parent agent)
  | .moveTerminal id window => checked (r.moveTerminal id window)
  | .split window target newPane dir ratio =>
    r.editWindow window fun w => w.split target newPane dir ratio
  | .killPane window target => r.editWindow window fun w => w.killPane target
  | .removeResource id => removed (r.removeResource id)
  | .removeWindow id => removed (r.removeWindow id)
  | .removeSession id => removed (r.removeSession id)

def Registry.next (r : Registry) (op : RegistryOp) : Registry := (r.apply op).1

def Registry.after (ops : List RegistryOp) : Registry := Machine.run Registry.next .new ops

def RegistryOp.EditsTree : RegistryOp → Prop
  | .split .. | .killPane .. => True
  | _ => False

variable {edit : Window → Window × Except LayoutError Unit}

theorem editWindow_retiled {window : WindowId}
    (hedit : ∀ w, Window.SameSlots w (edit w).1) : Retiled r (r.editWindow window edit).1 := by
  unfold editWindow
  cases hW : r.windows.get window with
  | none => exact ⟨rfl, rfl, fun h => ⟨_, h, rfl, rfl, rfl, rfl⟩, fun h => ⟨_, h, rfl, rfl, rfl, rfl⟩⟩
  | some W =>
    refine ⟨rfl, rfl, ?_, ?_⟩
    · intro w W' hW'
      by_cases hw : w = window
      · rw [hw, hW] at hW'
        cases hW'
        exact ⟨(edit W).1, by simp [get_modify, hw, hW], hedit W⟩
      · exact ⟨W', by simp [get_modify, hw, hW'], rfl, rfl, rfl, rfl⟩
    · intro w W' hW'
      simp only [get_modify, hW, map_some] at hW'
      split at hW'
      · rename_i hw
        cases hW'
        exact ⟨W, hw ▸ hW, hedit W⟩
      · exact ⟨W', hW', rfl, rfl, rfl, rfl⟩

theorem Retiled.sameSessions (h : Retiled r r') : SameSessions r r' := by
  refine ⟨h.sessions, fun w => ?_⟩
  cases hW' : r'.windows.get w with
  | some W' =>
    obtain ⟨W, hW, hsame⟩ := h.back hW'
    simp [hW, hsame.session]
  | none =>
    cases hW : r.windows.get w with
    | none => rfl
    | some W =>
      obtain ⟨W', hsome, -⟩ := h.forward hW
      rw [hW'] at hsome
      cases hsome

/-- What one operation does and reports: nothing done, or the change of an operation that
was let through. -/
inductive Effect (r : Registry) : RegistryOp → Registry → Except OpError Unit → Prop
  | idle (op result) : Effect r op r result
  | newSession (name now) : Effect r (.newSession name now) (r.newSession name now).1 (.ok ())
  | newWindow {s S} (hS : r.sessions.get s = some S) :
    Effect r (.newWindow s) (r.newWindow s).1 (.ok ())
  | newTerminal {w W} (hW : r.windows.get w = some W) :
    Effect r (.newTerminal w) (r.newTerminal w).1 (.ok ())
  | newAgentSession {p T} (agent) (hT : r.resources.get p = some T) (hkind : T.kind = .terminal) :
    Effect r (.newAgentSession p agent) (r.newAgentSession p agent).1 (.ok ())
  | moveTerminal {id t w W source} (hW : r.windows.get w = some W)
    (ht : r.resources.get id = some t) (hsource : t.window = some source) (hne : source ≠ w) :
    Effect r (.moveTerminal id w) (r.moveTerminal id w).1 (.ok ())
  | split {w W} (target newPane dir ratio) (hW : r.windows.get w = some W) :
    Effect r (.split w target newPane dir ratio)
      (r.editWindow w fun w => w.split target newPane dir ratio).1
      ((W.split target newPane dir ratio).2.mapError .layout)
  | killPane {w W} (target) (hW : r.windows.get w = some W) :
    Effect r (.killPane w target) (r.editWindow w fun w => w.killPane target).1
      ((W.killPane target).2.mapError .layout)
  | removeResource {id t} (ht : r.resources.get id = some t) :
    Effect r (.removeResource id) (r.removeResource id).1 (.ok ())
  | removeWindow {id W} (hW : r.windows.get id = some W) :
    Effect r (.removeWindow id) (r.removeWindow id).1 (.ok ())
  | removeSession {id S} (hS : r.sessions.get id = some S) :
    Effect r (.removeSession id) (r.removeSession id).1 (.ok ())

variable {op : RegistryOp}

theorem Effect.of_idle (h : (r.apply op).1 = r) : Effect r op (r.apply op).1 (r.apply op).2 := by
  rw [h]
  exact .idle op _

theorem Effect.of_ok (hok : (r.apply op).2 = .ok ())
    (h : Effect r op (r.apply op).1 (.ok ())) : Effect r op (r.apply op).1 (r.apply op).2 := by
  rw [hok]
  exact h

theorem apply_effect (r : Registry) (op : RegistryOp) :
    Effect r op (r.apply op).1 (r.apply op).2 := by
  cases op with
  | newSession name now => exact .newSession name now
  | newWindow s =>
    cases hS : r.sessions.get s with
    | none => exact .of_idle (by simp [apply, checked, newWindow, contains, hS])
    | some S =>
      exact .of_ok (by simp [apply, checked, newWindow_eq hS, Except.map, Except.mapError]) (.newWindow hS)
  | newTerminal w =>
    cases hW : r.windows.get w with
    | none => exact .of_idle (by simp [apply, checked, newTerminal, contains, hW])
    | some W =>
      exact .of_ok (by simp [apply, checked, newTerminal_eq hW, Except.map, Except.mapError]) (.newTerminal hW)
  | newAgentSession p agent =>
    cases hT : r.resources.get p with
    | none => exact .of_idle (by simp [apply, checked, newAgentSession, hT])
    | some T =>
      by_cases hkind : T.kind = .terminal
      · refine .of_ok ?_ (.newAgentSession agent hT hkind)
        simp [apply, checked, newAgentSession, hT, hkind, Except.map, Except.mapError]
      · exact .of_idle (by simp [apply, checked, newAgentSession, hT, hkind])
  | moveTerminal id w =>
    cases hW : r.windows.get w with
    | none => exact .of_idle (by simp [apply, checked, moveTerminal, contains, hW])
    | some W =>
      cases hsource : (r.resources.get id).bind ResourceDescriptor.window with
      | none => exact .of_idle (by simp [apply, checked, moveTerminal, contains, hW, hsource])
      | some source =>
        by_cases hne : source = w
        · refine .of_idle ?_
          simp [apply, checked, moveTerminal, contains, hW, hsource, hne]
        · obtain ⟨t, ht, hwindow⟩ := bind_eq_some_iff.mp hsource
          refine .of_ok ?_ (.moveTerminal hW ht hwindow hne)
          simp [apply, checked, moveTerminal_eq hW ht hwindow hne, Except.map, Except.mapError]
  | split w target newPane dir ratio =>
    cases hW : r.windows.get w with
    | none => exact .of_idle (by simp [apply, editWindow, hW])
    | some W =>
      have hresult : (r.apply (.split w target newPane dir ratio)).2 =
          (W.split target newPane dir ratio).2.mapError .layout := by simp [apply, editWindow, hW]
      rw [hresult]
      exact .split target newPane dir ratio hW
  | killPane w target =>
    cases hW : r.windows.get w with
    | none => exact .of_idle (by simp [apply, editWindow, hW])
    | some W =>
      have hresult : (r.apply (.killPane w target)).2 =
          (W.killPane target).2.mapError .layout := by simp [apply, editWindow, hW]
      rw [hresult]
      exact .killPane target hW
  | removeResource id =>
    cases ht : r.resources.get id with
    | none => exact .of_idle (by simp [apply, removed, removeResource, ht])
    | some t => exact .of_ok (by simp [apply, removed, removeResource, ht]) (.removeResource ht)
  | removeWindow id =>
    cases hW : r.windows.get id with
    | none => exact .of_idle (by simp [apply, removed, removeWindow, hW])
    | some W => exact .of_ok (by simp [apply, removed, removeWindow, hW]) (.removeWindow hW)
  | removeSession id =>
    cases hS : r.sessions.get id with
    | none => exact .of_idle (by simp [apply, removed, removeSession, hS])
    | some S => exact .of_ok (by simp [apply, removed, removeSession, hS]) (.removeSession hS)

variable {result : Except OpError Unit}

theorem Effect.placed (he : Effect r op r' result) (h : Placed r) : Placed r' := by
  cases he with
  | idle => exact h
  | newSession name now => exact { h with }
  | newWindow hS =>
    rw [newWindow_eq hS]
    refine ⟨fun hW => of_get_insert hW List.nodup_nil h.nodup,
      fun hW => of_get_insert hW (.inl ⟨rfl, rfl⟩) h.focused, ?_, ?_, h.terminal, h.agent⟩
    · intro w W id hW
      refine of_get_insert hW (fun hmem => ?_) h.live
      cases hmem
    · intro id t w ht hw
      obtain ⟨W, hW, hmem⟩ := h.seated ht hw
      exact ⟨W, get_insert_of_get hW, hmem⟩
  | newTerminal hW => exact h.seats (newTerminal_seats h hW)
  | newAgentSession agent hT hkind => exact newAgentSession_placed h hT hkind agent
  | moveTerminal hW ht hsource hne => exact h.seats (moveTerminal_seats h hW ht hsource hne)
  | split target newPane dir ratio hW =>
    exact h.retiled (editWindow_retiled fun w => w.split_sameSlots target newPane dir ratio)
  | killPane target hW => exact h.retiled (editWindow_retiled fun w => w.killPane_sameSlots target)
  | removeResource ht => exact h.dropped (removeResource_dropped h _ ht)
  | @removeWindow id W hW =>
    have hdrop := h.dropped (dropWindow_dropped h id)
    rw [removeWindow_eq, hW]
    exact { hdrop with }
  | removeSession hS => exact (removeSession_spec h hS).1

variable (id : ResourceId)

theorem place_session (W : Window) : (W.place id).session = W.session := (Window.place_spec W id).1

theorem vacate_session (W : Window) : (W.vacate id).session = W.session :=
  (Window.vacate_spec W id).1

theorem removeResource_windows {id : ResourceId} (ht : r.resources.get id = some t) :
    (r.removeResource id).1.sessions = r.sessions ∧
      (r.removeResource id).1.windows = match t.window with
        | none => r.windows
        | some w => r.windows.modify w fun W => W.vacate id := by
  cases hw : t.window with
  | none | some w => simp [removeResource, removeChildrenOf, ht, hw]

theorem Effect.listed (he : Effect r op r' result) (hp : Placed r) (h : Listed r) : Listed r' := by
  cases he with
  | idle => exact h
  | newSession name now =>
    exact {
      nodup := fun hS => of_get_insert hS List.nodup_nil h.nodup
      chosen := fun hS => of_get_insert hS (fun _ ha => by cases ha) h.chosen
      listed := fun hW => by
        obtain ⟨S, hS, hmem⟩ := h.listed hW
        exact ⟨S, get_insert_of_get hS, hmem⟩
      owned := fun hS => by
        refine of_get_insert hS (fun hmem => ?_) h.owned
        cases hmem }
  | newWindow hS => exact newWindow_listed h hS
  | newTerminal hW =>
    rw [newTerminal_eq hW]
    exact h.sameSessions ⟨rfl, map_get_modify (place_session _) _ _⟩
  | newAgentSession agent hT hkind =>
    refine h.sameSessions ⟨?_, fun w => ?_⟩
    all_goals simp [Registry.newAgentSession, hT, hkind]
  | moveTerminal hW ht hsource hne =>
    rw [moveTerminal_eq hW ht hsource hne]
    refine h.sameSessions ⟨rfl, fun w => ?_⟩
    rw [map_get_modify (place_session _), map_get_modify (vacate_session _)]
  | split target newPane dir ratio hW =>
    refine h.sameSessions (Retiled.sameSessions (editWindow_retiled fun w => ?_))
    exact w.split_sameSlots target newPane dir ratio
  | killPane target hW =>
    refine h.sameSessions (Retiled.sameSessions (editWindow_retiled fun w => ?_))
    exact w.killPane_sameSlots target
  | @removeResource id t ht =>
    obtain ⟨hsessions, hwindows⟩ := removeResource_windows ht
    refine h.sameSessions ⟨hsessions, fun w => ?_⟩
    rw [hwindows]
    cases t.window with
    | none => rfl
    | some w' => exact map_get_modify (vacate_session id) _ _ _
  | removeWindow hW => exact removeWindow_listed h hW
  | removeSession hS => exact removeSession_listed hp h hS

theorem tiled_modify {windows : SlotMap WindowTag Window} {w : WindowId} {f : Window → Window}
    (h : ∀ w W, windows.get w = some W → W.Tiled)
    (hf : ∀ W, windows.get w = some W → W.Tiled → (f W).Tiled) :
    ∀ w' W, (windows.modify w f).get w' = some W → W.Tiled := fun w' W hW =>
  of_get_modify hW (fun W₀ hW₀ => hf W₀ hW₀ (h w W₀ hW₀)) fun _ => h w' W

theorem Effect.tiled (he : Effect r op r' result) (hp : Placed r) (h : Tiled r)
    (hquiet : op.EditsTree → r' = r) : Tiled r' := by
  cases he with
  | idle => exact h
  | newSession name now => exact h
  | newWindow hS =>
    intro w W hW
    rw [newWindow_eq hS] at hW
    exact of_get_insert hW ⟨by simp, by simp⟩ (h w W)
  | newTerminal hW =>
    rw [newTerminal_eq hW]
    exact tiled_modify h fun W hW ht => Window.place_tiled (hp.focused hW) ht _
  | newAgentSession agent hT hkind => simpa [Tiled, Registry.newAgentSession, hT, hkind] using h
  | @moveTerminal id t w W source hW ht hsource hne =>
    rw [moveTerminal_eq hW ht hsource hne]
    have hvacated := @tiled_modify r.windows source (fun W => W.vacate id) h
      fun W hW ht => Window.vacate_tiled (hp.nodup hW) ht id
    refine tiled_modify hvacated fun W₀ hW₀ ht => Window.place_tiled ?_ ht id
    rw [get_modify, if_neg (Ne.symm hne)] at hW₀
    exact hp.focused hW₀
  | split target newPane dir ratio hW | killPane target hW =>
    rw [hquiet trivial]
    exact h
  | @removeResource id t ht =>
    obtain ⟨-, hwindows⟩ := removeResource_windows ht
    unfold Tiled
    rw [hwindows]
    cases t.window with
    | none => exact h
    | some w => exact tiled_modify h fun W hW ht => Window.vacate_tiled (hp.nodup hW) ht id
  | @removeWindow id W hW =>
    intro w W' hW'
    simp only [removeWindow_eq, hW, dropWindow_windows] at hW'
    split at hW'
    · cases hW'
    · exact h w W' hW'
  | removeSession hS =>
    intro w W' hW'
    rw [(removeSession_spec hp hS).2.2] at hW'
    split at hW'
    · cases hW'
    · exact h w W' hW'

theorem new_placed : Placed .new := by
  constructor
  all_goals simp [new]

theorem new_listed : Listed .new := by
  constructor
  all_goals simp [new]

theorem after_linked (ops : List RegistryOp) : Placed (after ops) ∧ Listed (after ops) := by
  have hstep : ∀ r op, Placed r ∧ Listed r → Placed (next r op) ∧ Listed (r.next op) :=
    fun r op h => ⟨(apply_effect r op).placed h.1, (apply_effect r op).listed h.1 h.2⟩
  exact Machine.run_invariant hstep ⟨new_placed, new_listed⟩

def Quiet (r : Registry) (op : RegistryOp) : Prop := op.EditsTree → r.next op = r

theorem after_tiled {ops : List RegistryOp} (h : Machine.EveryStep next Quiet .new ops) :
    Tiled (after ops) := by
  suffices hrun : ∀ r, Placed r → Tiled r → Machine.EveryStep next Quiet r ops →
      Tiled (Machine.run next r ops) by
    exact hrun .new new_placed (by intro w W hW; cases hW) h
  clear h
  induction ops with
  | nil => exact fun r _ ht _ => ht
  | cons op ops ih =>
    intro r hp ht h
    have he := apply_effect r op
    exact ih (r.next op) (he.placed hp) (he.tiled hp ht h.1) h.2

theorem editWindow_unchanged {w : WindowId}
    (h : ∀ W, r.windows.get w = some W → (edit W).1 = W) : (r.editWindow w edit).1 = r := by
  unfold editWindow
  cases hW : r.windows.get w with
  | none => rfl
  | some W =>
    have hsame : r.windows.modify w (fun _ => (edit W).1) = r.windows := modify_eq_self hW (h W hW)
    simp [hsame]

theorem Window.killPane_error {w : Window} {target : ResourceId} {error : LayoutError}
    (h : (w.killPane target).2 = .error error) : (w.killPane target).1 = w ∨
      error = .lastPane ∧ w.layout = some (.leaf target) ∧
        (w.killPane target).1 = { w with layout := none } := by
  obtain ⟨id, session, slots, layout, active⟩ := w
  cases layout with
  | none => exact .inl rfl
  | some l =>
    cases l with
    | leaf p =>
      by_cases hp : p = target
      · have he : .lastPane = error := by simpa [killPane, hp] using h
        exact .inr ⟨he.symm, by simp [hp], by simp [killPane, hp]⟩
      · exact .inl (by simp [killPane, hp])
    | split d ratio left right =>
      cases hfound : (LayoutNode.collapse target (.split d ratio left right)).2 with
      | true => simp [killPane, hfound] at h
      | false =>
        have hsame := LayoutNode.collapse_of_not_found hfound
        exact .inl (by simp [killPane, hsame])

/-- What a failed operation may have done: the kill of a window's only leaf takes the tree
away and still reports an error. -/
def FailedKill (r : Registry) (op : RegistryOp) (error : OpError) : Prop :=
  ∃ w target W, op = .killPane w target ∧ error = .layout .lastPane ∧
    r.windows.get w = some W ∧ W.layout = some (.leaf target) ∧
    r.next op = { r with windows := r.windows.modify w fun _ => { W with layout := none } }

theorem next_of_error {error : OpError} (h : (r.apply op).2 = .error error) :
    r.next op = r ∨ FailedKill r op error := by
  have he := apply_effect r op
  rw [h] at he
  unfold next
  generalize hr' : (r.apply op).1 = r' at he
  generalize hresult : (.error error : Except OpError Unit) = result at he
  cases he with
  | idle => exact .inl rfl
  | @split w W target newPane dir ratio hW =>
    refine .inl (editWindow_unchanged fun W' hW' => ?_)
    rw [hW] at hW'
    cases hW'
    cases hsplit : (W.split target newPane dir ratio).2 with
    | error e =>
      unfold Window.split at hsplit ⊢
      repeat' split
      all_goals simp_all
    | ok u => simp [hsplit, Except.mapError] at hresult
  | @killPane w W target hW =>
    cases hkill : (W.killPane target).2 with
    | ok u => simp [hkill, Except.mapError] at hresult
    | error e =>
      rcases Window.killPane_error hkill with hsame | ⟨rfl, hleaf, hgone⟩
      · refine .inl (editWindow_unchanged fun W' hW' => ?_)
        rw [hW] at hW'
        cases hW'
        exact hsame
      · have herror : error = .layout .lastPane := by simpa [hkill, Except.mapError] using hresult
        refine .inr ⟨w, target, W, rfl, herror, hW, hleaf, ?_⟩
        simp [next, apply, editWindow, hW, hgone]
  | _ => cases hresult

structure WellLinked (r : Registry) : Prop where
  slots : ∀ w W, r.windows.get w = some W → W.slots.Nodup ∧ ∀ id ∈ W.slots,
    ∃ t, r.resources.get id = some t ∧ t.kind = .terminal ∧ t.window = some w
  active : ∀ w W, r.windows.get w = some W → Focused W.active W.slots
  listed : ∀ w W, r.windows.get w = some W →
    ∃ S, r.sessions.get W.session = some S ∧ S.windows.count w = 1 ∧
      ∀ s S', r.sessions.get s = some S' → w ∈ S'.windows → s = W.session
  parent : ∀ id t, r.resources.get id = some t → t.kind = .agentSession →
    ∃ p T, t.parent = some p ∧ r.resources.get p = some T ∧ T.kind = .terminal

theorem Placed.wellLinked (hp : Placed r) (hl : Listed r) : WellLinked r where
  slots w W hW := ⟨hp.nodup hW, fun id hmem => hp.live hW hmem⟩
  active w W hW := hp.focused hW
  listed w W hW := by
    obtain ⟨S, hS, hmem⟩ := hl.listed hW
    refine ⟨S, hS, List.count_eq_one_of_mem (hl.nodup hS) hmem, ?_⟩
    intro s S' hS' hmem'
    obtain ⟨W', hW', hsession⟩ := hl.owned hS' hmem'
    rw [hW] at hW'
    cases hW'
    exact hsession.symm
  parent id t ht hkind := (hp.agent ht hkind).2

/-- Every sequence of operations leaves the registry linked, a failed one changes nothing
but for the kill of an only leaf, and while no edit goes past the registry to a window's
tree, the trees tile the slots. -/
theorem registry_wellFormed (ops : List RegistryOp) : WellLinked (after ops) ∧
      (∀ op error, ((after ops).apply op).2 = .error error →
        (after ops).next op = after ops ∨ FailedKill (after ops) op error) ∧
      (Machine.EveryStep Registry.next Quiet .new ops → Tiled (after ops)) := by
  obtain ⟨hp, hl⟩ := after_linked ops
  exact ⟨hp.wellLinked hl, fun op error => next_of_error, after_tiled⟩

def onePane : List RegistryOp := [.newSession "main" 0, .newWindow ⟨0, 1⟩, .newTerminal ⟨0, 1⟩]

/-- Two terminals side by side, the second then closed, a kill of a pane that is not there
refused on the way. -/
theorem registry_wellFormed_two_panes :
    WellLinked (after (onePane ++ [.newTerminal ⟨0, 1⟩, .killPane ⟨0, 1⟩ ⟨9, 1⟩,
        .removeResource ⟨1, 1⟩])) ∧
      Tiled (after (onePane ++ [.newTerminal ⟨0, 1⟩, .killPane ⟨0, 1⟩ ⟨9, 1⟩,
        .removeResource ⟨1, 1⟩])) := by
  have h := registry_wellFormed (onePane ++ [.newTerminal ⟨0, 1⟩, .killPane ⟨0, 1⟩ ⟨9, 1⟩,
    .removeResource ⟨1, 1⟩])
  refine ⟨h.1, h.2.2 ⟨?_, ?_, ?_, ?_, ?_, ?_, trivial⟩⟩
  all_goals first
    | exact fun hedit => hedit.elim
    | exact fun _ => rfl

/-- A split made on the window alone leaves a leaf without a slot, and the kill of the only
leaf fails and still takes the tree. -/
theorem tree_edits_untile :
    ¬Tiled (after (onePane ++ [.split ⟨0, 1⟩ ⟨0, 1⟩ ⟨1, 1⟩ .horizontal .half])) ∧
      ((after onePane).apply (.killPane ⟨0, 1⟩ ⟨0, 1⟩)).2 = .error (.layout .lastPane) ∧
      (after onePane).next (.killPane ⟨0, 1⟩ ⟨0, 1⟩) ≠ after onePane := by
  refine ⟨fun h => ?_, rfl, fun h => ?_⟩
  · have hperm := (h ⟨0, 1⟩ _ rfl).leaves _ rfl
    exact absurd hperm.length_eq (by decide)
  · have hlayout := congrArg (fun r => (r.windows.get ⟨0, 1⟩).map Window.layout) h
    exact absurd hlayout (by decide)

end Phux.Core
