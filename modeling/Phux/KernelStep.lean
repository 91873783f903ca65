import Phux.TerminalMoves

/-! What one call can do to a resource: to its terminal, to its agent session
stream and to what the kernel knows of its kind. -/

namespace Phux

open ByteReader

variable {R ε : Type}

inductive StreamStep (json : JsonCodec) (t : ResourceId) (call : KernelCall) :
    AgentStream → AgentStream → Prop
  | keep (s : AgentStream) : StreamStep json t call s s
  | declare (s : AgentStream) (parent : Option ResourceId) (state declared : AgentSessionState) :
      StreamStep json t call s { s with parent, state, declared }
  | stage (s : AgentStream) (g : GenerationId) (profile : BootstrapStreamProfile)
      (geometry : CanonicalGeometry) (baseSeq : UInt64)
      (hcall : call = .update (.bootstrapBegin t g profile geometry baseSeq))
      (hlive : s.retired g = none)
      (hpublished : holdsGeneration AgentGeneration.key s.published g = false)
      (hfresh : holdsGeneration AgentStaging.key s.staging g = false) :
      StreamStep json t call s { s with
        staging := some ⟨g.key t profile, baseSeq, some 0, []⟩
        retired := match s.staging with
          | none => s.retired
          | some old => supersede s.retired (generationOf old.key) old.baseSeq }
  | chunk (s : AgentStream) (old : AgentStaging) (seq : UInt32) (payload : Bytes)
      (records : List AgentEventRecord)
      (hcall : call = .update (.bootstrapChunk t (generationOf old.key) seq payload))
      (hold : s.staging = some old) (hparse : parseRecords json payload = .ok records) :
      StreamStep json t call s { s with
        staging := some { old with
          records := old.records ++ records
          nextChunkSeq := checkedNext32 seq } }
  | publish (s : AgentStream) (old : AgentStaging) (cursor : Option Bytes)
      (hcall : call = .update (.bootstrapReady t (generationOf old.key) cursor))
      (hold : s.staging = some old) :
      StreamStep json t call s {
        SessionKernel.foldRecords { s with state := s.declared, log := s.log.clear } old.records with
        staging := none
        published := some ⟨old.key, old.baseSeq, checkedNext64 old.baseSeq⟩
        retired := match s.published with
          | none => s.retired
          | some old =>
            retireOnce s.retired (generationOf old.key) ⟨.explicitReattach, old.lastSeq⟩ }
  | output (s : AgentStream) (old : AgentGeneration) (seq : UInt64) (payload : Bytes)
      (records : List AgentEventRecord)
      (hcall : call = .update (.resourceOutput t (generationOf old.key) seq payload))
      (hold : s.published = some old) (hparse : parseRecords json payload = .ok records) :
      StreamStep json t call s {
        SessionKernel.foldRecords s records with
        published := some { old with lastSeq := seq, nextSeq := checkedNext64 seq } }
  | retire (s : AgentStream) (g : GenerationId) (record : TombstoneRecord)
      (hlive : s.retired g = none) :
      StreamStep json t call s { s with
        staging := if holdsGeneration AgentStaging.key s.staging g then none else s.staging
        published := if holdsGeneration AgentGeneration.key s.published g then none
          else s.published
        retired := s.retired.insert g record }
  | tombstone (s : AgentStream) (g : GenerationId) (record : TombstoneRecord)
      (hcall : call = .update (.tombstone t g record)) :
      StreamStep json t call s { s with
        retired := retireOnce s.retired g record
        staging := if holdsGeneration AgentStaging.key s.staging g then none else s.staging }

def KernelCall.namesAgent (t : ResourceId) : KernelCall → Bool
  | update (.bootstrapBegin u _ profile _ _) => u = t && isAgentProfile profile
  | update (.agentSessionDeclared declaration) => declaration.terminalId = t
  | _ => false

structure SessionKernel.OpensAgent (k : SessionKernel R) (call : KernelCall) (t : ResourceId) :
    Prop where
  names : call.namesAgent t = true
  isOpen : t ∉ k.closed
  kind : k.kinds t = none ∨ k.kinds t = some .agentSession
  unseen : k.agents t = none

/-- What a call does to a resource's stream, which it may be the first to open. -/
inductive AgentStep (opens : Prop) (json : JsonCodec) (t : ResourceId) (call : KernelCall)
    (kind : Option ResourceKind) : Option AgentStream → Option AgentStream → Prop
  | keep (s : Option AgentStream) : AgentStep opens json t call kind s s
  | first (s : AgentStream) (hopens : opens) (hkind : kind = some .agentSession)
      (hstep : StreamStep json t call .fresh s) : AgentStep opens json t call kind none (some s)
  | step (s s' : AgentStream) (hstep : StreamStep json t call s s') :
      AgentStep opens json t call kind (some s) (some s')

def Informed (old new : Option ResourceKind) : Prop :=
  new = old ∨ old = none ∧ ∃ kind, new = some kind

namespace Informed

variable {old mid new : Option ResourceKind}

theorem trans (h : Informed old mid) (h' : Informed mid new) : Informed old new := by
  rcases h with rfl | ⟨rfl, kind, rfl⟩
  · exact h'
  · rcases h' with rfl | ⟨h, _⟩
    · exact .inr ⟨rfl, kind, rfl⟩
    · cases h

end Informed

def SessionKernel.drops (k : SessionKernel R) (t : ResourceId) : KernelCall → Bool
  | .update (.resourceClosed u) => u = t
  | .releaseTerminal u => u = t && (k.releaseTerminal u).2
  | .detachTerminal u => u = t && (k.detachTerminal u).2
  | _ => false

inductive ResourceStep (host : KernelHost R ε) (call : KernelCall) (t : ResourceId)
    (k k' : SessionKernel R) : Prop
  | gone (hcall : k.drops t call = true) (hterminal : k'.terminal t = .default)
      (hagent : k'.agents t = none) (hkind : k'.kinds t = k.kinds t ∨ k'.kinds t = none)
  | live {m : AttachMark}
      (hterminal : TerminalStep host.adapter k.historyConfig t call (k'.kinds t) (k.terminal t) m
        (k'.terminal t))
      (hagent : AgentStep (k.OpensAgent call t) host.json t call (k'.kinds t) (k.agents t)
        (k'.agents t))
      (hkind : Informed (k.kinds t) (k'.kinds t))

structure KernelStep (host : KernelHost R ε) (call : KernelCall) (k k' : SessionKernel R) :
    Prop where
  resource : ∀ t, ResourceStep host call t k k'
  closed : ∀ t, k.drops t call = false → (t ∈ k'.closed ↔ t ∈ k.closed)
  selected : k'.selectedProfile = k.selectedProfile
  config : k'.historyConfig = k.historyConfig
  attach : call.marks = false → k'.attach = k.attach

structure Informs (k k' : SessionKernel R) : Prop where
  terminal : ∀ u, k'.terminal u = k.terminal u
  agents : k'.agents = k.agents
  kinds : ∀ u, Informed (k.kinds u) (k'.kinds u)
  closed : k'.closed = k.closed
  selected : k'.selectedProfile = k.selectedProfile
  config : k'.historyConfig = k.historyConfig

namespace Informs

variable {k k₁ k' : SessionKernel R}

theorem of_same (hterminal : ∀ t, k'.terminal t = k.terminal t) (hagents : k'.agents = k.agents)
    (hkinds : k'.kinds = k.kinds) (hclosed : k'.closed = k.closed)
    (hselected : k'.selectedProfile = k.selectedProfile)
    (hconfig : k'.historyConfig = k.historyConfig) : Informs k k' :=
  ⟨hterminal, hagents, fun u => .inl (congrFun hkinds u), hclosed, hselected, hconfig⟩

theorem refl (k : SessionKernel R) : Informs k k := of_same (fun _ => rfl) rfl rfl rfl rfl rfl

theorem attach (k : SessionKernel R) (attach : Option AttachState) : Informs k { k with attach } :=
  of_same (fun _ => rfl) rfl rfl rfl rfl rfl

theorem trans (h : Informs k k₁) (h' : Informs k₁ k') : Informs k k' where
  terminal := fun u => (h'.terminal u).trans (h.terminal u)
  agents := h'.agents.trans h.agents
  kinds := fun u => (h.kinds u).trans (h'.kinds u)
  closed := h'.closed.trans h.closed
  selected := h'.selected.trans h.selected
  config := h'.config.trans h.config

theorem kernelStep {host : KernelHost R ε} {call : KernelCall} (h : Informs k k')
    (hattach : call.marks = false → k'.attach = k.attach) : KernelStep host call k k' := by
  refine ⟨fun u => .live (m := .same) ?_ ?_ (h.kinds u), fun u _ => by rw [h.closed], h.selected,
    h.config, hattach⟩
  · rw [h.terminal u]
    exact .keep _
  · rw [h.agents]
    exact .keep _

end Informs

theorem KernelStep.refl (host : KernelHost R ε) (call : KernelCall) (k : SessionKernel R) :
    KernelStep host call k k :=
  (Informs.refl k).kernelStep fun _ => rfl

structure Learns (t : ResourceId) (kind : ResourceKind) (k k' : SessionKernel R) : Prop where
  before : k.kinds t = none ∨ k.kinds t = some kind
  now : k'.kinds t = some kind
  others : ∀ u, u ≠ t → k'.kinds u = k.kinds u
  terminals : k'.terminals = k.terminals
  agents : k'.agents = k.agents
  closed : k'.closed = k.closed
  attach : k'.attach = k.attach
  selected : k'.selectedProfile = k.selectedProfile
  config : k'.historyConfig = k.historyConfig

namespace SessionKernel

variable {t : ResourceId} {k k' : SessionKernel R}

theorem expectKind_learns {kind : ResourceKind}
    (h : (k.expectKind t kind : Except (KernelError ε) _) = .ok k') : Learns t kind k k' := by
  unfold expectKind at h
  cases hk : k.kinds t with
  | none =>
    simp only [hk] at h
    cases h
    exact ⟨.inl hk, Table.insert_self .., fun u hu => Table.insert_of_ne hu .., rfl, rfl, rfl, rfl, rfl,
      rfl⟩
  | some declared =>
    by_cases hd : declared = kind
    · simp only [hk, hd, ne_eq, not_true_eq_false, ↓reduceIte] at h
      cases h
      exact ⟨.inr (by rw [hk, hd]), by rw [hk, hd], fun _ _ => rfl, rfl, rfl, rfl, rfl, rfl, rfl⟩
    · simp [hk, hd] at h

end SessionKernel

namespace Learns

variable {t : ResourceId} {kind : ResourceKind} {k k' : SessionKernel R}

theorem informed (h : Learns t kind k k') (u : ResourceId) : Informed (k.kinds u) (k'.kinds u) := by
  by_cases hu : u = t
  · subst hu
    rcases h.before with hb | hb
    · exact .inr ⟨hb, kind, h.now⟩
    · exact .inl (h.now.trans hb.symm)
  · exact .inl (h.others u hu)

theorem informs (h : Learns t kind k k') : Informs k k' where
  terminal := fun u => by simp [SessionKernel.terminal, h.terminals]
  agents := h.agents
  kinds := h.informed
  closed := h.closed
  selected := h.selected
  config := h.config

end Learns

variable {E : EngineAdapter R ε}

theorem TerminalMove.terminalStep {t : ResourceId} {call : KernelCall}
    {k k' : SessionKernel R} (h : TerminalMove E t call k k') (u : ResourceId) :
    ∃ m, TerminalStep E k.historyConfig u call (k'.kinds u) (k.terminal u) m (k'.terminal u) := by
  by_cases hu : u = t
  · subst hu
    obtain ⟨m, hstep, -⟩ := h.here
    rw [h.kinds]
    exact ⟨m, hstep⟩
  · rw [h.others u hu]
    exact ⟨.same, .keep _⟩

variable {host : KernelHost R ε}

theorem TerminalMove.kernelStep {t : ResourceId} {call : KernelCall}
    {k k' : SessionKernel R} (h : TerminalMove host.adapter t call k k') :
    KernelStep host call k k' := by
  refine ⟨fun u => ?_, fun u _ => by rw [h.closed], h.selected, h.config, h.attach⟩
  obtain ⟨m, hterminal⟩ := h.terminalStep u
  refine .live hterminal ?_ (.inl (congrFun h.kinds u))
  rw [h.agents]
  exact .keep _

/-- A call's effect on the kernel when it acts on one agent session, whose kind
it may be the first to learn. -/
structure AgentMove (json : JsonCodec) (t : ResourceId) (call : KernelCall)
    (k k' : SessionKernel R) : Prop where
  here : AgentStep (k.OpensAgent call t) json t call (k'.kinds t) (k.agents t) (k'.agents t)
  others : ∀ u, u ≠ t → k'.agents u = k.agents u
  terminals : k'.terminals = k.terminals
  kinds : ∀ u, Informed (k.kinds u) (k'.kinds u)
  closed : k'.closed = k.closed
  selected : k'.selectedProfile = k.selectedProfile
  config : k'.historyConfig = k.historyConfig
  attach : k'.attach = k.attach ∨ call.marks = true ∧ k'.attach = (k.markAttachResolved t).attach

namespace AgentMove

variable {json : JsonCodec} {t : ResourceId} {call : KernelCall} {k k₁ k' : SessionKernel R}

theorem refl (json : JsonCodec) (t : ResourceId) (call : KernelCall) (k : SessionKernel R) :
    AgentMove json t call k k :=
  ⟨.keep _, fun _ _ => rfl, rfl, fun _ => .inl rfl, rfl, rfl, rfl, .inl rfl⟩

theorem step {s s' : AgentStream} (hs : k.agents t = some s) (h : StreamStep json t call s s') :
    AgentMove json t call k (k.setAgent t s') where
  here := by
    rw [hs, show (k.setAgent t s').agents t = some s' from Table.insert_self ..]
    exact .step s s' h
  others := fun _ hu => Table.insert_of_ne hu ..
  terminals := rfl
  kinds := fun _ => .inl rfl
  closed := rfl
  selected := rfl
  config := rfl
  attach := .inl rfl

theorem open_step (h : Learns t .agentSession k k₁) (hopen : t ∉ k.closed)
    (hnames : call.namesAgent t = true) {s' : AgentStream}
    (hstep : StreamStep json t call ((k₁.agents t).getD .fresh) s') :
    AgentMove json t call k (k₁.setAgent t s') where
  here := by
    rw [show (k₁.setAgent t s').agents t = some s' from Table.insert_self ..]
    rw [h.agents] at hstep
    cases hs : k.agents t with
    | none =>
      rw [hs] at hstep
      exact .first s' ⟨hnames, hopen, h.before, hs⟩ h.now hstep
    | some s =>
      rw [hs] at hstep
      exact .step s s' hstep
  others := fun u hu => (Table.insert_of_ne hu).trans (congrFun h.agents u)
  terminals := h.terminals
  kinds := h.informed
  closed := h.closed
  selected := h.selected
  config := h.config
  attach := .inl h.attach

theorem resolve {s s' : AgentStream} (hs : k.agents t = some s) (h : StreamStep json t call s s')
    (hmarks : call.marks = true) : AgentMove json t call k ((k.setAgent t s').markAttachResolved t) :=
  { step hs h with attach := .inr ⟨hmarks, rfl⟩ }

theorem kernelStep (h : AgentMove host.json t call k k') : KernelStep host call k k' := by
  refine ⟨fun u => .live (m := .same) ?_ ?_ (h.kinds u), fun u _ => by rw [h.closed], h.selected,
    h.config, fun hmarks => h.attach.resolve_right (by simp [hmarks])⟩
  · rw [show k'.terminal u = k.terminal u by simp [SessionKernel.terminal, h.terminals]]
    exact .keep _
  · by_cases hu : u = t
    · subst hu
      exact h.here
    · rw [h.others u hu]
      exact .keep _

theorem require {α : Type} {check : Except (KernelError ε) α} {next : α → Outcome R ε}
    (h : ∀ a, check = .ok a → AgentMove json t call k (next a).kernel) :
    AgentMove json t call k (k.require check next).kernel :=
  SessionKernel.require_cases (p := fun o => AgentMove json t call k o.kernel)
    (fun _ => .refl _ _ _ _) h

end AgentMove

namespace SessionKernel

variable {json : JsonCodec} {t : ResourceId} {call : KernelCall} {k k' : SessionKernel R}

theorem setAgent_setAgent (k : SessionKernel R) (t : ResourceId) (s s' : AgentStream) :
    (k.setAgent t s).setAgent t s' = k.setAgent t s' := by
  simp [setAgent, Table.insert]

variable {s : AgentStream}

theorem knownAgent_eq_ok :
    (k.knownAgent t : Except (KernelError ε) AgentStream) = .ok s ↔ k.agents t = some s := by
  unfold knownAgent
  cases k.agents t <;> simp

variable {g : GenerationId}

theorem liveAgent_eq_ok (h : (k.liveAgent t g : Except (KernelError ε) AgentStream) = .ok s) :
    k.agents t = some s ∧ s.retired g = none := by
  simp only [liveAgent, Fallible.bind_eq_ok, Fallible.pure_eq_ok, knownAgent_eq_ok,
    ensureLive_eq_ok] at h
  obtain ⟨_, _, _, hs, _, hlive, rfl⟩ := h
  exact ⟨hs, hlive⟩

theorem agentBootstrapChunk_move {seq : UInt32} {payload : Bytes} :
    AgentMove json t (.update (.bootstrapChunk t g seq payload)) k
      (k.agentBootstrapChunk json t g seq payload : Outcome R ε).kernel := by
  refine .require fun s hok => ?_
  obtain ⟨hs, hlive⟩ := liveAgent_eq_ok hok
  refine .require fun staging hstaging => ?_
  obtain ⟨hheld, rfl⟩ := ofGeneration_eq_ok.mp hstaging
  refine .require fun _ _ => ?_
  cases hparse : parseRecords json payload with
  | error error => exact .step hs (.retire s _ _ hlive)
  | ok records => exact .step hs (.chunk s staging seq payload records rfl hheld hparse)

theorem agentBootstrapReady_move (g : GenerationId) (cursor : Option Bytes) :
    AgentMove json t (.update (.bootstrapReady t g cursor)) k
      (k.agentBootstrapReady t g : Outcome R ε).kernel := by
  refine .require fun s hok => ?_
  obtain ⟨hs, _⟩ := liveAgent_eq_ok hok
  refine .require fun staging hstaging => ?_
  obtain ⟨hheld, rfl⟩ := ofGeneration_eq_ok.mp hstaging
  exact .resolve hs (.publish s staging cursor rfl hheld) rfl

theorem agentOutput_move (g : GenerationId) (seq : UInt64) (payload : Bytes) :
    AgentMove json t (.update (.resourceOutput t g seq payload)) k
      (k.agentOutput json t g seq payload : Outcome R ε).kernel := by
  refine .require fun s hok => ?_
  obtain ⟨hs, hlive⟩ := liveAgent_eq_ok hok
  refine .require fun published hpublished => ?_
  obtain ⟨hheld, rfl⟩ := ofGeneration_eq_ok.mp hpublished
  refine .require fun _ _ => ?_
  cases hparse : parseRecords json payload with
  | error error => exact .step hs (.retire s _ _ hlive)
  | ok records =>
    refine .require fun _ _ => ?_
    exact .step hs (.output s published seq payload records rfl hheld hparse)

theorem tombstoneGeneration_move (hs : k.agents t = none) {record : TombstoneRecord} :
    TerminalMove E t (.update (.tombstone t g record)) k (k.tombstoneGeneration t g record) := by
  simp only [tombstoneGeneration, hs]
  split
  · rename_i hheld
    exact .mark (.tombstone (k.terminal t) g record rfl (if_pos hheld).symm)
  · rename_i hheld
    exact .set (.tombstone (k.terminal t) g record rfl (if_neg hheld).symm)

theorem erase_step (hcall : k.drops t call = true)
    (hterminals : k'.terminals = k.terminals.erase t) (hagents : k'.agents = k.agents.erase t)
    (hkinds : k'.kinds = k.kinds ∨ k'.kinds = k.kinds.erase t)
    (hclosed : ∀ u, u ≠ t → (u ∈ k'.closed ↔ u ∈ k.closed))
    (hselected : k'.selectedProfile = k.selectedProfile)
    (hconfig : k'.historyConfig = k.historyConfig)
    (hattach : call.marks = false → k'.attach = k.attach) : KernelStep host call k k' := by
  refine ⟨fun u => ?_, fun u hkept => hclosed u ?_, hselected, hconfig, hattach⟩
  rotate_left
  · rintro rfl
    rw [hcall] at hkept
    cases hkept
  by_cases hu : u = t
  · subst hu
    refine .gone hcall (by simp [terminal, hterminals]) (by simp [hagents]) ?_
    rcases hkinds with h | h
    · exact .inl (congrFun h u)
    · exact .inr (by simp [h])
  · refine .live (m := .same) ?_ ?_ ?_
    · rw [show k'.terminal u = k.terminal u by simp [terminal, hterminals, hu]]
      exact .keep _
    · rw [hagents, Table.erase_of_ne hu]
      exact .keep _
    · rcases hkinds with h | h
      · exact .inl (congrFun h u)
      · exact .inl (by simp [h, hu])

theorem mem_erase_of_ne {closed : Finset ResourceId} {u : ResourceId} (hu : u ≠ t) :
    u ∈ closed.erase t ↔ u ∈ closed :=
  Finset.mem_erase.trans (and_iff_right hu)

theorem releaseTerminal_cases :
    k.releaseTerminal t = (k, false) ∨ k.releaseTerminal t = ({ k with
        terminals := k.terminals.erase t
        agents := k.agents.erase t
        kinds := k.kinds.erase t
        closed := k.closed.erase t }, true) := by
  unfold releaseTerminal
  split
  · exact .inl rfl
  · exact .inr rfl

theorem detachTerminal_step (host : KernelHost R ε) :
    KernelStep host (.detachTerminal t) k (k.detachTerminal t).1 := by
  cases hattach : k.attach with
  | none =>
    have hdetach : k.detachTerminal t = k.releaseTerminal t := by simp [detachTerminal, hattach]
    rcases releaseTerminal_cases with h | h
    · rw [hdetach, h]
      exact .refl _ _ _
    · have hcall : k.drops t (.detachTerminal t) = true := by simp [drops, hdetach, h]
      rw [hdetach, h]
      exact erase_step hcall rfl rfl (.inr rfl) (fun _ => mem_erase_of_ne) rfl rfl fun h => by cases h
  | some attach =>
    by_cases hreleased : attach.released = true
    · have hdetach : k.detachTerminal t =
          { k with
            attach := some { attach with
              terminals := attach.terminals.filter fun p => p.terminalId ≠ t } :
            SessionKernel R }.releaseTerminal t := by
        simp [detachTerminal, hattach, hreleased]
      rcases releaseTerminal_cases with h | h
      · rw [hdetach, h]
        exact (Informs.attach k _).kernelStep fun h => by cases h
      · have hcall : k.drops t (.detachTerminal t) = true := by simp only [drops, hdetach, h]; simp
        rw [hdetach, h]
        exact erase_step hcall rfl rfl (.inr rfl) (fun _ => mem_erase_of_ne) rfl rfl fun h => by cases h
    · have hdetach : k.detachTerminal t = (k, false) := by simp [detachTerminal, hattach, hreleased]
      rw [hdetach]
      exact .refl _ _ _

theorem checkInventory_ok {before ts : List ResourceId}
    (h : (k.checkInventory before ts : Except (KernelError ε) Unit) = .ok ()) :
    (∀ t ∈ ts, t ∉ k.closed ∧ t ∉ before) ∧ ts.Nodup := by
  induction ts generalizing before with
  | nil => exact ⟨fun _ ht => absurd ht List.not_mem_nil, List.nodup_nil⟩
  | cons t ts ih =>
    unfold checkInventory at h
    by_cases hclosed : t ∈ k.closed
    · rw [if_pos hclosed] at h
      cases h
    · by_cases hbefore : t ∈ before
      · rw [if_neg hclosed, if_pos hbefore] at h
        cases h
      · rw [if_neg hclosed, if_neg hbefore] at h
        obtain ⟨hopen, hnodup⟩ := ih h
        refine ⟨List.forall_mem_cons.mpr ⟨⟨hclosed, hbefore⟩, fun u hu => ?_⟩,
          List.nodup_cons.mpr ⟨fun ht => ?_, hnodup⟩⟩
        · exact ⟨(hopen u hu).1, fun hin => (hopen u hu).2 (List.mem_append_left _ hin)⟩
        · exact (hopen t ht).2 (List.mem_append_right _ (List.mem_singleton_self t))

variable (ts : List ResourceId)

theorem expectTerminals_informs (k : SessionKernel R) :
    Informs k (k.expectTerminals ts : _ × Except (KernelError ε) Unit).1 := by
  induction ts generalizing k with
  | nil => exact .refl k
  | cons t ts ih =>
    unfold expectTerminals
    cases hkind : (k.expectKind t .terminal : Except (KernelError ε) _) with
    | error error => exact .refl k
    | ok k₁ => exact (expectKind_learns hkind).informs.trans (ih k₁)

theorem openTerminals_informs (k : SessionKernel R) : Informs k (k.openTerminals ts) := by
  induction ts generalizing k with
  | nil => exact .refl k
  | cons t ts ih =>
    have hopen : Informs k (k.setTerminal t ((k.terminals t).getD .default)) := by
      refine .of_same (fun u => ?_) rfl rfl rfl rfl rfl
      by_cases hu : u = t
      · subst hu
        exact terminal_setTerminal_self ..
      · exact terminal_setTerminal_of_ne hu _
    exact hopen.trans (ih _)

theorem attachStarted_step {attachId : UInt32} {ts : List ResourceId} :
    KernelStep host (.update (.attachStarted attachId ts)) k
      (k.attachStarted attachId ts : Outcome R ε).kernel := by
  unfold attachStarted
  split
  · exact .refl _ _ _
  refine require_cases (p := fun o => KernelStep host _ k o.kernel)
    (fun _ => .refl _ _ _) fun _ _ => ?_
  have hinforms := @expectTerminals_informs R ε ts k
  rcases hexpect : (k.expectTerminals ts : _ × Except (KernelError ε) Unit) with ⟨k₁, _ | _⟩
  · rw [hexpect] at hinforms
    exact hinforms.kernelStep fun h => by cases h
  · rw [hexpect] at hinforms
    have hopen := hinforms.trans (openTerminals_informs ts k₁)
    exact (hopen.trans (.attach _ _)).kernelStep fun h => by cases h

theorem update_step {input : KernelInput} :
    KernelStep host (.update input) k (k.update host input).kernel := by
  cases input with
  | attachStarted attachId ts => exact attachStarted_step
  | attachReady attachId =>
    simp only [update, attachReady]
    cases k.attach with
    | none => exact .refl _ _ _
    | some attach =>
      dsimp only
      split
      · exact .refl _ _ _
      split
      · exact .refl _ _ _
      split
      · exact .refl _ _ _
      · exact (Informs.attach k _).kernelStep fun h => by cases h
  | bootstrapBegin t g profile geometry baseSeq =>
    simp only [update]
    split
    · rename_i hprofile
      refine AgentMove.kernelStep (t := t) (.require fun _ hopen => .require fun k₁ hkind => ?_)
      have hmove := fun s' => @AgentMove.open_step _ host.json t
        (.update (.bootstrapBegin t g profile geometry baseSeq)) k k₁ (expectKind_learns hkind)
        (ensureOpen_eq_ok.mp hopen) (by simp [KernelCall.namesAgent, hprofile]) s'
      refine require_cases (p := fun o => AgentMove host.json t _ k o.kernel)
        (fun _ => hmove _ (.keep _)) fun _ hlive => ?_
      split
      · exact hmove _ (.keep _)
      · rename_i hheld
        simp only [Bool.or_eq_true, not_or, Bool.not_eq_true] at hheld
        rw [setAgent_setAgent]
        exact hmove _ (.stage _ g profile geometry baseSeq rfl (ensureLive_eq_ok.mp hlive)
          hheld.1 hheld.2)
    · refine require_cases (p := fun o => KernelStep host _ k o.kernel)
        (fun _ => .refl _ _ _) fun k₁ hkind => ?_
      have hlearn := expectKind_learns hkind
      have hmove := bootstrapBegin_move (E := host.adapter) hlearn.now g profile geometry baseSeq
      refine ⟨fun u => ?_, fun u _ => by rw [hmove.closed, hlearn.closed],
        hmove.selected.trans hlearn.selected, hmove.config.trans hlearn.config,
        fun hkeeps => (hmove.attach hkeeps).trans hlearn.attach⟩
      obtain ⟨m, hterminal⟩ := hmove.terminalStep u
      rw [hlearn.informs.terminal u, hlearn.config] at hterminal
      refine .live hterminal ?_ ?_
      · rw [hmove.agents, hlearn.agents]
        exact .keep _
      · rw [hmove.kinds]
        exact hlearn.informed u
  | bootstrapChunk t g seq payload =>
    simp only [update]
    split
    · exact agentBootstrapChunk_move.kernelStep
    · exact bootstrapChunk_move.kernelStep
  | bootstrapReady t g cursor =>
    simp only [update]
    split
    · exact (agentBootstrapReady_move g cursor).kernelStep
    · exact bootstrapReady_move.kernelStep
  | historyPage page => exact (historyPage_move host page).kernelStep
  | historyTombstone t g cursor reason => exact historyTombstone_move.kernelStep
  | historyRejected t g cursor reason bytes rows => exact historyRejected_move.kernelStep
  | resourceOutput t g seq payload =>
    simp only [update]
    split
    · exact (agentOutput_move g seq payload).kernelStep
    · exact terminalOutput_move.kernelStep
  | tombstone t g record =>
    cases hs : k.agents t with
    | some s =>
      simp only [update, accept, tombstoneGeneration, hs]
      exact AgentMove.kernelStep (.step hs (.tombstone s g record rfl))
    | none => exact (tombstoneGeneration_move hs).kernelStep
  | resourceClosed t =>
    exact erase_step (t := t) (by simp [drops]) rfl rfl (.inl rfl)
      (fun _ hu => Finset.mem_insert.trans (or_iff_right hu)) rfl rfl fun h => by cases h
  | agentSessionDeclared declaration =>
    refine AgentMove.kernelStep (t := declaration.terminalId)
      (.require fun _ hopen => .require fun k₁ hkind => ?_)
    exact .open_step (expectKind_learns hkind) (ensureOpen_eq_ok.mp hopen)
      (by simp [KernelCall.namesAgent]) (.declare ..)
  | input t event =>
    simp only [update, action]
    split <;> exact .refl _ _ _

theorem after_step (host : KernelHost R ε) (k : SessionKernel R) (call : KernelCall) :
    KernelStep host call k (k.after host call) := by
  cases call with
  | update input => exact update_step
  | releaseActiveAttach => exact (Informs.attach k _).kernelStep fun h => by cases h
  | detachTerminal t => exact detachTerminal_step host
  | releaseTerminal t =>
    rw [after]
    rcases releaseTerminal_cases with h | h
    · rw [h]
      exact .refl _ _ _
    · have hcall : k.drops t (.releaseTerminal t) = true := by simp [drops, h]
      rw [h]
      exact erase_step hcall rfl rfl (.inr rfl) (fun _ => mem_erase_of_ne) rfl rfl fun _ => rfl
  | prefetchHistory t rows => exact (prefetchHistory_move rows).kernelStep
  | clearPresentation t => exact clearPresentation_move.kernelStep
  | projectHistory t width maxRows => exact projectHistory_move.kernelStep
  | trackDocumentAnchor t point => exact (trackDocumentAnchor_move point).kernelStep
  | pinHistoryViewport t anchor => exact (pinHistoryViewport_move anchor).kernelStep
  | followHistoryTail t => exact followHistoryTail_move.kernelStep
  | releaseDocumentAnchor t anchor => exact (releaseDocumentAnchor_move anchor).kernelStep
  | searchLoadedHistory t needle maxMatches => exact searchLoadedHistory_move.kernelStep

theorem drops_cases (hrelease : call ≠ .releaseTerminal t) (hdetach : call ≠ .detachTerminal t)
    (hdrops : k.drops t call = true) : call = .update (.resourceClosed t) := by
  unfold drops at hdrops
  split at hdrops
  · rw [of_decide_eq_true hdrops]
  · simp only [Bool.and_eq_true, decide_eq_true_eq] at hdrops
    rw [hdrops.1] at hrelease
    exact absurd rfl hrelease
  · simp only [Bool.and_eq_true, decide_eq_true_eq] at hdrops
    rw [hdrops.1] at hdetach
    exact absurd rfl hdetach
  · cases hdrops

theorem closed_after (hclosed : t ∈ k.closed)
    (hrelease : call ≠ .releaseTerminal t) (hdetach : call ≠ .detachTerminal t) :
    t ∈ (k.after host call).closed := by
  by_cases hdrops : k.drops t call = true
  · rw [drops_cases hrelease hdetach hdrops]
    exact Finset.mem_insert_self t k.closed
  · exact ((after_step host k call).closed t (by simpa using hdrops)).mpr hclosed

end SessionKernel

end Phux
