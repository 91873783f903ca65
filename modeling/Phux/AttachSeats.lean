import Phux.TombstoneDominance

/-! The participants of an attach: what a call does to each of them, and to the terminals
behind them. -/

namespace Phux

open KernelCall KernelInput TerminalState

variable {R ε : Type}
variable (E : EngineAdapter R ε)

namespace TerminalState

/-- There is a published replica, and its generation is not retired. -/
def live (s : TerminalState R) : Bool :=
  s.published.any fun replica => (s.retired (generationOf replica.key)).isNone

structure Stands (s s' : TerminalState R) : Prop where
  published : s'.published = none ↔ s.published = none
  live : s.live = true → s'.live = true

theorem Stands.refl (s : TerminalState R) : Stands s s := ⟨Iff.rfl, id⟩

variable {s : TerminalState R}

theorem live_iff : s.live = true ↔
    ∃ r, s.published = some r ∧ s.retired (generationOf r.key) = none := by
  simp [live, Option.any_eq_true]

theorem Stands.of_unretired {s' : TerminalState R} (hpublished : s'.published = s.published)
    (hretired : ∀ r, s.published = some r →
      s'.retired (generationOf r.key) = s.retired (generationOf r.key)) : Stands s s' := by
  refine ⟨by rw [hpublished], fun hlive => ?_⟩
  obtain ⟨r, hheld, hnone⟩ := live_iff.mp hlive
  exact live_iff.mpr ⟨r, hpublished.trans hheld, (hretired r hheld).trans hnone⟩

theorem ne_of_holds {g : GenerationId} {r : Replica R}
    (hg : holdsGeneration Replica.key s.published g = false) (hheld : s.published = some r) :
    generationOf r.key ≠ g := by
  rw [hheld] at hg
  exact holdsGeneration_some.mp hg

end TerminalState

/-- What a step does to what is published, by the mark it leaves. -/
inductive TerminalState.Shift (s s' : TerminalState R) : AttachMark → Prop
  | stands (h : s.Stands s') : Shift s s' .same
  | resolves (hlive : s'.live = true) : Shift s s' .resolve
  | loses (hbefore : s.published ≠ none) (hafter : s'.published = none) : Shift s s' .lose
  | freezes (hbefore : s.published ≠ none) (hafter : s'.published = s.published) :
      Shift s s' .freeze

variable {E}

theorem TerminalStep.shift {config : HistoryCacheConfig} {t : ResourceId}
    {call : KernelCall} {kind : Option ResourceKind} {s s' : TerminalState R} {m : AttachMark}
    (h : TerminalStep E config t call kind s m s') (hs : s.Sound) : s.Shift s' m := by
  cases h with
  | keep => exact .stands (.refl s)
  | refuse g record hlive hpublished hfresh =>
    refine .stands (.of_unretired rfl fun r hheld => ?_)
    exact Table.insert_of_ne (ne_of_holds hpublished hheld) ..
  | stage g profile geometry baseSeq engine hcall hkind hlive hpublished hfresh hstart =>
    refine .stands (.of_unretired rfl fun r hheld => ?_)
    dsimp only
    cases hold : s.staging with
    | none => rfl
    | some old => exact Table.insert_of_ne (ne_of_holds (hs old hold).2 hheld) ..
  | chunk | stall => exact .stands (.of_unretired rfl fun _ _ => rfl)
  | abandon old record hold hlive =>
    refine .stands (.of_unretired rfl fun r hheld => ?_)
    exact Table.insert_of_ne (ne_of_holds (hs old hold).2 hheld) ..
  | publish old new cursor hcall hold hready hkey =>
    obtain ⟨hlive, hother⟩ := hs old hold
    refine .resolves (live_iff.mpr ⟨new, rfl, ?_⟩)
    dsimp only
    rw [hkey]
    cases hpublished : s.published with
    | none => exact hlive
    | some r => exact (retireOnce_of_ne (ne_of_holds hother hpublished).symm).trans hlive
  | feed old new hold hfed =>
    refine .stands ⟨by simp [hold], fun hlive => ?_⟩
    obtain ⟨r, hheld, hnone⟩ := live_iff.mp hlive
    obtain rfl := Option.some.inj (hold.symm.trans hheld)
    exact live_iff.mpr ⟨new, rfl, by rw [hfed.key]; exact hnone⟩
  | lose old record seq payload hcall hold => exact .loses (by simp [hold]) rfl
  | tombstone g record hcall hmark =>
    by_cases hholds : holdsGeneration Replica.key s.published g = true
    · rw [hmark, if_pos hholds]
      refine .freezes (fun hnone => ?_) rfl
      rw [hnone] at hholds
      cases hholds
    · rw [hmark, if_neg hholds]
      refine .stands (.of_unretired rfl fun r hpublished => ?_)
      exact retireOnce_of_ne (ne_of_holds (by simpa using hholds) hpublished)

namespace SessionKernel

variable {host : KernelHost R ε} {t u : ResourceId} {call : KernelCall}
  {k k' : SessionKernel R} {p : AttachParticipant}

/-- The resource is where it was, as far as an attach is concerned. -/
structure Undisturbed (k k' : SessionKernel R) (t : ResourceId) : Prop where
  kind : k.kinds t = some .terminal → k'.kinds t = some .terminal
  closed : t ∈ k.closed → t ∈ k'.closed
  stands : (k.terminal t).Stands (k'.terminal t)

theorem Undisturbed.refl (k : SessionKernel R) (t : ResourceId) : Undisturbed k k t :=
  ⟨id, id, .refl _⟩

theorem Kept.undisturbed (hkept : k.Kept) (hstep : KernelStep host call k k')
    (hdrops : k.drops t call = false) (hshifts : call.shifts t = false) : Undisturbed k k' t := by
  rcases hstep.resource t with ⟨hgone, _⟩ | ⟨hterminal, _, hkind⟩
  · rw [hgone] at hdrops
    cases hdrops
  · have hshift := hterminal.shift (hkept.terminal t)
    rw [hterminal.mark_eq hshifts] at hshift
    cases hshift with
    | stands hstands => exact ⟨Informed.kept hkind, (hstep.closed t hdrops).mpr, hstands⟩

structure ParticipantSound (k : SessionKernel R) (p : AttachParticipant) : Prop where
  kind : k.kinds p.terminalId = some .terminal
  resolved : p.resolved = true →
    p.terminalId ∈ k.closed ∨ (k.terminal p.terminalId).live = true
  removal : p.pendingRemoval = true → (k.terminal p.terminalId).published = none

/-- What a call that keeps the attach does to a participant. A removal is pending after it
exactly when nothing is published any more and something was, or had been. -/
structure SeatStep (k k' : SessionKernel R) (p p' : AttachParticipant) : Prop where
  id : p'.terminalId = p.terminalId
  sound : ParticipantSound k' p'
  lost : k.attachBlocks p.terminalId = true →
    (p'.pendingRemoval = true ↔ (k'.terminal p.terminalId).published = none ∧
      (p.pendingRemoval = true ∨ (k.terminal p.terminalId).published ≠ none))

def Seated (k k' : SessionKernel R) : Prop :=
  ∃ f, k'.attach = k.attach.map (fun attach =>
      { attach with terminals := attach.terminals.map f }) ∧
    ∀ attach, k.attach = some attach → ∀ p ∈ attach.terminals, SeatStep k k' p (f p)

def Barrier (k : SessionKernel R) : Prop :=
  ∀ attach, k.attach = some attach →
    (attach.terminals.map AttachParticipant.terminalId).Nodup ∧
      ∀ p ∈ attach.terminals, ParticipantSound k p

theorem Undisturbed.seat (h : Undisturbed k k' p.terminalId) (hp : ParticipantSound k p) :
    SeatStep k k' p p where
  id := rfl
  sound := ⟨h.kind hp.kind, fun hr => (hp.resolved hr).imp h.closed h.stands.live,
    fun hr => h.stands.published.mpr (hp.removal hr)⟩
  lost := by
    intro _
    rw [h.stands.published]
    constructor
    · exact fun hr => ⟨hp.removal hr, .inl hr⟩
    · rintro ⟨hnone, hr | hsome⟩
      · exact hr
      · exact absurd hnone hsome

theorem Barrier.seated_of_same (hbarrier : k.Barrier) (hattach : k'.attach = k.attach)
    (h : ∀ attach, k.attach = some attach → ∀ p ∈ attach.terminals,
      Undisturbed k k' p.terminalId) : Seated k k' := by
  refine ⟨id, ?_, fun attach ha p hp => (h attach ha p hp).seat ((hbarrier attach ha).2 p hp)⟩
  rw [hattach]
  cases k.attach with
  | none => rfl
  | some attach => simp

variable {mark : AttachParticipant → AttachParticipant}

theorem replaceF_eq_map {ps : List AttachParticipant}
    (hnodup : (ps.map AttachParticipant.terminalId).Nodup) :
    ps.replaceF (fun p => if p.terminalId = t then some (mark p) else none) =
      ps.map fun p => if p.terminalId = t then mark p else p := by
  induction ps with
  | nil => rfl
  | cons p ps ih =>
    obtain ⟨hnot, hrest⟩ := List.nodup_cons.mp hnodup
    by_cases hp : p.terminalId = t
    · have hothers : ps.map (fun q => if q.terminalId = t then mark q else q) = ps.map id := by
        refine List.map_congr_left fun q hq => if_neg fun hqt => hnot ?_
        exact List.mem_map.mpr ⟨q, hq, hqt.trans hp.symm⟩
      simp [List.replaceF, hp, hothers]
    · simp [List.replaceF, hp, ih hrest]

theorem Barrier.seated_of_mark (hbarrier : k.Barrier)
    (hattach : k'.attach = (k.markAttach t mark).attach)
    (hothers : ∀ u, u ≠ t → k.kinds u = some .terminal → Undisturbed k k' u)
    (hmark : ∀ p, p.terminalId = t → ParticipantSound k p → SeatStep k k' p (mark p)) :
    Seated k k' := by
  have hmarked : (k.markAttach t mark).attach = k.attach.map fun attach => { attach with
      terminals := attach.terminals.map fun p => if p.terminalId = t then mark p else p } := by
    cases hattach : k.attach with
    | none => simp [markAttach, hattach]
    | some attach => simp [markAttach, hattach, replaceF_eq_map (hbarrier attach hattach).1]
  refine ⟨_, hattach.trans hmarked, fun attach ha p hp => ?_⟩
  have hsound := (hbarrier attach ha).2 p hp
  by_cases hpt : p.terminalId = t
  · rw [if_pos hpt]
    exact hmark p hpt hsound
  · rw [if_neg hpt]
    exact (hothers p.terminalId hpt hsound.kind).seat hsound

def KeepsAttach (k : SessionKernel R) (o : Outcome R ε) : Prop := o.kernel.attach = k.attach

theorem Barrier.seated_of_move (hbarrier : k.Barrier)
    (h : TerminalMove E t call k k') (hsound : (k.terminal t).Sound) : Seated k k' := by
  obtain ⟨m, hstep, hattach⟩ := h.here
  have hstays : ∀ u, (k.terminal u).Stands (k'.terminal u) → Undisturbed k k' u := fun u hstands =>
    ⟨by rw [h.kinds]; exact id, by rw [h.closed]; exact id, hstands⟩
  have hothers : ∀ u, u ≠ t → Undisturbed k k' u := fun u hu =>
    hstays u (by rw [h.others u hu]; exact .refl _)
  have hkind : ∀ {p}, ParticipantSound k p → k'.kinds p.terminalId = some .terminal := fun hp => by
    rw [h.kinds]
    exact hp.kind
  have hshift := hstep.shift hsound
  cases hshift with
  | stands hstands =>
    refine hbarrier.seated_of_same hattach fun attach _ p _ => ?_
    by_cases hpt : p.terminalId = t
    · exact hstays _ (hpt ▸ hstands)
    · exact hothers p.terminalId hpt
  | resolves hlive =>
    refine hbarrier.seated_of_mark hattach (fun u hu _ => hothers u hu) fun p hpt hp => ?_
    subst hpt
    obtain ⟨r, hheld, -⟩ := live_iff.mp hlive
    refine ⟨rfl, ⟨hkind (p := p) hp, fun _ => .inr hlive, fun h => ?_⟩, by simp [hheld]⟩
    exact absurd h Bool.false_ne_true
  | loses hbefore hafter =>
    refine hbarrier.seated_of_mark hattach (fun u hu _ => hothers u hu) fun p hpt hp => ?_
    subst hpt
    refine ⟨rfl, ⟨hkind (p := p) hp, fun h => ?_, fun _ => hafter⟩, fun hblocks => ?_⟩
    · exact absurd h Bool.false_ne_true
    · simp [hblocks, hafter, hbefore]
  | freezes hbefore hafter =>
    refine hbarrier.seated_of_mark hattach (fun u hu _ => hothers u hu) fun p hpt hp => ?_
    subst hpt
    refine ⟨rfl, ⟨hkind (p := p) hp, fun h => ?_, fun h => ?_⟩, fun _ => ?_⟩
    · exact absurd h Bool.false_ne_true
    · exact hafter.trans (hp.removal (by simpa using h))
    · have hnot : p.pendingRemoval = false := by
        by_contra hpending
        exact hbefore (hp.removal (by simpa using hpending))
      simp [hnot, hafter, hbefore]

theorem Kept.seated_of_agent {json : JsonCodec} {s : AgentStream} (hkept : k.Kept)
    (hbarrier : k.Barrier) (hs : k.agents t = some s) (h : AgentMove json t call k k') :
    Seated k k' := by
  have hstays : ∀ u, Undisturbed k k' u := by
    refine fun u => ⟨Informed.kept (h.kinds u), by rw [h.closed]; exact id, ?_⟩
    rw [show k'.terminal u = k.terminal u by simp [SessionKernel.terminal, h.terminals]]
    exact .refl _
  rcases h.attach with hattach | ⟨-, hattach⟩
  · exact hbarrier.seated_of_same hattach fun _ _ p _ => hstays p.terminalId
  · refine hbarrier.seated_of_mark hattach (fun u _ _ => hstays u) fun p hpt hp => ?_
    have hagent := hkept.agentKind _ _ (hpt ▸ hs)
    rw [hp.kind] at hagent
    cases hagent

end SessionKernel

def KernelInput.bounds : KernelInput → Bool
  | .attachStarted _ _ | .attachReady _ => true
  | _ => false

/-- The inputs that act on one terminal's replicas and may shift what is published. -/
def KernelInput.target : KernelInput → Option ResourceId
  | .bootstrapReady t _ _ | .resourceOutput t _ _ _ | .tombstone t _ _ | .resourceClosed t => some t
  | _ => none

namespace SessionKernel

variable {host : KernelHost R ε} {t u : ResourceId} {k : SessionKernel R} {input : KernelInput}

theorem Kept.undisturbed_by (hkept : k.Kept) (hu : input.target ≠ some u) :
    Undisturbed k (k.update host input).kernel u := by
  refine hkept.undisturbed (after_step host k (.update input)) ?_ ?_
  · cases input with
    | resourceClosed t => simpa [drops, target] using hu
    | _ => rfl
  · cases input with
    | bootstrapReady t g cursor | resourceOutput t g seq payload | tombstone t g record =>
      simpa [shifts, target] using hu
    | _ => rfl

theorem KeepsAttach.seated (h : KeepsAttach k (k.update host input)) (hkept : k.Kept)
    (hbarrier : k.Barrier) (htarget : input.target = none) : Seated k (k.update host input).kernel :=
  hbarrier.seated_of_same h fun _ _ _ _ => hkept.undisturbed_by (by simp [htarget])

theorem terminalClosed_seated (host : KernelHost R ε) (hkept : k.Kept) (hbarrier : k.Barrier)
    (t : ResourceId) : Seated k (k.update host (.resourceClosed t)).kernel := by
  refine hbarrier.seated_of_mark (t := t) rfl (fun u hu _ => hkept.undisturbed_by ?_)
    fun p hpt hp => ?_
  · simpa [target] using hu.symm
  · subst hpt
    have hafter : ((k.update host (.resourceClosed p.terminalId)).kernel.terminal
        p.terminalId).published = none := by
      simp [update, accept, terminalClosed, terminal, markAttachClosed, markAttach,
        TerminalState.default]
    refine ⟨rfl, ⟨hp.kind, fun _ => .inl (Finset.mem_insert_self _ _), fun _ => hafter⟩,
      fun hblocks => ?_⟩
    rw [hblocks, hafter, terminal]
    cases k.terminals p.terminalId <;> simp [TerminalState.default, Option.isSome_iff_ne_none]

theorem Kept.update_seated (hkept : k.Kept) (hbarrier : k.Barrier) (host : KernelHost R ε)
    (hbounds : input.bounds = false) : Seated k (k.update host input).kernel := by
  have hterminal : ∀ {t k'}, TerminalMove host.adapter t (.update input) k k' → Seated k k' :=
    fun h => hbarrier.seated_of_move h (hkept.terminal _)
  have hagent : ∀ {t k' s}, k.agents t = some s → AgentMove host.json t (.update input) k k' →
      Seated k k' := hkept.seated_of_agent hbarrier
  cases input with
  | attachStarted | attachReady => cases hbounds
  | bootstrapReady t g cursor =>
    cases hs : k.agents t with
    | none => simpa [update, hs] using hterminal bootstrapReady_move
    | some s => simpa [update, hs] using hagent hs (agentBootstrapReady_move (ε := ε) g cursor)
  | resourceOutput t g seq payload =>
    cases hs : k.agents t with
    | none => simpa [update, hs] using hterminal terminalOutput_move
    | some s => simpa [update, hs] using hagent hs (agentOutput_move (ε := ε) g seq payload)
  | tombstone t g record =>
    cases hs : k.agents t with
    | none => exact hterminal (tombstoneGeneration_move hs)
    | some s =>
      have hmove := hagent hs (.step hs (.tombstone s g record rfl))
      simpa [update, accept, tombstoneGeneration, hs] using hmove
  | resourceClosed t => exact terminalClosed_seated host hkept hbarrier t
  | _ => exact KeepsAttach.seated ((after_step host k (.update _)).attach rfl) hkept hbarrier rfl

end SessionKernel

end Phux
