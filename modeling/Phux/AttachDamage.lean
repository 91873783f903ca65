import Phux.AttachStep

/-! What an input may show while an attach barrier is up: no damage of a participant. -/

namespace Phux

open ByteReader KernelEffect List

variable {R ε : Type}
variable (E : EngineAdapter R ε)

def KernelEffect.isDamage : KernelEffect → Bool
  | .damage _ _ => true
  | _ => false

structure TerminalState.Keyed (t : ResourceId) (s : TerminalState R) : Prop where
  staging : ∀ staging, s.staging = some staging → staging.key.terminalId = t
  published : ∀ replica, s.published = some replica → replica.key.terminalId = t

theorem TerminalStep.keyed {E : EngineAdapter R ε} {config : HistoryCacheConfig} {t : ResourceId}
    {call : KernelCall} {kind : Option ResourceKind} {s s' : TerminalState R} {m : AttachMark}
    (h : TerminalStep E config t call kind s m s') (hs : s.Keyed t) : s'.Keyed t := by
  cases h with
  | keep => exact hs
  | refuse => exact ⟨hs.staging, hs.published⟩
  | stage g profile geometry baseSeq engine =>
    refine ⟨fun st hstaging => ?_, hs.published⟩
    cases hstaging
    rfl
  | chunk old new seq payload hcall hold hseq hnew =>
    refine ⟨fun st hstaging => ?_, hs.published⟩
    cases hstaging
    rw [hnew]
    exact hs.staging old hold
  | abandon => exact ⟨by simp, hs.published⟩
  | stall old new hold hkey =>
    refine ⟨fun st hstaging => ?_, hs.published⟩
    cases hstaging
    rw [hkey]
    exact hs.staging old hold
  | publish old new cursor hcall hold hready hkey =>
    refine ⟨by simp, fun r hreplica => ?_⟩
    cases hreplica
    rw [hkey]
    exact hs.staging old hold
  | feed old new hold hfed =>
    refine ⟨hs.staging, fun r hreplica => ?_⟩
    cases hreplica
    rw [hfed.key]
    exact hs.published old hold
  | lose => exact ⟨hs.staging, by simp⟩
  | tombstone g record =>
    refine ⟨fun st hstaging => ?_, hs.published⟩
    dsimp only at hstaging
    split at hstaging
    · cases hstaging
    · exact hs.staging st hstaging

namespace SessionKernel

variable {host : KernelHost R ε} {t u : ResourceId} {g : GenerationId} {call : KernelCall}
  {k k' : SessionKernel R} {input : KernelInput} {effects more : List KernelEffect}

def Filed (k : SessionKernel R) : Prop := ∀ t, (k.terminal t).Keyed t

theorem Filed.step (h : k.Filed) (hstep : KernelStep host call k k') : k'.Filed := by
  intro t
  rcases hstep.resource t with ⟨_, hgone, _, _⟩ | ⟨hterminal, _, _⟩
  · rw [hgone]
    exact ⟨by simp [TerminalState.default], by simp [TerminalState.default]⟩
  · exact hterminal.keyed (h t)

theorem any_replaceF {mark : AttachParticipant → AttachParticipant}
    (hmark : ∀ p, (mark p).terminalId = p.terminalId) (ps : List AttachParticipant) :
    ((ps.replaceF fun p => if p.terminalId = t then some (mark p) else none).any
      fun p => decide (p.terminalId = u)) = ps.any fun p => decide (p.terminalId = u) := by
  induction ps with
  | nil => rfl
  | cons p ps ih =>
    by_cases hp : p.terminalId = t
    · simp [hp, hmark]
    · simp [hp, ih]

/-- The effects show no damage of a participant the barrier holds back. -/
def Hides (k : SessionKernel R) (effects : List KernelEffect) : Prop :=
  ∀ u kind, .damage u kind ∈ effects → k.attachBlocks u = false

namespace Hides

theorem nil : Hides k [] := fun _ _ h => absurd h not_mem_nil

theorem quiet (h : ∀ effect ∈ effects, effect.isDamage = false) : Hides k effects :=
  fun u kind hin => absurd (h (.damage u kind) hin) (by simp [isDamage])

theorem append (h : Hides k effects) (h' : Hides k more) : Hides k (effects ++ more) :=
  fun u kind hin => (mem_append.mp hin).elim (h u kind) (h' u kind)

theorem ite {c : Prop} [Decidable c] (h : c → Hides k effects) (h' : ¬c → Hides k more) :
    Hides k (if c then effects else more) := by
  split
  · exact h ‹_›
  · exact h' ‹_›

theorem choose {c : Prop} [Decidable c] {a b : Outcome R ε} (ha : Hides k a.effects)
    (hb : Hides k b.effects) : Hides k (if c then a else b).effects := by
  split
  · exact ha
  · exact hb

theorem damage {kind : KernelDamageKind} (h : k.attachBlocks t = false) :
    Hides k [.damage t kind] := by
  intro u kind' hin
  cases mem_singleton.mp hin
  exact h

theorem require {α : Type} {check : Except (KernelError ε) α} {next : α → Outcome R ε}
    (h : ∀ a, check = .ok a → Hides k (next a).effects) : Hides k (k'.require check next).effects :=
  require_cases (p := fun o => Hides k o.effects) (fun _ => nil) h

theorem translate {key : ReplicaKey} {allowed : Bool} (hkey : key.terminalId = t)
    (hallowed : allowed = !k.attachBlocks t) (engine : List EngineEffect) :
    Hides k (engine.flatMap (translateEngineEffect key allowed)) := by
  intro u kind hin
  obtain ⟨effect, _, hin⟩ := mem_flatMap.mp hin
  cases effect with
  | ptyWrite | status | job => simp [translateEngineEffect] at hin
  | damage damage =>
    cases allowed with
    | false => simp [translateEngineEffect] at hin
    | true =>
      have hblocks : k.attachBlocks t = false := by simpa using hallowed.symm
      cases damage with
      | full | rows first last =>
        simp only [translateEngineEffect, ↓reduceIte, hkey] at hin
        exact damage hblocks u kind hin

end Hides

theorem publish_hides (hattach : k'.attach = k.attach)
    (hkeyed : (k'.terminal t).Keyed t) : Hides k (k'.publish E t).effects := by
  refine .require fun state hknown => ?_
  have hterminal : k'.terminal t = state := terminal_of_known (knownTerminal_eq_ok.mp hknown)
  cases hstaging : state.staging with
  | none => exact .nil
  | some st =>
    dsimp only
    rcases E.configureHistoryBudget st.engine k'.historyConfig.maxBytes
      k'.historyConfig.maxMaterializedRows with ⟨engine, _ | _⟩
    · exact .nil
    · have hblocks : ∀ s, ((k'.setTerminal t s).markAttachResolved t).attachBlocks t =
          k.attachBlocks t := by
        intro s
        have hmark : ((k'.setTerminal t s).markAttachResolved t).attachBlocks t =
            (k'.setTerminal t s).attachBlocks t := by
          unfold attachBlocks markAttachResolved markAttach
          cases (k'.setTerminal t s).attach with
          | none => rfl
          | some attach => exact congrArg (!attach.released && ·) (any_replaceF (by simp) _)
        rw [hmark, attachBlocks, attachBlocks, show (k'.setTerminal t s).attach = _ from hattach]
      have hkey := hkeyed.staging st (by rw [hterminal, hstaging])
      dsimp only
      refine .append (.append (.translate hkey (by rw [hblocks]) _) (.quiet ?_)) (.ite ?_ ?_)
      · split
        · exact fun _ h => absurd h not_mem_nil
        · simp [isDamage]
      · intro hallowed
        rw [hblocks] at hallowed
        exact .damage (by simpa using hallowed)
      · exact fun _ => .nil

theorem bootstrapReady_hides (hfiled : k.Filed) (cursor : Option Bytes) :
    Hides k (k.bootstrapReady E t g cursor).effects := by
  refine .require fun ⟨state, st⟩ hstaged => ?_
  obtain ⟨rfl, _, hheld, _⟩ := stagedReplica_eq_ok hstaged
  dsimp only
  split
  · exact .nil
  rcases E.finishBootstrap st.engine with ⟨engine, effects, _ | progress⟩
  · exact .quiet (by simp [abandonStaging, fail, resyncRequired, isDamage])
  dsimp only
  split
  · refine publish_hides E rfl ?_
    rw [terminal_setTerminal_self]
    refine ⟨fun staged hstaged => ?_, (hfiled t).published⟩
    cases hstaged
    exact (hfiled t).staging st hheld
  · exact .quiet (by simp [abandonStaging, fail, resyncRequired, isDamage])

theorem reportHistoryUnavailable_quiet {r : Replica R} {reason : HistoryUnavailableReason} :
    ∀ effect ∈ reportHistoryUnavailable r reason, effect.isDamage = false := by
  simp [reportHistoryUnavailable, isDamage]

variable {payload : Bytes} {seq : UInt64}

theorem terminalOutput_hides (hfiled : k.Filed)
    : Hides k (k.terminalOutput E t g seq payload).effects := by
  refine .require fun ⟨state, r⟩ hpublished => ?_
  obtain ⟨rfl, _, hheld, _⟩ := publishedReplica_eq_ok hpublished
  have hkey := (hfiled t).published r hheld
  refine .require fun _ _ => .require fun distance _ => ?_
  rcases E.applyOutput r.engine payload with ⟨engine, effects, _ | _⟩
  · change Hides k (resyncRequired t g :: if k.attachBlocks t then [] else [.damage t .removed])
    have hresync : Hides k [resyncRequired t g] := .quiet (by simp [resyncRequired, isDamage])
    refine hresync.append (.ite (fun _ => .nil) fun hblocks => .damage ?_)
    simpa using hblocks
  · have hack : ∀ (c : Prop) [Decidable c], Hides k
        (if c then [.send (.frameAck t g seq)] else []) := fun c _ =>
      .ite (fun _ => .quiet (by simp [isDamage])) fun _ => .nil
    dsimp only
    cases r.history.viewport with
    | tail => exact .append (.append .nil (.translate hkey rfl effects)) (hack _)
    | pinned anchor =>
      have hsame := (treated_reconcilePinnedAnchor E { r with engine } anchor distance).key
      have hquiet : ∀ effect ∈ (reconcilePinnedAnchor E { r with engine } anchor distance).2,
          effect.isDamage = false := by
        unfold reconcilePinnedAnchor
        split
        · exact fun _ h => absurd h not_mem_nil
        all_goals exact reportHistoryUnavailable_quiet
      dsimp only
      rw [← hsame] at hkey
      exact .append (.append (.quiet hquiet) (.translate hkey rfl effects)) (hack _)

theorem historyPage_hides (host : KernelHost R ε) (hfiled : k.Filed) (page : HistoryPageInput) :
    Hides k (k.historyPage host page).effects := by
  refine .require fun ⟨state, r⟩ hpublished => ?_
  obtain ⟨rfl, _, hheld, _⟩ := publishedReplica_eq_ok hpublished
  have hkey := (hfiled page.terminalId).published r hheld
  dsimp only
  split
  · exact .nil
  split
  · exact .quiet (by simp [accept, isDamage])
  · exact .quiet reportHistoryUnavailable_quiet
  · have himported := importHistoryPage_key host r page
    rcases himport : importHistoryPage host r page with ⟨imported, engine, rejection | _⟩
    · dsimp only
      split
      all_goals exact .quiet reportHistoryUnavailable_quiet
    · rw [himport] at himported
      refine .append (.translate (himported ▸ hkey) rfl engine) (.quiet ?_)
      refine forall_mem_cons.mpr ⟨rfl, ?_⟩
      repeat' split
      all_goals simp [isDamage]

theorem historyRejected_hides {cursor : Bytes}
    {reason : HistoryRejectionReason} {bytes rows : UInt32} :
    Hides k (k.historyRejected E t g cursor reason bytes rows).effects := by
  refine .require fun ⟨state, r⟩ _ => ?_
  dsimp only
  rcases r.history.cancelFetch cursor with ⟨history, _ | _⟩
  · exact .nil
  · refine .choose (.quiet reportHistoryUnavailable_quiet) (.quiet ?_)
    refine forall_mem_cons.mpr ⟨rfl, ?_⟩
    repeat' split
    all_goals simp [isDamage]

theorem retireAgentGeneration_hides {stream : AgentStream} {error : KernelError ε} :
    Hides k (k'.retireAgentGeneration t stream g seq error).effects :=
  .quiet (by simp [retireAgentGeneration, fail, resyncRequired, isDamage])

theorem agentOutput_hides {json : JsonCodec} :
    Hides k (k.agentOutput json t g seq payload : Outcome R ε).effects := by
  refine .require fun stream _ => .require fun published _ => .require fun expected _ => ?_
  cases parseRecords json payload with
  | error error => exact retireAgentGeneration_hides
  | ok records => exact .require fun _ _ => .quiet (by simp [accept, isDamage])

theorem bootstrapChunk_hides {seq : UInt32} :
    Hides k (k.update host (.bootstrapChunk t g seq payload)).effects := by
  refine .choose (.require fun stream _ => .require fun st _ => .require fun _ _ => ?_)
    (.require fun ⟨state, st⟩ _ => .require fun _ _ => ?_)
  · cases parseRecords host.json payload with
    | error error => exact retireAgentGeneration_hides
    | ok records => exact .nil
  · rcases host.adapter.applyBootstrapChunk st.engine payload with ⟨engine, effects, _ | _⟩
    · exact .quiet (by simp [abandonStaging, fail, resyncRequired, isDamage])
    · exact .nil

theorem update_hides (host : KernelHost R ε) (hfiled : k.Filed)
    (hinput : ∀ attachId, input ≠ .attachReady attachId) :
    Hides k (k.update host input).effects := by
  cases input with
  | attachReady attachId => exact absurd rfl (hinput attachId)
  | attachStarted attachId ts =>
    have hquiet := (attachStarted_cases (o := k.update host (.attachStarted attachId ts)) rfl).1
    rw [hquiet]
    exact .nil
  | bootstrapBegin t g profile geometry baseSeq =>
    refine .choose (.require fun _ _ => .require fun _ _ => .require fun _ _ => .choose .nil .nil)
      (.require fun k₁ _ => .choose .nil (.choose .nil (.choose .nil (.choose .nil (.choose .nil ?_)))))
    cases host.adapter.startReplica profile geometry with
    | error error => exact .quiet (by simp [fail, resyncRequired, isDamage])
    | ok engine => exact .nil
  | bootstrapChunk t g seq payload => exact bootstrapChunk_hides
  | bootstrapReady t g cursor =>
    refine .choose (.require fun stream _ => .require fun st _ => .quiet ?_)
      (bootstrapReady_hides host.adapter hfiled cursor)
    simp [accept, isDamage]
  | historyPage page => exact historyPage_hides host hfiled page
  | historyTombstone t g cursor reason =>
    refine .require fun held _ => ?_
    dsimp only
    rcases held.2.history.invalidateCursor cursor reason.loadState with ⟨history, _ | _⟩
    · exact .nil
    · exact .quiet reportHistoryUnavailable_quiet
  | historyRejected t g cursor reason bytes rows => exact historyRejected_hides host.adapter
  | resourceOutput t g seq payload =>
    exact .choose agentOutput_hides (terminalOutput_hides host.adapter hfiled)
  | tombstone t g record => exact .nil
  | resourceClosed t =>
    refine .ite (fun h => .damage ?_) fun _ => .nil
    simp only [Bool.and_eq_true] at h
    simpa using h.2
  | agentSessionDeclared declaration => exact .require fun _ _ => .require fun _ _ => .nil
  | input t event =>
    change Hides k (k.action t event : Outcome R ε).effects
    unfold action
    cases k.inputEligibility t with
    | eligible generation => exact .quiet (by simp [accept, isDamage])
    | ineligible reason => exact .nil

end SessionKernel

end Phux
