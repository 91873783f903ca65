import Phux.TombstoneDominance

/-! What a failed call into the engine does to the generation it was made for: most are
answered by retiring it, three are not. -/

namespace Phux

open ByteReader SessionKernel

variable {R ε : Type}

variable {input : KernelInput} {profile : BootstrapStreamProfile} {E : EngineAdapter R ε}

inductive AdapterCall where
  | startReplica | applyBootstrapChunk | finishBootstrap | configureHistoryBudget
  | anchorDistanceBefore | applyOutput | anchorDistanceAfter
deriving DecidableEq

def AdapterCall.retires : AdapterCall → Bool
  | startReplica | applyBootstrapChunk | finishBootstrap | applyOutput => true
  | configureHistoryBudget | anchorDistanceBefore | anchorDistanceAfter => false

/-- An update with this input, which names generation `g` of `t`, makes this adapter call,
and the call fails. -/
inductive AdapterFails (E : EngineAdapter R ε) (k : SessionKernel R) (t : ResourceId)
    (g : GenerationId) (error : ε) : KernelInput → AdapterCall → Prop
  | startReplica {profile : BootstrapStreamProfile} {geometry : CanonicalGeometry}
      (baseSeq : UInt64) (hopen : t ∉ k.closed)
      (hkind : k.kinds t = none ∨ k.kinds t = some .terminal)
      (hprofile : profileMatches k.selectedProfile profile = true)
      (hgeometry : ¬(geometry.cols = 0 ∨ geometry.rows = 0))
      (hlive : (k.terminal t).retired g = none)
      (hpublished : holdsGeneration Replica.key (k.terminal t).published g = false)
      (hstaged : holdsGeneration Staging.key (k.terminal t).staging g = false)
      (hfails : E.startReplica profile geometry = .error error) :
      AdapterFails E k t g error (.bootstrapBegin t g profile geometry baseSeq) .startReplica
  | applyBootstrapChunk {state : TerminalState R} {staging : Staging R} {seq : UInt32}
      {payload : Bytes} (hagent : k.agents t = none)
      (hstaged : (k.stagedReplica t g : Except (KernelError ε) _) = .ok (state, staging))
      (hseq : (staging.expectChunk seq : Except (KernelError ε) Unit) = .ok ())
      (hfails : (E.applyBootstrapChunk staging.engine payload).2.2 = .error error) :
      AdapterFails E k t g error (.bootstrapChunk t g seq payload) .applyBootstrapChunk
  | finishBootstrap {state : TerminalState R} {staging : Staging R} (cursor : Option Bytes)
      (hagent : k.agents t = none)
      (hstaged : (k.stagedReplica t g : Except (KernelError ε) _) = .ok (state, staging))
      (hready : staging.protocolReady = false)
      (hfails : (E.finishBootstrap staging.engine).2.2 = .error error) :
      AdapterFails E k t g error (.bootstrapReady t g cursor) .finishBootstrap
  | configureHistoryBudget {state : TerminalState R} {staging : Staging R} (cursor : Option Bytes)
      {progress : BootstrapProgress} (hagent : k.agents t = none)
      (hstaged : (k.stagedReplica t g : Except (KernelError ε) _) = .ok (state, staging))
      (hready : staging.protocolReady = false)
      (hfinish : (E.finishBootstrap staging.engine).2.2 = .ok progress)
      (hengine : (staging.engineReady || progress.isReady) = true)
      (hfails : (E.configureHistoryBudget (E.finishBootstrap staging.engine).1
        k.historyConfig.maxBytes k.historyConfig.maxMaterializedRows).2 = .error error) :
      AdapterFails E k t g error (.bootstrapReady t g cursor) .configureHistoryBudget
  | anchorDistanceBefore {state : TerminalState R} {replica : Replica R} {seq : UInt64}
      (payload : Bytes) {anchor : DocumentAnchorId} (hagent : k.agents t = none)
      (hpublished : (k.publishedReplica t g : Except (KernelError ε) _) = .ok (state, replica))
      (hseq : (replica.expectNextSeq seq : Except (KernelError ε) Unit) = .ok ())
      (hpinned : replica.history.viewport = .pinned anchor)
      (hfails : E.historyAnchorTailDistance replica.engine anchor = .error error) :
      AdapterFails E k t g error (.resourceOutput t g seq payload) .anchorDistanceBefore
  | applyOutput {state : TerminalState R} {replica : Replica R} {seq : UInt64} {payload : Bytes}
      {distance : Option UInt64} (hagent : k.agents t = none)
      (hpublished : (k.publishedReplica t g : Except (KernelError ε) _) = .ok (state, replica))
      (hseq : (replica.expectNextSeq seq : Except (KernelError ε) Unit) = .ok ())
      (hdistance : pinnedDistance E replica = .ok distance)
      (hfails : (E.applyOutput replica.engine payload).2.2 = .error error) :
      AdapterFails E k t g error (.resourceOutput t g seq payload) .applyOutput
  | anchorDistanceAfter {state : TerminalState R} {replica : Replica R} {seq : UInt64}
      {payload : Bytes} {anchor : DocumentAnchorId} {distance : Option UInt64}
      (hagent : k.agents t = none)
      (hpublished : (k.publishedReplica t g : Except (KernelError ε) _) = .ok (state, replica))
      (hseq : (replica.expectNextSeq seq : Except (KernelError ε) Unit) = .ok ())
      (hpinned : replica.history.viewport = .pinned anchor)
      (hdistance : pinnedDistance E replica = .ok distance)
      (happly : (E.applyOutput replica.engine payload).2.2 = .ok ())
      (hfails : E.historyAnchorTailDistance (E.applyOutput replica.engine payload).1 anchor =
        .error error) :
      AdapterFails E k t g error (.resourceOutput t g seq payload) .anchorDistanceAfter

def KernelInput.wellFormed (selected : BootstrapProfile) : KernelInput → Bool
  | .bootstrapBegin _ _ profile geometry _ =>
    profileMatches selected profile && geometry.cols != 0 && geometry.rows != 0
  | _ => true

namespace SessionKernel

variable {host : KernelHost R ε} {t : ResourceId} {g : GenerationId} {k : SessionKernel R}
  {call : KernelCall} {record : TombstoneRecord}

/-- An input that names the generation is refused, and as retired unless the resource is
closed or the input is refused for what it is. -/
def Bars (k : SessionKernel R) (host : KernelHost R ε) (t : ResourceId) (g : GenerationId)
    (call : KernelCall) : Prop :=
  ∀ input, call = .update input → input.names t g = true →
    (∃ error, (k.update host input).result = .error error) ∧
      (t ∉ k.closed → input.wellFormed k.selectedProfile = true →
        (k.update host input).result = .error (.retiredGeneration t g))

/-- What an update owes when an adapter call for the generation failed. -/
structure Resyncs (outcome : Outcome R ε) (host : KernelHost R ε) (t : ResourceId)
    (g : GenerationId) (error : ε) : Prop where
  result : outcome.result = .error (.engine error)
  retired : outcome.kernel.ledger t g ≠ none
  unstaged : outcome.kernel.Unstaged t g
  unpublished : holdsGeneration Replica.key (outcome.kernel.terminal t).published g = false
  asked : resyncRequired t g ∈ outcome.effects
  barred : ∀ calls, (∀ call ∈ calls, call ≠ .releaseTerminal t ∧ call ≠ .detachTerminal t) →
    Machine.EveryStep (after host) (fun k call => k.Bars host t g call) outcome.kernel calls

theorem known_of_retired (hg : (k.terminal t).retired g = some record) :
    k.terminals t = some (k.terminal t) := by
  cases hk : k.terminals t with
  | none => simp [terminal, hk, TerminalState.default] at hg
  | some s => simp [terminal, hk]

theorem not_agent_of_matches {selected : BootstrapProfile}
    (h : profileMatches selected profile = true) : isAgentProfile profile = false := by
  cases profile with
  | agentEventsJsonlV1 => cases selected <;> cases h
  | _ => rfl

theorem retired_by_name (hopen : t ∉ k.closed) (hagent : k.agents t = none)
    (hkind : k.kinds t = some .terminal) (hg : (k.terminal t).retired g = some record)
    (hnames : input.names t g = true) (hformed : input.wellFormed k.selectedProfile = true) :
    (k.update host input).result = .error (.retiredGeneration t g) := by
  rcases gated_of_names k host hnames with ⟨profile, geometry, baseSeq, rfl⟩ | hgated
  · obtain ⟨⟨hprofile, hcols⟩, hrows⟩ : (profileMatches k.selectedProfile profile = true ∧
        geometry.cols ≠ 0) ∧ geometry.rows ≠ 0 := by
      simpa [KernelInput.wellFormed] using hformed
    have hexpect : (k.expectKind t .terminal : Except (KernelError ε) _) = .ok k := by
      simp [expectKind, hkind]
    have hretired : (((k.terminals t).getD .default).retired g).isSome = true := by
      change ((k.terminal t).retired g).isSome = true
      rw [hg]
      rfl
    simp only [update, not_agent_of_matches hprofile, Bool.false_eq_true, ↓reduceIte, hexpect,
      require, bootstrapBegin, hopen, hprofile, Bool.not_true, hcols, hrows, or_self, hretired]
    rfl
  · cases hgated with
    | agent hs => cases hagent.symm.trans hs
    | staged _ next hupdate | published next hupdate =>
      simp only [hupdate, stagedReplica, publishedReplica, ensureOpen_eq_ok (u := ()) |>.mpr hopen,
        knownTerminal_eq_ok.mpr (known_of_retired hg), bind, Except.bind, ensureLive, hg]
      rfl

/-- The generation is out for good: its terminal is closed, or has it on record. -/
def Out (k : SessionKernel R) (t : ResourceId) (g : GenerationId) : Prop :=
  t ∈ k.closed ∨ k.agents t = none ∧ k.kinds t = some .terminal ∧ (k.terminal t).retired g ≠ none

theorem not_opensAgent (hkind : k.kinds t = some .terminal) : ¬k.OpensAgent call t := by
  intro hopens
  rcases hopens.kind with h | h
  all_goals
    rw [hkind] at h
    cases h

theorem Out.step (h : k.Out t g) (hkept : k.Kept) (hrelease : call ≠ .releaseTerminal t)
    (hdetach : call ≠ .detachTerminal t) : (k.after host call).Out t g := by
  have hstep := after_step host k call
  rcases h with hclosed | ⟨hagent, hkind, hretired⟩
  · exact .inl (closed_after hclosed hrelease hdetach)
  · by_cases hdrops : k.drops t call = true
    · rw [drops_cases hrelease hdetach hdrops]
      exact .inl (Finset.mem_insert_self t k.closed)
    · obtain ⟨record, hrecord⟩ := Option.ne_none_iff_exists'.mp hretired
      have hopens : ¬k.OpensAgent call t := not_opensAgent hkind
      rcases hstep.resource t with ⟨hgone, _⟩ | ⟨hterminal, hagents, hinformed⟩
      · exact absurd hgone hdrops
      have hagent' : (k.after host call).agents t = none := by
        rw [hagent] at hagents
        generalize (k.after host call).agents t = new at hagents
        cases hagents with
        | keep => rfl
        | first s hopen => exact absurd hopen hopens
      refine .inr ⟨hagent', Informed.kept hinformed hkind, ?_⟩
      rw [hterminal.retired_mono (hkept.terminal t) hrecord]
      exact Option.some_ne_none record

theorem closed_refuses (hclosed : t ∈ k.closed) (hnames : input.names t g = true) :
    ∃ error, (k.update host input).result = .error error := by
  have hshut : (k.ensureOpen t : Except (KernelError ε) Unit) = .error (.closedTerminal t) :=
    if_pos hclosed
  rcases gated_of_names k host hnames with ⟨profile, geometry, baseSeq, rfl⟩ | hgated
  · simp only [update]
    split
    · exact ⟨_, by rw [agentBootstrapBegin, hshut]; rfl⟩
    · refine require_fails fun k₁ hkind => ⟨.closedTerminal t, ?_⟩
      have hclosed₁ : t ∈ k₁.closed := by rwa [(expectKind_learns hkind).closed]
      simp only [bootstrapBegin, hclosed₁, ↓reduceIte]
      rfl
  · cases hgated with
    | agent _ next hupdate => exact ⟨_, by rw [hupdate, liveAgent, hshut]; rfl⟩
    | staged _ next hupdate => exact ⟨_, by rw [hupdate, stagedReplica, hshut]; rfl⟩
    | published next hupdate => exact ⟨_, by rw [hupdate, publishedReplica, hshut]; rfl⟩

theorem Out.bars (h : k.Out t g) (call : KernelCall) : k.Bars host t g call := by
  rintro input rfl hnames
  by_cases hclosed : t ∈ k.closed
  · exact ⟨closed_refuses hclosed hnames, fun hopen => absurd hclosed hopen⟩
  · rcases h with h | ⟨hagent, hkind, hretired⟩
    · exact absurd h hclosed
    obtain ⟨record, hrecord⟩ := Option.ne_none_iff_exists'.mp hretired
    refine ⟨?_, fun _ => retired_by_name hclosed hagent hkind hrecord hnames⟩
    exact refuses_terminal hagent hrecord (not_opensAgent hkind) input rfl hnames

theorem Out.bars_run (h : k.Out t g) (hkept : k.Kept) {calls : List KernelCall}
    (hcalls : ∀ call ∈ calls, call ≠ .releaseTerminal t ∧ call ≠ .detachTerminal t) :
    Machine.EveryStep (after host) (fun k call => k.Bars host t g call) k calls := by
  induction calls generalizing k with
  | nil => trivial
  | cons call calls ih =>
    obtain ⟨⟨hrelease, hdetach⟩, hrest⟩ := List.forall_mem_cons.mp hcalls
    have hkept' := hkept.step (after_step host k call)
    exact ⟨h.bars call, ih (h.step hkept hrelease hdetach) hkept' hrest⟩

variable {error : ε}

theorem Resyncs.of_retired {outcome : Outcome R ε} (record : TombstoneRecord)
    (hkept : outcome.kernel.Kept)
    (hagent : outcome.kernel.agents t = none) (hkind : outcome.kernel.kinds t = some .terminal)
    (hretired : (outcome.kernel.terminal t).retired g = some record)
    (hpublished : holdsGeneration Replica.key (outcome.kernel.terminal t).published g = false)
    (hresult : outcome.result = .error (.engine error))
    (hasked : resyncRequired t g ∈ outcome.effects) : Resyncs outcome host t g error := by
  have hledger : outcome.kernel.ledger t g = some record := by simp [ledger, hagent, hretired]
  have hout : outcome.kernel.Out t g :=
    .inr ⟨hagent, hkind, by rw [hretired]; exact Option.some_ne_none record⟩
  refine ⟨hresult, ?_, hkept.unstaged hledger, hpublished, hasked, fun calls hcalls => ?_⟩
  · rw [hledger]
    exact Option.some_ne_none record
  · exact hout.bars_run hkept hcalls

theorem abandonStaging_resyncs {st : Staging R}
    (hkept : (k.abandonStaging t (k.terminal t) st g (.engine error)).kernel.Kept)
    (hbefore : k.Kept) (hagent : k.agents t = none)
    (hheld : (k.terminal t).staging = some st) (hgen : generationOf st.key = g) :
    Resyncs (k.abandonStaging t (k.terminal t) st g (.engine error)) host t g error := by
  have hkind := hbefore.terminalKind t (.inl (by simp [hheld]))
  refine .of_retired ⟨.codecFailure, st.baseSeq⟩ hkept hagent hkind ?_ ?_ rfl ?_
  · simp [abandonStaging, fail]
  · have hne := (hbefore.terminal t st hheld).2
    rw [hgen] at hne
    simpa [abandonStaging, fail] using hne
  · exact List.mem_singleton.mpr rfl

theorem eq_of_result {α β γ : Type} {made : α × β × γ} {result : γ} (h : made.2.2 = result) :
    made = (made.1, made.2.1, result) := by
  rw [← h]

variable {made : AdapterCall}

theorem Kept.resyncs (hkept : k.Kept)
    (h : AdapterFails host.adapter k t g error input made) (hretires : made.retires = true) :
    Resyncs (k.update host input) host t g error := by
  have hafter : (k.update host input).kernel.Kept := hkept.step (after_step host k (.update input))
  cases h with
  | @startReplica profile geometry baseSeq hopen hkind hprofile hgeometry hlive hpublished hstaged
      hfails =>
    obtain ⟨k₁, hk₁⟩ : ∃ k₁, (k.expectKind t .terminal : Except (KernelError ε) _) = .ok k₁ :=
      expectKind_of_admits hkind
    have hlearns := expectKind_learns hk₁
    have hterminal := hlearns.informs.terminal t
    have hupdate : k.update host (.bootstrapBegin t g profile geometry baseSeq) =
        k₁.bootstrapBegin host.adapter t g profile geometry baseSeq := by
      simp [update, not_agent_of_matches hprofile, hk₁, require]
    have hagent : k.agents t = none := by
      cases hs : k.agents t with
      | none => rfl
      | some s =>
        have hagentKind := hkept.agentKind t s hs
        rcases hkind with hkind | hkind
        all_goals
          rw [hkind] at hagentKind
          cases hagentKind
    rw [hupdate] at hafter ⊢
    rw [← hterminal] at hlive hpublished hstaged
    rw [← hlearns.closed] at hopen
    rw [← hlearns.selected] at hprofile
    have hfailed : k₁.bootstrapBegin host.adapter t g profile geometry baseSeq =
        (k₁.setTerminal t { k₁.terminal t with
          retired := (k₁.terminal t).retired.insert g ⟨.codecFailure, baseSeq⟩ }).fail
          [resyncRequired t g] (.engine error) := by
      have hknown : (k₁.terminals t).getD .default = k₁.terminal t := rfl
      simp [bootstrapBegin, hopen, hprofile, hgeometry, hknown, hlive, hpublished, hstaged, hfails]
    rw [hfailed] at hafter ⊢
    refine .of_retired ⟨.codecFailure, baseSeq⟩ hafter ?_ hlearns.now ?_ ?_ rfl ?_
    · exact (congrFun hlearns.agents t).trans hagent
    · simp [fail]
    · simpa [fail] using hpublished
    · exact List.mem_singleton.mpr rfl
  | @applyBootstrapChunk state st seq payload hagent hstaged hseq hfails =>
    obtain ⟨rfl, hlive, hheld, hgen⟩ := stagedReplica_eq_ok hstaged
    have hupdate : k.update host (.bootstrapChunk t g seq payload) =
        k.abandonStaging t (k.terminal t) st g (.engine error) := by
      refine (if_neg (by simp [hagent])).trans ?_
      simp only [bootstrapChunk, hstaged, hseq, require]
      rw [eq_of_result hfails]
    rw [hupdate] at hafter ⊢
    exact abandonStaging_resyncs hafter hkept hagent hheld hgen
  | @finishBootstrap state st cursor hagent hstaged hready hfails =>
    obtain ⟨rfl, hlive, hheld, hgen⟩ := stagedReplica_eq_ok hstaged
    have hupdate : k.update host (.bootstrapReady t g cursor) =
        k.abandonStaging t (k.terminal t) st g (.engine error) := by
      refine (if_neg (by simp [hagent])).trans ?_
      simp only [bootstrapReady, hstaged, hready, require, Bool.false_eq_true, ↓reduceIte]
      rw [eq_of_result hfails]
    rw [hupdate] at hafter ⊢
    exact abandonStaging_resyncs hafter hkept hagent hheld hgen
  | @applyOutput state replica seq payload distance hagent hpublished hseq hdistance hfails =>
    obtain ⟨rfl, hlive, hheld, hgen⟩ := publishedReplica_eq_ok hpublished
    have hupdate : k.update host (.resourceOutput t g seq payload) =
        k.retireAfterCodecFailure t (k.terminal t) g replica.lastSeq (.engine error) := by
      refine (if_neg (by simp [hagent])).trans ?_
      simp only [terminalOutput, hpublished, hseq, hdistance, require]
      rw [eq_of_result hfails]
    rw [hupdate] at hafter ⊢
    have hkind := hkept.terminalKind t (.inr (by simp [hheld]))
    have hnow : (k.retireAfterCodecFailure t (k.terminal t) g replica.lastSeq
        (.engine error)).kernel.terminal t = { k.terminal t with
          published := none
          retired := (k.terminal t).retired.insert g ⟨.codecFailure, replica.lastSeq⟩ } :=
      terminal_setTerminal_self ..
    refine .of_retired ⟨.codecFailure, replica.lastSeq⟩ hafter hagent hkind ?_ ?_ rfl ?_
    · rw [hnow]
      exact Table.insert_self ..
    · rw [hnow]
      rfl
    · exact List.mem_cons_self
  | configureHistoryBudget | anchorDistanceBefore | anchorDistanceAfter => cases hretires

theorem ledger_setTerminal (hagent : k.agents t = none) (s : TerminalState R) :
    (k.setTerminal t s).ledger t g = s.retired g := by
  have hagent' : (k.setTerminal t s).agents t = none := hagent
  simp [ledger, hagent']

theorem unrecorded (h : AdapterFails host.adapter k t g error input made)
    (hretires : made.retires = false) : (k.update host input).kernel.ledger t g = none := by
  cases h with
  | @configureHistoryBudget state st cursor progress hagent hstaged hready hfinish hengine hfails =>
    obtain ⟨rfl, hlive, -⟩ := stagedReplica_eq_ok hstaged
    simp only [update, hagent, Option.isSome_none, Bool.false_eq_true, ↓reduceIte,
      bootstrapReady, hstaged, hready, require]
    rw [eq_of_result hfinish]
    have hconfig : ∀ s, (k.setTerminal t s).historyConfig = k.historyConfig := fun _ => rfl
    simp only [hengine, ↓reduceIte, publish, knownTerminal_setTerminal, require, hconfig]
    rcases hbudget : host.adapter.configureHistoryBudget (host.adapter.finishBootstrap st.engine).1
      k.historyConfig.maxBytes k.historyConfig.maxMaterializedRows with ⟨_, _ | _⟩
    · simp only [reject, fail, setTerminal_setTerminal]
      exact (ledger_setTerminal hagent _).trans hlive
    · rw [hbudget] at hfails
      cases hfails
  | @anchorDistanceBefore state replica seq payload anchor hagent hpublished hseq hpinned hfails =>
    obtain ⟨rfl, hlive, -⟩ := publishedReplica_eq_ok hpublished
    have hdistance : (pinnedDistance host.adapter replica : Except (KernelError ε) _) =
        .error (.engine error) := by
      simp [pinnedDistance, hpinned, hfails]
    have hupdate : k.update host (.resourceOutput t g seq payload) = k.reject (.engine error) := by
      refine (if_neg (by simp [hagent])).trans ?_
      simp only [terminalOutput, hpublished, hseq, hdistance, require]
    rw [hupdate]
    simpa [ledger, reject, fail, hagent] using hlive
  | @anchorDistanceAfter state replica seq payload anchor distance hagent hpublished hseq hpinned
      hdistance happly hfails =>
    obtain ⟨rfl, hlive, -⟩ := publishedReplica_eq_ok hpublished
    simp only [update, hagent, Option.isSome_none, Bool.false_eq_true, ↓reduceIte,
      terminalOutput, hpublished, hseq, hdistance, require]
    rw [eq_of_result happly]
    exact (ledger_setTerminal hagent _).trans hlive
  | startReplica | applyBootstrapChunk | finishBootstrap | applyOutput => cases hretires

end SessionKernel

def KernelHost.refusingOutput : KernelHost Bytes Unit :=
  { KernelHost.recording with
    adapter := { EngineAdapter.recording with
      applyOutput := fun bytes _ => (bytes, [], .error ()) } }

def KernelHost.refusingBudget : KernelHost Bytes Unit :=
  { KernelHost.recording with
    adapter := { EngineAdapter.recording with
      configureHistoryBudget := fun bytes _ _ => (bytes, .error ()) } }

def firstBootstrap : List KernelCall :=
  [.update (.bootstrapBegin (.local 1) .first .synthesizedVtRaw ⟨80, 24⟩ 0),
    .update (.bootstrapChunk (.local 1) .first 0 [65])]

end Phux
