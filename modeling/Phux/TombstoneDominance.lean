import Phux.KernelStep

/-! A retired generation stays retired. The ledger of a resource lives in its agent session stream
if it has one and in its terminal otherwise. -/

namespace Phux

open Table SessionKernel Option KernelInput

variable {R ε : Type}

/-- The replicas a terminal holds are not contradicted by its ledger. -/
def TerminalState.Sound (s : TerminalState R) : Prop :=
  ∀ staging, s.staging = some staging → s.retired (generationOf staging.key) = none
    ∧ holdsGeneration Replica.key s.published (generationOf staging.key) = false

def AgentStream.Sound (s : AgentStream) : Prop :=
  ∀ staging, s.staging = some staging → s.retired (generationOf staging.key) = none

theorem holdsGeneration_some {α : Type} {key : α → ReplicaKey} {a : α} {g : GenerationId} :
    holdsGeneration key (some a) g = false ↔ generationOf (key a) ≠ g := by
  simp [holdsGeneration]

section

variable {α : Type} {key : α → ReplicaKey} {held : Option α} {a : α} {g : GenerationId}
  {retired : Table GenerationId TombstoneRecord} {record : TombstoneRecord}

theorem held_of_dropped (h : (if holdsGeneration key held g then none else held) = some a) :
    held = some a ∧ generationOf (key a) ≠ g := by
  split at h
  · cases h
  · rename_i hg
    rw [h, Bool.not_eq_true, holdsGeneration_some] at hg
    exact ⟨h, hg⟩

theorem not_held_of_retired (hlive : ∀ a, held = some a → retired (generationOf (key a)) = none)
    (hg : retired g = some record) : holdsGeneration key held g = false := by
  cases hheld : held with
  | none => rfl
  | some a =>
    rw [holdsGeneration_some]
    rintro rfl
    rw [hlive a hheld] at hg
    cases hg

end

variable {record : TombstoneRecord} {retired : Table GenerationId TombstoneRecord}

theorem insert_retired_mono {g g' : GenerationId}
    {record' : TombstoneRecord} (hlive : retired g' = none)
    (h : retired g = some record) : retired.insert g' record' g = some record := by
  have hne : g ≠ g' := by
    rintro rfl
    rw [hlive] at h
    cases h
  rw [insert_of_ne hne, h]

theorem retireOnce_mono {g g' : GenerationId}
    {record' : TombstoneRecord} (h : retired g = some record) :
    retireOnce retired g' record' g = some record := by
  unfold retireOnce
  cases hg : retired g' with
  | none => exact insert_retired_mono hg h
  | some _ => exact h

theorem retireOnce_of_ne {g g' : GenerationId}
    (hne : g ≠ g') : retireOnce retired g' record g = retired g := by
  unfold retireOnce
  cases retired g' with
  | none => exact insert_of_ne hne ..
  | some _ => rfl

theorem retireOnce_self (retired : Table GenerationId TombstoneRecord) (g : GenerationId)
    (record : TombstoneRecord) : retireOnce retired g record g = some ((retired g).getD record) := by
  unfold retireOnce
  cases hg : retired g with
  | none => exact insert_self ..
  | some _ => simpa using hg

namespace TerminalStep

variable {E : EngineAdapter R ε} {config : HistoryCacheConfig} {t : ResourceId} {call : KernelCall}
  {kind : Option ResourceKind} {s s' : TerminalState R} {m : AttachMark}

variable (h : TerminalStep E config t call kind s m s')

include h

theorem sound (hs : s.Sound) : s'.Sound := by
  cases h with
  | keep => exact hs
  | refuse g record hlive _ hfresh =>
    intro st hheld
    obtain ⟨hretired, hpublished⟩ := hs st hheld
    have hheld' : s.staging = some st := hheld
    rw [hheld', holdsGeneration_some] at hfresh
    exact ⟨(insert_of_ne hfresh ..).trans hretired, hpublished⟩
  | stage g profile geometry baseSeq engine hcall hkind hlive hpublished hfresh hstart =>
    intro st hheld
    obtain rfl := some.inj hheld
    refine ⟨?_, hpublished⟩
    cases hold : s.staging with
    | none => exact hlive
    | some old =>
      rw [hold, holdsGeneration_some] at hfresh
      exact (insert_of_ne (.symm hfresh) ..).trans hlive
  | chunk old new seq payload hcall hold hseq hkey | stall old new hold hkey =>
    intro st hheld
    obtain rfl := some.inj hheld
    rw [hkey]
    exact hs old hold
  | abandon | publish => exact fun _ hheld => by cases hheld
  | feed old new hold hfed =>
    intro st hheld
    obtain ⟨hretired, hpublished⟩ := hs st hheld
    refine ⟨hretired, ?_⟩
    rw [hold, holdsGeneration_some] at hpublished
    rw [holdsGeneration_some, hfed.key]
    exact hpublished
  | lose old record seq payload hcall hold hlive =>
    intro st hheld
    obtain ⟨hretired, hpublished⟩ := hs st hheld
    rw [hold, holdsGeneration_some] at hpublished
    exact ⟨(insert_of_ne (.symm hpublished) ..).trans hretired, rfl⟩
  | tombstone g record hcall =>
    intro st hheld
    obtain ⟨hheld, hg⟩ := held_of_dropped hheld
    obtain ⟨hretired, hpublished⟩ := hs st hheld
    exact ⟨(retireOnce_of_ne hg).trans hretired, hpublished⟩

theorem retired_mono (hs : s.Sound) {g : GenerationId}
    (hg : s.retired g = some record) : s'.retired g = some record := by
  cases h with
  | keep | chunk | stall | feed => exact hg
  | refuse g' record' hlive => exact insert_retired_mono hlive hg
  | stage g' profile geometry baseSeq engine =>
    cases hold : s.staging with
    | none => exact hg
    | some old => exact insert_retired_mono (hs old hold).1 hg
  | abandon old record' hold hlive | lose old record' seq payload hcall hold hlive =>
    exact insert_retired_mono hlive hg
  | publish =>
    cases s.published with
    | none => exact hg
    | some old => exact retireOnce_mono hg
  | tombstone => exact retireOnce_mono hg

theorem holds (hs' : s'.staging ≠ none ∨ s'.published ≠ none) :
    kind = some .terminal ∨ s.staging ≠ none ∨ s.published ≠ none := by
  cases h with
  | keep | refuse => exact .inr hs'
  | stage g profile geometry baseSeq engine hcall hkind => exact .inl hkind
  | chunk old new seq payload hcall hold | abandon old record hold | stall old new hold
  | publish old new cursor hcall hold => exact .inr (.inl (by simp [hold]))
  | feed old new hold | lose old record seq payload hcall hold => exact .inr (.inr (by simp [hold]))
  | tombstone g record =>
    refine .inr (hs'.imp_left fun h => ?_)
    by_cases hg : holdsGeneration Staging.key s.staging g = true
    · simp [hg] at h
    · simpa [hg] using h

end TerminalStep

namespace StreamStep

variable {json : JsonCodec} {t : ResourceId} {call : KernelCall} {s s' : AgentStream}

theorem sound (h : StreamStep json t call s s') (hs : s.Sound) : s'.Sound := by
  cases h with
  | keep | declare | output => exact hs
  | stage g profile geometry baseSeq hcall hlive hpublished hfresh =>
    intro st hheld
    obtain rfl := some.inj hheld
    cases hold : s.staging with
    | none => exact hlive
    | some old =>
      rw [hold, holdsGeneration_some] at hfresh
      exact (insert_of_ne (.symm hfresh) ..).trans hlive
  | chunk old seq payload records hcall hold =>
    intro st hheld
    obtain rfl := some.inj hheld
    exact hs old hold
  | publish => exact fun _ hheld => by cases hheld
  | retire g record hlive =>
    intro st hheld
    obtain ⟨hheld, hg⟩ := held_of_dropped hheld
    exact (insert_of_ne hg ..).trans (hs st hheld)
  | tombstone g record =>
    intro st hheld
    obtain ⟨hheld, hg⟩ := held_of_dropped hheld
    exact (retireOnce_of_ne hg).trans (hs st hheld)

theorem retired_mono (h : StreamStep json t call s s') (hs : s.Sound) {g : GenerationId}
    (hg : s.retired g = some record) : s'.retired g = some record := by
  cases h with
  | keep | declare | chunk | output => exact hg
  | stage =>
    cases hold : s.staging with
    | none => exact hg
    | some old => exact insert_retired_mono (hs old hold) hg
  | publish =>
    cases s.published with
    | none => exact hg
    | some old => exact retireOnce_mono hg
  | retire g' record' hlive => exact insert_retired_mono hlive hg
  | tombstone => exact retireOnce_mono hg

end StreamStep

/-- What every call keeps: a resource is a terminal or an agent session, not
both, and what it stages is not retired. -/
structure SessionKernel.Kept (k : SessionKernel R) : Prop where
  agentKind : ∀ t s, k.agents t = some s → k.kinds t = some .agentSession
  terminalKind : ∀ t, (k.terminal t).staging ≠ none ∨ (k.terminal t).published ≠ none →
    k.kinds t = some .terminal
  terminal : ∀ t, (k.terminal t).Sound
  agent : ∀ t s, k.agents t = some s → s.Sound

namespace SessionKernel

variable {host : KernelHost R ε} {t : ResourceId} {g : GenerationId} {call : KernelCall}
  {k k' : SessionKernel R}

variable {selected : BootstrapProfile} {config : HistoryCacheConfig}

theorem kept_start : (withHistoryConfig selected config : SessionKernel R).Kept where
  agentKind := fun _ _ h => by cases h
  terminalKind := fun _ h => by simp [terminal, withHistoryConfig, TerminalState.default] at h
  terminal := fun _ _ h => by cases h
  agent := fun _ _ h => by cases h

variable {kind : ResourceKind}

theorem Informed.kept {old new : Option ResourceKind}
    (h : Informed old new) (hold : old = some kind) : new = some kind := by
  rcases h with rfl | ⟨rfl, _⟩
  · exact hold
  · cases hold

theorem Kept.step (h : k.Kept) (hstep : KernelStep host call k k') : k'.Kept where
  agentKind := by
    intro t s hs
    rcases hstep.resource t with ⟨_, _, hgone, _⟩ | ⟨_, hagent, hkind⟩
    · rw [hgone] at hs
      cases hs
    rw [hs] at hagent
    generalize hold : k.agents t = old at hagent
    cases hagent with
    | keep => exact Informed.kept hkind (h.agentKind t s hold)
    | first _ _ hnow => exact hnow
    | step old => exact Informed.kept hkind (h.agentKind t old hold)
  terminalKind := by
    intro t hheld
    rcases hstep.resource t with ⟨_, hgone, _, _⟩ | ⟨hterminal, _, hkind⟩
    · simp [hgone, TerminalState.default] at hheld
    rcases hterminal.holds hheld with hnow | hbefore
    · exact hnow
    · exact Informed.kept hkind (h.terminalKind t hbefore)
  terminal := by
    intro t
    rcases hstep.resource t with ⟨_, hgone, _, _⟩ | ⟨hterminal, _, _⟩
    · rw [hgone]
      exact fun _ hheld => by cases hheld
    · exact hterminal.sound (h.terminal t)
  agent := by
    intro t s hs
    rcases hstep.resource t with ⟨_, _, hgone, _⟩ | ⟨_, hagent, _⟩
    · rw [hgone] at hs
      cases hs
    rw [hs] at hagent
    generalize hold : k.agents t = old at hagent
    cases hagent with
    | keep => exact h.agent t s hold
    | first _ _ _ hstream => exact hstream.sound fun _ hheld => by cases hheld
    | step old _ hstream => exact hstream.sound (h.agent t old hold)

theorem kept_run {calls : List KernelCall} :
    ((withHistoryConfig selected config).run host calls).Kept :=
  Machine.run_invariant (fun k call h => h.step (after_step host k call)) kept_start

def ledger (k : SessionKernel R) (t : ResourceId) (g : GenerationId) : Option TombstoneRecord :=
  match k.agents t with
  | some stream => stream.retired g
  | none => (k.terminal t).retired g

/-- The generation is staged neither as a terminal nor as an agent session. -/
def Unstaged (k : SessionKernel R) (t : ResourceId) (g : GenerationId) : Prop :=
  holdsGeneration Staging.key (k.terminal t).staging g = false
    ∧ ∀ stream, k.agents t = some stream → holdsGeneration AgentStaging.key stream.staging g = false

theorem Kept.no_terminal (h : k.Kept) {s : AgentStream} (hs : k.agents t = some s) :
    (k.terminal t).staging = none ∧ (k.terminal t).published = none := by
  have hkind := h.agentKind t s hs
  by_contra hheld
  have hterminal := h.terminalKind t (by by_contra hc; push Not at hc; exact hheld hc)
  rw [hkind] at hterminal
  cases hterminal

theorem Kept.unstaged (h : k.Kept) (hg : k.ledger t g = some record) : k.Unstaged t g := by
  cases hs : k.agents t with
  | some s =>
    have hretired : s.retired g = some record := by simpa [ledger, hs] using hg
    refine ⟨by simp [(h.no_terminal hs).1, holdsGeneration], fun stream hstream => ?_⟩
    obtain rfl := some.inj (hs.symm.trans hstream)
    exact not_held_of_retired (h.agent t s hs) hretired
  | none =>
    have hretired : (k.terminal t).retired g = some record := by simpa [ledger, hs] using hg
    refine ⟨?_, fun stream hstream => by rw [hs] at hstream; cases hstream⟩
    exact not_held_of_retired (fun st hheld => (h.terminal t st hheld).1) hretired

/-- Short of the end of the resource or its first becoming an agent session, a
call leaves what is on record as it is. -/
theorem Kept.ledger_mono (h : k.Kept) (hg : k.ledger t g = some record)
    (hstep : KernelStep host call k k') (hdrop : k.drops t call = false)
    (hopen : ¬ k.OpensAgent call t) : k'.ledger t g = some record := by
  rcases hstep.resource t with ⟨hgone, _, _, _⟩ | ⟨hterminal, hagent, _⟩
  · rw [hgone] at hdrop
    cases hdrop
  unfold ledger at hg ⊢
  generalize hold : k.agents t = old at hagent hg
  generalize k'.agents t = new at hagent
  cases hagent with
  | keep =>
    cases old with
    | none => exact hterminal.retired_mono (h.terminal t) hg
    | some s => exact hg
  | first _ hopens => exact absurd hopens hopen
  | step s s' hstream => exact hstream.retired_mono (h.agent t s hold) hg

theorem expectKind_of_admits (h : k.kinds t = none ∨ k.kinds t = some kind) :
    ∃ k₁, (k.expectKind t kind : Except (KernelError ε) (SessionKernel R)) = .ok k₁ := by
  rcases h with h | h
  · exact ⟨_, by rw [expectKind, h]⟩
  · exact ⟨k, by simp [expectKind, h]⟩

theorem OpensAgent.ledger_lost (h : k.OpensAgent call t) (host : KernelHost R ε)
    (g : GenerationId) : (k.after host call).ledger t g = none := by
  obtain ⟨k₁, hkind⟩ : ∃ k₁, (k.expectKind t .agentSession : Except (KernelError ε) _) = .ok k₁ :=
    expectKind_of_admits h.kind
  have hopen : (k.ensureOpen t : Except (KernelError ε) Unit) = .ok () := ensureOpen_eq_ok.mpr h.isOpen
  have hunseen : k₁.agents t = none := by rw [(expectKind_learns hkind).agents, h.unseen]
  have hset : ∀ (k₂ : SessionKernel R) (s : AgentStream), (k₂.setAgent t s).agents t = some s :=
    fun k₂ s => insert_self ..
  have hnames := h.names
  unfold KernelCall.namesAgent at hnames
  split at hnames
  · rename_i u g' profile geometry baseSeq
    simp only [Bool.and_eq_true, decide_eq_true_eq] at hnames
    obtain ⟨rfl, hprofile⟩ := hnames
    simp [after, update, hprofile, agentBootstrapBegin, require, hopen, hkind, hunseen, ensureLive,
      AgentStream.fresh, holdsGeneration, accept, ledger, hset]
  · rename_i declaration
    simp only [decide_eq_true_eq] at hnames
    subst hnames
    simp [after, update, agentSessionDeclared, require, hopen, hkind, hunseen, AgentStream.fresh,
      accept, ledger, hset]
  · cases hnames

end SessionKernel

def KernelInput.names (t : ResourceId) (g : GenerationId) : KernelInput → Bool
  | .bootstrapBegin u g' _ _ _ => u = t && g' = g
  | .bootstrapChunk u g' _ _ => u = t && g' = g
  | .bootstrapReady u g' _ => u = t && g' = g
  | .resourceOutput u g' _ _ => u = t && g' = g
  | .historyPage page => page.terminalId = t && page.generation = g
  | .historyTombstone u g' _ _ => u = t && g' = g
  | .historyRejected u g' _ _ _ _ => u = t && g' = g
  | _ => false

namespace SessionKernel

variable {host : KernelHost R ε} {t : ResourceId} {g : GenerationId} {call : KernelCall}
  {k : SessionKernel R}

def Refuses (k : SessionKernel R) (host : KernelHost R ε) (t : ResourceId) (g : GenerationId)
    (call : KernelCall) : Prop :=
  ∀ input, call = .update input → input.names t g = true →
    ∃ error, (k.update host input).result = .error error

theorem require_fails {α : Type} {check : Except (KernelError ε) α} {next : α → Outcome R ε}
    (h : ∀ a, check = .ok a → ∃ error, (next a).result = .error error) :
    ∃ error, (k.require check next).result = .error error := by
  cases hc : check with
  | error error => exact ⟨error, rfl⟩
  | ok a => exact h a hc

theorem publishedReplica_refused
    (hg : (k.terminal t).published = none ∨ (k.terminal t).retired g ≠ none)
    {next : TerminalState R × Replica R → Outcome R ε} :
    ∃ error, (k.require (k.publishedReplica t g) next).result = .error error := by
  refine require_fails fun ⟨s, replica⟩ hok => ?_
  obtain ⟨rfl, hlive, hheld, _⟩ := publishedReplica_eq_ok hok
  rcases hg with hg | hg
  · rw [hheld] at hg
    cases hg
  · exact absurd hlive hg

/-- The lookup that an update comes to first when its input names a generation. -/
inductive Gated (k : SessionKernel R) (t : ResourceId) (g : GenerationId) (o : Outcome R ε) : Prop
  | agent {s} (hs : k.agents t = some s) (next) (h : o = k.require (k.liveAgent t g) next)
  | staged (hs : k.agents t = none) (next) (h : o = k.require (k.stagedReplica t g) next)
  | published (next) (h : o = k.require (k.publishedReplica t g) next)

theorem gated_of_names (k : SessionKernel R) (host : KernelHost R ε) {input : KernelInput}
    (h : input.names t g = true) :
    (∃ profile geometry baseSeq, input = .bootstrapBegin t g profile geometry baseSeq) ∨
      Gated k t g (k.update host input) := by
  cases input
  all_goals simp only [names, Bool.and_eq_true, decide_eq_true_eq, Bool.false_eq_true] at h
  all_goals obtain ⟨rfl, rfl⟩ := h
  case bootstrapBegin u g profile geometry baseSeq => exact .inl ⟨profile, geometry, baseSeq, rfl⟩
  case bootstrapChunk u g _ _ | bootstrapReady u g _ =>
    cases hs : k.agents u with
    | none => exact .inr (.staged hs _ (if_neg (by simp [hs])))
    | some s => exact .inr (.agent hs _ (if_pos (by simp [hs])))
  case resourceOutput u g _ _ =>
    cases hs : k.agents u with
    | none => exact .inr (.published _ (if_neg (by simp [hs])))
    | some s => exact .inr (.agent hs _ (if_pos (by simp [hs])))
  all_goals exact .inr (.published _ rfl)

theorem Kept.refuses_agent (h : k.Kept) {s : AgentStream} (hs : k.agents t = some s)
    (hg : s.retired g = some record) : k.Refuses host t g call := by
  rintro input rfl hnames
  rcases gated_of_names k host hnames with ⟨profile, geometry, baseSeq, rfl⟩ | hgated
  · simp only [update]
    split
    · refine require_fails fun _ _ => require_fails fun k₁ hkind => require_fails fun _ hlive => ?_
      rw [(expectKind_learns hkind).agents, hs] at hlive
      have hnone : s.retired g = none := ensureLive_eq_ok.mp hlive
      rw [hnone] at hg
      cases hg
    · refine require_fails fun k₁ hkind => ?_
      have hbefore := (expectKind_learns hkind).before
      rw [h.agentKind t s hs] at hbefore
      rcases hbefore with hc | hc <;> cases hc
  · cases hgated with
    | agent hs' next hupdate =>
      rw [hupdate]
      refine require_fails fun s' hok => ?_
      obtain ⟨hs', hlive⟩ := liveAgent_eq_ok hok
      obtain rfl := some.inj (hs.symm.trans hs')
      rw [hlive] at hg
      cases hg
    | staged hnone => cases hnone.symm.trans hs
    | published next hupdate =>
      rw [hupdate]
      exact publishedReplica_refused (.inl (h.no_terminal hs).2)

/-- On a resource without one, the terminal's ledger does, unless the input
first opens a stream. -/
theorem refuses_terminal (hs : k.agents t = none) (hg : (k.terminal t).retired g = some record)
    (hopen : ¬ k.OpensAgent call t) : k.Refuses host t g call := by
  rintro input rfl hnames
  rcases gated_of_names k host hnames with ⟨profile, geometry, baseSeq, rfl⟩ | hgated
  · simp only [update]
    split
    · rename_i hprofile
      refine require_fails fun _ hok => require_fails fun k₁ hkind => ?_
      refine absurd ⟨?_, ensureOpen_eq_ok.mp hok, (expectKind_learns hkind).before, hs⟩ hopen
      simp [KernelCall.namesAgent, hprofile]
    · refine require_fails fun k₁ hkind => ?_
      rw [← (expectKind_learns hkind).informs.terminal] at hg
      unfold bootstrapBegin
      split
      · exact ⟨_, rfl⟩
      split
      · exact ⟨_, rfl⟩
      split
      · exact ⟨_, rfl⟩
      change ∃ error, (Outcome.result (if ((k₁.terminal t).retired g).isSome then _ else _)) = _
      rw [if_pos (by simp [hg])]
      exact ⟨_, rfl⟩
  · cases hgated with
    | agent hs' => cases hs.symm.trans hs'
    | staged _ next hupdate =>
      rw [hupdate]
      refine require_fails fun staged hok => ?_
      obtain ⟨hstate, hlive, _⟩ := stagedReplica_eq_ok hok
      rw [hstate, hlive] at hg
      cases hg
    | published next hupdate =>
      rw [hupdate]
      exact publishedReplica_refused (.inr (by simp [hg]))

theorem Kept.refuses (h : k.Kept) (hg : k.ledger t g = some record)
    (hopen : ¬ k.OpensAgent call t) : k.Refuses host t g call := by
  unfold ledger at hg
  cases hs : k.agents t with
  | some s =>
    rw [hs] at hg
    exact h.refuses_agent hs hg
  | none =>
    rw [hs] at hg
    exact refuses_terminal hs hg hopen

theorem ledger_tombstoneGeneration :
    (k.tombstoneGeneration t g record).ledger t g = some ((k.ledger t g).getD record) := by
  unfold tombstoneGeneration
  cases hs : k.agents t with
  | some s =>
    have hset : ∀ s', (k.setAgent t s').agents t = some s' := fun s' => insert_self ..
    simp [ledger, hs, hset, retireOnce_self]
  | none =>
    have hset : ∀ s', (k.setTerminal t s').agents t = none := fun _ => hs
    have hmark : ∀ (k' : SessionKernel R) (b : Bool),
        (k'.markAttachUnresolved t b).ledger t g = k'.ledger t g := fun _ _ => rfl
    have hterminal : (k.terminals t).getD .default = k.terminal t := rfl
    dsimp only
    split
    · rw [hmark]
      simp [ledger, hs, hset, hterminal, retireOnce_self]
    · simp [ledger, hs, hset, hterminal, retireOnce_self]

/-- Along a run of calls the record stays, the generation is not staged, and
every input that names it fails. -/
def Dominates (k : SessionKernel R) (host : KernelHost R ε) (t : ResourceId) (g : GenerationId)
    (record : TombstoneRecord) (calls : List KernelCall) : Prop :=
  Machine.EveryState (after host) (fun k => k.ledger t g = some record ∧ k.Unstaged t g) k calls
    ∧ Machine.EveryStep (after host) (fun k call => k.Refuses host t g call) k calls

/-- A record dominates a run, short of the end of the resource, exactly when no
call of the run is the first to make the resource an agent session. -/
theorem Kept.dominates_iff (h : k.Kept) (hg : k.ledger t g = some record) {calls : List KernelCall}
    (hlive : Machine.EveryStep (after host) (fun k call => k.drops t call = false) k calls) :
    k.Dominates host t g record calls ↔
      Machine.EveryStep (after host) (fun k call => ¬ k.OpensAgent call t) k calls := by
  induction calls generalizing k with
  | nil => exact ⟨fun _ => trivial, fun _ => ⟨⟨hg, h.unstaged hg⟩, trivial⟩⟩
  | cons call calls ih =>
    have hstep := after_step host k call
    have hk' := h.step hstep
    constructor
    · rintro ⟨⟨_, hstates⟩, _, hsteps⟩
      have hg' : (k.after host call).ledger t g = some record := hstates.head.1
      refine ⟨fun hopens => ?_, (ih hk' hg' hlive.2).mp ⟨hstates, hsteps⟩⟩
      rw [hopens.ledger_lost host g] at hg'
      cases hg'
    · rintro ⟨hopen, hsteps⟩
      have hg' := h.ledger_mono hg hstep hlive.1 hopen
      obtain ⟨hstates', hsteps'⟩ := (ih hk' hg' hlive.2).mpr hsteps
      exact ⟨⟨⟨hg, h.unstaged hg⟩, hstates'⟩, h.refuses hg hopen, hsteps'⟩

end SessionKernel

/-- Once a tombstone has been processed, and until the resource is closed or
released, its first record dominates exactly the runs that do not make the
resource an agent session for the first time. -/
theorem tombstone_dominates_iff (host : KernelHost R ε) (selected : BootstrapProfile)
    (config : HistoryCacheConfig) (before calls : List KernelCall) (t : ResourceId)
    (g : GenerationId) (record : TombstoneRecord) :
    let k := (withHistoryConfig selected config : SessionKernel R).run host before
    let k' := k.after host (.update (.tombstone t g record))
    Machine.EveryStep (after host) (fun k call => k.drops t call = false) k' calls →
      (k'.Dominates host t g ((k.ledger t g).getD record) calls ↔
        Machine.EveryStep (after host) (fun k call => ¬ k.OpensAgent call t)
          k' calls) := by
  intro k k' hlive
  have hkept : k.Kept := kept_run
  have hkept' : k'.Kept := hkept.step (after_step host k _)
  have hledger : k'.ledger t g = some ((k.ledger t g).getD record) :=
    ledger_tombstoneGeneration
  exact hkept'.dominates_iff hledger hlive

/-- A session declared before the tombstone keeps it against its own BEGIN. -/
theorem tombstone_dominates_declared :
    let k := (withHistoryConfig .synthesizedVtRaw .standard).run .recording
      [.update (.agentSessionDeclared ⟨.local 1, none, none, none, none⟩)]
    let k' := k.after .recording (.update (.tombstone (.local 1) .first ⟨.outboundGap, 3⟩))
    let calls := [.update (.bootstrapBegin (.local 1) .first .agentEventsJsonlV1 ⟨80, 24⟩ 3)]
    k'.Dominates .recording (.local 1) .first ⟨.outboundGap, 3⟩ calls := by
  have hdominates := tombstone_dominates_iff .recording .synthesizedVtRaw .standard
    [.update (.agentSessionDeclared ⟨.local 1, none, none, none, none⟩)]
    [.update (.bootstrapBegin (.local 1) .first .agentEventsJsonlV1 ⟨80, 24⟩ 3)]
    (.local 1) .first ⟨.outboundGap, 3⟩ ⟨rfl, trivial⟩
  exact hdominates.mpr ⟨(fun h => nomatch h.unseen), trivial⟩

/-- On a resource of unknown kind the tombstone is lost to the BEGIN it bars. -/
theorem tombstoned_begin_accepted :
    let k := (withHistoryConfig .synthesizedVtRaw .standard).run .recording
      [.update (.tombstone (.local 1) .first ⟨.outboundGap, 3⟩)]
    let outcome := k.update .recording
      (.bootstrapBegin (.local 1) .first .agentEventsJsonlV1 ⟨80, 24⟩ 3)
    k.ledger (.local 1) .first = some ⟨.outboundGap, 3⟩ ∧ outcome.result = .ok ()
      ∧ outcome.kernel.ledger (.local 1) .first = none
      ∧ ¬ outcome.kernel.Unstaged (.local 1) .first := by
  refine ⟨rfl, rfl, rfl, fun h => ?_⟩
  have hstaged := h.2 _ rfl
  cases hstaged

end Phux
