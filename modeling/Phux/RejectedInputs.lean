import Phux.KernelKinds

/-! What a rejected input leaves behind. The kernel learns what kind a resource is before it has
looked at the rest of a frame. -/

namespace Phux

open ByteReader SessionKernel HistoryCache

variable {R ε : Type}
variable (E : EngineAdapter R ε)

def KernelError.isCompletionMismatch : KernelError ε → Bool
  | historyCompletionMismatch _ _ => true
  | _ => false

namespace SessionKernel

variable {host : KernelHost R ε} {k : SessionKernel R} {t : ResourceId}

variable {error : KernelError ε}

theorem importHistoryPage_error {replica : Replica R} {page : HistoryPageInput}
    {rejection : HistoryPageRejection ε}
    (h : (importHistoryPage host replica page).2.2 = .error rejection)
    (herror : rejection.error = some error) (hmarks : error.marks = false) :
    error.isCompletionMismatch = true := by
  rcases happly : host.adapter.applyHistoryPage replica.engine page.payload with
    ⟨engine, effects, _ | outcome⟩
  · simp only [importHistoryPage, happly] at h
    cases h
    cases herror
    cases hmarks
  · simp only [importHistoryPage, happly] at h
    -- native or not, the checks that follow are the same
    split at h
    all_goals
      split at h
      · cases h
        cases herror
        rfl
      split at h
      · cases h
        cases herror
      split at h
      · cases h
        cases herror
        cases hmarks
      · cases h

variable {g : GenerationId}

theorem publishedReplica_error
    (h : (k.publishedReplica t g : Except (KernelError ε) _) = .error error) :
    error.isCompletionMismatch = false := by
  refine Fallible.bind_fails (P := fun e => e.isCompletionMismatch = false) (fun e h => ?_)
    (fun _ => Fallible.bind_fails (fun e h => ?_) fun s => Fallible.bind_fails (fun e h => ?_)
      fun _ => Fallible.bind_fails (fun e h => ?_) fun _ _ h => by cases h) error h
  · unfold ensureOpen at h
    split at h <;> cases h
    rfl
  · unfold knownTerminal at h
    split at h <;> cases h
    rfl
  · unfold ensureLive at h
    split at h <;> cases h
    rfl
  · unfold ofGeneration at h
    split at h
    · cases h
      rfl
    · split at h <;> cases h
      rfl

variable {page : HistoryPageInput}

theorem historyPage_rejected
    (h : (k.historyPage host page).result = .error error) (hmarks : error.marks = false) :
    (k.historyPage host page).kernel = k ∧ error.isCompletionMismatch = false ∨
      error.isCompletionMismatch = true ∧ ∃ state replica replica',
        (k.publishedReplica page.terminalId page.generation : Except (KernelError ε) _) =
          .ok (state, replica) ∧ replica'.key = replica.key ∧
        (∃ history : HistoryCache, replica'.history = history.tombstone) ∧
        (k.historyPage host page).kernel =
          k.setTerminal page.terminalId { state with published := some replica' } := by
  unfold historyPage at h ⊢
  cases hpublished : (k.publishedReplica page.terminalId page.generation :
      Except (KernelError ε) _) with
  | error e =>
    rw [hpublished] at h
    cases h
    exact .inl ⟨rfl, publishedReplica_error hpublished⟩
  | ok found =>
    obtain ⟨state, replica⟩ := found
    simp only [hpublished, require] at h ⊢
    split at h
    · cases h
    rename_i hcleared
    simp only [hcleared, Bool.false_eq_true, ↓reduceIte]
    rcases hcheck : replica.history.checkPage host.payloadDigest page.cursor page.pageSeq
      page.nextCursor page.rows page.payload with _ | _ | _
    · simp only [hcheck] at h
      cases h
      cases hmarks
    · simp only [hcheck] at h ⊢
      rcases himport : importHistoryPage host replica page with ⟨replica₁, _, rejection | _⟩
      · simp only [himport] at h ⊢
        cases herror : rejection.error with
        | none =>
          simp only [herror] at h
          cases h
        | some e =>
          simp only [herror] at h ⊢
          cases h
          refine .inr ⟨importHistoryPage_error (by rw [himport]) herror hmarks, state, replica, _,
            rfl, ?_, ⟨replica₁.history, rfl⟩, rfl⟩
          have hkey := importHistoryPage_key host replica page
          rwa [himport] at hkey
      · simp only [himport] at h
        cases h
    · simp only [hcheck] at h
      cases h

variable {profile : BootstrapStreamProfile} {baseSeq : UInt64}

theorem bootstrapBegin_rejects {geometry : CanonicalGeometry}
    : Rejects k (k.bootstrapBegin E t g profile geometry baseSeq) := by
  have hknown : k.terminals t ≠ none → k.setTerminal t ((k.terminals t).getD .default) = k := by
    intro hne
    obtain ⟨s, hk⟩ := Option.ne_none_iff_exists'.mp hne
    rw [hk, Option.getD_some, setTerminal, Table.insert_known hk]
  refine .ite (fun _ => .reject _ _) fun _ => .ite (fun _ => .reject _ _) fun _ =>
    .ite (fun _ => .reject _ _) fun _ => .ite (fun hretired => ?_) fun _ =>
    .ite (fun hheld => ?_) fun _ => ?_
  · rw [hknown fun hk => by simp [hk, TerminalState.default] at hretired]
    exact .reject _ _
  · rw [hknown fun hk => by simp [hk, TerminalState.default, holdsGeneration] at hheld]
    exact .reject _ _
  · cases E.startReplica profile geometry with
    | error error => exact .fail _ _ _ rfl
    | ok engine => exact .accept _ _ _

theorem Kept.agentBootstrapBegin_rejects (hkept : k.Kept) :
    Rejects k (k.agentBootstrapBegin t g profile baseSeq : Outcome R ε) := by
  refine .require fun _ _ => .require fun k₁ hkind => ?_
  have hlearns := expectKind_learns hkind
  cases hs : k.agents t with
  | none =>
    have hunseen : k₁.agents t = none := by rw [hlearns.agents, hs]
    simp only [hunseen, Option.getD_none, AgentStream.fresh, ensureLive, Option.isSome_none,
      Bool.false_eq_true, ↓reduceIte, require, holdsGeneration, Bool.or_self]
    exact .accept _ _ _
  | some stream =>
    have hsame : k₁ = k := by
      have hk := hkept.agentKind t stream hs
      simpa [expectKind, hk] using hkind.symm
    subst hsame
    simp only [hs, Option.getD_some, setAgent, Table.insert_known hs]
    exact .require fun _ _ => .ite (fun _ => .reject _ _) fun _ => .accept _ _ _

end SessionKernel

def KernelInput.introduces (t : ResourceId) : KernelInput → Bool
  | .bootstrapBegin u _ profile _ _ => u = t && !isAgentProfile profile
  | .attachStarted _ ts => ts.contains t
  | _ => false

namespace SessionKernel

variable {host : KernelHost R ε} {t : ResourceId} {k k' : SessionKernel R} {input : KernelInput}
  {error : KernelError ε}

/-- At most, the kernel has taken resources that the input names as terminals for terminals. -/
structure Introduced (input : KernelInput) (k k' : SessionKernel R) : Prop where
  same : k' = k.withKinds k'.kinds
  kinds : ∀ t, k'.kinds t = k.kinds t ∨
    k.kinds t = none ∧ k'.kinds t = some .terminal ∧ input.introduces t = true

theorem Introduced.closed (h : Introduced input k k') : k'.closed = k.closed := by
  rw [h.same]
  rfl

theorem Introduced.of_eq (h : k' = k) : Introduced input k k' := by
  subst h
  exact ⟨rfl, fun _ => .inl rfl⟩

theorem expectKind_same {kind : ResourceKind}
    (h : (k.expectKind t kind : Except (KernelError ε) _) = .ok k') :
    k' = k.withKinds k'.kinds := by
  unfold expectKind at h
  split at h
  · split at h
    · cases h
    · cases h
      rfl
  · cases h
    rfl

theorem expectTerminals_introduces (ts : List ResourceId) (k : SessionKernel R) :
    (k.expectTerminals ts : _ × Except (KernelError ε) Unit).1 =
        k.withKinds (k.expectTerminals ts : _ × Except (KernelError ε) Unit).1.kinds ∧
      ∀ u, (k.expectTerminals ts : _ × Except (KernelError ε) Unit).1.kinds u = k.kinds u ∨
        k.kinds u = none ∧
          (k.expectTerminals ts : _ × Except (KernelError ε) Unit).1.kinds u = some .terminal ∧
          u ∈ ts := by
  induction ts generalizing k with
  | nil => exact ⟨rfl, fun _ => .inl rfl⟩
  | cons t ts ih =>
    cases hkind : (k.expectKind t .terminal : Except (KernelError ε) _) with
    | error e =>
      simp only [expectTerminals, hkind]
      exact ⟨rfl, fun _ => .inl trivial⟩
    | ok k₁ =>
      simp only [expectTerminals, hkind]
      have hlearns := expectKind_learns hkind
      obtain ⟨hsame, hkinds⟩ := ih k₁
      refine ⟨?_, fun u => ?_⟩
      · have hlearned : ∀ kinds, k₁.withKinds kinds = k.withKinds kinds := by
          intro kinds
          rw [expectKind_same hkind]
          rfl
        exact hsame.trans (hlearned _)
      · by_cases hu : u = t
        · subst hu
          have hnow : (k₁.expectTerminals ts : _ × Except (KernelError ε) Unit).1.kinds u =
              some .terminal := by
            rcases hkinds u with h | ⟨h, -⟩
            · rw [h, hlearns.now]
            · rw [hlearns.now] at h
              cases h
          rcases hlearns.before with hb | hb
          · exact .inr ⟨hb, hnow, List.mem_cons_self⟩
          · exact .inl (hnow.trans hb.symm)
        · rw [← hlearns.others u hu]
          exact (hkinds u).imp_right fun h => ⟨h.1, h.2.1, .tail _ h.2.2⟩

theorem Kept.rejected (hkept : k.Kept) (h : (k.update host input).result = .error error)
    (hmarks : error.marks = false)
    (hpage : (input.isHistoryPage && error.isCompletionMismatch) = false) :
    Introduced input k (k.update host input).kernel := by
  cases input with
  | attachStarted attachId ts =>
    simp only [update, attachStarted] at h ⊢
    split at h
    · exact .of_eq rfl
    cases hcheck : (k.checkInventory [] ts : Except (KernelError ε) Unit) with
    | error e => exact .of_eq rfl
    | ok _ =>
      rw [hcheck] at h
      obtain ⟨hsame, hkinds⟩ := @expectTerminals_introduces R ε ts k
      rcases hexpect : (k.expectTerminals ts : _ × Except (KernelError ε) Unit) with ⟨k₁, _ | _⟩
      · rw [hexpect] at hsame hkinds
        refine ⟨hsame, fun u => (hkinds u).imp_right fun hnew => ⟨hnew.1, hnew.2.1, ?_⟩⟩
        simpa [KernelInput.introduces] using hnew.2.2
      · simp only [require, hexpect] at h
        cases h
  | bootstrapBegin t g profile geometry baseSeq =>
    simp only [update] at h ⊢
    split at h
    · rename_i hprofile
      rw [if_pos hprofile]
      exact .of_eq (hkept.agentBootstrapBegin_rejects error h hmarks)
    · rename_i hprofile
      rw [if_neg hprofile]
      cases hkind : (k.expectKind t .terminal : Except (KernelError ε) _) with
      | error e => exact .of_eq rfl
      | ok k₁ =>
        rw [hkind] at h
        have hlearns := expectKind_learns hkind
        have hkernel : (k₁.bootstrapBegin host.adapter t g profile geometry baseSeq).kernel = k₁ :=
          bootstrapBegin_rejects host.adapter error h hmarks
        rw [require, hkernel]
        refine ⟨expectKind_same hkind, fun u => ?_⟩
        by_cases hu : u = t
        · subst hu
          rcases hlearns.before with hb | hb
          · exact .inr ⟨hb, hlearns.now, by simp [KernelInput.introduces, hprofile]⟩
          · exact .inl (hlearns.now.trans hb.symm)
        · exact .inl (hlearns.others u hu)
  | historyPage page =>
    rcases historyPage_rejected h hmarks with ⟨hkernel, -⟩ | ⟨hmismatch, -⟩
    · exact .of_eq hkernel
    · rw [hmismatch] at hpage
      cases hpage
  | agentSessionDeclared declaration =>
    have hrejects : Rejects k (k.agentSessionDeclared declaration : Outcome R ε) :=
      .require fun _ _ => .require fun _ _ => .accept _ _ _
    exact .of_eq (hrejects error h hmarks)
  | input t event =>
    simp only [update, action] at h ⊢
    split at h
    · exact .of_eq rfl
    · cases h
  | _ => exact .of_eq ((update_tame rfl rfl).rejects k error h hmarks)

theorem declared_distinct (hopen : t ∉ k.closed) (hopen' : t ∉ k'.closed)
    (hkind : k.kinds t = none) (hkind' : k'.kinds t = some .terminal) : ¬Indistinct host k k' := by
  intro hsame
  have hdeclared := hsame [.agentSessionDeclared ⟨t, none, none, none, none⟩]
  have hresult := congrArg (fun answers => answers.map fun answer => answer.2) hdeclared
  simp [Machine.outputs, reply, update, agentSessionDeclared, require, ensureOpen, hopen, hopen',
    expectKind, hkind, hkind', accept, reject, fail] at hresult

theorem page_distinct (h : (k.update host (.historyPage page)).result = .error error)
    (hmarks : error.marks = false) (hmismatch : error.isCompletionMismatch = true) :
    ¬Indistinct host k (k.update host (.historyPage page)).kernel := by
  intro hsame
  rcases historyPage_rejected h hmarks with ⟨-, hnot⟩ | ⟨-, state, replica, replica', hpublished,
    hkey, ⟨history, hhistory⟩, hafter⟩
  · rw [hmismatch] at hnot
    cases hnot
  · obtain ⟨hopen, -, hlive, -, hgen⟩ := publishedReplica_iff.mp hpublished
    have hheld : ((k.setTerminal page.terminalId { state with
        published := some replica' }).publishedReplica page.terminalId page.generation :
        Except (KernelError ε) _) = .ok ({ state with published := some replica' }, replica') := by
      refine publishedReplica_iff.mpr ⟨hopen, Table.insert_self .., hlive, rfl, ?_⟩
      rw [hkey, hgen]
    have hagain : ((k.historyPage host page).kernel.historyPage host page).result =
        .error (.historyCache .gap) := by
      rw [hafter]
      simp only [historyPage, hheld, require]
      simp [hhistory, checkPage, isReplayedPage, tombstone, invalidate, checkPageOrder]
      rfl
    have hresult := congrArg (fun answers => answers.map fun answer => answer.2)
      (hsame [.historyPage page])
    simp only [Machine.outputs, reply, List.map_cons, List.map_nil, List.cons.injEq, and_true]
      at hresult
    rw [h] at hresult
    have herror : error = .historyCache .gap := Except.error.inj (hresult.trans hagain)
    rw [herror] at hmarks
    cases hmarks

theorem Introduced.alike (h : Introduced input k k')
    (hopen : ∀ t, t ∉ k.closed → k'.kinds t = k.kinds t) : Alike k k' := by
  refine ⟨h.same, fun t => ?_⟩
  by_cases hin : t ∈ k.closed
  · exact (h.kinds t).imp_right fun ⟨hnone, hnow, _⟩ => ⟨hin, hnone, hnow⟩
  · exact .inl (hopen t hin)

end SessionKernel

/-- A rejection that is not meant to leave a mark changes at most what the kernel takes for a
terminal, and is inert exactly when it teaches it the kind of no open resource. A history page
with a mismatched end is the exception, and is never inert. -/
theorem rejected_inert_iff (host : KernelHost R ε) (selected : BootstrapProfile)
    (config : HistoryCacheConfig) (calls : List KernelCall) {input : KernelInput}
    {error : KernelError ε} :
    let k := (withHistoryConfig selected config : SessionKernel R).run host calls
    let k' := (k.update host input).kernel
    (k.update host input).result = .error error → error.marks = false →
      ((input.isHistoryPage && error.isCompletionMismatch) = false →
        SessionKernel.Introduced input k k') ∧
      (SessionKernel.Indistinct host k k' ↔
        (input.isHistoryPage && error.isCompletionMismatch) = false ∧
          ∀ t, t ∉ k.closed → k'.kinds t = k.kinds t) := by
  intro k k' hrejected hmarks
  have hkept : k.Kept := kept_run
  refine ⟨hkept.rejected hrejected hmarks, fun hsame => ?_, fun ⟨hpage, hopen⟩ => ?_⟩
  · have hpage : (input.isHistoryPage && error.isCompletionMismatch) = false := by
      by_contra hpage
      obtain ⟨hinput, hmismatch⟩ : input.isHistoryPage = true ∧
          error.isCompletionMismatch = true := by simpa using hpage
      cases input with
      | historyPage page => exact page_distinct hrejected hmarks hmismatch hsame
      | _ => cases hinput
    have hintroduced := hkept.rejected hrejected hmarks hpage
    refine ⟨hpage, fun t hopen => ?_⟩
    rcases hintroduced.kinds t with heq | ⟨hnone, hnow, -⟩
    · exact heq
    · have hopen' : t ∉ k'.closed := by rwa [hintroduced.closed]
      exact absurd hsame (declared_distinct hopen hopen' hnone hnow)
  · exact ((hkept.rejected hrejected hmarks hpage).alike hopen).indistinct host

/-- A stale chunk is as good as not sent. -/
theorem stale_chunk_inert :
    let k := (withHistoryConfig .synthesizedVtRaw .standard).run .recording
      [.update (.bootstrapBegin (.local 1) .first .synthesizedVtRaw ⟨80, 24⟩ 0)]
    SessionKernel.Indistinct .recording k
      (k.update .recording (.bootstrapChunk (.local 1) .first 3 [65])).kernel := by
  intro k
  have hrejected : (k.update .recording (.bootstrapChunk (.local 1) .first 3 [65])).result =
      .error (.chunkGap 0 3) := rfl
  have hinert := rejected_inert_iff .recording .synthesizedVtRaw .standard
    [.update (.bootstrapBegin (.local 1) .first .synthesizedVtRaw ⟨80, 24⟩ 0)] hrejected rfl
  exact hinert.2.mpr ⟨rfl, fun _ _ => rfl⟩

/-- A BEGIN with no columns is rejected, and makes a terminal of a resource that is then
refused as an agent session. -/
theorem rejected_begin_remembered :
    let k := (withHistoryConfig .synthesizedVtRaw .standard : SessionKernel Bytes)
    let outcome := k.update .recording
      (.bootstrapBegin (.local 1) .first .synthesizedVtRaw ⟨0, 24⟩ 0)
    let declare := KernelInput.agentSessionDeclared ⟨.local 1, none, none, none, none⟩
    outcome.result = .error (.invalidGeometry 0 24) ∧
      (k.update .recording declare).result = .ok () ∧
      (outcome.kernel.update .recording declare).result =
        .error (.kindMismatch (.local 1) .terminal .agentSession) :=
  ⟨rfl, rfl, rfl⟩

end Phux
