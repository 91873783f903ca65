import Phux.TombstoneDominance

/-! What the kernel knows of a resource's kind, apart from the rest of its state: most inputs
do not look at it, and of a closed resource none can tell. -/

namespace Phux

open ByteReader

variable {R ε : Type}

def KernelError.marks : KernelError ε → Bool
  | engine _ | engineNotReady | agentRecord _ | historyCache _ => true
  | _ => false

namespace SessionKernel

variable {host : KernelHost R ε} {k k' : SessionKernel R}

/-- Whatever is rejected without leaving a mark leaves this kernel. -/
def Rejects (k : SessionKernel R) (o : Outcome R ε) : Prop :=
  ∀ error, o.result = .error error → error.marks = false → o.kernel = k

namespace Rejects

theorem reject (k : SessionKernel R) (error : KernelError ε) : Rejects k (k.reject error) :=
  fun _ _ _ => rfl

theorem accept (k k' : SessionKernel R) (effects : List KernelEffect) :
    Rejects k (k'.accept effects : Outcome R ε) :=
  fun _ h => by cases h

theorem fail (k k' : SessionKernel R) (effects : List KernelEffect) {error : KernelError ε}
    (hmarks : error.marks = true) : Rejects k (k'.fail effects error) := by
  rintro error' ⟨⟩ hmarks'
  rw [hmarks'] at hmarks
  cases hmarks

theorem require {α : Type} {check : Except (KernelError ε) α} {next : α → Outcome R ε}
    (h : ∀ a, check = .ok a → Rejects k (next a)) : Rejects k (k.require check next) :=
  require_cases (fun error => reject k error) h

theorem ite {p : Prop} [Decidable p] {a b : Outcome R ε} (ha : p → Rejects k a)
    (hb : ¬p → Rejects k b) : Rejects k (if p then a else b) := by
  split
  · rename_i hp
    exact ha hp
  · rename_i hp
    exact hb hp

end Rejects

def reply (host : KernelHost R ε) (k : SessionKernel R) (input : KernelInput) :
    SessionKernel R × List KernelEffect × Except (KernelError ε) Unit :=
  ((k.update host input).kernel, (k.update host input).effects, (k.update host input).result)

def Indistinct (host : KernelHost R ε) (k k' : SessionKernel R) : Prop :=
  ∀ inputs, Machine.outputs (reply host) k inputs = Machine.outputs (reply host) k' inputs

def withKinds (k : SessionKernel R) (kinds : Table ResourceId ResourceKind) : SessionKernel R :=
  { k with kinds }

end SessionKernel

def Outcome.withKinds (o : Outcome R ε) (kinds : Table ResourceId ResourceKind) : Outcome R ε :=
  { o with kernel := o.kernel.withKinds kinds }

/-! Only a BEGIN, an attach inventory, a declaration and an input event look at the kinds. -/

namespace SessionKernel

variable (k : SessionKernel R) (kinds : Table ResourceId ResourceKind) (t : ResourceId)
  (g : GenerationId)

theorem require_withKinds {α : Type} {check : Except (KernelError ε) α}
    {next next' : α → Outcome R ε} (h : ∀ a, next' a = (next a).withKinds kinds) :
    (k.withKinds kinds).require check next' = (k.require check next).withKinds kinds := by
  cases check with
  | error error => rfl
  | ok a => exact h a

theorem ite_withKinds {p : Prop} [Decidable p] {a b a' b' : Outcome R ε}
    (ha : a' = a.withKinds kinds) (hb : b' = b.withKinds kinds) :
    (if p then a' else b') = (if p then a else b).withKinds kinds := by
  split
  · exact ha
  · exact hb

variable (E : EngineAdapter R ε)

/-- The handler does not look at the kinds, and what it rejects without leaving a mark changes
nothing. -/
structure Tame (f : SessionKernel R → Outcome R ε) : Prop where
  blind : ∀ k kinds, f (k.withKinds kinds) = (f k).withKinds kinds
  rejects : ∀ k, Rejects k (f k)

namespace Tame

variable {f f' : SessionKernel R → Outcome R ε}

variable {error : KernelError ε}

theorem reject : Tame fun k : SessionKernel R => k.reject error :=
  ⟨fun _ _ => rfl, fun k => .reject k error⟩

theorem accept (hblind : ∀ k kinds, f (k.withKinds kinds) = (f k).withKinds kinds)
    (hresult : ∀ k, (f k).result = .ok ()) : Tame f :=
  ⟨hblind, fun k error h _ => by simp [hresult k] at h⟩

theorem fail (hblind : ∀ k kinds, f (k.withKinds kinds) = (f k).withKinds kinds)
    (hresult : ∀ k, (f k).result = .error error) (hmarks : error.marks = true) : Tame f where
  blind := hblind
  rejects k error' h hmarks' := by
    cases (hresult k).symm.trans h
    simp [hmarks] at hmarks'

theorem require {α : Type} {check : SessionKernel R → Except (KernelError ε) α}
    {next : α → SessionKernel R → Outcome R ε}
    (hcheck : ∀ k kinds, check (k.withKinds kinds) = check k) (h : ∀ a, Tame (next a)) :
    Tame fun k => k.require (check k) fun a => next a k where
  blind k kinds := by
    rw [hcheck]
    exact require_withKinds k kinds fun a => (h a).blind k kinds
  rejects k := .require fun a _ => (h a).rejects k

theorem ite {c : SessionKernel R → Prop} [∀ k, Decidable (c k)]
    (hc : ∀ k kinds, c (k.withKinds kinds) = c k) (h : Tame f) (h' : Tame f') :
    Tame fun k => if c k then f k else f' k where
  blind k kinds := by
    simp only [hc]
    exact ite_withKinds kinds (h.blind k kinds) (h'.blind k kinds)
  rejects k := .ite (fun _ => h.rejects k) fun _ => h'.rejects k

end Tame

theorem bootstrapChunk_tame (seq : UInt32) (payload : Bytes) :
    Tame fun k : SessionKernel R => k.bootstrapChunk E t g seq payload := by
  refine .require (fun _ _ => rfl) fun ⟨state, staging⟩ => .require (fun _ _ => rfl) fun _ => ?_
  rcases E.applyBootstrapChunk staging.engine payload with ⟨_, _, _ | _⟩
  · exact .fail (fun _ _ => rfl) (fun _ => rfl) rfl
  · exact .accept (fun _ _ => rfl) fun _ => rfl

theorem publish_withKinds : (k.withKinds kinds).publish E t = (k.publish E t).withKinds kinds := by
  refine require_withKinds k kinds fun state => ?_
  cases state.staging with
  | none => rfl
  | some staging =>
    simp only [withKinds]
    rcases E.configureHistoryBudget staging.engine k.historyConfig.maxBytes
      k.historyConfig.maxMaterializedRows with ⟨_, _ | _⟩
    · rfl
    · rfl

theorem publish_rejects {state : TerminalState R} {staging : Staging R}
    (hstaged : state.staging = some staging) : Rejects k ((k.setTerminal t state).publish E t) := by
  have hknown : (k.setTerminal t state).knownTerminal t =
      (.ok state : Except (KernelError ε) _) := knownTerminal_eq_ok.mpr (Table.insert_self ..)
  simp only [publish, hknown, require, hstaged]
  rcases E.configureHistoryBudget staging.engine (k.setTerminal t state).historyConfig.maxBytes
    (k.setTerminal t state).historyConfig.maxMaterializedRows with ⟨_, _ | _⟩
  · exact .fail _ _ _ rfl
  · exact .accept _ _ _

theorem bootstrapReady_tame (cursor : Option Bytes) :
    Tame fun k : SessionKernel R => k.bootstrapReady E t g cursor := by
  refine .require (fun _ _ => rfl) fun ⟨state, staging⟩ => .ite (fun _ _ => rfl) .reject ?_
  rcases E.finishBootstrap staging.engine with ⟨_, _, _ | progress⟩
  · exact .fail (fun _ _ => rfl) (fun _ => rfl) rfl
  · exact .ite (fun _ _ => rfl) ⟨fun k kinds => publish_withKinds (k.setTerminal t _) kinds t E,
      fun k => publish_rejects k t E rfl⟩ (.fail (fun _ _ => rfl) (fun _ => rfl) rfl)

theorem terminalOutput_tame (seq : UInt64) (payload : Bytes) :
    Tame fun k : SessionKernel R => k.terminalOutput E t g seq payload := by
  refine .require (fun _ _ => rfl) fun ⟨state, replica⟩ => .require (fun _ _ => rfl) fun _ =>
    .require (fun _ _ => rfl) fun distance => ?_
  rcases E.applyOutput replica.engine payload with ⟨_, _, _ | _⟩
  · exact .fail (fun _ _ => rfl) (fun _ => rfl) rfl
  · exact .accept (fun _ _ => rfl) fun _ => rfl

theorem historyPage_withKinds (host : KernelHost R ε) (page : HistoryPageInput) :
    (k.withKinds kinds).historyPage host page = (k.historyPage host page).withKinds kinds := by
  refine require_withKinds k kinds fun ⟨state, replica⟩ => ite_withKinds kinds rfl ?_
  rcases replica.history.checkPage host.payloadDigest page.cursor page.pageSeq page.nextCursor
    page.rows page.payload with _ | _ | _
  · rfl
  · dsimp only
    rcases importHistoryPage host replica page with ⟨_, _, rejection | _⟩
    · dsimp only
      cases rejection.error with
      | none => rfl
      | some error => rfl
    · rfl
  · rfl

variable (json : JsonCodec)

theorem agentBootstrapChunk_tame (seq : UInt32) (payload : Bytes) : Tame fun k : SessionKernel R =>
      (k.agentBootstrapChunk json t g seq payload : Outcome R ε) := by
  refine .require (fun _ _ => rfl) fun stream => .require (fun _ _ => rfl) fun staging =>
    .require (fun _ _ => rfl) fun _ => ?_
  cases parseRecords json payload with
  | error error => exact .fail (fun _ _ => rfl) (fun _ => rfl) rfl
  | ok records => exact .accept (fun _ _ => rfl) fun _ => rfl

theorem agentOutput_tame (seq : UInt64) (payload : Bytes) :
    Tame fun k : SessionKernel R => (k.agentOutput json t g seq payload : Outcome R ε) := by
  refine .require (fun _ _ => rfl) fun stream => .require (fun _ _ => rfl) fun published =>
    .require (fun _ _ => rfl) fun _ => ?_
  cases parseRecords json payload with
  | error error => exact .fail (fun _ _ => rfl) (fun _ => rfl) rfl
  | ok records => exact .require (fun _ _ => rfl) fun _ => .accept (fun _ _ => rfl) fun _ => rfl

theorem attachReady_tame (attachId : UInt32) :
    Tame fun k : SessionKernel R => (k.attachReady attachId : Outcome R ε) := by
  have hready : ∀ k kinds, ((k.withKinds kinds).attachReady attachId : Outcome R ε) =
      (k.attachReady attachId).withKinds kinds ∧
      Rejects k (k.attachReady attachId : Outcome R ε) := by
    intro k kinds
    have hattach : (k.withKinds kinds).attach = k.attach := rfl
    simp only [attachReady, hattach]
    cases k.attach with
    | none => exact ⟨rfl, .reject _ _⟩
    | some attach =>
      exact ⟨ite_withKinds kinds rfl (ite_withKinds kinds rfl (ite_withKinds kinds rfl rfl)),
        .ite (fun _ => .reject _ _) fun _ => .ite (fun _ => .reject _ _) fun _ =>
          .ite (fun _ => .reject _ _) fun _ => .accept _ _ _⟩
  exact ⟨fun k kinds => (hready k kinds).1, fun k => (hready k k.kinds).2⟩

theorem tombstoneGeneration_withKinds (record : TombstoneRecord) :
    (k.withKinds kinds).tombstoneGeneration t g record =
      (k.tombstoneGeneration t g record).withKinds kinds := by
  cases hagent : k.agents t with
  | some stream =>
    have hagent' : (k.withKinds kinds).agents t = some stream := hagent
    simp only [tombstoneGeneration, hagent, hagent']
    rfl
  | none =>
    have hagent' : (k.withKinds kinds).agents t = none := hagent
    simp only [tombstoneGeneration, hagent, hagent']
    rw [apply_ite (withKinds · kinds)]
    rfl

theorem openTerminals_withKinds (ts : List ResourceId) (k : SessionKernel R) :
    (k.withKinds kinds).openTerminals ts = (k.openTerminals ts).withKinds kinds := by
  induction ts generalizing k with
  | nil => rfl
  | cons t ts ih => exact ih (k.setTerminal t ((k.terminals t).getD .default))

theorem checkInventory_withKinds (before ts : List ResourceId) :
    ((k.withKinds kinds).checkInventory before ts : Except (KernelError ε) Unit) =
      k.checkInventory before ts := by
  induction ts generalizing before with
  | nil => rfl
  | cons t ts ih =>
    simp only [checkInventory, ih]
    rfl

end SessionKernel

def KernelInput.readsKinds : KernelInput → Bool
  | .attachStarted _ _ | .bootstrapBegin _ _ _ _ _ | .agentSessionDeclared _ | .input _ _ => true
  | _ => false

def KernelInput.isHistoryPage : KernelInput → Bool
  | .historyPage _ => true
  | _ => false

namespace SessionKernel

variable {host : KernelHost R ε} {t : ResourceId} {k k' : SessionKernel R}

theorem update_tame {input : KernelInput} (hkinds : input.readsKinds = false)
    (hpage : input.isHistoryPage = false) : Tame fun k : SessionKernel R => k.update host input := by
  cases input with
  | attachReady attachId => exact attachReady_tame attachId
  | bootstrapChunk t g seq payload =>
    exact .ite (fun _ _ => rfl) (agentBootstrapChunk_tame ..) (bootstrapChunk_tame ..)
  | bootstrapReady t g cursor =>
    refine .ite (fun _ _ => rfl) (.require (fun _ _ => rfl) fun _ => ?_) (bootstrapReady_tame ..)
    exact .require (fun _ _ => rfl) fun _ => .accept (fun _ _ => rfl) fun _ => rfl
  | resourceOutput t g seq payload =>
    exact .ite (fun _ _ => rfl) (agentOutput_tame ..) (terminalOutput_tame ..)
  | historyTombstone t g cursor reason =>
    refine .require (fun _ _ => rfl) fun ⟨state, replica⟩ => ?_
    dsimp only
    rcases replica.history.invalidateCursor cursor reason.loadState with ⟨_, _ | _⟩
    all_goals exact .accept (fun _ _ => rfl) fun _ => rfl
  | historyRejected t g cursor reason bytes rows =>
    refine .require (fun _ _ => rfl) fun ⟨state, replica⟩ => ?_
    dsimp only
    rcases replica.history.cancelFetch cursor with ⟨_, _ | _⟩
    · exact .reject
    · exact .ite (fun _ _ => rfl) (.accept (fun _ _ => rfl) fun _ => rfl)
        (.accept (fun _ _ => rfl) fun _ => rfl)
  | tombstone t g record =>
    refine .accept (fun k kinds => ?_) fun _ => rfl
    simp only [update, tombstoneGeneration_withKinds]
    rfl
  | resourceClosed t => exact .accept (fun _ _ => rfl) fun _ => rfl
  | historyPage page => cases hpage
  | _ => cases hkinds

/-- The kernels differ at most in what they know of closed resources: there the second may
know a terminal that the first does not. -/
structure Alike (k k' : SessionKernel R) : Prop where
  same : k' = k.withKinds k'.kinds
  kinds : ∀ t, k'.kinds t = k.kinds t ∨
    t ∈ k.closed ∧ k.kinds t = none ∧ k'.kinds t = some .terminal

structure AlikeOutcome (o o' : Outcome R ε) : Prop where
  effects : o.effects = o'.effects
  result : o.result = o'.result
  kernel : Alike o.kernel o'.kernel

namespace Alike

theorem kinds_eq (h : Alike k k') (hopen : t ∉ k.closed) : k'.kinds t = k.kinds t := by
  rcases h.kinds t with heq | ⟨hclosed, -⟩
  · exact heq
  · exact absurd hclosed hopen

theorem outcome (h : Alike k k') (f : SessionKernel R → Outcome R ε)
    (hf : ∀ kinds, f (k.withKinds kinds) = (f k).withKinds kinds)
    (hclosed : ∀ t ∈ k.closed, t ∈ (f k).kernel.closed) : AlikeOutcome (f k) (f k') := by
  have hf' : f k' = (f k).withKinds k'.kinds := by rw [← hf, ← h.same]
  have hkinds : (f k).kernel.kinds = k.kinds := congrArg (fun o => o.kernel.kinds) (hf k.kinds)
  rw [hf']
  refine ⟨rfl, rfl, rfl, fun t => ?_⟩
  rw [hkinds]
  exact (h.kinds t).imp_right fun ⟨hin, hnone, hsome⟩ => ⟨hclosed t hin, hnone, hsome⟩

theorem reject (h : Alike k k') (error : KernelError ε) :
    AlikeOutcome (k.reject error) (k'.reject error) :=
  ⟨rfl, rfl, h⟩

variable {kind : ResourceKind}

theorem learn (h : Alike k k') :
    Alike { k with kinds := k.kinds.insert t kind } { k' with kinds := k'.kinds.insert t kind } where
  same := by
    conv_lhs => rw [h.same]
    rfl
  kinds u := by
    by_cases hu : u = t
    · subst hu
      exact .inl ((Table.insert_self ..).trans (Table.insert_self ..).symm)
    · simp only [Table.insert_of_ne hu]
      exact h.kinds u

theorem learn_left (h : Alike k k') (hkind : k'.kinds t = some .terminal) :
    Alike { k with kinds := k.kinds.insert t .terminal } k' where
  same := h.same
  kinds u := by
    by_cases hu : u = t
    · subst hu
      exact .inl (hkind.trans (Table.insert_self ..).symm)
    · simp only [Table.insert_of_ne hu]
      exact h.kinds u

theorem expectKind (h : Alike k k') (heq : k'.kinds t = k.kinds t)
    {next : SessionKernel R → Outcome R ε}
    (hnext : ∀ k₁ kinds, next (k₁.withKinds kinds) = (next k₁).withKinds kinds)
    (hclosed : ∀ k₁, (k.expectKind t kind : Except (KernelError ε) _) = .ok k₁ →
      ∀ u ∈ k₁.closed, u ∈ (next k₁).kernel.closed) :
    AlikeOutcome (k.require (k.expectKind t kind) next)
      (k'.require (k'.expectKind t kind) next) := by
  cases hk : k.kinds t with
  | none =>
    simp only [SessionKernel.expectKind, heq, hk, require]
    exact h.learn.outcome next (hnext _) (hclosed _ (by simp [SessionKernel.expectKind, hk]))
  | some declared =>
    by_cases hd : declared = kind
    · simp only [SessionKernel.expectKind, heq, hk, hd, ne_eq, not_true_eq_false, ↓reduceIte,
        require]
      exact h.outcome next (hnext k) (hclosed k (by simp [SessionKernel.expectKind, hk, hd]))
    · simp only [SessionKernel.expectKind, heq, hk, ne_eq, hd, not_false_eq_true, ↓reduceIte,
        require]
      exact h.reject _

theorem ensureOpen (h : Alike k k') {next next' : Outcome R ε}
    (hnext : t ∉ k.closed → AlikeOutcome next next') :
    AlikeOutcome (k.require (k.ensureOpen t) fun _ => next)
      (k'.require (k'.ensureOpen t) fun _ => next') := by
  have hclosed : k'.closed = k.closed := by rw [h.same]; rfl
  by_cases hin : t ∈ k.closed
  · simp only [SessionKernel.ensureOpen, hclosed, hin, ↓reduceIte, require]
    exact h.reject _
  · simp only [SessionKernel.ensureOpen, hclosed, hin, ↓reduceIte, require]
    exact hnext hin

theorem agentSessionDeclared (h : Alike k k') (declaration : AgentSessionDeclaration) :
    AlikeOutcome (k.agentSessionDeclared declaration : Outcome R ε)
      (k'.agentSessionDeclared declaration) :=
  h.ensureOpen fun hopen => h.expectKind (h.kinds_eq hopen) (fun _ _ => rfl) fun _ _ _ hin => hin

theorem agentBootstrapBegin (h : Alike k k') (g : GenerationId)
    (profile : BootstrapStreamProfile) (baseSeq : UInt64) :
    AlikeOutcome (k.agentBootstrapBegin t g profile baseSeq : Outcome R ε)
      (k'.agentBootstrapBegin t g profile baseSeq) := by
  refine h.ensureOpen fun hopen => h.expectKind (h.kinds_eq hopen) (fun k₁ kinds => ?_)
    fun k₁ _ u hin => ?_
  · exact require_withKinds (k₁.setAgent t _) kinds fun _ => ite_withKinds kinds rfl rfl
  · refine require_cases (p := fun o => u ∈ o.kernel.closed) (fun _ => hin) fun _ _ => ?_
    split
    · exact hin
    · exact hin

theorem bootstrapBegin (h : Alike k k') (E : EngineAdapter R ε) (g : GenerationId)
    (profile : BootstrapStreamProfile) (geometry : CanonicalGeometry) (baseSeq : UInt64) :
    AlikeOutcome (k.require (k.expectKind t .terminal) fun k =>
        k.bootstrapBegin E t g profile geometry baseSeq)
      (k'.require (k'.expectKind t .terminal) fun k =>
        k.bootstrapBegin E t g profile geometry baseSeq) := by
  rcases h.kinds t with heq | ⟨hclosed, hnone, hsome⟩
  · refine h.expectKind heq (fun k₁ kinds => ?_) fun k₁ hk₁ u hin => ?_
    · refine ite_withKinds kinds rfl (ite_withKinds kinds rfl (ite_withKinds kinds rfl
        (ite_withKinds kinds rfl (ite_withKinds kinds rfl ?_))))
      cases E.startReplica profile geometry with
      | error error => rfl
      | ok engine => rfl
    · rw [(bootstrapBegin_move (expectKind_learns hk₁).now g profile geometry baseSeq).closed]
      exact hin
  · -- the resource is closed: the first kernel learns its kind now, and both refuse
    have hclosed' : t ∈ k'.closed := by rw [h.same]; exact hclosed
    simp only [SessionKernel.expectKind, hnone, hsome, require, ne_eq, not_true_eq_false,
      ↓reduceIte, SessionKernel.bootstrapBegin, hclosed, hclosed']
    exact (h.learn_left hsome).reject _

theorem action (h : Alike k k') (event : InputEvent) :
    AlikeOutcome (k.action t event : Outcome R ε) (k'.action t event) := by
  have heligible : k'.inputEligibility t = k.inputEligibility t := by
    by_cases hin : t ∈ k.closed
    · have hin' : t ∈ k'.closed := by rw [h.same]; exact hin
      simp only [inputEligibility, hin, hin', ↓reduceIte]
    · have hkinds := h.kinds_eq hin
      unfold inputEligibility
      rw [hkinds, h.same]
      rfl
  unfold SessionKernel.action
  rw [heligible]
  cases k.inputEligibility t with
  | eligible generation | ineligible reason => exact ⟨rfl, rfl, h⟩

theorem expectTerminals {ts : List ResourceId} (h : Alike k k') (hopen : ∀ t ∈ ts, t ∉ k.closed) :
    (k.expectTerminals ts : _ × Except (KernelError ε) Unit).2 = (k'.expectTerminals ts).2 ∧
      Alike (k.expectTerminals ts : _ × Except (KernelError ε) Unit).1
        (k'.expectTerminals ts : _ × Except (KernelError ε) Unit).1 := by
  induction ts generalizing k k' with
  | nil => exact ⟨rfl, h⟩
  | cons t ts ih =>
    obtain ⟨ht, hts⟩ := List.forall_mem_cons.mp hopen
    have heq := h.kinds_eq ht
    cases hk : k.kinds t with
    | none =>
      simp only [SessionKernel.expectTerminals, SessionKernel.expectKind, heq, hk]
      exact ih h.learn hts
    | some declared =>
      by_cases hd : declared = .terminal
      · simp only [SessionKernel.expectTerminals, SessionKernel.expectKind, heq, hk, hd, ne_eq,
          not_true_eq_false, ↓reduceIte]
        exact ih h hts
      · simp only [SessionKernel.expectTerminals, SessionKernel.expectKind, heq, hk, ne_eq, hd,
          not_false_eq_true, ↓reduceIte]
        exact ⟨trivial, h⟩

theorem attachStarted (h : Alike k k') (attachId : UInt32) (ts : List ResourceId) :
    AlikeOutcome (k.attachStarted attachId ts : Outcome R ε) (k'.attachStarted attachId ts) := by
  have hattach : k'.attach = k.attach := by rw [h.same]; rfl
  have hinventory : (k'.checkInventory [] ts : Except (KernelError ε) Unit) =
      k.checkInventory [] ts := by
    rw [h.same]
    exact checkInventory_withKinds ..
  unfold SessionKernel.attachStarted
  rw [hattach, hinventory]
  cases k.attach.filter fun attach => !attach.released with
  | some attach => exact h.reject _
  | none =>
    cases hcheck : (k.checkInventory [] ts : Except (KernelError ε) Unit) with
    | error error => exact h.reject error
    | ok _ =>
      obtain ⟨hresult, hkernel⟩ := @expectTerminals R ε k k' ts h
        fun t ht => ((checkInventory_ok hcheck).1 t ht).1
      rcases hexpect : (k.expectTerminals ts : _ × Except (KernelError ε) Unit) with ⟨k₁, _ | _⟩
      all_goals
        rcases hexpect' : (k'.expectTerminals ts : _ × Except (KernelError ε) Unit) with ⟨k₁', _ | _⟩
        all_goals
          rw [hexpect, hexpect'] at hresult hkernel
          cases hresult
      · exact hkernel.reject _
      · refine hkernel.outcome (fun k => { k.openTerminals ts with
          attach := some {
            attachId
            released := false
            terminals := ts.map fun t => ⟨t, false, false⟩ } : SessionKernel R }.accept [])
          (fun kinds => ?_) fun t hin => ?_
        · rw [openTerminals_withKinds]
          rfl
        · change t ∈ (k₁.openTerminals ts).closed
          rwa [(openTerminals_informs ts k₁).closed]

theorem update (h : Alike k k') (host : KernelHost R ε) (input : KernelInput) :
    AlikeOutcome (k.update host input) (k'.update host input) := by
  cases hreads : input.readsKinds with
  | false =>
    refine h.outcome (fun k => k.update host input) (fun kinds => ?_) fun t hin => ?_
    · cases input with
      | historyPage page => exact historyPage_withKinds k kinds host page
      | _ => exact (update_tame hreads rfl).blind k kinds
    change t ∈ (k.after host (.update input)).closed
    exact closed_after hin (by simp) (by simp)
  | true =>
    cases input with
    | attachStarted attachId ts => exact h.attachStarted attachId ts
    | bootstrapBegin t g profile geometry baseSeq =>
      simp only [SessionKernel.update]
      split
      · exact h.agentBootstrapBegin g profile baseSeq
      · exact h.bootstrapBegin host.adapter g profile geometry baseSeq
    | agentSessionDeclared declaration => exact h.agentSessionDeclared declaration
    | input t event => exact h.action event
    | _ => cases hreads

theorem indistinct (h : Alike k k') (host : KernelHost R ε) : Indistinct host k k' := by
  refine fun inputs => Machine.outputs_eq (r := Alike) (fun k k' input h => ?_) h inputs
  have hupdate := h.update host input
  exact ⟨Prod.ext hupdate.effects hupdate.result, hupdate.kernel⟩

end Alike

end SessionKernel

end Phux
