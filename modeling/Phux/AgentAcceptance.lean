import Phux.AgentLines
import Phux.FrameRoute
import Phux.KernelStep

/-! Agent streams at the client: which frames of a session it takes. -/

namespace Phux

open ByteReader AgentGeneration SessionKernel FlatJson GenerationId List Option

variable {R ε : Type} {host : KernelHost R ε} {k : SessionKernel R} {t : ResourceId}
  {g : GenerationId}

/-- The frame is accepted, and the generation is not retired by it. -/
def Keeps (host : KernelHost R ε) (t : ResourceId) (g : GenerationId) (k : SessionKernel R)
    (frame : FrameKind) : Prop :=
  (k.receive host frame).result = .ok () ∧
    ∀ stream, (k.afterFrame host frame).agents t = some stream → stream.retired g = none

/-- The client has an open, live generation of `t` in its staging slot. -/
structure StagedAt (k : SessionKernel R) (t : ResourceId) (g : GenerationId)
    (next : Option UInt32) (baseSeq : UInt64) : Prop where
  isOpen : t ∉ k.closed
  stream : ∃ stream staging, k.agents t = some stream ∧ stream.retired g = none ∧
    holdsGeneration key stream.published g = false ∧
    stream.staging = some staging ∧ generationOf staging.key = g ∧ staging.nextChunkSeq = next ∧
    staging.baseSeq = baseSeq

/-- The client follows a published live generation of `t` up to `seq`. -/
structure FollowsAt (k : SessionKernel R) (t : ResourceId) (g : GenerationId) (seq : UInt64) :
    Prop where
  isOpen : t ∉ k.closed
  stream : ∃ stream published, k.agents t = some stream ∧ stream.retired g = none ∧
    stream.published = some published ∧ generationOf published.key = g ∧
    published.nextSeq = checkedNext64 seq

/-- The client can start this generation of `t` as an agent stream. -/
structure ReadyFor (k : SessionKernel R) (t : ResourceId) (g : GenerationId) : Prop where
  isOpen : t ∉ k.closed
  kind : k.kinds t = none ∨ k.kinds t = some .agentSession
  fresh : ∀ stream, k.agents t = some stream → stream.retired g = none ∧
    holdsGeneration key stream.published g = false ∧
    holdsGeneration AgentStaging.key stream.staging g = false

variable {stream : AgentStream} {base : UInt64} {lines : List Bytes}

theorem keeps_of_accept {k' : SessionKernel R} {frame : FrameKind} {effects : List KernelEffect}
    (h : k.receive host frame = k'.accept effects) (hagent : k'.agents t = some stream)
    (hlive : stream.retired g = none) : Keeps host t g k frame ∧ k.afterFrame host frame = k' := by
  have hafter : k.afterFrame host frame = k' := by
    rw [afterFrame, h]
    rfl
  refine ⟨⟨by rw [h]; rfl, ?_⟩, hafter⟩
  intro found hfound
  rw [hafter, hagent] at hfound
  obtain rfl := some.inj hfound
  exact hlive

theorem ReadyFor.begin_kept (h : ReadyFor k t g) {baseSeq : UInt64} :
    Keeps host t g k (.bootstrapBegin t g.streamId g.bootstrapId .agentEventsJsonlV1 0 0 baseSeq) ∧
      StagedAt (k.afterFrame host
        (.bootstrapBegin t g.streamId g.bootstrapId .agentEventsJsonlV1 0 0 baseSeq)) t g (some 0)
        baseSeq := by
  obtain ⟨k', hk', hagents, hclosed⟩ : ∃ k', (k.expectKind t .agentSession :
      Except (KernelError ε) (SessionKernel R)) = .ok k' ∧ k'.agents = k.agents ∧
      k'.closed = k.closed := by
    unfold expectKind
    rcases h.kind with hkind | hkind
    · exact ⟨{ k with kinds := k.kinds.insert t .agentSession }, by rw [hkind], rfl, rfl⟩
    · exact ⟨k, by simp [hkind], rfl, rfl⟩
  have hstream : ((k.agents t).getD .fresh).retired g = none ∧
      holdsGeneration key ((k.agents t).getD .fresh).published g = false ∧
      holdsGeneration AgentStaging.key ((k.agents t).getD .fresh).staging g = false := by
    cases hagent : k.agents t with
    | none => exact ⟨rfl, rfl, rfl⟩
    | some stream => exact h.fresh stream hagent
  obtain ⟨hlive, hpublished, hstaging⟩ := hstream
  obtain ⟨stream, hreceive, hretired, hpublished', hstaged⟩ : ∃ stream,
      k.receive host (.bootstrapBegin t g.streamId g.bootstrapId .agentEventsJsonlV1 0 0 baseSeq) =
        (k'.setAgent t stream).accept [] ∧ stream.retired g = none ∧
      holdsGeneration key stream.published g = false ∧
      stream.staging = some ⟨g.key t .agentEventsJsonlV1, baseSeq, some 0, []⟩ := by
    cases hheld : ((k.agents t).getD .fresh).staging with
    | none =>
      refine ⟨{ (k.agents t).getD .fresh with
        staging := some ⟨g.key t .agentEventsJsonlV1, baseSeq, some 0, []⟩ }, ?_, hlive, hpublished,
        rfl⟩
      rw [hheld] at hstaging
      simp [receive, kernelInputFor, attachStreamInput, update, isAgentProfile, agentBootstrapBegin,
        require, ensureOpen, h.isOpen, hk', hagents, ensureLive, hlive, hpublished, hheld, hstaging,
        setAgent_setAgent]
    | some old =>
      have hne : g ≠ generationOf old.key := by
        rintro rfl
        simp [hheld, holdsGeneration] at hstaging
      refine ⟨{ (k.agents t).getD .fresh with
        staging := some ⟨g.key t .agentEventsJsonlV1, baseSeq, some 0, []⟩
        retired := supersede ((k.agents t).getD .fresh).retired (generationOf old.key) old.baseSeq },
        ?_, by simpa [supersede, hne] using hlive, hpublished, rfl⟩
      rw [hheld] at hstaging
      simp [receive, kernelInputFor, attachStreamInput, update, isAgentProfile, agentBootstrapBegin,
        require, ensureOpen, h.isOpen, hk', hagents, ensureLive, hlive, hpublished, hheld, hstaging,
        setAgent_setAgent]
  have hagent : (k'.setAgent t stream).agents t = some stream := by simp [setAgent]
  obtain ⟨hkeeps, hafter⟩ := keeps_of_accept hreceive hagent hretired
  refine ⟨hkeeps, ?_⟩
  rw [hafter]
  exact ⟨by simpa [setAgent, hclosed] using h.isOpen,
    stream, _, hagent, hretired, hpublished', hstaged, rfl, rfl, rfl⟩

theorem liveAgent_of (hopen : t ∉ k.closed) (hagent : k.agents t = some stream)
    (hlive : stream.retired g = none) :
    (k.liveAgent t g : Except (KernelError ε) AgentStream) = .ok stream := by
  simp [liveAgent, ensureOpen, hopen, knownAgent, hagent,
    ensureLive, hlive, bind, Except.bind, pure, Except.pure]

variable {c : UInt32}

theorem StagedAt.receive_chunk (h : StagedAt k t g (some c) base)
    (host : KernelHost R ε) (payload : Bytes) :
    ∃ (stream : AgentStream) (st : AgentStaging), k.agents t = some stream ∧
      stream.retired g = none ∧ holdsGeneration key stream.published g = false ∧
      generationOf st.key = g ∧ st.baseSeq = base ∧
      k.receive host (.bootstrapChunk t g.streamId g.bootstrapId c payload) =
        match parseRecords host.json payload with
        | .ok rs =>
          (k.setAgent t { stream with
            staging := some { st with
              records := st.records ++ rs
              nextChunkSeq := checkedNext32 c } }).accept []
        | .error error => k.retireAgentGeneration t stream g st.baseSeq (.agentRecord error) := by
  obtain ⟨stream, st, hagent, hlive, hpublished, hstaged, hkey, hnext, hbase⟩ := h.stream
  refine ⟨stream, st, hagent, hlive, hpublished, hkey, hbase, ?_⟩
  have hstream := liveAgent_of (ε := ε) h.isOpen hagent hlive
  have hexpect : (expectAgentChunk st c : Except (KernelError ε) Unit) = .ok () := by
    simp [expectAgentChunk, hnext]
  simp only [receive, kernelInputFor, attachStreamInput, some_or, update, hagent, isSome_some,
    ↓reduceIte, agentBootstrapChunk, hstream, require, ofGeneration, hstaged, hkey, hexpect]
  all_goals rfl

theorem StagedAt.chunk_kept {a b : UInt64} (h : StagedAt k t g (some c) base)
    (hlines : Counted (StampedLine host.json) a lines b) (hfits : ∀ line ∈ lines, FitsRecord line) :
    Keeps host t g k (.bootstrapChunk t g.streamId g.bootstrapId c lines.flatten) ∧
      StagedAt (k.afterFrame host (.bootstrapChunk t g.streamId g.bootstrapId c lines.flatten)) t g
        (checkedNext32 c) base := by
  obtain ⟨stream, st, hagent, hlive, hpublished, hkey, hbase, hreceive⟩ :=
    h.receive_chunk host lines.flatten
  obtain ⟨rs, hparse, -⟩ := parseRecords_of_fits hlines hfits
  simp only [hparse] at hreceive
  obtain ⟨hkeeps, hafter⟩ := keeps_of_accept (t := t) hreceive Table.insert_self hlive
  refine ⟨hkeeps, ?_⟩
  rw [hafter]
  exact ⟨h.isOpen, _, _, Table.insert_self, hlive, hpublished, rfl, hkey, rfl, hbase⟩

theorem StagedAt.chunk_long {a b : UInt64} (h : StagedAt k t g (some c) base)
    (hlines : Counted (StampedLine host.json) a lines b)
    (hlong : ¬∀ line ∈ lines, FitsRecord line) :
    ¬Keeps host t g k (.bootstrapChunk t g.streamId g.bootstrapId c lines.flatten) := by
  obtain ⟨stream, st, -, -, -, -, -, hreceive⟩ := h.receive_chunk host lines.flatten
  obtain ⟨error, hparse⟩ := parseRecords_of_long hlines hlong
  rintro ⟨hok, -⟩
  simp [hreceive, hparse, retireAgentGeneration, fail] at hok

theorem flatten_eq_nil {json : JsonCodec} {a b : UInt64}
    (h : Counted (StampedLine json) a lines b) : lines.flatten = [] ↔ lines = [] := by
  cases h with
  | nil a => simp
  | cons _ hline _ =>
    obtain ⟨text, record, rfl, -⟩ := hline
    simp

theorem recordChunks_kept {a b e : UInt64} {held rs : List Bytes}
    {budget : Nat} (h : StagedAt k t g (some c) base)
    (hheld : Counted (StampedLine host.json) a held b)
    (hrecords : Counted (StampedLine host.json) b rs e) (hroom : c.toNat + rs.length < 4294967295) :
    let frames := recordChunks (.bootstrapChunk t g.streamId g.bootstrapId) budget c held.flatten rs
    (Machine.EveryStep (afterFrame host) (Keeps host t g) k frames ↔
        ∀ line ∈ held ++ rs, FitsRecord line) ∧
      ((∀ line ∈ held ++ rs, FitsRecord line) →
        ∃ next, StagedAt (Machine.run (afterFrame host) k frames) t g next base) := by
  induction rs generalizing k c held a b with
  | nil =>
    simp only [recordChunks, flatten_eq_nil hheld, append_nil]
    by_cases hnil : held = []
    · subst hnil
      simpa [Machine.EveryStep, Machine.run] using ⟨some c, h⟩
    · rw [if_neg hnil]
      by_cases hfits : ∀ line ∈ held, FitsRecord line
      · obtain ⟨hkeeps, hstaged⟩ := h.chunk_kept hheld hfits
        exact ⟨iff_of_true ⟨hkeeps, trivial⟩ hfits, fun _ => ⟨_, hstaged⟩⟩
      · have hlost := h.chunk_long hheld hfits
        exact ⟨iff_of_false (fun hk => hlost hk.1) hfits, fun hall => absurd hall hfits⟩
  | cons record rs ih =>
    cases hrecords with
    | @cons _ n _ _ _ hn hline hrest =>
      have hone : Counted (StampedLine host.json) b [record] n := .cons hn hline (.nil n)
      simp only [recordChunks]
      split
      · rename_i hover
        rw [Machine.EveryStep]
        have hc : c.toNat < 4294967295 := by simp only [length_cons] at hroom; omega
        obtain ⟨hnext, hcount⟩ := checkedNext32_of_lt hc
        by_cases hfits : ∀ line ∈ held, FitsRecord line
        · obtain ⟨hkeeps, hstaged⟩ := h.chunk_kept hheld hfits
          rw [hnext] at hstaged
          obtain ⟨hiff, hafter⟩ := ih hstaged hone hrest
            (by simp only [length_cons] at hroom; omega)
          simp only [flatten_singleton, singleton_append] at hiff hafter
          have hsplit : (∀ line ∈ held ++ record :: rs, FitsRecord line) ↔
              ∀ line ∈ record :: rs, FitsRecord line := by
            rw [forall_mem_append]
            exact and_iff_right hfits
          rw [hsplit, hiff]
          exact ⟨and_iff_right hkeeps, hafter⟩
        · have hlost := h.chunk_long hheld hfits
          have hsplit : ¬∀ line ∈ held ++ record :: rs, FitsRecord line :=
            fun hall => hfits (forall_mem_append.mp hall).1
          exact ⟨iff_of_false (fun hk => hlost hk.1) hsplit, fun hall => absurd hall hsplit⟩
      · have hmore := ih h (hheld.append hone) hrest (by simp only [length_cons] at hroom; omega)
        simpa using hmore

theorem retireOnce_live (hlive : stream.retired g = none)
    (hpublished : holdsGeneration key stream.published g = false) : (match stream.published with
      | none => stream.retired
      | some old =>
        retireOnce stream.retired (generationOf old.key) ⟨.explicitReattach, old.lastSeq⟩) g =
      none := by
  cases hheld : stream.published with
  | none => exact hlive
  | some old =>
    have hne : g ≠ generationOf old.key := by
      rintro rfl
      simp [hheld, holdsGeneration] at hpublished
    cases hold : stream.retired (generationOf old.key) with
    | none => simpa [retireOnce, hold, hne] using hlive
    | some record => simpa [retireOnce, hold] using hlive

theorem StagedAt.ready_kept {next : Option UInt32} (h : StagedAt k t g next base)
    (host : KernelHost R ε) : Keeps host t g k (.bootstrapReady t g.streamId g.bootstrapId none) ∧
      FollowsAt (k.afterFrame host (.bootstrapReady t g.streamId g.bootstrapId none)) t g base := by
  obtain ⟨stream, st, hagent, hlive, hpublished, hstaged, hkey, -, rfl⟩ := h.stream
  have hstream := liveAgent_of (ε := ε) h.isOpen hagent hlive
  have hreceive : k.receive host (.bootstrapReady t g.streamId g.bootstrapId none) =
      ((k.setAgent t { foldRecords
        { stream with state := stream.declared, log := stream.log.clear } st.records with
          staging := none
          published := some ⟨st.key, st.baseSeq, checkedNext64 st.baseSeq⟩
          retired := match stream.published with
            | none => stream.retired
            | some old =>
              retireOnce stream.retired (generationOf old.key)
                ⟨.explicitReattach, old.lastSeq⟩ }).markAttachResolved t).accept
        [.agentRecords t st.records] := by
    simp only [receive, kernelInputFor, attachStreamInput, some_or, update, hagent, isSome_some,
      ↓reduceIte, agentBootstrapReady, hstream, require, ofGeneration, hstaged, hkey]
    rfl
  have hretired := retireOnce_live hlive hpublished
  obtain ⟨hkeeps, hafter⟩ := keeps_of_accept hreceive Table.insert_self hretired
  refine ⟨hkeeps, ?_⟩
  rw [hafter]
  exact ⟨h.isOpen, _, _, Table.insert_self, hretired, rfl, hkey, rfl⟩

theorem validateAgentBatch_ok {a expected b : UInt64} {rs : List AgentEventRecord}
    (h : Counted (fun n record => record.seq = n) a rs b) (hne : rs ≠ [])
    (hexpected : checkedNext64 a = some expected) :
    (validateAgentBatch expected b rs : Except (KernelError ε) Unit) = .ok () := by
  have hsame : ∀ n, (requireAgentSequence n n : Except (KernelError ε) Unit) = .ok () := by
    simp [requireAgentSequence]
  induction h generalizing expected with
  | nil a => exact absurd rfl hne
  | @cons a n b record rs hn hseq hrest ih =>
    obtain rfl := some.inj (hn.symm.trans hexpected)
    cases hrest with
    | nil => simp [validateAgentBatch, hseq, hsame, bind, Except.bind]
    | @cons _ m _ next rs hm hnext hrest =>
      have hmore := ih (by simp) hm
      simp only [validateAgentBatch, hseq, hsame, hm, bind, Except.bind]
      exact hmore

theorem FollowsAt.batch_kept {a b : UInt64} (h : FollowsAt k t g a)
    (hlines : Counted (StampedLine host.json) a lines b) (hne : lines ≠ []) :
    let frame := FrameKind.resourceOutput t g.streamId g.bootstrapId b lines.flatten
    (Keeps host t g k frame ↔ ∀ line ∈ lines, FitsRecord line) ∧
      ((∀ line ∈ lines, FitsRecord line) → FollowsAt (k.afterFrame host frame) t g b) := by
  have hcount := hlines.toNat_eq
  obtain ⟨n, hn⟩ : ∃ n, checkedNext64 a = some n := by
    cases hlines with
    | nil => exact absurd rfl hne
    | cons hn _ _ => exact ⟨_, hn⟩
  have hle : n ≤ b := by
    have hfirst := checkedNext64_eq_some hn
    have hpos := length_pos_iff.mpr hne
    rw [UInt64.le_iff_toNat_le]
    omega
  obtain ⟨stream, published, hagent, hlive, hheld, hkey, hnext⟩ := h.stream
  have hstream := liveAgent_of (ε := ε) h.isOpen hagent hlive
  have hexpect : (expectAgentSeq published b : Except (KernelError ε) UInt64) = .ok n := by
    simpa [expectAgentSeq, hnext, hn] using hle
  have hreceive : k.receive host (.resourceOutput t g.streamId g.bootstrapId b lines.flatten) =
      k.agentOutput host.json t g b lines.flatten := by
    simp only [receive, kernelInputFor, attachStreamInput, contentStreamInput, none_or,
      some_or, update, hagent, isSome_some, ↓reduceIte]
  simp only [agentOutput, hstream, require, ofGeneration, hheld, hkey, if_true, hexpect] at hreceive
  by_cases hfits : ∀ line ∈ lines, FitsRecord line
  · obtain ⟨rs, hparse, hrecords⟩ := parseRecords_of_fits hlines hfits
    have hsome : rs ≠ [] := by
      rintro rfl
      have := hrecords.toNat_eq
      have hpos := length_pos_iff.mpr hne
      simp only [length_nil] at this
      omega
    simp only [hparse, validateAgentBatch_ok hrecords hsome hn] at hreceive
    obtain ⟨hkeeps, hafter⟩ := keeps_of_accept (t := t) hreceive Table.insert_self hlive
    refine ⟨iff_of_true hkeeps hfits, fun _ => ?_⟩
    rw [hafter]
    exact ⟨h.isOpen, _, _, Table.insert_self, hlive, rfl, hkey, rfl⟩
  · obtain ⟨error, hparse⟩ := parseRecords_of_long hlines hfits
    refine ⟨iff_of_false ?_ hfits, fun hall => absurd hall hfits⟩
    rintro ⟨hok, -⟩
    simp [hreceive, hparse, retireAgentGeneration, fail] at hok

namespace AgentSession

variable {s : AgentSession}

theorem livePump_outputs_le (requests : List AppendRequest)
    (received : List (Except RecvError PaneOutput))
    (hbase : (s.run host.json requests).seq.toNat ≤ base.toNat) :
    livePump t g.streamId g.bootstrapId base ((s.outputs host.json requests).map .ok ++ received) =
      livePump t g.streamId g.bootstrapId base received := by
  induction requests generalizing s with
  | nil => rfl
  | cons request requests ih =>
    have hrest := ih (s := s.afterAppend host.json request) hbase
    have hle := le_trans (seq_le_run host.json (s.afterAppend host.json request) requests) hbase
    simp only [outputs]
    cases handleAppend_step host.json s request with
    | refused _ _ houtput _ => simpa [houtput] using hrest
    | batch _ _ _ _ houtput _ _ =>
      have hold : (s.afterAppend host.json request).seq ≤ base := UInt64.le_iff_toNat_le.mpr hle
      simpa [houtput, livePump, hold] using hrest

theorem livePump_kept (hjson : host.json.Lawful) {requests : List AppendRequest}
    (h : FollowsAt k t g s.seq) (hbase : base.toNat ≤ s.seq.toNat) :
    Machine.EveryStep (afterFrame host) (Keeps host t g) k
        (livePump t g.streamId g.bootstrapId base ((s.outputs host.json requests).map .ok)) ↔
      ∀ line ∈ s.stampedRun host.json requests, FitsRecord line := by
  induction requests generalizing k s with
  | nil => simp [outputs, livePump, Machine.EveryStep, stampedRun]
  | cons request requests ih =>
    simp only [outputs, stampedRun, forall_mem_append]
    cases handleAppend_step host.json s request with
    | refused hlines _ houtput hsession =>
      simp only [houtput, hlines, hsession]
      simpa using ih h hbase
    | batch hne _ hlines _ houtput _ _ =>
      have hlen := length_pos_iff.mpr hne
      have hcount := hlines.toNat_eq
      have hnew : ¬(s.afterAppend host.json request).seq ≤ base := by
        rw [UInt64.le_iff_toNat_le]
        omega
      obtain ⟨hbatch, hfollows⟩ := h.batch_kept (hlines.stampedLines hjson) hne
      simp only [houtput, toList_some, singleton_append, map_cons, livePump,
        if_neg hnew, Machine.EveryStep]
      constructor
      · rintro ⟨hkeeps, hrest⟩
        have hfits := hbatch.mp hkeeps
        exact ⟨hfits, (ih (hfollows hfits) (by omega)).mp hrest⟩
      · rintro ⟨hfits, hrest⟩
        exact ⟨hbatch.mpr hfits, (ih (hfollows hfits) (by omega)).mpr hrest⟩

/-- A client sent a session's cut and what follows it keeps the stream exactly when the
lines it is sent fit. -/
theorem attach_kept_iff (hjson : host.json.Lawful) (hready : ReadyFor k t g)
    (between later : List AppendRequest) (limits : BootstrapLimits)
    (hretains : Retains host.json (s.run host.json between).seq (s.run host.json between).ring) :
    Machine.EveryStep (afterFrame host) (Keeps host t g) k
        (attachAgentSession host.json s between later t g.streamId g.bootstrapId limits) ↔
      ∀ line ∈ (s.run host.json between).bootstrap.records ++
        (s.run host.json between).stampedRun host.json later, FitsRecord line := by
  have hlines := hretains.lines.stampedLines hjson
  obtain ⟨hbegin, hstaged⟩ := hready.begin_kept
  have hroom : (0 : UInt32).toNat + (s.run host.json between).ring.records.length < 4294967295 := by
    simpa using hretains.length_lt hjson
  obtain ⟨hchunks, hstaged'⟩ := recordChunks_kept hstaged (.nil _) hlines hroom
  rw [flatten_nil, nil_append] at hchunks hstaged'
  have hlive : livePump t g.streamId g.bootstrapId (s.run host.json between).seq
      ((s.outputs host.json (between ++ later)).map .ok) =
      livePump t g.streamId g.bootstrapId (s.run host.json between).seq
        (((s.run host.json between).outputs host.json later).map .ok) := by
    rw [outputs_append, map_append]
    exact livePump_outputs_le between _ le_rfl
  simp only [attachAgentSession, bootstrap, bootstrapFrames, hlive, cons_append, append_assoc,
    Machine.EveryStep, Machine.everyStep_append, forall_mem_append, nil_append]
  constructor
  · rintro ⟨-, hkeeps, -, hrest⟩
    have hfits := hchunks.mp hkeeps
    obtain ⟨next, hlast⟩ := hstaged' hfits
    exact ⟨hfits, (livePump_kept hjson (hlast.ready_kept host).2 le_rfl).mp hrest⟩
  · rintro ⟨hfits, hrest⟩
    obtain ⟨next, hlast⟩ := hstaged' hfits
    obtain ⟨hready, hfollows⟩ := hlast.ready_kept host
    exact ⟨hbegin, hchunks.mpr hfits, hready, (livePump_kept hjson hfollows le_rfl).mpr hrest⟩

theorem run_run (json : JsonCodec) (s : AgentSession) (before between : List AppendRequest) :
    (s.run json before).run json between = s.run json (before ++ between) := by
  simp [run, Machine.run]

end AgentSession

/-- Whatever was appended before the client subscribed, between that and the cut, and
after the cut. -/
theorem agent_stream_kept_iff (hjson : host.json.Lawful) (hready : ReadyFor k t g)
    (logBytes : UInt32) (before between later : List AppendRequest) (limits : BootstrapLimits) :
    Machine.EveryStep (afterFrame host) (Keeps host t g) k
        (attachAgentSession host.json ((AgentSession.build logBytes).run host.json before) between
          later t g.streamId g.bootstrapId limits) ↔
      ∀ line ∈ ((AgentSession.build logBytes).run host.json (before ++ between)).bootstrap.records ++
          ((AgentSession.build logBytes).run host.json (before ++ between)).stampedRun host.json later,
        FitsRecord line := by
  rw [← AgentSession.run_run]
  refine AgentSession.attach_kept_iff hjson hready between later limits ?_
  rw [AgentSession.run_run]
  exact AgentSession.retains_run host.json logBytes (before ++ between)

def KernelHost.flat : KernelHost Bytes Unit := { KernelHost.recording with json := codec }

theorem readyFor_new {profile : BootstrapProfile} :
    ReadyFor (new profile : SessionKernel R) t g where
  isOpen := by simp [new, withHistoryConfig]
  kind := .inl rfl
  fresh := by simp [new, withHistoryConfig]

theorem agent_stream_kept_flat :
    Machine.EveryStep (afterFrame .flat) (Keeps .flat (.local 1) .first) (new .synthesizedVtRaw)
      (attachAgentSession codec ((AgentSession.build 200).run codec
          [⟨strBytes "\x7b\"type\":\"prompt\"\x7d\n\x7b\"type\":\"stop\"\x7d", 5, 0⟩])
        [⟨strBytes "\x7b\"type\":\"ask\",\"data\":\x7b\"id\":7\x7d\x7d", 6, 0⟩]
        [⟨strBytes "\x7b\"type\":\"state\"\x7d\n", 7, 0⟩, ⟨strBytes "nothing", 8, 0⟩]
        (.local 1) first.streamId first.bootstrapId default) :=
  (@agent_stream_kept_iff Bytes Unit .flat _ _ _ codec_lawful
    readyFor_new 200 _ _ _ _).mpr (by decide +kernel)

theorem strBytes_append (a b : String) : strBytes (a ++ b) = strBytes a ++ strBytes b := by
  simp [strBytes]

variable (n : Nat)

theorem strBytes_replicate : strBytes (String.ofList (replicate n 'a')) = replicate n 97 := by
  induction n with
  | zero => rfl
  | succ n ih =>
    have hsplit : .ofList (replicate (n + 1) 'a') = "a" ++ .ofList (replicate n 'a') := by
      simp [replicate_succ, String.ofList_cons]
    have hone : strBytes "a" = [97] := by decide
    rw [hsplit, strBytes_append, ih, hone, replicate_succ]
    rfl

def letters (n : Nat) : String := String.ofList (List.replicate n 'a')

def wordRecordHead : String := "\x7b\"type\":\"stop\",\"data\":\x7b\"text\":\""

def wordRecordTail : String := "\"\x7d\x7d"

def wordRecord (n : Nat) : Bytes :=
  strBytes (wordRecordHead ++ (letters n ++ wordRecordTail))

def wordMembers (n : Nat) : List (String × JsonValue) := [("text", .string (letters n))]

theorem plainWord_letters : PlainWord (letters n) := by
  intro b hb
  rw [letters, strBytes_replicate] at hb
  rw [eq_of_mem_replicate hb]
  decide

theorem print_wordMembers : print (.object (wordMembers n)) =
      strBytes "\x7b\"text\":\"" ++ (replicate n 97 ++ [34, 125]) := by
  have hopen : strBytes "\x7b\"text\":\"" = 123 :: (quoted "text" ++ [58, 34]) := by decide
  obtain ⟨-, -, -, -, htext⟩ := plainWord_names
  have hprint : printFlat (.string (letters n)) = quoted (letters n) := by
    rw [printFlat, printScalar, printWord, if_pos (plainWord_letters n)]
    simp
  rw [print, plainMembers_eq (p := fun _ => True) (by simp [wordMembers, htext]), objectText,
    wordMembers, membersText, hprint, hopen, quoted, quoted, letters, strBytes_replicate]
  simp

theorem wordRecord_text : wordRecord n = objectText print
      [("type", .string "stop"), ("data", .object (wordMembers n))] := by
  have hhead : strBytes wordRecordHead =
      123 :: (quoted "type" ++ 58 :: (print (.string "stop") ++
        44 :: (quoted "data" ++ 58 :: strBytes "\x7b\"text\":\""))) := by decide +kernel
  have htail : strBytes wordRecordTail = [34, 125, 125] := by decide
  rw [wordRecord, strBytes_append, strBytes_append, hhead, htail, letters, strBytes_replicate,
    objectText, membersText, membersText, print_wordMembers]
  simp

theorem wordRecord_length : (wordRecord n).length = n + 34 := by
  have hhead : (strBytes wordRecordHead).length = 31 := by decide
  have htail : (strBytes wordRecordTail).length = 3 := by decide
  rw [wordRecord, strBytes_append, strBytes_append, letters, strBytes_replicate,
    length_append, length_append, length_replicate, hhead, htail]
  omega

theorem wordRecord_parsed : parse (wordRecord n) =
      .ok (.object [("type", .string "stop"), ("data", .object (wordMembers n))]) := by
  obtain ⟨-, -, htype, hname, htext⟩ := plainWord_names
  have hdata : FlatJson.Flat (.object (wordMembers n)) := by
    refine .object ?_
    simp only [wordMembers, mem_singleton, forall_eq]
    exact ⟨htext, plainWord_letters n⟩
  have hstop : FlatJson.Flat (.string "stop") := by
    have hplain : PlainWord "stop" := plainWord_of_mem_recordTypes (by decide)
    exact .scalar hplain
  rw [wordRecord_text]
  refine parse_text ?_
  simp only [forall_mem_cons, not_mem_nil, false_implies, implies_true, and_true]
  exact ⟨⟨htype, hstop⟩, hname, hdata⟩

theorem wordRecord_validated {n : Nat} (h : n + 34 ≤ AgentSession.maxRecordBytes) :
    AgentSession.validate codec (wordRecord n) false = .ok [⟨"stop", wordMembers n⟩] := by
  have hutf8 : fromUtf8 (wordRecord n) = some (wordRecordHead ++ (letters n ++ wordRecordTail)) :=
    fromUtf8_strBytes _
  have hline : 10 ∉ wordRecord n := by
    rw [wordRecord_text]
    have hplain : ∀ m ∈ [("type", JsonValue.string "stop"), ("data", .object (wordMembers n))],
        PlainWord m.1 := by
      simp only [forall_mem_cons, not_mem_nil, false_implies, implies_true, and_true]
      exact ⟨plainWord_names.2.2.1, plainWord_names.2.2.2.1⟩
    have hbody := membersText_line codec_lawful.print_line hplain
    exact not_mem_cons_of_ne_of_not_mem (by decide) hbody
  have hsplit : (wordRecord n).splitOn 10 = [wordRecord n] := by
    refine splitOnP_eq_singleton ?_
    intro b hb
    have hne : b ≠ 10 := fun he => hline (he ▸ hb)
    simpa using hne
  have htrim : trimMatches AgentSession.isRecordPadding (wordRecord n) = wordRecord n := by
    rw [wordRecord_text]
    exact trimMatches_objectText (by decide) (by decide)
  have hparse : AgentSession.parseRecord codec (wordRecord n) = .ok ⟨"stop", wordMembers n⟩ := by
    simp only [AgentSession.parseRecord, codec, wordRecord_parsed]
    rfl
  have hlen : ¬AgentSession.maxRecordBytes < (wordRecord n).length := by
    rw [wordRecord_length]
    omega
  have hne : wordRecord n ≠ [] := by
    intro hnil
    have hzero := wordRecord_length n
    rw [hnil, length_nil] at hzero
    omega
  simp only [AgentSession.validate, hutf8, hsplit, AgentSession.validateLines, htrim, if_neg hne,
    if_neg hlen, hparse]
  rfl

theorem wordRecord_stamp_length :
    (ValidRecord.stamp codec ⟨"stop", wordMembers n⟩ 1 0).length = n + 53 := by
  have hone : decimal 1 = [49] := by decide
  have hzero : decimal 0 = [48] := by decide
  have hlen : (strBytes "\x7b\"seq\":").length = 7 ∧ (strBytes ",\"ts_ms\":").length = 9 ∧
      (strBytes ",\"type\":").length = 8 ∧ (strBytes ",\"data\":").length = 8 ∧
      (strBytes "\x7d\n").length = 2 ∧ (strBytes "\x7b\"text\":\"").length = 9 ∧
      (print (.string "stop")).length = 6 := by decide +kernel
  obtain ⟨h1, h2, h3, h4, h5, h6, h7⟩ := hlen
  simp only [ValidRecord.stamp, codec, hone, hzero, print_wordMembers, length_append, length_cons,
    length_nil, length_replicate, h1, h2, h3, h4, h5, h6, h7]
  omega

theorem wordRecord_lost {n : Nat} (h : n + 34 ≤ AgentSession.maxRecordBytes)
    (hlong : maxRecordBytes + 1 < n + 53) :
    ¬Machine.EveryStep (afterFrame .flat) (Keeps .flat (.local 1) .first) (new .synthesizedVtRaw)
      (attachAgentSession codec (AgentSession.build 65536) [] [⟨wordRecord n, 0, 0⟩]
        (.local 1) first.streamId first.bootstrapId default) := by
  intro hkept
  have hiff := @AgentSession.attach_kept_iff Bytes Unit .flat (.new .synthesizedVtRaw) (.local 1)
    .first (.build 65536) codec_lawful
    readyFor_new [] [⟨wordRecord n, 0, 0⟩] default
    (AgentSession.retains_build _ _)
  have hadmit : (AgentSession.build 65536).admitBatch codec (wordRecord n) =
      .ok ([⟨"stop", wordMembers n⟩], 1, 1) := by
    simp only [AgentSession.admitBatch, AgentSession.build, wordRecord_validated h]
    rfl
  have hmem : ValidRecord.stamp codec ⟨"stop", wordMembers n⟩ 1 0 ∈
      (AgentSession.build 65536).stampedRun codec [⟨wordRecord n, 0, 0⟩] := by
    simp only [AgentSession.stampedRun, AgentSession.stamped, hadmit]
    exact mem_cons_self
  have hfits := hiff.mp hkept _ (mem_append_right _ hmem)
  rw [FitsRecord, wordRecord_stamp_length] at hfits
  omega

/-- A line of 16,374 bytes is admitted, and stamped it is longer than the client's limit. -/
theorem long_record_lost : codec.Lawful ∧ AgentSession.validate codec (wordRecord 16340) false =
      .ok [⟨"stop", wordMembers 16340⟩] ∧
    ¬Machine.EveryStep (afterFrame .flat) (Keeps .flat (.local 1) .first) (new .synthesizedVtRaw)
      (attachAgentSession codec (AgentSession.build 65536) []
        [⟨wordRecord 16340, 0, 0⟩] (.local 1) first.streamId first.bootstrapId default) := by
  have hbound : 16340 + 34 ≤ AgentSession.maxRecordBytes := by decide
  exact ⟨codec_lawful, wordRecord_validated hbound, wordRecord_lost hbound (by decide)⟩

end Phux
