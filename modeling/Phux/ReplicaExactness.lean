import Phux.KernelStep

/-! A published replica is the replay of its own generation. -/

namespace Phux

open ByteReader SessionKernel List Option

variable {R ε : Type}

def chunkCalls (t : ResourceId) (g : GenerationId) (chunks : List Bytes) : List KernelCall :=
  chunks.zipIdx.map fun (payload, i) => .update (.bootstrapChunk t g (UInt32.ofNat i) payload)

/-- What was fed to one generation: its bootstrap, and each later call with the
engine calls it made. -/
structure ReplicaFeed where
  generation : GenerationId
  profile : BootstrapStreamProfile
  geometry : CanonicalGeometry
  baseSeq : UInt64
  chunks : List Bytes
  cursor : Option Bytes
  live : List (KernelCall × List EngineOp)

namespace ReplicaFeed

def begin (feed : ReplicaFeed) (t : ResourceId) : KernelCall :=
  .update (.bootstrapBegin t feed.generation feed.profile feed.geometry feed.baseSeq)

def ready (feed : ReplicaFeed) (t : ResourceId) : KernelCall :=
  .update (.bootstrapReady t feed.generation feed.cursor)

def calls (feed : ReplicaFeed) (t : ResourceId) : List KernelCall :=
  feed.begin t :: chunkCalls t feed.generation feed.chunks
    ++ feed.ready t :: feed.live.map Prod.fst

def ops (feed : ReplicaFeed) (config : HistoryCacheConfig) : List EngineOp :=
  feed.chunks.map .chunk ++ [.finish, .budget config.maxBytes config.maxMaterializedRows]
    ++ feed.live.flatMap Prod.snd

def outputSeqs (feed : ReplicaFeed) : List Nat :=
  feed.live.filterMap fun (call, _) => call.outputSeq.map UInt64.toNat

/-- The replica is the result of this feed, and the feed is part of the run. -/
structure Yields (feed : ReplicaFeed) (E : EngineAdapter R ε) (config : HistoryCacheConfig)
    (run : List KernelCall) (t : ResourceId) (replica : Replica R) : Prop where
  offered : (feed.calls t).Sublist run
  key : replica.key = feed.generation.key t feed.profile
  geometry : replica.geometry = feed.geometry
  chunks : feed.chunks.length ≤ 4294967296
  reaches : ∀ call ops, (call, ops) ∈ feed.live → call.Reaches t feed.generation ops
  base : feed.baseSeq ≤ replica.lastSeq
  outputs : feed.outputSeqs =
    List.range' (feed.baseSeq.toNat + 1) (replica.lastSeq.toNat - feed.baseSeq.toNat)
  engine : ∃ start, E.startReplica feed.profile feed.geometry = .ok start
    ∧ replica.engine = E.performAll start (feed.ops config)

/-- The staged replica is the result of this feed's BEGIN and chunks. -/
structure Stages (feed : ReplicaFeed) (E : EngineAdapter R ε) (run : List KernelCall)
    (t : ResourceId) (staging : Staging R) : Prop where
  offered : (feed.begin t :: chunkCalls t feed.generation feed.chunks).Sublist run
  key : staging.key = feed.generation.key t feed.profile
  geometry : staging.geometry = feed.geometry
  base : staging.baseSeq = feed.baseSeq
  chunks : feed.chunks.length ≤ 4294967296
  nextChunk : staging.nextChunkSeq = chunkSeqAfter feed.chunks.length
  engine : ∃ start, E.startReplica feed.profile feed.geometry = .ok start
    ∧ staging.engine = E.performAll start (feed.chunks.map .chunk)

variable {E : EngineAdapter R ε} {config : HistoryCacheConfig} {run : List KernelCall}
  {t : ResourceId} {feed : ReplicaFeed}

theorem Stages.later {staging : Staging R} (h : feed.Stages E run t staging) (call : KernelCall) :
    feed.Stages E (run ++ [call]) t staging :=
  { h with offered := h.offered.trans (sublist_append_left ..) }

variable {replica : Replica R}

theorem Yields.later (h : feed.Yields E config run t replica) (call : KernelCall) :
    feed.Yields E config (run ++ [call]) t replica :=
  { h with offered := h.offered.trans (sublist_append_left ..) }

theorem Stages.chunk {old new : Staging R} (h : feed.Stages E run t old) {seq : UInt32}
    {payload : Bytes} (hseq : old.nextChunkSeq = some seq) (hnew : new = { old with
      engine := E.perform old.engine (.chunk payload)
      nextChunkSeq := checkedNext32 seq
      engineReady := new.engineReady
      pendingEffects := new.pendingEffects }) :
    ({ feed with chunks := feed.chunks ++ [payload] } : ReplicaFeed).Stages E
      (run ++ [.update (.bootstrapChunk t (generationOf old.key) seq payload)]) t new := by
  have hnext := h.nextChunk.symm.trans hseq
  unfold chunkSeqAfter at hnext
  split at hnext
  · rename_i hlt
    obtain rfl := some.inj hnext
    obtain ⟨start, hstart, hengine⟩ := h.engine
    rw [hnew, h.key, generationOf_key]
    refine ⟨?_, rfl, h.geometry, h.base, ?_, ?_, start, hstart, ?_⟩
    · have hsub := h.offered.append (.refl
        [KernelCall.update (.bootstrapChunk t feed.generation (UInt32.ofNat feed.chunks.length)
          payload)])
      simpa [chunkCalls, zipIdx_append, begin] using hsub
    · simp only [length_append, length_singleton]
      omega
    · simpa using checkedNext32_ofNat hlt
    · simp [hengine, EngineAdapter.performAll_append]
  · cases hnext

theorem Stages.publish {old : Staging R} {new : Replica R} (h : feed.Stages E run t old)
    (cursor : Option Bytes) (hkey : new.key = old.key) (hgeometry : new.geometry = old.geometry)
    (hlast : new.lastSeq = old.baseSeq) (hengine : new.engine = E.performAll old.engine
      [.finish, .budget config.maxBytes config.maxMaterializedRows]) :
    ({ feed with cursor, live := [] } : ReplicaFeed).Yields E config
      (run ++ [.update (.bootstrapReady t (generationOf old.key) cursor)]) t new := by
  obtain ⟨start, hstart, hstaged⟩ := h.engine
  rw [h.key, generationOf_key]
  refine ⟨?_, hkey.trans h.key, hgeometry.trans h.geometry, h.chunks, ?_, ?_, ?_, start, hstart, ?_⟩
  · simpa [calls, begin, ready] using h.offered.append (.refl _)
  · simp
  · rw [hlast, h.base]
    exact UInt64.le_refl _
  · simp [outputSeqs, hlast, h.base]
  · simp only [ops, flatMap_nil, append_nil, EngineAdapter.performAll_append, hengine, hstaged]

theorem Yields.extend {old new : Replica R} {call : KernelCall}
    (h : feed.Yields E config run t old) (hnext : old.nextSeq = checkedNext64 old.lastSeq)
    (hfed : Fed E t call old new) :
    ∃ ops, ({ feed with live := feed.live ++ [(call, ops)] } : ReplicaFeed).Yields E config
      (run ++ [call]) t new := by
  obtain ⟨ops, hreaches, hops⟩ := hfed.engine
  obtain ⟨start, hstart, hengine⟩ := h.engine
  have hgen : generationOf old.key = feed.generation := by rw [h.key, generationOf_key]
  rw [hgen] at hreaches
  refine ⟨ops, ?_, hfed.key.trans h.key, hfed.geometry.trans h.geometry, h.chunks, ?_, ?_, ?_, start,
    hstart, ?_⟩
  · simpa [calls, begin, ready] using h.offered.append (.refl [call])
  · intro call' ops' hmem
    rcases mem_append.mp hmem with hmem | hmem
    · exact h.reaches call' ops' hmem
    · simp only [mem_singleton, Prod.mk.injEq] at hmem
      obtain ⟨rfl, rfl⟩ := hmem
      exact hreaches
  · refine UInt64.le_trans h.base ?_
    have hseq := hfed.seq
    cases hcall : call.outputSeq with
    | none =>
      rw [hcall] at hseq
      rw [hseq.1]
      exact UInt64.le_refl _
    | some seq =>
      rw [hcall] at hseq
      have hlast := checkedNext64_eq_some (hnext.symm.trans hseq.1)
      rw [hseq.2.1, UInt64.le_iff_toNat_le]
      omega
  · have houtputs := h.outputs
    have hbase : feed.baseSeq.toNat ≤ old.lastSeq.toNat := h.base
    have hseq := hfed.seq
    unfold outputSeqs at houtputs ⊢
    rw [filterMap_append, houtputs]
    cases hcall : call.outputSeq with
    | none =>
      rw [hcall] at hseq
      simp [hcall, hseq.1]
    | some seq =>
      rw [hcall] at hseq
      have hlast := checkedNext64_eq_some (hnext.symm.trans hseq.1)
      have hcount : seq.toNat - feed.baseSeq.toNat = old.lastSeq.toNat - feed.baseSeq.toNat + 1 := by
        omega
      have hvalue : feed.baseSeq.toNat + 1 + (old.lastSeq.toNat - feed.baseSeq.toNat) = seq.toNat := by
        omega
      simp [hcall, hseq.2.1, hcount, range'_1_concat, hvalue]
  · rw [hops, hengine]
    simp [ReplicaFeed.ops, EngineAdapter.performAll_append]

end ReplicaFeed

/-- Every live replica in the kernel is the result of a feed in the run so far.
A staged replica that READY has already finished can no longer be published. -/
structure Traced (E : EngineAdapter R ε) (config : HistoryCacheConfig) (run : List KernelCall)
    (k : SessionKernel R) : Prop where
  configured : k.historyConfig = config
  staging : ∀ t staging, (k.terminal t).staging = some staging → staging.protocolReady = false →
    ∃ feed : ReplicaFeed, feed.Stages E run t staging
  published : ∀ t replica, (k.terminal t).published = some replica →
    replica.nextSeq = checkedNext64 replica.lastSeq
      ∧ ∃ feed : ReplicaFeed, feed.Yields E config run t replica

namespace Traced

variable {host : KernelHost R ε} {config : HistoryCacheConfig} {run : List KernelCall}
  {call : KernelCall} {k k' : SessionKernel R} {t : ResourceId}

theorem start (E : EngineAdapter R ε) (selected : BootstrapProfile) (config : HistoryCacheConfig) :
    Traced E config.normalized [] (.withHistoryConfig selected config : SessionKernel R) where
  configured := rfl
  staging := fun _ _ h => by cases h
  published := fun _ _ h => by cases h

variable (h : Traced host.adapter config run k)

include h

variable {staging : Staging R}

theorem staging_later
    (hheld : (k.terminal t).staging = some staging) (hready : staging.protocolReady = false) :
    ∃ feed : ReplicaFeed, feed.Stages host.adapter (run ++ [call]) t staging := by
  obtain ⟨feed, hfeed⟩ := h.staging t staging hheld hready
  exact ⟨feed, hfeed.later call⟩

variable (hstep : KernelStep host call k k')

include hstep

theorem staging_step (hheld : (k'.terminal t).staging = some staging)
    (hready : staging.protocolReady = false) :
    ∃ feed : ReplicaFeed, feed.Stages host.adapter (run ++ [call]) t staging := by
  rcases hstep.resource t with ⟨_, hgone, _, _⟩ | ⟨hterminal, _, _⟩
  · rw [hgone] at hheld
    cases hheld
  generalize hs : k.terminal t = s at hterminal
  generalize hs' : k'.terminal t = s' at hterminal hheld
  cases hterminal with
  | keep | refuse | feed | lose => exact h.staging_later (hs ▸ hheld) hready
  | stage g profile geometry baseSeq engine hcall _ _ _ _ hstart =>
    obtain rfl := some.inj hheld
    subst hcall
    exact ⟨.mk g profile geometry baseSeq [] none [], sublist_append_right .., rfl, rfl, rfl,
      Nat.zero_le _, rfl, _, hstart, rfl⟩
  | chunk old new seq payload hcall hold hseq hnew =>
    obtain rfl := some.inj hheld
    have hold' : old.protocolReady = false := by rwa [hnew] at hready
    obtain ⟨feed, hfeed⟩ := h.staging t old (hs ▸ hold) hold'
    subst hcall
    exact ⟨_, hfeed.chunk hseq hnew⟩
  | abandon | publish => cases hheld
  | stall old new hold hkey hstalled =>
    obtain rfl := some.inj hheld
    rw [hstalled] at hready
    cases hready
  | tombstone g record =>
    by_cases hg : holdsGeneration Staging.key s.staging g = true
    · simp [hg] at hheld
    · simp only [hg, Bool.false_eq_true, ↓reduceIte] at hheld
      exact h.staging_later (hs ▸ hheld) hready

theorem published_step (hheld : (k'.terminal t).published = some replica) :
    replica.nextSeq = checkedNext64 replica.lastSeq
      ∧ ∃ feed : ReplicaFeed, feed.Yields host.adapter config (run ++ [call]) t replica := by
  rcases hstep.resource t with ⟨_, hgone, _, _⟩ | ⟨hterminal, _, _⟩
  · rw [hgone] at hheld
    cases hheld
  rw [h.configured] at hterminal
  generalize hs : k.terminal t = s at hterminal
  generalize hs' : k'.terminal t = s' at hterminal hheld
  cases hterminal with
  | keep | refuse | stage | chunk | abandon | stall | tombstone =>
    obtain ⟨hnext, feed, hfeed⟩ := h.published t replica (hs ▸ hheld)
    exact ⟨hnext, feed, hfeed.later call⟩
  | publish old new cursor hcall hold hready hkey hgeometry hlast hnext hengine =>
    obtain rfl := some.inj hheld
    obtain ⟨feed, hfeed⟩ := h.staging t old (hs ▸ hold) hready
    subst hcall
    exact ⟨by rw [hnext, hlast], _, hfeed.publish cursor hkey hgeometry hlast hengine⟩
  | feed old new hold hfed =>
    obtain rfl := some.inj hheld
    obtain ⟨hnext, feed, hfeed⟩ := h.published t old (hs ▸ hold)
    obtain ⟨ops, hyields⟩ := hfeed.extend hnext hfed
    refine ⟨?_, _, hyields⟩
    have hseq := hfed.seq
    cases hcall : call.outputSeq with
    | none =>
      rw [hcall] at hseq
      rw [hseq.1, hseq.2, hnext]
    | some seq =>
      rw [hcall] at hseq
      rw [hseq.2.1, hseq.2.2]
  | lose => cases hheld

theorem step : Traced host.adapter config (run ++ [call]) k' where
  configured := hstep.config.trans h.configured
  staging := fun _ _ hheld hready => h.staging_step hstep hheld hready
  published := fun _ _ hheld => h.published_step hstep hheld

omit hstep

omit h

theorem of_run {selected : BootstrapProfile}
    {calls : List KernelCall} : Traced host.adapter config.normalized calls
      ((withHistoryConfig selected config).run host calls) := by
  induction calls using reverseRecOn with
  | nil => exact start host.adapter selected config
  | append_singleton calls call ih =>
    rw [run, Machine.run_concat]
    exact ih.step (after_step host _ call)

end Traced

/-- After any run of calls, a published replica is the result of the feed of its
own generation: start, chunks 0 to n-1, finish and budget, then the outputs that
follow the base sequence one by one, among its own history and document operations. -/
theorem published_yielded (host : KernelHost R ε) (selected : BootstrapProfile)
    (config : HistoryCacheConfig) (calls : List KernelCall) (t : ResourceId) (replica : Replica R)
    (h : ((withHistoryConfig selected config).run host calls).published t = some replica) :
    ∃ feed : ReplicaFeed, feed.generation = generationOf replica.key
      ∧ feed.Yields host.adapter config.normalized calls t replica := by
  rw [published_eq] at h
  obtain ⟨_, feed, hfeed⟩ := Traced.of_run.published t replica h
  exact ⟨feed, (congrArg generationOf hfeed.key).symm, hfeed⟩

/-- One chunk, READY and one output, with a stale chunk offered again between. -/
def recordedCalls : List KernelCall :=
  [.update (.bootstrapBegin (.local 1) .first .synthesizedVtRaw ⟨80, 24⟩ 4),
   .update (.bootstrapChunk (.local 1) .first 0 [7]),
   .update (.bootstrapChunk (.local 1) .first 0 [9]),
   .update (.bootstrapReady (.local 1) .first none),
   .update (.resourceOutput (.local 1) .first 5 [8])]

theorem published_yielded_recorded : ∃ replica : Replica Bytes,
    ((withHistoryConfig .synthesizedVtRaw .standard).run .recording
      recordedCalls).published (.local 1) = some replica ∧ replica.engine = [7, 8]
      ∧ ∃ feed : ReplicaFeed, feed.generation = generationOf replica.key
        ∧ feed.Yields EngineAdapter.recording HistoryCacheConfig.standard.normalized recordedCalls
          (.local 1) replica := by
  refine ⟨_, rfl, rfl, ?_⟩
  exact published_yielded .recording .synthesizedVtRaw .standard recordedCalls (.local 1) _ rfl

end Phux
