import Phux.TerminalStep

/-! Each handler of the kernel that acts on a terminal makes one terminal step. -/

namespace Phux

open ByteReader EngineAdapter List

variable {R ε : Type}

namespace SessionKernel

variable {E : EngineAdapter R ε} {t : ResourceId} {call : KernelCall} {k : SessionKernel R}

variable {g : GenerationId}

theorem abandonStaging_move {staging : Staging R} {error : KernelError ε}
    (hlive : (k.terminal t).retired g = none) (hheld : (k.terminal t).staging = some staging)
    (hgen : generationOf staging.key = g) :
    TerminalMove E t call k (k.abandonStaging t (k.terminal t) staging g error).kernel := by
  subst hgen
  exact .set (.abandon _ staging _ hheld hlive)

theorem bootstrapBegin_move (hkind : k.kinds t = some .terminal) (g : GenerationId)
    (profile : BootstrapStreamProfile) (geometry : CanonicalGeometry) (baseSeq : UInt64) :
    TerminalMove E t (.update (.bootstrapBegin t g profile geometry baseSeq)) k
      (k.bootstrapBegin E t g profile geometry baseSeq).kernel := by
  unfold bootstrapBegin
  split
  · exact .refl _ _ _ _
  split
  · exact .refl _ _ _ _
  split
  · exact .refl _ _ _ _
  change TerminalMove E t _ k (Outcome.kernel (if ((k.terminal t).retired g).isSome then _ else _))
  split
  · exact .set (.keep _)
  rename_i hretired
  split
  · exact .set (.keep _)
  rename_i hheld
  have hlive : (k.terminal t).retired g = none := by simpa using hretired
  simp only [Bool.or_eq_true, not_or, Bool.not_eq_true] at hheld
  obtain ⟨hpublished, hfresh⟩ := hheld
  cases hstart : E.startReplica profile geometry with
  | error error =>
    simp only [setTerminal_setTerminal]
    exact .set (.refuse _ g _ hlive hpublished hfresh)
  | ok engine =>
    simp only [setTerminal_setTerminal]
    exact .set (.stage _ g profile geometry baseSeq engine rfl hkind hlive hpublished hfresh hstart)

theorem bootstrapChunk_move {seq : UInt32} {payload : Bytes} :
    TerminalMove E t (.update (.bootstrapChunk t g seq payload)) k
      (k.bootstrapChunk E t g seq payload).kernel := by
  refine .require ?_
  rintro ⟨s, staging⟩ hstaged
  obtain ⟨rfl, hlive, hheld, hgen⟩ := stagedReplica_eq_ok hstaged
  refine .require ?_
  intro _ hchunk
  obtain ⟨_, hseq⟩ := Staging.expectChunk_eq_ok hchunk
  rcases happly : E.applyBootstrapChunk staging.engine payload with ⟨engine, effects, _ | progress⟩
  · exact abandonStaging_move hlive hheld hgen
  · refine .set (.chunk _ staging _ seq payload (by rw [hgen]) hheld hseq ?_)
    simp [perform, happly]

theorem bootstrapReady_move {cursor : Option Bytes} :
    TerminalMove E t (.update (.bootstrapReady t g cursor)) k
      (k.bootstrapReady E t g cursor).kernel := by
  refine .require ?_
  rintro ⟨s, staging⟩ hstaged
  obtain ⟨rfl, hlive, hheld, rfl⟩ := stagedReplica_eq_ok hstaged
  dsimp only
  split
  · exact .refl _ _ _ _
  rename_i hready
  rcases hfinish : E.finishBootstrap staging.engine with ⟨engine, effects, _ | progress⟩
  · exact abandonStaging_move hlive hheld rfl
  · dsimp only
    split
    · have hconfig : ∀ s, (k.setTerminal t s).historyConfig = k.historyConfig := fun _ => rfl
      simp only [publish, knownTerminal_setTerminal, require, hconfig]
      rcases hbudget : E.configureHistoryBudget engine k.historyConfig.maxBytes
        k.historyConfig.maxMaterializedRows with ⟨_, _ | _⟩
      · simp only [setTerminal_setTerminal]
        exact .set (.stall _ staging _ hheld rfl rfl)
      · simp only [setTerminal_setTerminal]
        refine .mark (m := .resolve) ?_
        refine .publish _ staging _ cursor rfl hheld (by simpa using hready) rfl rfl rfl rfl ?_
        simp [perform, hfinish, hbudget]
    · exact abandonStaging_move hlive hheld rfl

end SessionKernel

/-- A replica after some of the allowed engine calls, its place in the live
sequence untouched. -/
structure Treated (E : EngineAdapter R ε) (allowed : List EngineOp) (old new : Replica R) :
    Prop where
  key : new.key = old.key
  geometry : new.geometry = old.geometry
  lastSeq : new.lastSeq = old.lastSeq
  nextSeq : new.nextSeq = old.nextSeq
  engine : ∃ ops, ops.Sublist allowed ∧ new.engine = E.performAll old.engine ops

namespace Treated

variable {E : EngineAdapter R ε} {allowed more : List EngineOp} {old mid new : Replica R}

theorem idle (E : EngineAdapter R ε) (allowed : List EngineOp) (r : Replica R)
    (history : HistoryCache) : Treated E allowed r { r with history } :=
  ⟨rfl, rfl, rfl, rfl, [], nil_sublist _, rfl⟩

theorem one (E : EngineAdapter R ε) (op : EngineOp) (r : Replica R) (history : HistoryCache) :
    Treated E [op] r { r with engine := E.perform r.engine op, history } :=
  ⟨rfl, rfl, rfl, rfl, [op], .refl _, rfl⟩

theorem trans (h : Treated E allowed old mid) (h' : Treated E more mid new) :
    Treated E (allowed ++ more) old new := by
  obtain ⟨ops, hops, he⟩ := h.engine
  obtain ⟨ops', hops', he'⟩ := h'.engine
  refine ⟨h'.key.trans h.key, h'.geometry.trans h.geometry, h'.lastSeq.trans h.lastSeq,
    h'.nextSeq.trans h.nextSeq, ops ++ ops', hops.append hops', ?_⟩
  rw [he', he, performAll_append]

theorem fed {t : ResourceId} {call : KernelCall} (h : Treated E allowed old new)
    (hreach : ∀ ops, ops.Sublist allowed → call.Reaches t (generationOf old.key) ops)
    (hseq : call.outputSeq = none) : Fed E t call old new := by
  obtain ⟨ops, hops, he⟩ := h.engine
  refine ⟨h.key, h.geometry, ⟨ops, hreach ops hops, he⟩, ?_⟩
  rw [hseq]
  exact ⟨h.lastSeq, h.nextSeq⟩

end Treated

theorem treated_tombstoneHistory (E : EngineAdapter R ε) (r : Replica R)
    (reason : HistoryUnavailableReason) :
    Treated E [.clearDocument] r (tombstoneHistory E r reason).1 :=
  .one E .clearDocument r _

theorem treated_reconcilePinnedAnchor (E : EngineAdapter R ε) (r : Replica R)
    (anchor : DocumentAnchorId) (distance : Option UInt64) :
    Treated E [.clearDocument] r (reconcilePinnedAnchor E r anchor distance).1 := by
  unfold reconcilePinnedAnchor
  split
  · exact .idle E _ r _
  · exact .one E .clearDocument r _
  · exact treated_tombstoneHistory E r _

theorem treated_importHistoryPage (host : KernelHost R ε) (r : Replica R)
    (page : HistoryPageInput) : Treated host.adapter [.historyPage page.payload] r
      (importHistoryPage host r page).1 := by
  have hone := Treated.one host.adapter (.historyPage page.payload) r
  unfold importHistoryPage
  rcases happly : host.adapter.applyHistoryPage r.engine page.payload with
    ⟨engine, effects, _ | outcome⟩
  · simpa [perform, happly] using hone r.history
  · simp only [perform, happly] at hone
    dsimp only
    split
    · exact hone r.history
    split
    · exact hone r.history
    split
    · exact hone r.history
    · exact hone _

theorem importHistoryPage_key (host : KernelHost R ε) (r : Replica R)
    (page : HistoryPageInput) : (importHistoryPage host r page).1.key = r.key :=
  (treated_importHistoryPage host r page).key

namespace SessionKernel

variable {E : EngineAdapter R ε} {t : ResourceId} {call : KernelCall} {k : SessionKernel R}

variable {g : GenerationId}

theorem terminalOutput_move {seq : UInt64} {payload : Bytes} :
    TerminalMove E t (.update (.resourceOutput t g seq payload)) k
      (k.terminalOutput E t g seq payload).kernel := by
  refine .require ?_
  rintro ⟨s, r⟩ hpublished
  obtain ⟨rfl, hlive, hheld, rfl⟩ := publishedReplica_eq_ok hpublished
  refine .require ?_
  intro _ hseq
  have hnext := Replica.expectNextSeq_eq_ok hseq
  refine .require ?_
  intro distance _
  rcases happly : E.applyOutput r.engine payload with ⟨engine, effects, _ | _⟩
  · exact .mark (.lose _ r _ seq payload rfl hheld hlive)
  · dsimp only
    cases hview : r.history.viewport with
    | tail =>
      refine .set (.feed _ r _ hheld ⟨rfl, rfl, ⟨[.output payload], ?_, ?_⟩, hnext, rfl, rfl⟩)
      · exact ⟨rfl, rfl, [], rfl, nil_sublist _⟩
      · simp [perform, happly]
    | pinned anchor =>
      have htreated := treated_reconcilePinnedAnchor E { r with engine } anchor distance
      obtain ⟨ops, hops, hengine⟩ := htreated.engine
      refine .set (.feed _ r _ hheld
        ⟨htreated.key, htreated.geometry, ⟨.output payload :: ops, ?_, ?_⟩, hnext, rfl, rfl⟩)
      · exact ⟨rfl, rfl, ops, rfl, hops⟩
      · simp [perform, happly, hengine]

theorem historyPage_move (host : KernelHost R ε) (page : HistoryPageInput) :
    TerminalMove host.adapter page.terminalId (.update (.historyPage page)) k
      (k.historyPage host page).kernel := by
  refine .require ?_
  rintro ⟨s, r⟩ hpublished
  obtain ⟨rfl, hlive, hheld, hgen⟩ := publishedReplica_eq_ok hpublished
  have hreach : ∀ ops, ops.Sublist [.historyPage page.payload, .clearDocument] →
      KernelCall.Reaches page.terminalId (generationOf r.key)
        (.update (.historyPage page)) ops := fun ops hops => ⟨rfl, hgen.symm, hops⟩
  have hfeed : ∀ {new : Replica R},
      Treated host.adapter [.historyPage page.payload, .clearDocument] r new →
      TerminalMove host.adapter page.terminalId (.update (.historyPage page)) k
        (k.setTerminal page.terminalId { k.terminal page.terminalId with published := some new }) :=
    fun h => .set (.feed _ r _ hheld (h.fed hreach rfl))
  have htomb := fun new reason => treated_tombstoneHistory host.adapter new reason
  dsimp only
  split
  · exact .refl _ _ _ _
  split
  · exact .refl _ _ _ _
  · have h := (Treated.idle host.adapter [.historyPage page.payload] r r.history).trans
      (htomb _ .codecFailure)
    exact hfeed h
  · have himport := treated_importHistoryPage host r page
    rcases hi : importHistoryPage host r page with ⟨new, effects, rejection | _⟩
    · rw [hi] at himport
      have h := hfeed (himport.trans (htomb new rejection.reason))
      dsimp only
      cases rejection.error <;> exact h
    · rw [hi] at himport
      exact hfeed (himport.trans (.idle host.adapter [.clearDocument] new _))

variable {cursor : Bytes}

theorem historyTombstone_move {reason : HistoryUnavailableReason} :
    TerminalMove E t (.update (.historyTombstone t g cursor reason)) k
      (k.historyTombstone E t g cursor reason).kernel := by
  refine .require ?_
  rintro ⟨s, r⟩ hpublished
  obtain ⟨rfl, _, hheld, rfl⟩ := publishedReplica_eq_ok hpublished
  dsimp only
  split
  · exact .refl _ _ _ _
  · have htreated := Treated.one E .clearDocument r
    exact .set (.feed _ r _ hheld ((htreated _).fed (fun ops hops => ⟨rfl, rfl, hops⟩) rfl))

theorem historyRejected_move
    {reason : HistoryRejectionReason} {requiredBytes requiredRows : UInt32} :
    TerminalMove E t (.update (.historyRejected t g cursor reason requiredBytes requiredRows)) k
      (k.historyRejected E t g cursor reason requiredBytes requiredRows).kernel := by
  refine .require ?_
  rintro ⟨s, r⟩ hpublished
  obtain ⟨rfl, _, hheld, rfl⟩ := publishedReplica_eq_ok hpublished
  have hfeed : ∀ {new : Replica R}, Treated E [.clearDocument] r new →
      TerminalMove E t
        (.update (.historyRejected t (generationOf r.key) cursor reason requiredBytes
          requiredRows)) k
        (k.setTerminal t { k.terminal t with published := some new }) :=
    fun h => .set (.feed _ r _ hheld (h.fed (fun ops hops => ⟨rfl, rfl, hops⟩) rfl))
  dsimp only
  split
  · exact .refl _ _ _ _
  split
  all_goals
    split
    · exact hfeed (.one E .clearDocument r _)
    · exact hfeed (.idle E _ r _)

theorem withPublished_move {α : Type} {act : Replica R → Replica R × Except (KernelError ε) α}
    (h : ∀ r, Fed E t call r (act r).1) : TerminalMove E t call k (k.withPublished t act).1 := by
  unfold withPublished
  cases hs : k.terminals t with
  | none => exact .refl _ _ _ _
  | some s =>
    have hterminal := terminal_of_known hs
    cases hp : s.published with
    | none =>
      simp only [hp]
      exact .refl _ _ _ _
    | some r =>
      simp only [hp]
      subst hterminal
      exact .set (.feed _ r _ hp (h r))

theorem clearPresentation_move :
    TerminalMove E t (.clearPresentation t) k (k.clearPresentation E t).1 := by
  unfold clearPresentation
  split
  · exact .refl _ _ _ _
  refine withPublished_move fun r => ?_
  have htreated := Treated.one E .clearPresentation r
  have hreach : ∀ ops, ops.Sublist [.clearPresentation] →
      KernelCall.Reaches t (generationOf r.key) (.clearPresentation t) ops :=
    fun ops hops => ⟨rfl, hops⟩
  simp only [perform] at htreated
  rcases hc : E.clearPresentation r.engine with ⟨engine, _ | _⟩
  · rw [hc] at htreated
    exact (htreated r.history).fed hreach rfl
  · rw [hc] at htreated
    exact (htreated _).fed hreach rfl

theorem treated_projectFrom (E : EngineAdapter R ε) (width : UInt16) (maxRows : Nat)
    (r : Replica R) (origin : EngineProjectionOrigin) : Treated E [.project width origin maxRows] r
      (projectFrom E width maxRows r origin).1 := by
  have htreated := Treated.one E (.project width origin maxRows) r r.history
  simp only [perform] at htreated
  unfold projectFrom
  rcases hp : E.projectHistory r.engine width origin maxRows with ⟨engine, _ | _⟩
  all_goals simpa only [hp] using htreated

theorem projectHistory_move {width : UInt16} {maxRows : Nat} :
    TerminalMove E t (.projectHistory t width maxRows) k
      (k.projectHistory E t width maxRows).1 := by
  refine withPublished_move fun r => ?_
  have hfed : ∀ {new : Replica R} {width' : UInt16} {origin : EngineProjectionOrigin},
      Treated E ([.clearDocument] ++ [.project width' origin maxRows]) r new →
      Fed E t (.projectHistory t width maxRows) r new := fun h =>
    h.fed (fun ops hops => ⟨rfl, _, _, hops⟩) rfl
  have hidle := Treated.idle E [.clearDocument] r (r.history.reproject width)
  have hproject := treated_projectFrom E (r.history.reproject width).projectionWidth maxRows
  dsimp only
  split
  · exact hfed (hidle.trans (hproject _ _))
  split
  · exact ((Treated.idle E [] r _).fed
      (fun ops hops => ⟨rfl, 0, .tail, hops.trans (nil_sublist _)⟩) rfl)
  · exact hfed (hidle.trans (hproject _ _))
  · exact hfed ((Treated.one E .clearDocument r _).trans (hproject _ _))

theorem trackDocumentAnchor_move (point : DocumentPoint) :
    TerminalMove E t (.trackDocumentAnchor t point) k (k.trackDocumentAnchor E t point).1 := by
  refine withPublished_move fun r => ?_
  have hreach : ∀ ops, ops.Sublist [.track point] →
      KernelCall.Reaches t (generationOf r.key) (.trackDocumentAnchor t point) ops :=
    fun ops hops => ⟨rfl, hops⟩
  have htreated := Treated.one E (.track point) r
  simp only [perform] at htreated
  split
  · exact (Treated.idle E _ r r.history).fed hreach rfl
  rcases hc : E.trackDocumentAnchor r.engine point with ⟨engine, _ | anchor⟩
  · rw [hc] at htreated
    exact (htreated r.history).fed hreach rfl
  · rw [hc] at htreated
    dsimp only
    split
    · exact (htreated r.history).fed hreach rfl
    · exact (htreated _).fed hreach rfl

variable (anchor : DocumentAnchorId)

theorem pinHistoryViewport_move :
    TerminalMove E t (.pinHistoryViewport t anchor) k (k.pinHistoryViewport E t anchor).1 := by
  refine withPublished_move fun r => ?_
  have hidle : ∀ history, Fed E t (.pinHistoryViewport t anchor) r
      { r with history } := fun history =>
    (Treated.idle E [] r history).fed (fun ops hops => ⟨rfl, sublist_nil.mp hops⟩) rfl
  split
  · exact hidle r.history
  · exact hidle r.history
  split
  · exact hidle r.history
  · exact hidle _

theorem followHistoryTail_move : TerminalMove E t (.followHistoryTail t) k
      (k.followHistoryTail t : _ × Except (KernelError ε) Unit).1 :=
  withPublished_move fun r =>
    (Treated.idle E [] r _).fed (fun _ hops => ⟨rfl, sublist_nil.mp hops⟩) rfl

theorem releaseDocumentAnchor_move :
    TerminalMove E t (.releaseDocumentAnchor t anchor) k (k.releaseDocumentAnchor E t anchor).1 :=
  withPublished_move fun r =>
    (Treated.one E (.release anchor) r _).fed (fun _ hops => ⟨rfl, hops⟩) rfl

theorem searchLoadedHistory_move {needle : String} {maxMatches : Nat} :
    TerminalMove E t (.searchLoadedHistory t needle maxMatches) k
      (k.searchLoadedHistory E t needle maxMatches).1 := by
  refine withPublished_move fun r => ?_
  have hfed : ∀ {new : Replica R} {limit : Nat} {anchors : List DocumentAnchorId},
      Treated E (.search needle limit :: anchors.map .release) r new →
      Fed E t (.searchLoadedHistory t needle maxMatches) r new := fun h =>
    h.fed (fun ops hops => ⟨rfl, _, _, hops⟩) rfl
  dsimp only
  split
  · exact hfed (.idle E (.search needle 0 :: [].map .release) r _)
  rcases hs : E.searchLoaded r.engine needle
    (min maxMatches (r.history.remainingAnchorCapacity / 2)) with ⟨engine, _ | found⟩
  · have h := Treated.one E (.search needle
      (min maxMatches (r.history.remainingAnchorCapacity / 2))) r r.history
    simp only [perform, hs] at h
    exact @hfed _ _ [] h
  · have h := Treated.one E (.search needle
      (min maxMatches (r.history.remainingAnchorCapacity / 2))) r
    simp only [perform, hs] at h
    dsimp only
    rcases registerAnchors r.history (searchAnchors found) with ⟨history, _ | _⟩
    · refine @hfed _ (min maxMatches (r.history.remainingAnchorCapacity / 2))
        (searchAnchors found) ⟨rfl, rfl, rfl, rfl, _, .refl _, ?_⟩
      simp [perform, performAll, foldl_map, hs]
    · exact @hfed _ _ [] (h history)

theorem prefetchHistory_move (rows : Nat) :
    TerminalMove E t (.prefetchHistory t rows) k (k.prefetchHistory t rows).1 := by
  unfold prefetchHistory
  cases hs : k.terminals t with
  | none => exact .refl _ _ _ _
  | some s =>
    have hterminal := terminal_of_known hs
    cases hp : s.published with
    | none =>
      simp only [hp]
      exact .refl _ _ _ _
    | some r =>
      simp only [hp]
      subst hterminal
      split
      · exact .refl _ _ _ _
      split
      · exact .refl _ _ _ _
      split
      · exact .refl _ _ _ _
      · exact .set (.feed _ r _ hp
          ((Treated.idle E [] r _).fed (fun _ hops => ⟨rfl, sublist_nil.mp hops⟩) rfl))

end SessionKernel

end Phux
