import Phux.HistoryAccounting

/-! The chain of the pages that a history cache takes as new. -/

namespace Phux

open ByteReader

structure OfferedPage where
  cursor : HistoryCursor
  pageSeq : UInt64
  nextCursor : Option HistoryCursor
  declaredRows : UInt32
  payload : Bytes
deriving DecidableEq

namespace OfferedPage

def id (page : OfferedPage) : HistoryPageId := ⟨page.cursor, page.pageSeq⟩

/-- The page answers the cursor that the one before left; numbers count the pages of one cursor. -/
def Follows (page previous : OfferedPage) : Prop :=
  previous.nextCursor = some page.cursor ∧
    page.pageSeq.toNat = if page.cursor = previous.cursor then previous.pageSeq.toNat + 1 else 1

/-- Pages, the latest first, each following the one before it, from the first cursor on. -/
def Chain (newest : Option HistoryCursor) : List OfferedPage → Prop
  | [] => True
  | [first] => newest = some first.cursor ∧ first.pageSeq = 1
  | page :: previous :: older => page.Follows previous ∧ Chain newest (previous :: older)

end OfferedPage

namespace HistoryCache

open OfferedPage

section

variable (payloadDigest : Bytes → Bytes)

def checkOffered (cache : HistoryCache) (page : OfferedPage) :
    Except HistoryCacheError HistoryPageCheck :=
  cache.checkPage payloadDigest page.cursor page.pageSeq page.nextCursor page.declaredRows
    page.payload

/-- The page that an operation brings in as new. -/
def taken (cache : HistoryCache) : HistoryOp → Option OfferedPage
  | .acceptPage cursor pageSeq nextCursor declaredRows _ payload =>
    match cache.checkPage payloadDigest cursor pageSeq nextCursor declaredRows payload with
    | .ok .new => some ⟨cursor, pageSeq, nextCursor, declaredRows, payload⟩
    | _ => none
  | _ => none

/-- One operation on the cache and on the pages taken so far. -/
def record (s : HistoryCache × List OfferedPage) (op : HistoryOp) :
    HistoryCache × List OfferedPage :=
  (s.1.after payloadDigest op, (s.1.taken payloadDigest op).toList ++ s.2)

end

def remembers (cache : HistoryCache) (id : HistoryPageId) : Bool :=
  (cache.pages.lookup id).isSome || (cache.consumed.find? fun entry => entry.id = id).isSome

variable {cache cache' : HistoryCache} {payloadDigest : Bytes → Bytes}
  {newest : Option HistoryCursor} {log : List OfferedPage} {op : HistoryOp} {page : OfferedPage}
  {id : HistoryPageId}

theorem SameBooks.kept (h : SameBooks cache cache') : Kept cache cache' :=
  ⟨h.next, h.nextSeq, h.consumed, fun _ page hpage => ⟨page, h.pages ▸ hpage, rfl⟩⟩

theorem Repinned.kept (h : Repinned cache cache') : Kept cache cache' := by
  refine ⟨h.next, h.nextSeq, h.consumed, fun id page' hpage' => ?_⟩
  obtain ⟨count, hcount⟩ := h.pages id
  rw [hpage'] at hcount
  obtain ⟨page, hpage, rfl⟩ := Option.map_eq_some_iff.mp hcount.symm
  exact ⟨page, hpage, rfl⟩

theorem kept_release {anchor : DocumentAnchorId} :
    Kept cache (cache.release anchor) :=
  { (repinned_release cache anchor).kept with }

theorem taken_some (h : cache.taken payloadDigest op = some page) : ∃ rows,
    op = .acceptPage page.cursor page.pageSeq page.nextCursor page.declaredRows rows page.payload ∧
      cache.checkOffered payloadDigest page = .ok .new := by
  unfold taken at h
  split at h
  · split at h
    · cases h
      exact ⟨_, rfl, by assumption⟩
    · cases h
  · cases h

theorem kept_of_untaken (haccounted : Accounted cache) (h : cache.taken payloadDigest op = none)
    (hstep : HistoryStep payloadDigest cache op cache') :
    Kept cache cache' ∨ ∃ state, cache' = cache.invalidate state := by
  cases hstep with
  | quiet hbooks _ => exact .inl hbooks.kept
  | look anchor _ => exact .inl { (SameBooks.refl cache).kept with }
  | invalidate state => exact .inr ⟨state, rfl⟩
  | accept hnew =>
    simp only [taken, hnew] at h
    cases h
  | @register anchor pages _ =>
    have hpinned := repinned_foldl repinned_pin pages.dedup (cache.release anchor)
    exact .inl { kept_release.trans hpinned.kept with }
  | @remove anchor =>
    have hvacated := kept_release.trans (vacate_books cache anchor).kept
    exact .inl (hvacated.trans (haccounted.within_vacate anchor).evicted.toKept)

/-- What the pages taken so far, the latest first, say about the cache. -/
structure Chained (payloadDigest : Bytes → Bytes) (newest : Option HistoryCursor)
    (cache : HistoryCache) (log : List OfferedPage) : Prop where
  chain : Chain newest log
  next : ∀ page : OfferedPage, cache.nextCursor = some page.cursor →
    page.pageSeq = cache.nextPageSeq.getD 1 → Chain newest (page :: log)
  held : ∀ id cached, cache.pages.lookup id = some cached → ∃ page,
    log.find? (fun page => page.id = id) = some page ∧
      cached.content = (page.nextCursor, page.declaredRows.toNat, page.payload)
  consumed : ∀ entry ∈ cache.consumed, ∃ page,
    log.find? (fun page => page.id = entry.id) = some page ∧
      (entry.nextCursor, entry.declaredRows, entry.digest) =
        (page.nextCursor, page.declaredRows.toNat, payloadDigest page.payload)

theorem Chained.kept (h : Chained payloadDigest newest cache log) (hkept : Kept cache cache') :
    Chained payloadDigest newest cache' log := by
  refine ⟨h.chain, ?_, fun id cached hcached => ?_, ?_⟩
  · rw [hkept.next, hkept.nextSeq]
    exact h.next
  · obtain ⟨before, hbefore, hsame⟩ := hkept.held id cached hcached
    rw [hsame]
    exact h.held id before hbefore
  · rw [hkept.consumed]
    exact h.consumed

theorem mem_of_mem_trimConsumed {entry : ConsumedPage} (entries : List ConsumedPage) (bytes : Nat)
    (h : entry ∈ (trimConsumed entries bytes).1) : entry ∈ entries := by
  induction entries generalizing bytes with
  | nil => exact h
  | cons first entries ih =>
    unfold trimConsumed at h
    split_ifs at h
    · exact List.mem_cons_of_mem first (ih _ h)
    · exact h

theorem checkPageOrder_ok
    (h : cache.checkPageOrder page.cursor page.pageSeq page.nextCursor = .ok ()) :
    cache.state = .loading ∧ cache.nextCursor = some page.cursor ∧
      page.pageSeq = cache.nextPageSeq.getD 1 ∧
      (page.nextCursor = some page.cursor → page.pageSeq.toNat + 1 < 2 ^ 64) := by
  unfold checkPageOrder at h
  dsimp only at h
  split_ifs at h with hasked hseq hlast
  rw [not_or, not_not, not_not] at hasked
  refine ⟨hasked.1, hasked.2, not_not.mp (not_or.mp hseq).2, fun hnext => ?_⟩
  have hbound := page.pageSeq.toNat_lt
  have hne : page.pageSeq.toNat ≠ 18446744073709551615 := fun heq =>
    hlast ⟨hnext, UInt64.toNat_inj.mp heq⟩
  omega

variable (h : Chained payloadDigest newest cache log)

include h

theorem Chained.take (hnew : cache.checkOffered payloadDigest page = .ok .new) (rows : Nat) :
    Chained payloadDigest newest (cache.insertPage payloadDigest page.cursor page.pageSeq
      page.nextCursor page.declaredRows rows page.payload) (page :: log) := by
  obtain ⟨hfresh, horder, _⟩ := checkPage_new hnew
  obtain ⟨_, hunseen⟩ := isReplayedPage_false hfresh
  obtain ⟨_, hasked, hseq, hroom⟩ := checkPageOrder_ok horder
  have hchain := h.next page hasked hseq
  have hself : (page :: log).find? (fun p => p.id = page.id) = some page := by simp
  have hother : ∀ id, id ≠ page.id →
      (page :: log).find? (fun p => p.id = id) = log.find? fun p => p.id = id := by
    intro id hid
    simp [Ne.symm hid]
  refine ⟨hchain, fun after hnext hafter => ⟨⟨hnext, ?_⟩, hchain⟩, fun id cached hcached => ?_,
    fun entry hentry => ?_⟩
  · change page.nextCursor = some after.cursor at hnext
    simp only [insertPage, hnext, Option.map_some, Option.getD_some] at hafter
    rw [hafter]
    split_ifs with hsame
    · rw [UInt64.toNat_add]
      exact Nat.mod_eq_of_lt (hroom (hsame ▸ hnext))
    · rfl
  · by_cases hid : id = page.id
    · subst hid
      cases (AList.lookup_insert _).symm.trans hcached
      exact ⟨page, hself, rfl⟩
    · rw [hother id hid]
      exact h.held id cached ((AList.lookup_insert_ne hid).symm.trans hcached)
  · rcases List.mem_append.mp (mem_of_mem_trimConsumed _ _ hentry) with hold | hlast
    · have hid : entry.id ≠ page.id := by simpa using! List.find?_eq_none.mp hunseen entry hold
      rw [hother _ hid]
      exact h.consumed entry hold
    · cases List.mem_singleton.mp hlast
      exact ⟨page, hself, rfl⟩

theorem Chained.step (haccounted : Accounted cache)
    (op : HistoryOp) : Chained payloadDigest newest (cache.after payloadDigest op)
      ((cache.taken payloadDigest op).toList ++ log) := by
  cases htaken : cache.taken payloadDigest op with
  | none =>
    rcases kept_of_untaken haccounted htaken (after_step payloadDigest cache op) with
      hkept | ⟨state, hinvalid⟩
    · exact h.kept hkept
    · rw [hinvalid]
      refine ⟨h.chain, fun page hnone => ?_, fun id cached hcached => ?_, fun entry hentry => ?_⟩
      · cases hnone
      · cases (AList.lookup_empty id).symm.trans hcached
      · cases hentry
  | some page =>
    obtain ⟨rows, rfl, hnew⟩ := taken_some htaken
    rw [after_new hnew]
    exact (h.take hnew rows).kept (haccounted.within_insertPage hnew).evicted.toKept

theorem Chained.replayed (hid : cache.remembers id = true) :
    ∃ page, log.find? (fun page => page.id = id) = some page ∧ ∀ nextCursor declaredRows payload,
      cache.isReplayedPage payloadDigest id nextCursor declaredRows payload =
        if page.nextCursor = nextCursor ∧ page.declaredRows = declaredRows ∧
          (page.payload = payload ∨ cache.pages.lookup id = none ∧
            payloadDigest page.payload = payloadDigest payload)
        then .ok true else .error .duplicateConflict := by
  unfold isReplayedPage
  cases hcached : cache.pages.lookup id with
  | some cached =>
    obtain ⟨page, hpage, hsame⟩ := h.held id cached hcached
    simp only [CachedPage.content, Prod.mk.injEq] at hsame
    refine ⟨page, hpage, fun nextCursor declaredRows payload => if_congr ?_ rfl rfl⟩
    rw [hsame.1, hsame.2.1, hsame.2.2, UInt32.toNat_inj]
    grind
  | none =>
    obtain ⟨entry, hentry⟩ : ∃ entry, cache.consumed.find? (fun e => e.id = id) = some entry :=
      Option.isSome_iff_exists.mp (by simpa [remembers, hcached] using hid)
    obtain rfl : entry.id = id := by simpa using List.find?_some hentry
    obtain ⟨page, hpage, hsame⟩ := h.consumed entry (List.mem_of_find?_eq_some hentry)
    simp only [Prod.mk.injEq] at hsame
    refine ⟨page, hpage, fun nextCursor declaredRows payload => ?_⟩
    simp only [hentry]
    refine if_congr ?_ rfl rfl
    rw [hsame.1, hsame.2.1, hsame.2.2, UInt32.toNat_inj]
    grind

omit h

/-- Two pages of two cursors, both numbered one. -/
theorem sequence_restarts :
    (Machine.run (record fun payload => payload) (new .standard (some [1]) 80, [])
      [.beginFetch, .acceptPage [1] 1 (some [2]) 1 1 [7],
        .beginFetch, .acceptPage [2] 1 none 1 1 [8]]).2 =
      [⟨[2], 1, none, 1, [8]⟩, ⟨[1], 1, some [2], 1, [7]⟩] := by
  decide +kernel

/-- After any run the pages taken as new form one chain, each the answer to the cursor outstanding
as it came in. A page still cached or among the last consumed is a duplicate when it is offered
again, and any other page of its identity is refused, short of a digest that is the same. -/
theorem history_chain (payloadDigest : Bytes → Bytes) (config : HistoryCacheConfig)
    (newest : Option HistoryCursor) (width : UInt16) (ops : List HistoryOp) :
    let s := Machine.run (record payloadDigest) (new config newest width, []) ops
    Chain newest s.2 ∧
    (∀ op page, s.1.taken payloadDigest op = some page →
      s.1.state = .loading ∧ s.1.nextCursor = some page.cursor) ∧
    ∀ id, s.1.remembers id = true → ∃ page, s.2.find? (fun page => page.id = id) = some page ∧
      s.1.checkOffered payloadDigest page = .ok (.duplicate id) ∧
      (∀ rows, s.1.acceptPage payloadDigest page.cursor page.pageSeq page.nextCursor
        page.declaredRows rows page.payload = .ok (s.1, id)) ∧
      ∀ other : OfferedPage, other.id = id → other ≠ page →
        s.1.checkOffered payloadDigest other = .error .duplicateConflict ∨
          (s.1.pages.lookup id = none ∧ other.payload ≠ page.payload ∧
            payloadDigest other.payload = payloadDigest page.payload) := by
  intro s
  have hstep : ∀ s op, Accounted s.1 ∧ Chained payloadDigest newest s.1 s.2 →
      Accounted (record payloadDigest s op).1 ∧
        Chained payloadDigest newest (record payloadDigest s op).1 (record payloadDigest s op).2 :=
    fun s op h => ⟨h.1.step (after_step payloadDigest s.1 op), h.2.step h.1 op⟩
  have hnew : Chained payloadDigest newest (new config newest width) [] := by
    refine ⟨trivial, fun page hnext hseq => ⟨hnext, ?_⟩, fun id cached hcached => ?_,
      fun entry hentry => ?_⟩
    · cases newest <;> exact hseq
    · cases (AList.lookup_empty id).symm.trans hcached
    · cases hentry
  have hrun : Accounted s.1 ∧ Chained payloadDigest newest s.1 s.2 :=
    Machine.run_invariant hstep ⟨accounted_new, hnew⟩
  obtain ⟨_, hchained⟩ := hrun
  refine ⟨hchained.chain, fun op page htaken => ?_, fun id hid => ?_⟩
  · obtain ⟨_, _, hoffered⟩ := taken_some htaken
    obtain ⟨hloading, hasked, _⟩ := checkPageOrder_ok (checkPage_new hoffered).2.1
    exact ⟨hloading, hasked⟩
  · obtain ⟨page, hpage, hreplayed⟩ := hchained.replayed hid
    obtain rfl : page.id = id := by simpa using List.find?_some hpage
    have hagain : s.1.checkOffered payloadDigest page = .ok (.duplicate page.id) := by
      have hsame := hreplayed page.nextCursor page.declaredRows page.payload
      rw [if_pos ⟨rfl, rfl, .inl rfl⟩] at hsame
      change s.1.isReplayedPage payloadDigest page.id _ _ _ >>= _ = _
      rw [hsame]
      rfl
    refine ⟨page, hpage, hagain, fun rows => ?_, fun other hother hne => ?_⟩
    · unfold checkOffered at hagain
      simp only [acceptPage, hagain, bind, Except.bind]
      rfl
    · have hclaimed := hreplayed other.nextCursor other.declaredRows other.payload
      split_ifs at hclaimed with hsame
      · obtain ⟨hnext, hrows, hpayload⟩ := hsame
        have hdiffer : other.payload ≠ page.payload := by
          intro heq
          cases page
          cases other
          cases hother
          simp_all
        rcases hpayload with heq | ⟨hgone, hdigest⟩
        · exact absurd heq.symm hdiffer
        · exact .inr ⟨hgone, hdiffer, hdigest.symm⟩
      · left
        change s.1.isReplayedPage payloadDigest other.id _ _ _ >>= _ = _
        rw [hother, hclaimed]
        rfl

end HistoryCache

end Phux
