import Phux.HistoryLedger
import Phux.Machine
import Phux.Fallible
import Mathlib.Data.List.Dedup

/-! The history cache keeps its books. -/

namespace Phux

open ByteReader KeyedTotals ConsumedPage List Nat AList HistoryCache Except

variable {anc : DocumentAnchorId} {pages : List HistoryPageId} {op : HistoryOp}

inductive HistoryOp where
  | reproject (width : UInt16)
  | beginFetch
  | beginFetchWithLimits (maxBytes maxRows : UInt32)
  | cancelFetch (cursor : HistoryCursor)
  | acceptPage (cursor : HistoryCursor) (pageSeq : UInt64) (nextCursor : Option HistoryCursor)
      (declaredRows : UInt32) (materializedRows : Nat) (payload : Bytes)
  | registerAnchorPages (anchor : DocumentAnchorId) (pages : List HistoryPageId)
  | removeAnchor (anchor : DocumentAnchorId)
  | pinViewport (anchor : DocumentAnchorId)
  | followTail
  | noteLiveOutput (rows : UInt64)
  | invalidateCursor (cursor : HistoryCursor) (state : HistoryLoadState)
  | markPruned
  | clearPresentation
  | tombstone

def HistoryOp.frees : HistoryOp → Option DocumentAnchorId
  | .registerAnchorPages anchor _ => some anchor
  | .removeAnchor anchor => some anchor
  | _ => none

namespace HistoryCache

/-- The cache after an operation; one that fails leaves it as it was. -/
def after (payloadDigest : Bytes → Bytes) (cache : HistoryCache) : HistoryOp → HistoryCache
  | .reproject width => cache.reproject width
  | .beginFetch => cache.beginFetch.1
  | .beginFetchWithLimits maxBytes maxRows => (cache.beginFetchWithLimits maxBytes maxRows).1
  | .cancelFetch cursor => (cache.cancelFetch cursor).1
  | .acceptPage cursor pageSeq nextCursor declaredRows materializedRows payload =>
    match cache.acceptPage payloadDigest cursor pageSeq nextCursor declaredRows materializedRows
        payload with
    | .ok (accepted, _) => accepted
    | .error _ => cache
  | .registerAnchorPages anchor pages =>
    match cache.registerAnchorPages anchor pages with
    | .ok registered => registered
    | .error _ => cache
  | .removeAnchor anchor => cache.removeAnchor anchor
  | .pinViewport anchor =>
    match cache.pinViewport anchor with
    | .ok pinned => pinned
    | .error _ => cache
  | .followTail => cache.followTail
  | .noteLiveOutput rows => cache.noteLiveOutput rows
  | .invalidateCursor cursor state => (cache.invalidateCursor cursor state).1
  | .markPruned => cache.markPruned
  | .clearPresentation => cache.clearPresentation
  | .tombstone => cache.tombstone

variable {cache cache' : HistoryCache} {owed : List HistoryPageId} {id : HistoryPageId}
  {page : CachedPage}

structure Accounted (cache : HistoryCache) : Prop where
  ledger : Ledger cache []
  bytes : cache.loadedBytes ≤ cache.config.maxBytes
  rows : cache.materializedRows ≤ cache.config.maxMaterializedRows
  viewport : ∀ anchor, cache.viewport = .pinned anchor →
    (cache.anchorPages.lookup anchor).isSome = true
  replay : cache.consumedBytes = (cache.consumed.map accountedBytes).sum
  recent : cache.consumed.length ≤ 64

theorem Ledger.pinnedBytes_le (h : Ledger cache owed) : cache.pinnedBytes ≤ cache.loadedBytes := by
  rw [h.pinnedBytes, h.bytes]
  refine total_mono fun id page _ => ?_
  unfold pinnedPageBytes pageBytes
  split_ifs <;> omega

theorem Ledger.pinnedRows_le (h : Ledger cache owed) :
    cache.pinnedMaterializedRows ≤ cache.materializedRows := by
  rw [h.pinnedRows, h.rows]
  refine total_mono fun id page _ => ?_
  unfold pinnedPageRows pageRows
  split_ifs <;> omega

theorem trimConsumed_sum (entries : List ConsumedPage) (bytes : Nat)
    (h : bytes = (entries.map accountedBytes).sum) : (trimConsumed entries bytes).2 =
        ((trimConsumed entries bytes).1.map accountedBytes).sum ∧
      (trimConsumed entries bytes).1.length ≤ 64 := by
  induction entries generalizing bytes with
  | nil => exact ⟨h, zero_le 64⟩
  | cons entry entries ih =>
    unfold trimConsumed
    by_cases hlong : 64 < (entry :: entries).length
    · rw [if_pos hlong]
      refine ih _ ?_
      rw [map_cons, sum_cons] at h
      omega
    · rw [if_neg hlong]
      exact ⟨h, Nat.le_of_not_lt hlong⟩

/-- The cache with a new page in it, before anything is evicted for it. -/
def insertPage (payloadDigest : Bytes → Bytes) (cache : HistoryCache) (cursor : HistoryCursor)
    (pageSeq : UInt64) (nextCursor : Option HistoryCursor) (declaredRows : UInt32)
    (materializedRows : Nat) (payload : Bytes) : HistoryCache :=
  let id : HistoryPageId := ⟨cursor, pageSeq⟩
  let rows := min (min materializedRows declaredRows.toNat) cache.config.maxMaterializedRows
  let accountedBytes := 32 + cursor.length + (nextCursor.map List.length).getD 0 + 12
  let replay := trimConsumed
    (cache.consumed ++
      [⟨id, nextCursor, declaredRows.toNat, payloadDigest payload, accountedBytes⟩])
    (cache.consumedBytes + accountedBytes)
  { cache with
    loadedBytes := cache.loadedBytes + payload.length
    materializedRows := cache.materializedRows + rows
    pages := cache.pages.insert id ⟨nextCursor, declaredRows.toNat, payload, rows, 0⟩
    pageOrder := cache.pageOrder ++ [id]
    evictable := cache.evictable ++ [id]
    consumed := replay.1
    consumedBytes := replay.2
    nextPageSeq := nextCursor.map fun next => if next = cursor then pageSeq + 1 else 1
    nextCursor
    requestMaxBytes := 0
    requestMaxRows := 0
    state := if nextCursor.isSome then .idle else .complete }

section

variable {digest : Bytes → Bytes} {cur : HistoryCursor} {ps : UInt64}
  {nc : Option HistoryCursor} {decl : UInt32} {mat : Nat}
  {pl : Bytes}

theorem isReplayedPage_false (h : cache.isReplayedPage digest id nc decl pl = .ok false) :
    cache.pages.lookup id = none ∧ cache.consumed.find? (fun entry => entry.id = id) = none := by
  unfold isReplayedPage at h
  split at h
  · split_ifs at h
    all_goals cases h
  · rename_i hmissing
    split at h
    · split_ifs at h
      all_goals cases h
    · rename_i hunseen
      exact ⟨hmissing, hunseen⟩

theorem checkPage_new (h : cache.checkPage digest cur ps nc decl pl = .ok .new) :
    cache.isReplayedPage digest ⟨cur, ps⟩ nc decl pl = .ok false ∧
      cache.checkPageOrder cur ps nc = .ok () ∧ cache.checkPageBudgets decl pl = .ok () := by
  unfold checkPage at h
  simp only [Fallible.bind_eq_ok] at h
  obtain ⟨replayed, hreplayed, h⟩ := h
  cases replayed with
  | true => simp [pure, Except.pure] at h
  | false =>
    simp only [Bool.false_eq_true, ↓reduceIte, Fallible.bind_eq_ok] at h
    obtain ⟨_, horder, _, hbudgets, _⟩ := h
    exact ⟨hreplayed, horder, hbudgets⟩

theorem missing_of_new (h : cache.checkPage digest cur ps nc decl pl = .ok .new) :
    cache.pages.lookup ⟨cur, ps⟩ = none :=
  (isReplayedPage_false (checkPage_new h).1).1

theorem after_new (h : cache.checkPage digest cur ps nc decl pl = .ok .new) : cache.after digest
        (.acceptPage cur ps nc decl mat pl) = (cache.insertPage digest cur ps nc decl mat
        pl).evictToBudget := by
  simp only [after, acceptPage, h, bind, bind, pure, pure]
  rfl

theorem Ledger.insertPage (h : Ledger cache [])
    (hnew : cache.pages.lookup ⟨cur, ps⟩ = none) (hpayload : pl ≠ []) :
    Ledger (cache.insertPage digest cur ps nc decl mat pl) [] := by
  have hlookup : ∀ (page : CachedPage) other p,
      (cache.pages.insert ⟨cur, ps⟩ page).lookup other = some p →
      other = ⟨cur, ps⟩ ∧ p = page ∨ cache.pages.lookup other = some p := by
    intro page other p hp
    by_cases ho : other = ⟨cur, ps⟩
    · subst ho
      rw [lookup_insert] at hp
      exact .inl ⟨rfl, (Option.some.inj hp).symm⟩
    · rw [lookup_insert_ne ho] at hp
      exact .inr hp
  refine ⟨?_, ?_, ?_, ?_, fun other => ?_, h.sets, fun other p hp hp0 => ?_, fun other p hp => ?_,
    fun other p hp => ?_⟩
  · have hbytes := h.bytes
    simp only [HistoryCache.insertPage, total_insert _ hnew, pageBytes]
    omega
  · have hrows := h.rows
    simp only [HistoryCache.insertPage, total_insert _ hnew, pageRows]
    omega
  · have hbytes := h.pinnedBytes
    simp only [HistoryCache.insertPage, total_insert _ hnew]
    simp [pinnedPageBytes, hbytes]
  · have hrows := h.pinnedRows
    simp only [HistoryCache.insertPage, total_insert _ hnew]
    simp [pinnedPageRows, hrows]
  · have hpins := h.pins other
    unfold HistoryCache.pins at hpins ⊢
    simp only [HistoryCache.insertPage]
    by_cases ho : other = ⟨cur, ps⟩
    · subst ho
      rw [hnew] at hpins
      rw [lookup_insert]
      exact hpins
    · rw [lookup_insert_ne ho]
      exact hpins
  · rcases hlookup _ other p hp with ⟨rfl, _⟩ | hbefore
    · exact mem_append_right _ (mem_singleton_self _)
    · exact mem_append_left _ (h.queued other p hbefore hp0)
  · rcases hlookup _ other p hp with ⟨rfl, _⟩ | hbefore
    · exact mem_append_right _ (mem_singleton_self _)
    · exact mem_append_left _ (h.ordered other p hbefore)
  · rcases hlookup _ other p hp with ⟨_, rfl⟩ | hbefore
    · exact hpayload
    · exact h.filled other p hbefore

end

def release (cache : HistoryCache) (anchor : DocumentAnchorId) : HistoryCache :=
  ((cache.anchorPages.lookup anchor).getD []).foldl HistoryCache.unpin
    { cache with anchorPages := cache.anchorPages.erase anchor }

def vacate (cache : HistoryCache) (anchor : DocumentAnchorId) : HistoryCache :=
  if (cache.release anchor).viewport = .pinned anchor then
    { cache.release anchor with viewport := .tail, unreadRows := 0 }
  else cache.release anchor

structure SameBooks (cache cache' : HistoryCache) : Prop where
  config : cache'.config = cache.config
  next : cache'.nextCursor = cache.nextCursor
  nextSeq : cache'.nextPageSeq = cache.nextPageSeq
  pages : cache'.pages = cache.pages
  order : cache'.pageOrder = cache.pageOrder
  queue : cache'.evictable = cache.evictable
  consumed : cache'.consumed = cache.consumed
  replayed : cache'.consumedBytes = cache.consumedBytes
  anchors : cache'.anchorPages = cache.anchorPages
  bytes : cache'.loadedBytes = cache.loadedBytes
  rows : cache'.materializedRows = cache.materializedRows
  pinnedBytes : cache'.pinnedBytes = cache.pinnedBytes
  pinnedRows : cache'.pinnedMaterializedRows = cache.pinnedMaterializedRows

theorem SameBooks.refl (cache : HistoryCache) : SameBooks cache cache :=
  ⟨rfl, rfl, rfl, rfl, rfl, rfl, rfl, rfl, rfl, rfl, rfl, rfl, rfl⟩

inductive HistoryStep (payloadDigest : Bytes → Bytes) (cache : HistoryCache) :
    HistoryOp → HistoryCache → Prop
  | quiet {op : HistoryOp} {cache' : HistoryCache} (books : SameBooks cache cache')
      (viewport : cache'.viewport = cache.viewport ∨ cache'.viewport = .tail) :
      HistoryStep payloadDigest cache op cache'
  | look {op : HistoryOp} (anchor : DocumentAnchorId)
      (live : (cache.anchorPages.lookup anchor).isSome = true) :
      HistoryStep payloadDigest cache op { cache with viewport := .pinned anchor }
  | invalidate {op : HistoryOp} (state : HistoryLoadState) :
      HistoryStep payloadDigest cache op (cache.invalidate state)
  | accept {cursor : HistoryCursor} {pageSeq : UInt64} {nextCursor : Option HistoryCursor}
      {declaredRows : UInt32} {materializedRows : Nat} {payload : Bytes}
      (new : cache.checkPage payloadDigest cursor pageSeq nextCursor declaredRows payload =
        .ok .new) :
      HistoryStep payloadDigest cache
        (.acceptPage cursor pageSeq nextCursor declaredRows materializedRows payload)
        (cache.insertPage payloadDigest cursor pageSeq nextCursor declaredRows materializedRows
          payload).evictToBudget
  | register {anchor : DocumentAnchorId} {pages : List HistoryPageId}
      (held : ∀ id ∈ pages, (cache.pages.lookup id).isSome = true) :
      HistoryStep payloadDigest cache (.registerAnchorPages anchor pages)
        { pages.dedup.foldl HistoryCache.pin (cache.release anchor) with
          anchorPages := (cache.anchorPages.erase anchor).insert anchor pages.dedup }
  | remove {anchor : DocumentAnchorId} :
      HistoryStep payloadDigest cache (.removeAnchor anchor) (cache.vacate anchor).evictToBudget

theorem repinned_release (cache : HistoryCache) (anc : DocumentAnchorId) :
    Repinned { cache with anchorPages := cache.anchorPages.erase anc } (cache.release anc) :=
  repinned_foldl repinned_unpin _ _

theorem vacate_books (cache : HistoryCache) (anc : DocumentAnchorId) :
    SameBooks (cache.release anc) (cache.vacate anc) := by
  unfold vacate
  by_cases hview : (cache.release anc).viewport = .pinned anc
  · rw [if_pos hview]
    exact { SameBooks.refl (cache.release anc) with }
  · rw [if_neg hview]
    exact .refl _

theorem vacate_viewport {other : DocumentAnchorId}
    (h : (cache.vacate anc).viewport = .pinned other) :
    cache.viewport = .pinned other ∧ other ≠ anc := by
  have hsame := (repinned_release cache anc).viewport
  unfold vacate at h
  by_cases hview : (cache.release anc).viewport = .pinned anc
  · rw [if_pos hview] at h
    cases h
  · rw [if_neg hview] at h
    refine ⟨hsame.symm.trans h, ?_⟩
    rintro rfl
    exact hview h

theorem registerAnchorPages_ok (h : cache.registerAnchorPages anc pages = .ok cache') :
    (∀ id ∈ pages, (cache.pages.lookup id).isSome = true) ∧
      cache' = { pages.dedup.foldl pin (cache.release anc) with
        anchorPages := (cache.anchorPages.erase anc).insert anc pages.dedup } := by
  have hanchors : (pages.dedup.foldl pin (cache.release anc)).anchorPages =
      cache.anchorPages.erase anc :=
    (repinned_foldl repinned_pin _ _).anchors.trans (repinned_release cache anc).anchors
  unfold registerAnchorPages at h
  have hall : ¬ pages.dedup.any (fun page => (cache.pages.lookup page).isNone) = true := by
    intro hmissing
    split at h
    · obtain ⟨_, _, h⟩ := Fallible.bind_eq_ok.mp h
      rw [if_pos hmissing] at h
      cases h
    · rw [if_pos hmissing] at h
      cases h
  have hcache : cache' = { pages.dedup.foldl pin (cache.release anc) with
      anchorPages := (pages.dedup.foldl pin
        (cache.release anc)).anchorPages.insert anc pages.dedup } := by
    split at h
    · obtain ⟨_, _, h⟩ := Fallible.bind_eq_ok.mp h
      rw [if_neg hall] at h
      exact (ok.inj h).symm
    · rw [if_neg hall] at h
      exact (ok.inj h).symm
  refine ⟨fun id hid => ?_, by rw [hcache, hanchors]⟩
  by_contra hnone
  exact hall (any_eq_true.mpr ⟨id, mem_dedup.mpr hid, by simpa using hnone⟩)

theorem beginFetchWithLimits_books (maxBytes maxRows : UInt32) :
    SameBooks cache (cache.beginFetchWithLimits maxBytes maxRows).1 ∧
      (cache.beginFetchWithLimits maxBytes maxRows).1.viewport = cache.viewport := by
  unfold beginFetchWithLimits
  split
  · exact ⟨.refl cache, rfl⟩
  · split
    · exact ⟨.refl cache, rfl⟩
    · exact ⟨{ SameBooks.refl cache with }, rfl⟩

theorem after_step (digest : Bytes → Bytes) (cache : HistoryCache) (op : HistoryOp) :
    HistoryStep digest cache op (cache.after digest op) := by
  cases op with
  | reproject width => exact .quiet { SameBooks.refl cache with } (.inl rfl)
  | beginFetch =>
    obtain ⟨hbooks, hview⟩ := beginFetchWithLimits_books cache.config.requestMaxBytes
      cache.config.requestMaxRows
    exact .quiet hbooks (.inl hview)
  | beginFetchWithLimits maxBytes maxRows =>
    obtain ⟨hbooks, hview⟩ := beginFetchWithLimits_books maxBytes maxRows
    exact .quiet hbooks (.inl hview)
  | cancelFetch cur =>
    simp only [after, cancelFetch]
    split
    · exact .quiet (.refl cache) (.inl rfl)
    · exact .quiet { SameBooks.refl cache with } (.inl rfl)
  | acceptPage cur ps nc decl mat pl =>
    cases hcheck : cache.checkPage digest cur ps nc decl pl with
    | error error =>
      simp only [after, acceptPage, hcheck, bind, bind]
      exact .quiet (.refl cache) (.inl rfl)
    | ok check =>
      cases check with
      | duplicate id =>
        simp only [after, acceptPage, hcheck, bind, bind, pure, pure]
        exact .quiet (.refl cache) (.inl rfl)
      | new =>
        rw [after_new hcheck]
        exact .accept hcheck
  | registerAnchorPages anc pages =>
    cases hregister : cache.registerAnchorPages anc pages with
    | error error =>
      simp only [after, hregister]
      exact .quiet (.refl cache) (.inl rfl)
    | ok registered =>
      obtain ⟨hheld, hregistered⟩ := registerAnchorPages_ok hregister
      simp only [after, hregister]
      rw [hregistered]
      exact .register hheld
  | removeAnchor anc => exact .remove
  | pinViewport anc =>
    by_cases hlive : (cache.anchorPages.lookup anc).isNone = true
    · simp only [after, pinViewport, if_pos hlive]
      exact .quiet (.refl cache) (.inl rfl)
    · simp only [after, pinViewport, if_neg hlive]
      exact .look anc (by simpa [Option.isSome_iff_ne_none] using hlive)
  | followTail => exact .quiet { SameBooks.refl cache with } (.inr rfl)
  | noteLiveOutput rows =>
    change HistoryStep digest cache _ (cache.noteLiveOutput rows)
    unfold noteLiveOutput
    split
    · exact .quiet { SameBooks.refl cache with } (.inl rfl)
    · exact .quiet (.refl cache) (.inl rfl)
  | invalidateCursor cur state =>
    change HistoryStep digest cache _ (cache.invalidateCursor cur state).1
    unfold invalidateCursor
    by_cases hcursor : cache.nextCursor ≠ some cur
    · rw [if_pos hcursor]
      exact .quiet (.refl cache) (.inl rfl)
    · rw [if_neg hcursor]
      exact .invalidate state
  | markPruned => exact .invalidate .pruned
  | clearPresentation => exact .invalidate .cleared
  | tombstone => exact .invalidate .tombstoned

theorem Ledger.same (h : Ledger cache owed) (hbooks : SameBooks cache cache') :
    Ledger cache' owed := by
  refine ⟨?_, ?_, ?_, ?_, fun id => ?_, ?_, ?_, ?_, ?_⟩
  · rw [hbooks.bytes, hbooks.pages, h.bytes]
  · rw [hbooks.rows, hbooks.pages, h.rows]
  · rw [hbooks.pinnedBytes, hbooks.pages, h.pinnedBytes]
  · rw [hbooks.pinnedRows, hbooks.pages, h.pinnedRows]
  · have hpins := h.pins id
    unfold HistoryCache.pins at hpins ⊢
    rw [hbooks.pages, hbooks.anchors, hpins]
  · rw [hbooks.anchors]
    exact h.sets
  · rw [hbooks.pages, hbooks.queue]
    exact h.queued
  · rw [hbooks.pages, hbooks.order]
    exact h.ordered
  · rw [hbooks.pages]
    exact h.filled

theorem Accounted.same (h : Accounted cache) (hbooks : SameBooks cache cache')
    (hview : ∀ anc, cache'.viewport = .pinned anc →
      (cache.anchorPages.lookup anc).isSome = true) : Accounted cache' where
  ledger := h.ledger.same hbooks
  bytes := by
    rw [hbooks.bytes, hbooks.config]
    exact h.bytes
  rows := by
    rw [hbooks.rows, hbooks.config]
    exact h.rows
  viewport := by
    rw [hbooks.anchors]
    exact hview
  replay := by
    rw [hbooks.replayed, hbooks.consumed]
    exact h.replay
  recent := by
    rw [hbooks.consumed]
    exact h.recent

theorem Ledger.released (h : Ledger cache []) (anc : DocumentAnchorId) :
    Ledger (cache.release anc) [] := by
  unfold HistoryCache.release
  cases hanchor : cache.anchorPages.lookup anc with
  | none =>
    have herase : cache.anchorPages.erase anc = cache.anchorPages :=
      ext (kerase_of_notMem_keys (lookup_eq_none.mp hanchor))
    rw [herase]
    exact h
  | some pages =>
    have howed := h.release hanchor
    refine .unpinAll pages ?_
    rwa [append_nil]

theorem Within.accounted (h : Within cache cache') (hview : ∀ anc, cache.viewport = .pinned anc →
      (cache.anchorPages.lookup anc).isSome = true)
    (hreplay : cache.consumedBytes = (cache.consumed.map accountedBytes).sum)
    (hrecent : cache.consumed.length ≤ 64) : Accounted cache' := by
  refine ⟨h.ledger, h.bytes, h.rows, fun anc hanchor => ?_, ?_, ?_⟩
  · rw [h.evicted.viewport] at hanchor
    rw [h.evicted.anchors]
    exact hview anc hanchor
  · rw [h.evicted.replayed, h.evicted.consumed]
    exact hreplay
  · rw [h.evicted.consumed]
    exact hrecent

theorem Accounted.within_vacate (h : Accounted cache) (anc : DocumentAnchorId) :
    Within (cache.vacate anc) (cache.vacate anc).evictToBudget := by
  have hbooks := vacate_books cache anc
  have hreleased := repinned_release cache anc
  have hledger := (h.ledger.released anc).same hbooks
  refine hledger.evictToBudget ?_ ?_
  · calc (cache.vacate anc).pinnedBytes ≤ (cache.vacate anc).loadedBytes := hledger.pinnedBytes_le
      _ = cache.loadedBytes := hbooks.bytes.trans hreleased.bytes
      _ ≤ cache.config.maxBytes := h.bytes
      _ = (cache.vacate anc).config.maxBytes := by rw [hbooks.config, hreleased.config]
  · calc (cache.vacate anc).pinnedMaterializedRows
        ≤ (cache.vacate anc).materializedRows := hledger.pinnedRows_le
      _ = cache.materializedRows := hbooks.rows.trans hreleased.rows
      _ ≤ cache.config.maxMaterializedRows := h.rows
      _ = (cache.vacate anc).config.maxMaterializedRows := by rw [hbooks.config, hreleased.config]

theorem Accounted.vacate (h : Accounted cache) (anc : DocumentAnchorId) :
    Accounted (cache.vacate anc).evictToBudget := by
  have hbooks := vacate_books cache anc
  have hreleased := repinned_release cache anc
  refine (h.within_vacate anc).accounted (fun other hother => ?_) ?_ ?_
  · obtain ⟨hview, hne⟩ := vacate_viewport hother
    rw [hbooks.anchors, hreleased.anchors, lookup_erase_ne hne]
    exact h.viewport other hview
  · rw [hbooks.replayed, hbooks.consumed, hreleased.replayed, hreleased.consumed]
    exact h.replay
  · rw [hbooks.consumed, hreleased.consumed]
    exact h.recent

section

variable {digest : Bytes → Bytes} {cur : HistoryCursor} {ps : UInt64}
  {nc : Option HistoryCursor} {decl : UInt32} {mat : Nat}
  {pl : Bytes}

theorem Accounted.within_insertPage (h : Accounted cache)
    (hnew : cache.checkPage digest cur ps nc decl pl = .ok .new) :
    Within (cache.insertPage digest cur ps nc decl mat pl)
      (cache.insertPage digest cur ps nc decl mat pl).evictToBudget := by
  have hbudgets := (checkPage_new hnew).2.2
  unfold checkPageBudgets at hbudgets
  split_ifs at hbudgets with hempty hlarge hrows hpinned hpinnedRows
  exact (h.ledger.insertPage (missing_of_new hnew) hempty).evictToBudget
    (Nat.le_trans (Nat.le_add_right _ _) (Nat.le_of_not_lt hpinned))
    (Nat.le_trans (Nat.le_add_right _ _) (Nat.le_of_not_lt hpinnedRows))

end

theorem Accounted.register (h : Accounted cache)
    (hheld : ∀ id ∈ pages, (cache.pages.lookup id).isSome = true) :
    Accounted { pages.dedup.foldl pin (cache.release anc) with
      anchorPages := (cache.anchorPages.erase anc).insert anc pages.dedup } := by
  have hreleased := repinned_release cache anc
  have hpinned := repinned_foldl repinned_pin pages.dedup (cache.release anc)
  have hrepinned := hreleased.trans hpinned
  have hstill : ∀ id ∈ pages.dedup, ((cache.release anc).pages.lookup id).isSome = true := by
    intro id hid
    rw [hreleased.held]
    exact hheld id (mem_dedup.mp hid)
  have hledger := Ledger.pinAll pages.dedup hstill (h.ledger.released anc)
  rw [append_nil] at hledger
  have hgone : (pages.dedup.foldl pin (cache.release anc)).anchorPages.lookup
      anc = none := by
    rw [hrepinned.anchors]
    exact lookup_erase anc _
  have hsettled := hledger.settle (nodup_dedup pages) hgone
  rw [hrepinned.anchors] at hsettled
  refine ⟨hsettled, ?_, ?_, fun other hother => ?_, ?_, ?_⟩
  · dsimp only
    rw [hrepinned.bytes, hrepinned.config]
    exact h.bytes
  · dsimp only
    rw [hrepinned.rows, hrepinned.config]
    exact h.rows
  · have hview : cache.viewport = .pinned other := hrepinned.viewport.symm.trans hother
    by_cases ho : other = anc
    · subst ho
      rw [lookup_insert]
      rfl
    · rw [lookup_insert_ne ho, lookup_erase_ne ho]
      exact h.viewport other hview
  · dsimp only
    rw [hrepinned.replayed, hrepinned.consumed]
    exact h.replay
  · dsimp only
    rw [hrepinned.consumed]
    exact h.recent

theorem accounted_of_empty (hpages : cache.pages = ∅) (hanchors : cache.anchorPages = ∅)
    (hbytes : cache.loadedBytes = 0) (hrows : cache.materializedRows = 0)
    (hpinnedBytes : cache.pinnedBytes = 0) (hpinnedRows : cache.pinnedMaterializedRows = 0)
    (hview : cache.viewport = .tail) (hconsumed : cache.consumed = [])
    (hreplayed : cache.consumedBytes = 0) : Accounted cache := by
  have hlookup : ∀ id page, ¬ cache.pages.lookup id = some page := by
    intro id page hpage
    rw [hpages, lookup_empty] at hpage
    cases hpage
  refine ⟨⟨?_, ?_, ?_, ?_, fun id => ?_, ?_, fun id page hpage _ => (hlookup id page hpage).elim,
    fun id page hpage => (hlookup id page hpage).elim,
    fun id page hpage => (hlookup id page hpage).elim⟩, ?_, ?_, ?_, ?_, ?_⟩
  · rw [hbytes, hpages, total_empty]
  · rw [hrows, hpages, total_empty]
  · rw [hpinnedBytes, hpages, total_empty]
  · rw [hpinnedRows, hpages, total_empty]
  · unfold pins anchored
    rw [hpages, hanchors, total_empty]
    rfl
  · intro anc pages hset
    rw [hanchors, lookup_empty] at hset
    cases hset
  · omega
  · omega
  · intro anc hanchor
    rw [hview] at hanchor
    cases hanchor
  · rw [hreplayed, hconsumed]
    rfl
  · rw [hconsumed]
    exact zero_le 64

variable {newestCursor : Option HistoryCursor} {config : HistoryCacheConfig} {width : UInt16}

theorem accounted_new : Accounted (new config newestCursor width) :=
  accounted_of_empty rfl rfl rfl rfl rfl rfl rfl rfl rfl

variable {digest : Bytes → Bytes}

theorem Accounted.step (h : Accounted cache)
    (hstep : HistoryStep digest cache op cache') : Accounted cache' := by
  cases hstep with
  | quiet hbooks hview =>
    refine h.same hbooks fun anc hanchor => ?_
    rcases hview with hsame | htail
    · exact h.viewport anc (hsame.symm.trans hanchor)
    · cases htail.symm.trans hanchor
  | look anc hlive =>
    refine h.same { SameBooks.refl cache with } fun other hother => ?_
    cases hother
    exact hlive
  | invalidate state => exact accounted_of_empty rfl rfl rfl rfl rfl rfl rfl rfl rfl
  | accept hnew =>
    refine (h.within_insertPage hnew).accounted h.viewport ?_ ?_
    · refine (trimConsumed_sum _ _ ?_).1
      simp [h.replay]
    · refine (trimConsumed_sum _ _ ?_).2
      simp [h.replay]
  | register hheld => exact h.register hheld
  | remove => exact h.vacate _

theorem config_step (h : Accounted cache)
    (hstep : HistoryStep digest cache op cache') : cache'.config = cache.config := by
  cases hstep with
  | quiet hbooks _ => exact hbooks.config
  | look anc _ => rfl
  | invalidate state => rfl
  | accept hnew => exact (h.within_insertPage hnew).evicted.config
  | register hheld =>
    exact ((repinned_release cache _).trans (repinned_foldl repinned_pin _ _)).config
  | remove =>
    exact (h.within_vacate _).evicted.config.trans
      ((vacate_books cache _).config.trans (repinned_release cache _).config)

def anchorsOn (cache : HistoryCache) (id : HistoryPageId) : List DocumentAnchorId :=
  (cache.anchorPages.entries.filter fun entry => entry.2.contains id).map Sigma.fst

def viewportsOn (cache : HistoryCache) (id : HistoryPageId) : Nat :=
  match cache.viewport with
  | .pinned anchor => if (cache.anchorsOn id).contains anchor then 1 else 0
  | .tail => 0

theorem anchored_eq_length {anchors : AnchorMap}
    (hsets : ∀ anc pages, anchors.lookup anc = some pages → pages.Nodup) (id : HistoryPageId) :
    anchored anchors id = (anchors.entries.filter fun entry => entry.2.contains id).length := by
  have hcount : ∀ anc pages, anchors.lookup anc = some pages →
      pages.count id = if pages.contains id = true then 1 else 0 := by
    intro anc pages hset
    by_cases hid : id ∈ pages
    · rw [count_eq_one_of_mem (hsets anc pages hset) hid, if_pos (contains_iff_mem.mpr hid)]
    · rw [count_eq_zero_of_not_mem hid, if_neg fun hcontains => hid (contains_iff_mem.mp hcontains)]
  have htotal : anchored anchors id =
      total (fun _ pages => if pages.contains id = true then 1 else 0) anchors :=
    total_congr hcount
  exact htotal.trans (total_indicator _ anchors)

theorem Accounted.pinCount (h : Accounted cache) (hpage : cache.pages.lookup id = some page) :
    page.pinCount = (cache.anchorsOn id).length := by
  have hpins := h.ledger.pins id
  rw [pins_of_lookup hpage, count_nil, add_zero, anchored_eq_length h.ledger.sets] at hpins
  rw [hpins, anchorsOn, length_map]

/-- The page is held before and after, with the same contents, and pinned after. -/
def KeepsPage (cache cache' : HistoryCache) (id : HistoryPageId) : Prop :=
  ∃ page page', cache.pages.lookup id = some page ∧ cache'.pages.lookup id = some page' ∧
    0 < page'.pinCount ∧ page'.payload = page.payload ∧
    page'.materializedRows = page.materializedRows

theorem Ledger.guarded (h : Ledger cache owed)
    (hanchor : cache.anchorPages.lookup anc = some pages) (hid : id ∈ pages) :
    ∃ page, cache.pages.lookup id = some page ∧ 0 < page.pinCount := by
  have hpins := h.pins id
  have hcount : pages.count id ≤ anchored cache.anchorPages id :=
    le_total (fun _ pages => pages.count id) hanchor
  have hpos := count_pos_iff.mpr hid
  cases hpage : cache.pages.lookup id with
  | none =>
    rw [pins_of_missing hpage] at hpins
    omega
  | some page =>
    rw [pins_of_lookup hpage] at hpins
    exact ⟨page, rfl, by omega⟩

theorem Repinned.keepsPage (h : Repinned cache cache') (hpage : cache'.pages.lookup id = some page)
    (hpins : 0 < page.pinCount) : KeepsPage cache cache' id := by
  obtain ⟨count, hcount⟩ := h.pages id
  rw [hpage] at hcount
  obtain ⟨before, hbefore, rfl⟩ := Option.map_eq_some_iff.mp hcount.symm
  exact ⟨before, _, hbefore, hpage, hpins, rfl, rfl⟩

theorem Accounted.keepsPage (h : Accounted cache)
    (hanchor : cache.anchorPages.lookup anc = some pages) (hid : id ∈ pages)
    (hfrees : op.frees ≠ some anc) (hstep : HistoryStep digest cache op cache') :
    KeepsPage cache cache' id ∨ ∃ state, cache' = cache.invalidate state := by
  obtain ⟨page, hpage, hpins⟩ := h.ledger.guarded hanchor hid
  cases hstep with
  | quiet hbooks _ => exact .inl ⟨page, page, hpage, by rw [hbooks.pages]; exact hpage, hpins, rfl, rfl⟩
  | look other _ => exact .inl ⟨page, page, hpage, hpage, hpins, rfl, rfl⟩
  | invalidate state => exact .inr ⟨state, rfl⟩
  | @accept cur ps nc decl mat pl hnew =>
    have hne : id ≠ ⟨cur, ps⟩ := by
      rintro rfl
      cases (missing_of_new hnew).symm.trans hpage
    have hinserted : (cache.insertPage digest cur ps nc decl
        mat pl).pages.lookup id = some page :=
      (lookup_insert_ne hne).trans hpage
    exact .inl ⟨page, page, hpage, (h.within_insertPage hnew).evicted.pinned
      id page hinserted (by omega), hpins, rfl, rfl⟩
  | @register other set hheld =>
    have hne : anc ≠ other := by
      rintro rfl
      exact hfrees rfl
    have hkept : ((cache.anchorPages.erase other).insert other set.dedup).lookup anc =
        some pages := by
      rw [lookup_insert_ne hne, lookup_erase_ne hne, hanchor]
    obtain ⟨page', hpage', hpins'⟩ := (h.register hheld).ledger.guarded hkept hid
    exact .inl (((repinned_release cache other).trans
      (repinned_foldl repinned_pin _ _)).keepsPage hpage' hpins')
  | @remove other =>
    have hne : anc ≠ other := by
      rintro rfl
      exact hfrees rfl
    have hbooks := vacate_books cache other
    have hreleased := repinned_release cache other
    have hkept : (cache.vacate other).anchorPages.lookup anc = some pages := by
      rw [hbooks.anchors, hreleased.anchors, lookup_erase_ne hne, hanchor]
    obtain ⟨page', hpage', hpins'⟩ := ((h.ledger.released other).same hbooks).guarded hkept hid
    have hafter := (h.within_vacate other).evicted.pinned id page' hpage' (by omega)
    rw [hbooks.pages] at hpage'
    obtain ⟨before, middle, hbefore, hmiddle, _, hpayload, hrows⟩ :=
      hreleased.keepsPage hpage' hpins'
    cases hmiddle.symm.trans hpage'
    exact .inl ⟨before, page', hbefore, hafter, hpins', hpayload, hrows⟩

theorem accounted_run {ops : List HistoryOp} :
    Accounted (Machine.run (after digest) (new config newestCursor width) ops) ∧
      (Machine.run (after digest) (new config newestCursor width) ops).config =
        config.normalized := by
  have hinv : ∀ cache op, Accounted cache ∧ cache.config = config.normalized →
      Accounted (cache.after digest op) ∧ (cache.after digest op).config = config.normalized := by
    intro cache op h
    have hstep := after_step digest cache op
    exact ⟨h.1.step hstep, (config_step h.1 hstep).trans h.2⟩
  exact Machine.run_invariant hinv ⟨accounted_new, rfl⟩

/-- A cache with one page, an anchor on it and the viewport at the anchor. -/
def scrolledBack : HistoryCache :=
  Machine.run (after fun payload => payload) (new .standard (some [1]) 80)
    [.beginFetch, .acceptPage [1] 1 none 1 1 [7], .registerAnchorPages ⟨5⟩ [⟨[1], 1⟩],
      .pinViewport ⟨5⟩]

end HistoryCache

end Phux
