import Phux.HistoryCache
import Phux.KeyedTotals

/-! The books of the history cache: what its counters, pins and queues say about the pages held,
and what pinning and eviction do to them. -/

namespace Phux

open ByteReader KeyedTotals List

def CachedPage.content (page : CachedPage) : Option HistoryCursor × Nat × Bytes :=
  (page.nextCursor, page.declaredRows, page.payload)

namespace HistoryCache

def pins (cache : HistoryCache) (id : HistoryPageId) : Nat :=
  ((cache.pages.lookup id).map CachedPage.pinCount).getD 0

def anchored (anchors : AnchorMap) (id : HistoryPageId) : Nat :=
  total (fun _ pages => pages.count id) anchors

def pageBytes (_ : HistoryPageId) (page : CachedPage) : Nat := page.payload.length

def pageRows (_ : HistoryPageId) (page : CachedPage) : Nat := page.materializedRows

def pinnedPageBytes (_ : HistoryPageId) (page : CachedPage) : Nat :=
  if page.pinCount = 0 then 0 else page.payload.length

def pinnedPageRows (_ : HistoryPageId) (page : CachedPage) : Nat :=
  if page.pinCount = 0 then 0 else page.materializedRows

structure Ledger (cache : HistoryCache) (owed : List HistoryPageId) : Prop where
  bytes : cache.loadedBytes = total pageBytes cache.pages
  rows : cache.materializedRows = total pageRows cache.pages
  pinnedBytes : cache.pinnedBytes = total pinnedPageBytes cache.pages
  pinnedRows : cache.pinnedMaterializedRows = total pinnedPageRows cache.pages
  pins : ∀ id, cache.pins id = anchored cache.anchorPages id + owed.count id
  sets : ∀ anchor pages, cache.anchorPages.lookup anchor = some pages → pages.Nodup
  queued : ∀ id page, cache.pages.lookup id = some page → page.pinCount = 0 →
    id ∈ cache.evictable
  ordered : ∀ id page, cache.pages.lookup id = some page → id ∈ cache.pageOrder
  filled : ∀ id page, cache.pages.lookup id = some page → page.payload ≠ []

variable {cache cache' : HistoryCache} {owed : List HistoryPageId} {id : HistoryPageId}
  {page : CachedPage}

theorem pins_of_lookup (h : cache.pages.lookup id = some page) : cache.pins id = page.pinCount := by
  simp [pins, h]

theorem pins_of_missing (h : cache.pages.lookup id = none) : cache.pins id = 0 := by simp [pins, h]

theorem Ledger.held (h : Ledger cache owed) (hid : id ∈ owed) :
    ∃ page, cache.pages.lookup id = some page ∧ 0 < page.pinCount := by
  have hpins := h.pins id
  have hcount := count_pos_iff.mpr hid
  cases hpage : cache.pages.lookup id with
  | none =>
    rw [pins_of_missing hpage] at hpins
    omega
  | some page =>
    rw [pins_of_lookup hpage] at hpins
    exact ⟨page, rfl, by omega⟩

variable (hpage : cache.pages.lookup id = some page)

include hpage

variable {owed' : List HistoryPageId}

theorem Ledger.replace {page' : CachedPage} (h : Ledger cache owed)
        (hpages : cache'.pages = cache.pages.replace id page') (hpayload : page'.payload = page.payload)
    (hbytes : cache'.loadedBytes = cache.loadedBytes)
    (hrows : cache'.materializedRows + page.materializedRows =
      cache.materializedRows + page'.materializedRows)
    (hpinnedBytes : cache'.pinnedBytes + pinnedPageBytes id page =
      cache.pinnedBytes + pinnedPageBytes id page')
    (hpinnedRows : cache'.pinnedMaterializedRows + pinnedPageRows id page =
      cache.pinnedMaterializedRows + pinnedPageRows id page')
    (hanchors : cache'.anchorPages = cache.anchorPages)
    (hself : page'.pinCount = anchored cache.anchorPages id + owed'.count id)
    (hothers : ∀ other, other ≠ id → owed'.count other = owed.count other)
    (hqueue : ∀ other ∈ cache.evictable, other ∈ cache'.evictable)
    (hqueued : page'.pinCount = 0 → id ∈ cache'.evictable)
    (horder : cache'.pageOrder = cache.pageOrder) : Ledger cache' owed' := by
  have hlookup : ∀ other, cache'.pages.lookup other =
      if other = id then some page' else cache.pages.lookup other := by
    intro other
    rw [hpages, lookup_replace, hpage]
    rfl
  have hheld : ∀ other p, cache'.pages.lookup other = some p →
      (other = id ∧ p = page') ∨ cache.pages.lookup other = some p := by
    intro other p hp
    rw [hlookup] at hp
    split_ifs at hp with ho
    · exact .inl ⟨ho, (Option.some.inj hp).symm⟩
    · exact .inr hp
  refine ⟨?_, ?_, ?_, ?_, fun other => ?_, hanchors ▸ h.sets, fun other p hp hp0 => ?_,
    fun other p hp => ?_, fun other p hp => ?_⟩
  · have htotal := total_replace pageBytes hpage page'
    rw [hpages, hbytes, h.bytes]
    simp only [pageBytes, hpayload] at htotal ⊢
    omega
  · have htotal := total_replace pageRows hpage page'
    have hbefore := h.rows
    rw [hpages]
    simp only [pageRows] at htotal hbefore ⊢
    omega
  · have htotal := total_replace pinnedPageBytes hpage page'
    have hbefore := h.pinnedBytes
    rw [hpages]
    omega
  · have htotal := total_replace pinnedPageRows hpage page'
    have hbefore := h.pinnedRows
    rw [hpages]
    omega
  · rw [hanchors, HistoryCache.pins, hlookup]
    by_cases ho : other = id
    · subst ho
      simpa using hself
    · rw [if_neg ho, hothers other ho]
      exact h.pins other
  · rcases hheld other p hp with ⟨rfl, rfl⟩ | hold
    · exact hqueued hp0
    · exact hqueue other (h.queued other p hold hp0)
  · rw [horder]
    rcases hheld other p hp with ⟨rfl, rfl⟩ | hold
    · exact h.ordered other page hpage
    · exact h.ordered other p hold
  · rcases hheld other p hp with ⟨rfl, rfl⟩ | hold
    · exact hpayload ▸ h.filled other page hpage
    · exact h.filled other p hold

theorem pin_eq : cache.pin id = { cache with
      pages := cache.pages.replace id { page with pinCount := page.pinCount + 1 }
      pinnedBytes := cache.pinnedBytes + if page.pinCount = 0 then page.payload.length else 0
      pinnedMaterializedRows :=
        cache.pinnedMaterializedRows + if page.pinCount = 0 then page.materializedRows else 0 } := by
  by_cases hzero : page.pinCount = 0 <;> simp [pin, hpage, hzero]

theorem unpin_eq : cache.unpin id = { cache with
      pages := cache.pages.replace id { page with pinCount := page.pinCount - 1 }
      pinnedBytes := cache.pinnedBytes - if page.pinCount = 1 then page.payload.length else 0
      pinnedMaterializedRows :=
        cache.pinnedMaterializedRows - if page.pinCount = 1 then page.materializedRows else 0
      evictable := cache.evictable ++ if page.pinCount = 1 then [id] else [] } := by
  by_cases hone : page.pinCount = 1 <;> simp [unpin, hpage, hone]

theorem Ledger.pin (h : Ledger cache owed) : Ledger (cache.pin id) (id :: owed) := by
  have hpins := h.pins id
  rw [pins_of_lookup hpage] at hpins
  have hcount : (id :: owed).count id = owed.count id + 1 := count_cons_self
  rw [pin_eq hpage]
  refine h.replace hpage rfl rfl rfl rfl ?_ ?_ rfl (by dsimp only; omega) ?_ ?_ ?_ rfl
  · by_cases hzero : page.pinCount = 0 <;> simp [pinnedPageBytes, hzero]
  · by_cases hzero : page.pinCount = 0 <;> simp [pinnedPageRows, hzero]
  · exact fun other ho => count_cons_of_ne (.symm ho)
  · exact fun _ ho => ho
  · exact fun hzero => by cases hzero

omit hpage

theorem Ledger.unpin (h : Ledger cache (id :: owed)) : Ledger (cache.unpin id) owed := by
  obtain ⟨page, hpage, hpos⟩ := h.held mem_cons_self
  have hpins := h.pins id
  rw [pins_of_lookup hpage] at hpins
  have hcount : (id :: owed).count id = owed.count id + 1 := count_cons_self
  have hbytes := le_total pinnedPageBytes hpage
  have hrows := le_total pinnedPageRows hpage
  rw [← h.pinnedBytes] at hbytes
  rw [← h.pinnedRows] at hrows
  rw [unpin_eq hpage]
  refine h.replace hpage rfl rfl rfl rfl ?_ ?_ rfl (by dsimp only; omega) ?_ ?_ ?_ rfl
  · by_cases hone : page.pinCount = 1
    · simp only [pinnedPageBytes, hone, one_ne_zero, ↓reduceIte] at hbytes ⊢
      omega
    · have hless : page.pinCount - 1 ≠ 0 := by omega
      simp only [pinnedPageBytes, hone, pos_iff_ne_zero.mp hpos, hless, ↓reduceIte]
      omega
  · by_cases hone : page.pinCount = 1
    · simp only [pinnedPageRows, hone, one_ne_zero, ↓reduceIte] at hrows ⊢
      omega
    · have hless : page.pinCount - 1 ≠ 0 := by omega
      simp only [pinnedPageRows, hone, pos_iff_ne_zero.mp hpos, hless, ↓reduceIte]
      omega
  · exact fun other ho => (count_cons_of_ne (.symm ho)).symm
  · exact fun other ho => mem_append_left _ ho
  · intro (hzero : page.pinCount - 1 = 0)
    have hone : page.pinCount = 1 := by omega
    simp [hone]

structure Repinned (cache cache' : HistoryCache) : Prop where
  config : cache'.config = cache.config
  next : cache'.nextCursor = cache.nextCursor
  nextSeq : cache'.nextPageSeq = cache.nextPageSeq
  bytes : cache'.loadedBytes = cache.loadedBytes
  rows : cache'.materializedRows = cache.materializedRows
  order : cache'.pageOrder = cache.pageOrder
  consumed : cache'.consumed = cache.consumed
  replayed : cache'.consumedBytes = cache.consumedBytes
  anchors : cache'.anchorPages = cache.anchorPages
  viewport : cache'.viewport = cache.viewport
  pages : ∀ id, ∃ count, cache'.pages.lookup id =
    (cache.pages.lookup id).map fun page => { page with pinCount := count }

theorem Repinned.refl (cache : HistoryCache) : Repinned cache cache where
  config := rfl
  next := rfl
  nextSeq := rfl
  bytes := rfl
  rows := rfl
  order := rfl
  consumed := rfl
  replayed := rfl
  anchors := rfl
  viewport := rfl
  pages := by
    intro id
    cases hpage : cache.pages.lookup id with
    | none => exact ⟨0, rfl⟩
    | some page => exact ⟨page.pinCount, rfl⟩

variable {cache'' : HistoryCache}

theorem Repinned.trans (h : Repinned cache cache')
    (h' : Repinned cache' cache'') : Repinned cache cache'' where
  config := h'.config.trans h.config
  next := h'.next.trans h.next
  nextSeq := h'.nextSeq.trans h.nextSeq
  bytes := h'.bytes.trans h.bytes
  rows := h'.rows.trans h.rows
  order := h'.order.trans h.order
  consumed := h'.consumed.trans h.consumed
  replayed := h'.replayed.trans h.replayed
  anchors := h'.anchors.trans h.anchors
  viewport := h'.viewport.trans h.viewport
  pages := by
    intro id
    obtain ⟨count, hcount⟩ := h.pages id
    obtain ⟨count', hcount'⟩ := h'.pages id
    refine ⟨count', ?_⟩
    rw [hcount', hcount, Option.map_map]
    rfl

theorem repinned_replace (hpage : cache.pages.lookup id = some page) (count : Nat) :
    ∀ other, ∃ c, (cache.pages.replace id { page with pinCount := count }).lookup other =
      (cache.pages.lookup other).map fun page => { page with pinCount := c } := by
  intro other
  rw [lookup_replace]
  by_cases ho : other = id
  · subst ho
    exact ⟨count, by simp [hpage]⟩
  · rw [if_neg ho]
    exact (Repinned.refl cache).pages other

theorem repinned_pin (cache : HistoryCache) (id : HistoryPageId) :
    Repinned cache (cache.pin id) := by
  cases hpage : cache.pages.lookup id with
  | none =>
    have hsame : cache.pin id = cache := by simp [pin, hpage]
    rw [hsame]
    exact .refl cache
  | some page =>
    rw [pin_eq hpage]
    exact { Repinned.refl cache with pages := repinned_replace hpage _ }

theorem repinned_unpin (cache : HistoryCache) (id : HistoryPageId) :
    Repinned cache (cache.unpin id) := by
  cases hpage : cache.pages.lookup id with
  | none =>
    have hsame : cache.unpin id = cache := by simp [unpin, hpage]
    rw [hsame]
    exact .refl cache
  | some page =>
    rw [unpin_eq hpage]
    exact { Repinned.refl cache with pages := repinned_replace hpage _ }

theorem repinned_foldl {step : HistoryCache → HistoryPageId → HistoryCache}
    (hstep : ∀ cache id, Repinned cache (step cache id)) (ids : List HistoryPageId)
    (cache : HistoryCache) : Repinned cache (ids.foldl step cache) := by
  induction ids generalizing cache with
  | nil => exact .refl cache
  | cons id ids ih => exact (hstep cache id).trans (ih (step cache id))

theorem Repinned.held (h : Repinned cache cache') :
    (cache'.pages.lookup id).isSome = (cache.pages.lookup id).isSome := by
  obtain ⟨count, hcount⟩ := h.pages id
  rw [hcount, Option.isSome_map]

theorem Ledger.perm (h : Ledger cache owed) (hperm : owed.Perm owed') : Ledger cache owed' :=
  { h with pins := fun id => by rw [h.pins id, hperm.count_eq] }

theorem Ledger.unpinAll (old : List HistoryPageId) (h : Ledger cache (old ++ owed)) :
    Ledger (old.foldl HistoryCache.unpin cache) owed := by
  induction old generalizing cache with
  | nil => exact h
  | cons id old ih => exact ih h.unpin

variable (ids : List HistoryPageId)

theorem Ledger.pinAll (hheld : ∀ id ∈ ids, (cache.pages.lookup id).isSome = true) (h : Ledger cache owed) :
    Ledger (ids.foldl HistoryCache.pin cache) (ids ++ owed) := by
  induction ids generalizing cache owed with
  | nil => exact h
  | cons id ids ih =>
    obtain ⟨page, hpage⟩ := Option.isSome_iff_exists.mp (hheld id mem_cons_self)
    have hmore : ∀ other ∈ ids, ((cache.pin id).pages.lookup other).isSome = true := by
      intro other ho
      rw [(repinned_pin cache id).held]
      exact hheld other (mem_cons_of_mem id ho)
    exact (ih hmore (h.pin hpage)).perm perm_middle

section

variable {anchors : AnchorMap} {anc : DocumentAnchorId} {pages : List HistoryPageId}

theorem lookup_forget (anchors : AnchorMap) (id : HistoryPageId) (anc : DocumentAnchorId) :
    (anchors.forget id).lookup anc = (anchors.lookup anc).map fun pages => pages.erase id := by
  have hentries : ∀ l : List (Sigma fun _ : DocumentAnchorId => List HistoryPageId),
      (l.map fun e => (⟨e.1, e.2.erase id⟩ : Sigma fun _ : DocumentAnchorId =>
        List HistoryPageId)).dlookup anc = (l.dlookup anc).map fun pages => pages.erase id := by
    intro l
    induction l with
    | nil => rfl
    | cons e l ih =>
      obtain ⟨a, pages⟩ := e
      by_cases ha : anc = a
      · subst ha
        simp
      · rw [map_cons, dlookup_cons_of_ne ha, dlookup_cons_of_ne ha, ih]
  exact hentries anchors.entries

theorem anchored_forget (hsets : ∀ anc pages, anchors.lookup anc = some pages → pages.Nodup)
    (id other : HistoryPageId) :
    anchored (anchors.forget id) other = if other = id then 0 else anchored anchors other := by
  have hmap : anchored (anchors.forget id) other =
      total (fun _ pages => (pages.erase id).count other) anchors := by
    simp only [anchored, total, AnchorMap.forget, map_map]
    rfl
  rw [hmap]
  by_cases ho : other = id
  · subst ho
    have hzero : total (fun _ pages => (pages.erase other).count other) anchors =
        total (fun _ _ => 0) anchors := by
      refine total_congr fun anc pages hpages => ?_
      have hone := nodup_iff_count_le_one.mp (hsets anc pages hpages) other
      rw [count_erase_self]
      omega
    rw [hzero, if_pos rfl]
    simp [total]
  · rw [if_neg ho]
    exact total_congr fun anc pages _ => count_erase_of_ne ho

theorem Ledger.release (h : Ledger cache []) (hanchor : cache.anchorPages.lookup anc = some pages) :
    Ledger { cache with anchorPages := cache.anchorPages.erase anc } pages := by
  refine { h with pins := fun id => ?_, sets := fun other set hset => ?_ }
  · have hpins := h.pins id
    have herase := total_erase (fun _ pages => pages.count id) hanchor
    change cache.pins id = _
    rw [hpins, count_nil, anchored, anchored]
    dsimp only
    omega
  · by_cases ho : other = anc
    · subst ho
      rw [AList.lookup_erase] at hset
      cases hset
    · rw [AList.lookup_erase_ne ho] at hset
      exact h.sets other set hset

theorem Ledger.settle (h : Ledger cache pages) (hnodup : pages.Nodup)
    (hanchor : cache.anchorPages.lookup anc = none) :
    Ledger { cache with anchorPages := cache.anchorPages.insert anc pages } [] := by
  refine { h with pins := fun id => ?_, sets := fun other set hset => ?_ }
  · have hpins := h.pins id
    change cache.pins id = _
    rw [hpins, anchored, anchored, total_insert _ hanchor, count_nil]
    omega
  · by_cases ho : other = anc
    · subst ho
      rw [AList.lookup_insert] at hset
      cases hset
      exact hnodup
    · rw [AList.lookup_insert_ne ho] at hset
      exact h.sets other set hset

end

structure Kept (cache cache' : HistoryCache) : Prop where
  next : cache'.nextCursor = cache.nextCursor
  nextSeq : cache'.nextPageSeq = cache.nextPageSeq
  consumed : cache'.consumed = cache.consumed
  held : ∀ id page', cache'.pages.lookup id = some page' → ∃ page,
    cache.pages.lookup id = some page ∧ page'.content = page.content

theorem Kept.trans (h : Kept cache cache') (h' : Kept cache' cache'') : Kept cache cache'' where
  next := h'.next.trans h.next
  nextSeq := h'.nextSeq.trans h.nextSeq
  consumed := h'.consumed.trans h.consumed
  held := by
    intro id last hlast
    obtain ⟨page', hpage', hsame'⟩ := h'.held id last hlast
    obtain ⟨page, hpage, hsame⟩ := h.held id page' hpage'
    exact ⟨page, hpage, hsame'.trans hsame⟩

/-- What eviction leaves: pinned pages as they were, no page that was not there, and the same
anchors. -/
structure Evicted (cache cache' : HistoryCache) : Prop extends Kept cache cache' where
  config : cache'.config = cache.config
  replayed : cache'.consumedBytes = cache.consumedBytes
  viewport : cache'.viewport = cache.viewport
  pinned : ∀ id page, cache.pages.lookup id = some page → page.pinCount ≠ 0 →
    cache'.pages.lookup id = some page
  anchors : ∀ anchor, (cache'.anchorPages.lookup anchor).isSome =
    (cache.anchorPages.lookup anchor).isSome

theorem evicted_queue (ids : List HistoryPageId) :
    Evicted cache { cache with evictable := ids } :=
  ⟨⟨rfl, rfl, rfl, fun _ page h => ⟨page, h, rfl⟩⟩, rfl, rfl, rfl, fun _ _ h _ => h, fun _ => rfl⟩

theorem Evicted.trans (h : Evicted cache cache')
    (h' : Evicted cache' cache'') : Evicted cache cache'' where
  toKept := h.toKept.trans h'.toKept
  config := h'.config.trans h.config
  replayed := h'.replayed.trans h.replayed
  viewport := h'.viewport.trans h.viewport
  pinned := fun id page hpage hpins => h'.pinned id page (h.pinned id page hpage hpins) hpins
  anchors := fun anc => (h'.anchors anc).trans (h.anchors anc)

def dropPage (cache : HistoryCache) (id : HistoryPageId) (page : CachedPage) : HistoryCache :=
  { cache with
    pages := cache.pages.erase id
    loadedBytes := cache.loadedBytes - page.payload.length
    materializedRows := cache.materializedRows - page.materializedRows
    anchorPages := cache.anchorPages.forget id }

theorem lookup_dropPage {other : HistoryPageId} (hother : other ≠ id) :
    (cache.dropPage id page).pages.lookup other = cache.pages.lookup other :=
  AList.lookup_erase_ne hother

theorem Ledger.dropPage {ids : List HistoryPageId} (h : Ledger { cache with evictable := id :: ids } [])
    (hpage : cache.pages.lookup id = some page) (hzero : page.pinCount = 0) :
    Ledger { cache.dropPage id page with evictable := ids } [] := by
  have hmissing : (cache.pages.erase id).lookup id = none := AList.lookup_erase id cache.pages
  have hlookup : ∀ other p, (cache.pages.erase id).lookup other = some p →
      other ≠ id ∧ cache.pages.lookup other = some p := by
    intro other p hp
    have hother : other ≠ id := by
      rintro rfl
      rw [hmissing] at hp
      cases hp
    exact ⟨hother, (AList.lookup_erase_ne hother).symm.trans hp⟩
  refine ⟨?_, ?_, ?_, ?_, fun other => ?_, fun anc set hset => ?_, fun other p hp hp0 => ?_,
    fun other p hp => ?_, fun other p hp => ?_⟩
  · have htotal := total_erase pageBytes hpage
    have hbytes := h.bytes
    dsimp only [HistoryCache.dropPage, pageBytes] at htotal hbytes ⊢
    omega
  · have htotal := total_erase pageRows hpage
    have hrows := h.rows
    dsimp only [HistoryCache.dropPage, pageRows] at htotal hrows ⊢
    omega
  · have htotal := total_erase pinnedPageBytes hpage
    have hbytes := h.pinnedBytes
    have hnone : pinnedPageBytes id page = 0 := if_pos hzero
    dsimp only [HistoryCache.dropPage] at htotal hbytes ⊢
    omega
  · have htotal := total_erase pinnedPageRows hpage
    have hrows := h.pinnedRows
    have hnone : pinnedPageRows id page = 0 := if_pos hzero
    dsimp only [HistoryCache.dropPage] at htotal hrows ⊢
    omega
  · have hpins := h.pins other
    have hforget := anchored_forget h.sets id other
    simp only [HistoryCache.pins, HistoryCache.dropPage, count_nil, add_zero] at hpins hforget ⊢
    by_cases ho : other = id
    · subst ho
      rw [hmissing, hforget, if_pos rfl]
      rfl
    · rw [AList.lookup_erase_ne ho, hforget, if_neg ho]
      exact hpins
  · have hold : ((cache.anchorPages.forget id).lookup anc) = some set := hset
    rw [lookup_forget, Option.map_eq_some_iff] at hold
    obtain ⟨pages, hpages, rfl⟩ := hold
    exact (h.sets anc pages hpages).erase id
  · obtain ⟨hother, hbefore⟩ := hlookup other p hp
    have hqueued := h.queued other p hbefore hp0
    exact (mem_cons.mp hqueued).resolve_left hother
  · exact h.ordered other p (hlookup other p hp).2
  · exact h.filled other p (hlookup other p hp).2

theorem evicted_dropPage (hpage : cache.pages.lookup id = some page) (hzero : page.pinCount = 0) :
    Evicted cache (cache.dropPage id page) where
  config := rfl
  next := rfl
  nextSeq := rfl
  consumed := rfl
  replayed := rfl
  viewport := rfl
  pinned := by
    intro other p hp hpins
    have hother : other ≠ id := by
      rintro rfl
      cases hpage.symm.trans hp
      exact hpins hzero
    exact (lookup_dropPage hother).trans hp
  held := by
    intro other p hp
    have hother : other ≠ id := by
      rintro rfl
      cases (AList.lookup_erase _ _).symm.trans hp
    exact ⟨p, (lookup_dropPage hother).symm.trans hp, rfl⟩
  anchors := by
    intro anc
    change ((cache.anchorPages.forget id).lookup anc).isSome = _
    rw [lookup_forget, Option.isSome_map]

theorem Ledger.rows_pinned (h : Ledger cache owed)
    (hnone : ∀ id page, cache.pages.lookup id = some page → page.pinCount = 0 →
      page.materializedRows = 0) : cache.materializedRows = cache.pinnedMaterializedRows := by
  rw [h.rows, h.pinnedRows]
  refine total_congr fun id page hpage => ?_
  by_cases hzero : page.pinCount = 0
  · rw [pageRows, hnone id page hpage hzero, pinnedPageRows, if_pos hzero]
  · exact (if_neg hzero).symm

theorem Ledger.skip {ids : List HistoryPageId} (h : Ledger { cache with evictable := id :: ids } [])
    (hpinned : ∀ page, cache.pages.lookup id = some page → page.pinCount ≠ 0) :
    Ledger { cache with evictable := ids } [] := by
  refine { h with queued := fun other p hp hp0 => ?_ }
  rcases mem_cons.mp (h.queued other p hp hp0) with rfl | hin
  · exact absurd hp0 (hpinned p hp)
  · exact hin

theorem evictPages_spec (cache : HistoryCache) (h : Ledger { cache with evictable := ids } [])
    (hfits : cache.pinnedBytes ≤ cache.config.maxBytes) :
    Ledger (evictPages cache ids) [] ∧
      (evictPages cache ids).loadedBytes ≤ (evictPages cache ids).config.maxBytes ∧
      (evictPages cache ids).pageOrder = cache.pageOrder ∧
      (evictPages cache ids).pinnedMaterializedRows = cache.pinnedMaterializedRows ∧
      Evicted cache (evictPages cache ids) := by
  induction ids generalizing cache with
  | nil =>
    refine ⟨h, ?_, rfl, rfl, evicted_queue []⟩
    have hall : cache.loadedBytes = cache.pinnedBytes := by
      refine h.bytes.trans (.trans (total_congr fun id page hpage => ?_) h.pinnedBytes.symm)
      exact (if_neg fun hzero => not_mem_nil (h.queued id page hpage hzero)).symm
    exact le_trans (le_of_eq hall) hfits
  | cons id ids ih =>
    unfold evictPages
    by_cases hunder : cache.loadedBytes ≤ cache.config.maxBytes
    · rw [if_pos hunder]
      exact ⟨h, hunder, rfl, rfl, evicted_queue (id :: ids)⟩
    · rw [if_neg hunder]
      cases hpage : cache.pages.lookup id with
      | none =>
        refine ih cache (h.skip fun page hp => ?_) hfits
        rw [hpage] at hp
        cases hp
      | some page =>
        by_cases hzero : page.pinCount = 0
        · have hdrop := ih (cache.dropPage id page) (h.dropPage hpage hzero) hfits
          simp only [hzero, ne_eq, not_true_eq_false, ↓reduceIte]
          obtain ⟨hledger, hbytes, horder, hrows, hevicted⟩ := hdrop
          exact ⟨hledger, hbytes, horder, hrows, (evicted_dropPage hpage hzero).trans hevicted⟩
        · simp only [ne_eq, hzero, not_false_eq_true, ↓reduceIte]
          refine ih cache (h.skip fun p hp => ?_) hfits
          cases hpage.symm.trans hp
          exact hzero

theorem evictPages_queue (cache : HistoryCache) :
    ∃ dropped, ids = dropped ++ (evictPages cache ids).evictable ∧
      ∀ id, (cache.pages.lookup id).isSome = true →
        ((evictPages cache ids).pages.lookup id).isSome = true ∨ id ∈ dropped := by
  induction ids generalizing cache with
  | nil => exact ⟨[], rfl, fun id hid => .inl hid⟩
  | cons first ids ih =>
    unfold evictPages
    by_cases hunder : cache.loadedBytes ≤ cache.config.maxBytes
    · rw [if_pos hunder]
      exact ⟨[], rfl, fun id hid => .inl hid⟩
    · rw [if_neg hunder]
      have hskip : ∃ dropped, first :: ids = dropped ++ (evictPages cache ids).evictable ∧
          ∀ id, (cache.pages.lookup id).isSome = true →
            ((evictPages cache ids).pages.lookup id).isSome = true ∨ id ∈ dropped := by
        obtain ⟨dropped, hids, hkept⟩ := ih cache
        exact ⟨first :: dropped, congrArg (first :: ·) hids, fun id hid =>
          (hkept id hid).imp_right (mem_cons_of_mem first)⟩
      cases hpage : cache.pages.lookup first with
      | none => exact hskip
      | some page =>
        by_cases hzero : page.pinCount = 0
        · simp only [hzero, ne_eq, not_true_eq_false, ↓reduceIte]
          obtain ⟨dropped, hids, hkept⟩ := ih (cache.dropPage first page)
          refine ⟨first :: dropped, congrArg (first :: ·) hids, fun id hid => ?_⟩
          by_cases hfirst : id = first
          · exact .inr (hfirst ▸ mem_cons_self)
          · rw [← lookup_dropPage hfirst] at hid
            exact (hkept id hid).imp_right (mem_cons_of_mem first)
        · simp only [ne_eq, hzero, not_false_eq_true, ↓reduceIte]
          exact hskip

def spare (_ : HistoryPageId) (page : CachedPage) : Nat :=
  if page.pinCount = 0 ∧ 0 < page.materializedRows then 1 else 0

theorem evictionVictim_some (h : cache.evictionVictim = some (id, page)) :
    cache.pages.lookup id = some page ∧ page.pinCount = 0 ∧ 0 < page.materializedRows := by
  obtain ⟨candidate, _, hfound⟩ := exists_of_findSome?_eq_some h
  cases hpage : cache.pages.lookup candidate with
  | none =>
    simp only [hpage] at hfound
    cases hfound
  | some p =>
    simp only [hpage] at hfound
    split_ifs at hfound with hspare
    cases hfound
    exact ⟨hpage, hspare⟩

def dropRows (cache : HistoryCache) (id : HistoryPageId) (page : CachedPage) : HistoryCache :=
  { cache with
    materializedRows := cache.materializedRows - page.materializedRows
    pages := cache.pages.replace id { page with materializedRows := 0 } }

include hpage

theorem lookup_dropRows (other : HistoryPageId) :
    (cache.dropRows id page).pages.lookup other =
      if other = id then some { page with materializedRows := 0 } else cache.pages.lookup other := by
  change (cache.pages.replace id { page with materializedRows := 0 }).lookup other = _
  rw [lookup_replace, hpage]
  rfl

theorem Ledger.dropRows (h : Ledger cache owed)
    (hzero : page.pinCount = 0) : Ledger (cache.dropRows id page) owed := by
  have hrows := le_total pageRows hpage
  rw [← h.rows] at hrows
  refine h.replace hpage rfl rfl rfl (Nat.sub_add_cancel hrows) rfl ?_ rfl
    ((pins_of_lookup hpage).symm.trans (h.pins id)) (fun _ _ => rfl) (fun _ ho => ho)
    (h.queued id page hpage) rfl
  have hnone : pinnedPageRows id page = 0 := if_pos hzero
  have hnone' : pinnedPageRows id { page with materializedRows := 0 } = 0 := if_pos hzero
  rw [hnone, hnone']
  rfl

theorem evicted_dropRows (hzero : page.pinCount = 0) : Evicted cache (cache.dropRows id page) where
  config := rfl
  next := rfl
  nextSeq := rfl
  consumed := rfl
  replayed := rfl
  viewport := rfl
  pinned := by
    intro other p hp hpins
    have hother : other ≠ id := by
      rintro rfl
      cases hpage.symm.trans hp
      exact hpins hzero
    rw [lookup_dropRows hpage, if_neg hother, hp]
  held := by
    intro other p hp
    rw [lookup_dropRows hpage] at hp
    split_ifs at hp with ho
    · cases hp
      exact ⟨page, ho ▸ hpage, rfl⟩
    · exact ⟨p, hp, rfl⟩
  anchors := fun _ => rfl

omit hpage

structure RowsEvicted (cache cache' : HistoryCache) : Prop where
  evicted : Evicted cache cache'
  bytes : cache'.loadedBytes = cache.loadedBytes
  order : cache'.pageOrder = cache.pageOrder
  queue : cache'.evictable = cache.evictable
  anchors : cache'.anchorPages = cache.anchorPages
  keys : cache'.pages.keys = cache.pages.keys

theorem RowsEvicted.refl (cache : HistoryCache) : RowsEvicted cache cache :=
  ⟨evicted_queue cache.evictable, rfl, rfl, rfl, rfl, rfl⟩

theorem RowsEvicted.trans (h : RowsEvicted cache cache')
    (h' : RowsEvicted cache' cache'') : RowsEvicted cache cache'' :=
  ⟨h.evicted.trans h'.evicted, h'.bytes.trans h.bytes, h'.order.trans h.order,
    h'.queue.trans h.queue, h'.anchors.trans h.anchors, h'.keys.trans h.keys⟩

theorem evictMaterializationsWithin_spec {fuel : Nat} (cache : HistoryCache)
    (h : Ledger cache []) (hfuel : total spare cache.pages ≤ fuel)
    (hfits : cache.pinnedMaterializedRows ≤ cache.config.maxMaterializedRows) :
    Ledger (evictMaterializationsWithin fuel cache) [] ∧
      (evictMaterializationsWithin fuel cache).materializedRows ≤
        (evictMaterializationsWithin fuel cache).config.maxMaterializedRows ∧
      RowsEvicted cache (evictMaterializationsWithin fuel cache) := by
  induction fuel generalizing cache with
  | zero =>
    refine ⟨h, le_trans (le_of_eq (h.rows_pinned fun id page hpage hzero => ?_)) hfits, .refl cache⟩
    have hle := le_total spare hpage
    unfold spare at hle
    split_ifs at hle with hspare
    · unfold spare at hfuel
      omega
    · simp only [hzero, true_and] at hspare
      omega
  | succ fuel ih =>
    unfold evictMaterializationsWithin
    by_cases hunder : cache.materializedRows ≤ cache.config.maxMaterializedRows
    · rw [if_pos hunder]
      exact ⟨h, hunder, .refl cache⟩
    · rw [if_neg hunder]
      cases hvictim : cache.evictionVictim with
      | none =>
        have hleft := h.rows_pinned fun id page hpage hzero => by
          have hnone := findSome?_eq_none_iff.mp hvictim id
            (mem_reverse.mpr (h.ordered id page hpage))
          simp only [hpage, hzero, true_and] at hnone
          split_ifs at hnone with hrows
          omega
        omega
      | some victim =>
        obtain ⟨id, page⟩ := victim
        obtain ⟨hpage, hzero, hrows⟩ := evictionVictim_some hvictim
        have hspent := total_replace spare hpage { page with materializedRows := 0 }
        have hone : spare id page = 1 := if_pos ⟨hzero, hrows⟩
        have hnone : spare id { page with materializedRows := 0 } = 0 :=
          if_neg fun hspare => absurd hspare.2 (lt_irrefl 0)
        have hledger := h.dropRows hpage hzero
        obtain ⟨hafter, hbound, hrowsEvicted⟩ := ih (cache.dropRows id page) hledger
          (by change total spare (cache.pages.replace id _) ≤ fuel; omega) hfits
        refine ⟨hafter, hbound, .trans ⟨evicted_dropRows hpage hzero, rfl, rfl, rfl, rfl,
          ?_⟩ hrowsEvicted⟩
        exact AList.keys_replace id _ cache.pages

theorem total_spare_le {pages : PageMap} : total spare pages ≤ pages.keys.length := by
  have hone : total spare pages ≤ total (fun _ _ => 1) pages := by
    refine total_mono fun id page _ => ?_
    unfold spare
    split_ifs <;> omega
  have hlength : total (fun _ _ => 1) pages = pages.keys.length := by simp [total, AList.keys, keys]
  omega

/-- Forget the order of pages that are gone, once there are many of them. -/
def compactOrder (cache : HistoryCache) : HistoryCache :=
  if cache.pages.keys.length * 2 + 64 < cache.pageOrder.length then
    { cache with pageOrder := cache.pageOrder.filter fun id => (cache.pages.lookup id).isSome }
  else cache

theorem compactOrder_eq :
    ∃ order, cache.compactOrder = { cache with pageOrder := order } ∧
      ((order = cache.pageOrder ∧ order.length ≤ cache.pages.keys.length * 2 + 64) ∨
        order = cache.pageOrder.filter fun id => (cache.pages.lookup id).isSome) := by
  unfold compactOrder
  split_ifs with hlong
  · exact ⟨_, rfl, .inr rfl⟩
  · exact ⟨_, rfl, .inl ⟨rfl, Nat.le_of_not_lt hlong⟩⟩

theorem Ledger.compactOrder (h : Ledger cache owed) : Ledger cache.compactOrder owed := by
  obtain ⟨order, hcompact, ⟨rfl, _⟩ | rfl⟩ := compactOrder_eq
  · rw [hcompact]
    exact h
  · rw [hcompact]
    refine { h with ordered := fun id page hpage => ?_ }
    have hpage' : cache.pages.lookup id = some page := hpage
    exact mem_filter.mpr ⟨h.ordered id page hpage', by simp [hpage']⟩

structure Within (cache cache' : HistoryCache) : Prop where
  ledger : Ledger cache' []
  bytes : cache'.loadedBytes ≤ cache'.config.maxBytes
  rows : cache'.materializedRows ≤ cache'.config.maxMaterializedRows
  evicted : Evicted cache cache'
  order : cache'.pageOrder.length ≤ cache'.pages.keys.length * 2 + 64 ∨
    cache'.pageOrder = cache.pageOrder.filter fun id => decide (id ∈ cache'.pages.keys)
  queue : ∃ dropped, cache.evictable = dropped ++ cache'.evictable ∧
    ∀ id, (cache.pages.lookup id).isSome = true →
      (cache'.pages.lookup id).isSome = true ∨ id ∈ dropped

theorem Ledger.evictToBudget (h : Ledger cache [])
    (hbytes : cache.pinnedBytes ≤ cache.config.maxBytes)
    (hrows : cache.pinnedMaterializedRows ≤ cache.config.maxMaterializedRows) :
    Within cache cache.evictToBudget := by
  obtain ⟨hledger, hfits, horder, hpinned, hevicted⟩ := evictPages_spec cache.evictable cache h hbytes
  have hqueue := evictPages_queue cache.evictable cache
  change Within cache (evictPages cache cache.evictable).compactOrder.evictMaterializations
  obtain ⟨emptied, hemptied⟩ : ∃ emptied, evictPages cache cache.evictable = emptied := ⟨_, rfl⟩
  rw [hemptied] at hledger hfits horder hpinned hevicted hqueue ⊢
  have hcompacted := hledger.compactOrder
  obtain ⟨order, hcompact, hshort⟩ := compactOrder_eq
  rw [hcompact] at hcompacted ⊢
  change Within cache (evictMaterializationsWithin emptied.pages.keys.length
    { emptied with pageOrder := order })
  obtain ⟨hlast, hbound, hrest⟩ := evictMaterializationsWithin_spec
    { emptied with pageOrder := order } hcompacted total_spare_le
    (by rw [hpinned, hevicted.config]; exact hrows)
  have hordered : Evicted emptied { emptied with pageOrder := order } :=
    { evicted_queue emptied.evictable with }
  refine ⟨hlast, ?_, hbound, (hevicted.trans hordered).trans hrest.evicted, ?_, ?_⟩
  · exact hrest.bytes.trans_le (hfits.trans_eq (congrArg _ hrest.evicted.config).symm)
  · rw [hrest.keys, hrest.order]
    rcases hshort with ⟨rfl, hshort⟩ | rfl
    · exact .inl hshort
    · right
      rw [← horder]
      refine filter_congr fun id _ => ?_
      rw [Bool.eq_iff_iff, decide_eq_true_eq, AList.lookup_isSome, AList.mem_keys]
  · obtain ⟨dropped, hdropped, hkept⟩ := hqueue
    refine ⟨dropped, hdropped.trans (congrArg _ hrest.queue.symm), fun id hid => ?_⟩
    refine (hkept id hid).imp_left fun hheld => ?_
    rw [AList.lookup_isSome, AList.mem_keys] at hheld ⊢
    rwa [hrest.keys]

end HistoryCache

end Phux
