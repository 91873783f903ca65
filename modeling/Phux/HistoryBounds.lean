import Phux.HistoryAccounting

/-! How many entries the history cache keeps. -/

namespace Phux

open ByteReader KeyedTotals List

namespace HistoryCache
open Machine

variable {cache cache' : HistoryCache} {id : HistoryPageId} {digest : Bytes → Bytes}
  {op : HistoryOp}

def entries (cache : HistoryCache) : Nat :=
  cache.pages.keys.length + cache.pageOrder.length + cache.evictable.length +
    cache.consumed.length +
    (cache.anchorPages.keys.length + total (fun _ pages => pages.length) cache.anchorPages)

/-- Whether an operation takes the last pin off a page whose id is still queued. -/
def requeues (cache : HistoryCache) (op : HistoryOp) : Bool :=
  match op.frees with
  | some anchor =>
    ((cache.anchorPages.lookup anchor).getD []).any fun id =>
      cache.pins id == 1 && cache.evictable.contains id
  | none => false

/-- A bound on the entries that only the configuration and the number of anchors enter. -/
def entryBound (config : HistoryCacheConfig) (anchors : Nat) : Nat :=
  5 * config.maxBytes + 128 + anchors * (1 + config.maxBytes)

/-- The queues hold no id in vain, but for a bounded stretch of the page order. -/
structure Tidy (cache : HistoryCache) : Prop where
  queue : cache.evictable.Nodup
  queueHeld : ∀ id ∈ cache.evictable, (cache.pages.lookup id).isSome = true
  order : ∃ base tail, cache.pageOrder = base ++ tail ∧
    base.length ≤ cache.config.maxBytes * 2 + 64 ∧ tail.Nodup ∧
    ∀ id ∈ tail, (cache.pages.lookup id).isSome = true

theorem Accounted.pages_le (h : Accounted cache) :
    cache.pages.keys.length ≤ cache.config.maxBytes := by
  have hone : cache.pages.keys.length = total (fun _ _ => 1) cache.pages := by
    simp [total, AList.keys, keys]
  have hfilled : total (fun _ _ => 1) cache.pages ≤ total pageBytes cache.pages :=
    total_mono fun id page hpage => length_pos_iff.mpr (h.ledger.filled id page hpage)
  have hbytes := h.ledger.bytes
  have hbudget := h.bytes
  omega

variable {ids : List HistoryPageId}

theorem length_le_pages (hnodup : ids.Nodup)
    (hheld : ∀ id ∈ ids, (cache.pages.lookup id).isSome = true) :
    ids.length ≤ cache.pages.keys.length := by
  refine (subperm_of_subset hnodup fun id hid => ?_).length_le
  exact AList.mem_keys.mp (AList.lookup_isSome.mp (hheld id hid))

theorem Tidy.within (h : Tidy cache) (hwithin : Within cache cache')
    (hpages : cache'.pages.keys.length ≤ cache'.config.maxBytes) : Tidy cache' := by
  obtain ⟨dropped, hdropped, hkept⟩ := hwithin.queue
  have hnodup := h.queue
  rw [hdropped] at hnodup
  refine ⟨hnodup.of_append_right, fun id hid => ?_, ?_⟩
  · have hbefore := h.queueHeld id (hdropped ▸ mem_append_right dropped hid)
    rcases hkept id hbefore with hheld | hgone
    · exact hheld
    · exact absurd hid (disjoint_of_nodup_append hnodup hgone)
  · rcases hwithin.order with hshort | hfiltered
    · exact ⟨cache'.pageOrder, [], (append_nil _).symm, by omega, nodup_nil,
        fun id hid => absurd hid not_mem_nil⟩
    · obtain ⟨base, tail, horder, hbase, htail, _⟩ := h.order
      refine ⟨base.filter fun id => decide (id ∈ cache'.pages.keys),
        tail.filter fun id => decide (id ∈ cache'.pages.keys), ?_, ?_, htail.filter _, ?_⟩
      · rw [hfiltered, horder, filter_append]
      · rw [hwithin.evicted.config]
        exact Nat.le_trans (length_filter_le _ base) hbase
      · intro id hid
        have hmem := of_decide_eq_true (mem_filter.mp hid).2
        exact AList.lookup_isSome.mpr (AList.mem_keys.mpr hmem)

theorem Tidy.same (h : Tidy cache) (hbooks : SameBooks cache cache') : Tidy cache' := by
  refine ⟨?_, ?_, ?_⟩
  · rw [hbooks.queue]
    exact h.queue
  · rw [hbooks.queue, hbooks.pages]
    exact h.queueHeld
  · rw [hbooks.order, hbooks.pages, hbooks.config]
    exact h.order

theorem Tidy.insertPage {cursor : HistoryCursor} {pageSeq : UInt64}
    {nextCursor : Option HistoryCursor} {declaredRows : UInt32} {materializedRows : Nat}
    {payload : Bytes} (h : Tidy cache) (hmissing : cache.pages.lookup ⟨cursor, pageSeq⟩ = none) :
    Tidy (cache.insertPage digest cursor pageSeq nextCursor declaredRows materializedRows
      payload) := by
  have hfresh : ∀ ids, (∀ id ∈ ids, (cache.pages.lookup id).isSome = true) → ids.Nodup →
      (ids ++ [(⟨cursor, pageSeq⟩ : HistoryPageId)]).Nodup ∧
        ∀ id ∈ ids ++ [(⟨cursor, pageSeq⟩ : HistoryPageId)],
          ∀ page, ((cache.pages.insert ⟨cursor, pageSeq⟩ page).lookup id).isSome = true := by
    intro ids hheld hnodup
    constructor
    · refine hnodup.append (nodup_singleton _) ?_
      intro id hid hlast
      rw [mem_singleton] at hlast
      have hsome := hheld id hid
      rw [hlast, hmissing] at hsome
      cases hsome
    · intro id hid page
      rw [AList.lookup_isSome, AList.mem_insert]
      rcases mem_append.mp hid with hbefore | hlast
      · exact .inr (AList.lookup_isSome.mp (hheld id hbefore))
      · exact .inl (mem_singleton.mp hlast)
  obtain ⟨hqueue, hqueueHeld⟩ := hfresh cache.evictable h.queueHeld h.queue
  refine ⟨hqueue, fun id hid => hqueueHeld id hid _, ?_⟩
  obtain ⟨base, tail, horder, hbase, htail, htailHeld⟩ := h.order
  obtain ⟨hnodup, hheld⟩ := hfresh tail htailHeld htail
  refine ⟨base, tail ++ [⟨cursor, pageSeq⟩], ?_, hbase, hnodup, fun id hid => hheld id hid _⟩
  change cache.pageOrder ++ _ = _
  rw [horder, append_assoc]

theorem pins_unpin_of_ne {other : HistoryPageId} (h : other ≠ id) :
    (cache.unpin id).pins other = cache.pins other := by
  unfold pins
  cases hpage : cache.pages.lookup id with
  | none => simp [unpin, hpage]
  | some page =>
    rw [unpin_eq hpage]
    simp only [lookup_replace, if_neg h]

theorem evictable_unpin (cache : HistoryCache) (id : HistoryPageId) : (cache.unpin id).evictable =
      cache.evictable ++ if cache.pins id = 1 then [id] else [] := by
  cases hpage : cache.pages.lookup id with
  | none => simp [unpin, pins, hpage]
  | some page => rw [unpin_eq hpage, pins_of_lookup hpage]

theorem evictable_unpinAll (old : List HistoryPageId) (hold : old.Nodup) (cache : HistoryCache) :
    (old.foldl unpin cache).evictable =
      cache.evictable ++ old.filter fun id => decide (cache.pins id = 1) := by
  induction old generalizing cache with
  | nil => simp
  | cons id old ih =>
    obtain ⟨hnew, hold⟩ := nodup_cons.mp hold
    have hsame : (old.filter fun other => decide ((cache.unpin id).pins other = 1)) =
        old.filter fun other => decide (cache.pins other = 1) := by
      refine filter_congr fun other hother => ?_
      have hne : other ≠ id := by
        rintro rfl
        exact hnew hother
      rw [pins_unpin_of_ne hne]
    rw [foldl_cons, ih hold, evictable_unpin, hsame, append_assoc]
    by_cases hone : cache.pins id = 1
    · simp [hone]
    · simp [hone]

theorem evictable_pinAll : (ids.foldl pin cache).evictable = cache.evictable := by
  induction ids generalizing cache with
  | nil => rfl
  | cons id ids ih =>
    rw [foldl_cons, ih]
    cases hpage : cache.pages.lookup id with
    | none => simp [pin, hpage]
    | some page => rw [pin_eq hpage]

theorem Tidy.release {anc : DocumentAnchorId} (h : Tidy cache) (hledger : Ledger cache [])
    (hfrees : op.frees = some anc) (hfresh : cache.requeues op = false) :
    Tidy (cache.release anc) := by
  have hrepinned := repinned_release cache anc
  obtain ⟨old, hold⟩ : ∃ old, (cache.anchorPages.lookup anc).getD [] = old := ⟨_, rfl⟩
  have hnodup : old.Nodup := by
    cases hanchor : cache.anchorPages.lookup anc with
    | none =>
      rw [hanchor] at hold
      rw [← hold]
      exact nodup_nil
    | some pages =>
      rw [hanchor] at hold
      rw [← hold]
      exact hledger.sets anc pages hanchor
  have hqueue : (cache.release anc).evictable =
      cache.evictable ++ old.filter fun id => decide (cache.pins id = 1) := by
    unfold HistoryCache.release
    rw [hold]
    exact evictable_unpinAll old hnodup { cache with anchorPages := cache.anchorPages.erase anc }
  have hnew : ∀ id ∈ old, cache.pins id = 1 → id ∉ cache.evictable := by
    intro id hid hone hqueued
    unfold requeues at hfresh
    simp only [hfrees, hold] at hfresh
    have hall := any_eq_false.mp hfresh id hid
    simp [hone, hqueued] at hall
  have hsame : ∀ id, ((cache.release anc).pages.lookup id).isSome =
      (cache.pages.lookup id).isSome := fun id => hrepinned.held
  refine ⟨?_, fun id hid => ?_, ?_⟩
  · rw [hqueue]
    refine h.queue.append (hnodup.filter _) fun id hbefore hafter => ?_
    obtain ⟨hid, hone⟩ := mem_filter.mp hafter
    exact hnew id hid (of_decide_eq_true hone) hbefore
  · rw [hsame]
    rw [hqueue] at hid
    rcases mem_append.mp hid with hbefore | hafter
    · exact h.queueHeld id hbefore
    · have hone := of_decide_eq_true (mem_filter.mp hafter).2
      cases hpage : cache.pages.lookup id with
      | none =>
        rw [pins_of_missing hpage] at hone
        cases hone
      | some page => rfl
  · obtain ⟨base, tail, horder, hbase, htail, htailHeld⟩ := h.order
    refine ⟨base, tail, hrepinned.order.trans horder, ?_, htail, fun id hid => ?_⟩
    · rw [hrepinned.config]
      exact hbase
    · rw [hsame]
      exact htailHeld id hid

theorem Tidy.step (h : Tidy cache) (haccounted : Accounted cache)
    (hfresh : cache.requeues op = false) (hstep : HistoryStep digest cache op cache') :
    Tidy cache' := by
  have hpages := (haccounted.step hstep).pages_le
  cases hstep with
  | quiet hbooks _ => exact h.same hbooks
  | look anc _ => exact h.same { SameBooks.refl cache with }
  | invalidate state =>
    exact ⟨nodup_nil, fun id hid => absurd hid not_mem_nil,
      [], [], rfl, Nat.zero_le _, nodup_nil, fun id hid => absurd hid not_mem_nil⟩
  | accept hnew =>
    exact (h.insertPage (missing_of_new hnew)).within (haccounted.within_insertPage hnew) hpages
  | @register anc pages hheld =>
    have hreleased := h.release haccounted.ledger rfl hfresh
    have hpinned := repinned_foldl repinned_pin pages.dedup (cache.release anc)
    refine ⟨?_, fun id hid => ?_, ?_⟩
    · change (pages.dedup.foldl pin (cache.release anc)).evictable.Nodup
      rw [evictable_pinAll]
      exact hreleased.queue
    · have hid' : id ∈ (cache.release anc).evictable := by
        rw [← evictable_pinAll]
        exact hid
      exact hpinned.held.trans (hreleased.queueHeld id hid')
    · obtain ⟨base, tail, horder, hbase, htail, htailHeld⟩ := hreleased.order
      refine ⟨base, tail, hpinned.order.trans horder, ?_, htail, fun id hid => ?_⟩
      · exact Nat.le_trans hbase (by rw [← hpinned.config])
      · exact hpinned.held.trans (htailHeld id hid)
  | @remove anc =>
    have hreleased := h.release haccounted.ledger rfl hfresh
    exact (hreleased.same (vacate_books cache anc)).within (haccounted.within_vacate anc) hpages

theorem Tidy.entries_le (h : Tidy cache) (haccounted : Accounted cache) :
    cache.entries ≤ entryBound cache.config cache.anchorPages.keys.length := by
  have hpages := haccounted.pages_le
  have hqueue := length_le_pages h.queue h.queueHeld
  obtain ⟨base, tail, horder, hbase, htail, htailHeld⟩ := h.order
  have htailLength := length_le_pages htail htailHeld
  have horderLength : cache.pageOrder.length = base.length + tail.length := by
    rw [horder, length_append]
  have hsets : total (fun _ pages => pages.length) cache.anchorPages ≤
      total (fun _ _ => cache.config.maxBytes) cache.anchorPages := by
    refine total_mono fun anc pages hanchor => ?_
    refine Nat.le_trans (length_le_pages (haccounted.ledger.sets anc pages hanchor) ?_) hpages
    intro id hid
    obtain ⟨page, hpage, _⟩ := haccounted.ledger.guarded hanchor hid
    rw [hpage]
    rfl
  have hconst : total (fun _ _ => cache.config.maxBytes) cache.anchorPages =
      cache.anchorPages.keys.length * cache.config.maxBytes := by
    simp [total, AList.keys, keys]
  have hrecent := haccounted.recent
  unfold entries entryBound
  rw [Nat.mul_add, Nat.mul_one]
  omega

def tightConfig : HistoryCacheConfig := ⟨3, 8, 0, 3, 8⟩

/-- Three pages, the first under an anchor until two more have come in. -/
def paced : List HistoryOp :=
  [.beginFetch, .acceptPage [1] 1 (some [2]) 1 1 [7], .registerAnchorPages ⟨5⟩ [⟨[1], 1⟩],
    .beginFetch, .acceptPage [2] 1 (some [3]) 1 1 [8, 8],
    .beginFetch, .acceptPage [3] 1 none 1 1 [9, 9], .removeAnchor ⟨5⟩]

def churned (more : List HistoryPageId) : HistoryCache :=
  { run (after fun payload => payload) (new tightConfig (some [1]) 80)
      [.beginFetch, .acceptPage [1] 1 none 1 1 [7]] with
    evictable := ⟨[1], 1⟩ :: more }

theorem churned_again (more : List HistoryPageId) :
    run (after fun payload => payload) (churned more)
        [.registerAnchorPages ⟨5⟩ [⟨[1], 1⟩], .removeAnchor ⟨5⟩] =
      churned (more ++ [⟨[1], 1⟩]) := by
  rfl

/-- One page fetched, then put under an anchor and taken from under it again and again. -/
def churn : Nat → List HistoryOp
  | 0 => [.beginFetch, .acceptPage [1] 1 none 1 1 [7]]
  | n + 1 => churn n ++ [.registerAnchorPages ⟨5⟩ [⟨[1], 1⟩], .removeAnchor ⟨5⟩]

theorem run_churn (n : Nat) :
    run (after fun payload => payload) (new tightConfig (some [1]) 80) (churn n) =
      churned (replicate n ⟨[1], 1⟩) := by
  induction n with
  | zero => rfl
  | succ n ih =>
    have hrun := churned_again (replicate n ⟨[1], 1⟩)
    rw [← replicate_succ'] at hrun
    rw [← hrun, ← ih]
    exact foldl_append

end HistoryCache

end Phux
