import Mathlib.Data.List.AList
import Phux.Ids

/-! The progressive history cache of one published replica: cursor-addressed
pages, anchors that pin them, and the byte and row budgets. -/

namespace Phux

open ByteReader

def HistoryCache.maxHistoryPageRows : UInt32 := 4096

def saturatingU32 (n : Nat) : UInt32 := UInt32.ofNat (min n 4294967295)

def clampU32 (value low high : UInt32) : UInt32 :=
  if value < low then low else if high < value then high else value

structure HistoryCacheConfig where
  maxBytes : Nat
  maxMaterializedRows : Nat
  prefetchRows : Nat
  requestMaxBytes : UInt32
  requestMaxRows : UInt32
deriving DecidableEq

namespace HistoryCacheConfig

def standard : HistoryCacheConfig where
  maxBytes := 16 * 1024 * 1024
  maxMaterializedRows := 16384
  prefetchRows := 128
  requestMaxBytes := 1024 * 1024
  requestMaxRows := 1024

def normalized (config : HistoryCacheConfig) : HistoryCacheConfig :=
  let maxBytes := max config.maxBytes 1
  let maxMaterializedRows := max config.maxMaterializedRows 1
  { config with
    maxBytes
    maxMaterializedRows
    requestMaxBytes := clampU32 config.requestMaxBytes 1 (saturatingU32 maxBytes)
    requestMaxRows :=
      clampU32 config.requestMaxRows 1
        (min HistoryCache.maxHistoryPageRows (saturatingU32 maxMaterializedRows)) }

end HistoryCacheConfig

abbrev HistoryCursor := Bytes

structure HistoryPageId where
  cursor : HistoryCursor
  pageSeq : UInt64
deriving DecidableEq

structure DocumentAnchorId where
  raw : UInt64
deriving DecidableEq

inductive ViewportAnchor where
  | tail
  | pinned (anchor : DocumentAnchorId)
deriving DecidableEq

inductive HistoryLoadState where
  | idle | loading | complete | gap | stale | pruned | tombstoned | cleared
deriving DecidableEq

structure HistoryStatus where
  state : HistoryLoadState
  loadedPages : Nat
  loadedBytes : Nat
  materializedRows : Nat
  unreadRows : UInt64
  nextCursor : Option HistoryCursor
  nextPageSeq : Option UInt64
deriving DecidableEq

inductive HistoryPageCheck where
  | new
  | duplicate (id : HistoryPageId)
deriving DecidableEq

inductive HistoryCacheError where
  | gap
  | duplicateConflict
  | sequenceGap (expected actual : UInt64)
  | sequenceExhausted
  | emptyPayload
  | pageTooLarge (required budget : Nat)
  | projectionTooLarge (required budget : Nat)
  | pinnedBudget (required budget : Nat)
  | pinnedProjectionBudget (required budget : Nat)
  | pageUnavailable
  | anchorUnavailable
deriving DecidableEq

structure CachedPage where
  nextCursor : Option HistoryCursor
  declaredRows : Nat
  payload : Bytes
  materializedRows : Nat
  pinCount : Nat
deriving DecidableEq

structure ConsumedPage where
  id : HistoryPageId
  nextCursor : Option HistoryCursor
  declaredRows : Nat
  digest : Bytes
  accountedBytes : Nat
deriving DecidableEq

abbrev PageMap := AList fun _ : HistoryPageId => CachedPage

abbrev AnchorMap := AList fun _ : DocumentAnchorId => List HistoryPageId

theorem nodupKeys_forget (id : HistoryPageId) (anchors : AnchorMap) :
    (anchors.entries.map fun e => (⟨e.1, e.2.erase id⟩ : Sigma fun _ => _)).NodupKeys := by
  have hkeys : (anchors.entries.map fun e =>
      (⟨e.1, e.2.erase id⟩ : Sigma fun _ : DocumentAnchorId => List HistoryPageId)).keys =
      anchors.keys := by
    simp [List.keys, AList.keys, Function.comp_def]
  have hnodup : anchors.keys.Nodup := anchors.keys_nodup
  simpa [List.NodupKeys, hkeys] using hnodup

def AnchorMap.forget (anchors : AnchorMap) (id : HistoryPageId) : AnchorMap :=
  ⟨anchors.entries.map fun e => ⟨e.1, e.2.erase id⟩, nodupKeys_forget id anchors⟩

structure HistoryCache where
  config : HistoryCacheConfig
  pages : PageMap
  pageOrder : List HistoryPageId
  evictable : List HistoryPageId
  consumed : List ConsumedPage
  consumedBytes : Nat
  anchorPages : AnchorMap
  nextCursor : Option HistoryCursor
  nextPageSeq : Option UInt64
  requestMaxBytes : UInt32
  requestMaxRows : UInt32
  state : HistoryLoadState
  loadedBytes : Nat
  materializedRows : Nat
  pinnedBytes : Nat
  pinnedMaterializedRows : Nat
  viewport : ViewportAnchor
  projectionWidth : UInt16
  unreadRows : UInt64

namespace HistoryCache

variable (cache : HistoryCache)
def new (config : HistoryCacheConfig) (newestCursor : Option HistoryCursor)
    (projectionWidth : UInt16) : HistoryCache where
  config := config.normalized
  pages := ∅
  pageOrder := []
  evictable := []
  consumed := []
  consumedBytes := 0
  anchorPages := ∅
  nextCursor := newestCursor
  nextPageSeq := newestCursor.map fun _ => 1
  requestMaxBytes := 0
  requestMaxRows := 0
  state := if newestCursor.isSome then .idle else .complete
  loadedBytes := 0
  materializedRows := 0
  pinnedBytes := 0
  pinnedMaterializedRows := 0
  viewport := .tail
  projectionWidth := max projectionWidth 2
  unreadRows := 0

def status : HistoryStatus where
  state := cache.state
  loadedPages := cache.pages.keys.length
  loadedBytes := cache.loadedBytes + cache.consumedBytes
  materializedRows := cache.materializedRows
  unreadRows := cache.unreadRows
  nextCursor := cache.nextCursor
  nextPageSeq := cache.nextPageSeq

def reproject (width : UInt16) : HistoryCache :=
  { cache with projectionWidth := max width 2 }

def beginFetchWithLimits (maxBytes maxRows : UInt32) : HistoryCache × Option HistoryCursor :=
  if cache.state ≠ .idle ∨ maxBytes = 0 ∨ maxRows = 0 then (cache, none)
  else
    match cache.nextCursor with
    | none => (cache, none)
    | some cursor =>
      ({ cache with
          state := .loading
          requestMaxBytes := maxBytes
          requestMaxRows := maxRows }, some cursor)

def beginFetch : HistoryCache × Option HistoryCursor :=
  cache.beginFetchWithLimits cache.config.requestMaxBytes cache.config.requestMaxRows

def cancelFetch (cursor : HistoryCursor) : HistoryCache × Bool :=
  if cache.state ≠ .loading ∨ cache.nextCursor ≠ some cursor then (cache, false)
  else ({ cache with state := .idle, requestMaxBytes := 0, requestMaxRows := 0 }, true)

def retryLimits (requiredBytes requiredRows : UInt32) : Option (UInt32 × UInt32) :=
  if requiredBytes = 0 ∨ requiredRows = 0
      ∨ (requiredBytes ≤ cache.requestMaxBytes ∧ requiredRows ≤ cache.requestMaxRows)
      ∨ saturatingU32 cache.config.maxBytes < requiredBytes
      ∨ maxHistoryPageRows < requiredRows
      ∨ saturatingU32 cache.config.maxMaterializedRows < requiredRows then none
  else some (max cache.requestMaxBytes requiredBytes, max cache.requestMaxRows requiredRows)

def shouldAutoContinue : Bool :=
  cache.state = .idle && cache.nextCursor.isSome
    && (cache.materializedRows < cache.config.prefetchRows || cache.viewport != .tail)

def shouldPrefetch (rowsFromOldest : Nat) : Bool :=
  cache.state = .idle && cache.nextCursor.isSome && rowsFromOldest ≤ cache.config.prefetchRows

section

-- SHA-256 of a payload
variable (payloadDigest : Bytes → Bytes)

def isReplayedPage (id : HistoryPageId) (nextCursor : Option HistoryCursor)
    (declaredRows : UInt32) (payload : Bytes) : Except HistoryCacheError Bool :=
  match cache.pages.lookup id with
  | some existing =>
    if existing.payload = payload ∧ existing.nextCursor = nextCursor
        ∧ existing.declaredRows = declaredRows.toNat then .ok true
    else .error .duplicateConflict
  | none =>
    match cache.consumed.find? fun entry => entry.id = id with
    | some consumed =>
      if consumed.digest = payloadDigest payload ∧ consumed.nextCursor = nextCursor
          ∧ consumed.declaredRows = declaredRows.toNat then .ok true
      else .error .duplicateConflict
    | none => .ok false

def checkPageOrder (cursor : HistoryCursor) (pageSeq : UInt64)
    (nextCursor : Option HistoryCursor) : Except HistoryCacheError Unit :=
  if cache.state ≠ .loading ∨ cache.nextCursor ≠ some cursor then .error .gap
  else
    let expected := cache.nextPageSeq.getD 1
    if pageSeq = 0 ∨ pageSeq ≠ expected then .error (.sequenceGap expected pageSeq)
    else if nextCursor = some cursor ∧ pageSeq = 18446744073709551615 then
      .error .sequenceExhausted
    else .ok ()

def checkPageBudgets (declaredRows : UInt32) (payload : Bytes) : Except HistoryCacheError Unit :=
  if payload = [] then .error .emptyPayload
  else if cache.config.maxBytes < payload.length
      ∨ cache.requestMaxBytes.toNat < payload.length then
    .error (.pageTooLarge payload.length (min cache.config.maxBytes cache.requestMaxBytes.toNat))
  else if cache.requestMaxRows < declaredRows ∨ maxHistoryPageRows < declaredRows then
    .error (.projectionTooLarge declaredRows.toNat cache.requestMaxRows.toNat)
  else if cache.config.maxBytes < cache.pinnedBytes + payload.length then
    .error (.pinnedBudget (cache.pinnedBytes + payload.length) cache.config.maxBytes)
  else if cache.config.maxMaterializedRows < cache.pinnedMaterializedRows + declaredRows.toNat then
    .error (.pinnedProjectionBudget (cache.pinnedMaterializedRows + declaredRows.toNat)
      cache.config.maxMaterializedRows)
  else .ok ()

def checkPage (cursor : HistoryCursor) (pageSeq : UInt64)
    (nextCursor : Option HistoryCursor) (declaredRows : UInt32) (payload : Bytes) :
    Except HistoryCacheError HistoryPageCheck := do
  if ← cache.isReplayedPage payloadDigest ⟨cursor, pageSeq⟩ nextCursor declaredRows payload then
    return .duplicate ⟨cursor, pageSeq⟩
  cache.checkPageOrder cursor pageSeq nextCursor
  cache.checkPageBudgets declaredRows payload
  return .new

def trimConsumed : List ConsumedPage → Nat → List ConsumedPage × Nat
  | [], bytes => ([], bytes)
  | entry :: entries, bytes =>
    if 64 < (entry :: entries).length then trimConsumed entries (bytes - entry.accountedBytes)
    else (entry :: entries, bytes)

def evictPages (cache : HistoryCache) : List HistoryPageId → HistoryCache
  | [] => { cache with evictable := [] }
  | id :: ids =>
    if cache.loadedBytes ≤ cache.config.maxBytes then { cache with evictable := id :: ids }
    else
      match cache.pages.lookup id with
      | none => evictPages cache ids
      | some page =>
        if page.pinCount ≠ 0 then evictPages cache ids
        else
          evictPages { cache with
            pages := cache.pages.erase id
            loadedBytes := cache.loadedBytes - page.payload.length
            materializedRows := cache.materializedRows - page.materializedRows
            anchorPages := cache.anchorPages.forget id } ids

def evictionVictim : Option (HistoryPageId × CachedPage) :=
  cache.pageOrder.reverse.findSome? fun id =>
    match cache.pages.lookup id with
    | some page =>
      if page.pinCount = 0 ∧ 0 < page.materializedRows then some (id, page) else none
    | none => none

-- each round leaves one page fewer with materialized rows
def evictMaterializationsWithin : Nat → HistoryCache → HistoryCache
  | 0, cache => cache
  | fuel + 1, cache =>
    if cache.materializedRows ≤ cache.config.maxMaterializedRows then cache
    else
      match cache.evictionVictim with
      | none => cache
      | some (id, page) =>
        evictMaterializationsWithin fuel { cache with
          materializedRows := cache.materializedRows - page.materializedRows
          pages := cache.pages.replace id { page with materializedRows := 0 } }

def evictMaterializations : HistoryCache :=
  evictMaterializationsWithin cache.pages.keys.length cache

def evictToBudget : HistoryCache :=
  let cache := evictPages cache cache.evictable
  let cache :=
    if cache.pages.keys.length * 2 + 64 < cache.pageOrder.length then
      { cache with pageOrder := cache.pageOrder.filter fun id => (cache.pages.lookup id).isSome }
    else cache
  cache.evictMaterializations

def acceptPage (cursor : HistoryCursor) (pageSeq : UInt64)
    (nextCursor : Option HistoryCursor) (declaredRows : UInt32) (materializedRows : Nat)
    (payload : Bytes) : Except HistoryCacheError (HistoryCache × HistoryPageId) := do
  match ← cache.checkPage payloadDigest cursor pageSeq nextCursor declaredRows payload with
  | .duplicate id => return (cache, id)
  | .new =>
    let id : HistoryPageId := ⟨cursor, pageSeq⟩
    let rows := min (min materializedRows declaredRows.toNat) cache.config.maxMaterializedRows
    let accountedBytes := 32 + cursor.length + (nextCursor.map List.length).getD 0 + 12
    let (consumed, consumedBytes) :=
      trimConsumed
        (cache.consumed ++
          [⟨id, nextCursor, declaredRows.toNat, payloadDigest payload, accountedBytes⟩])
        (cache.consumedBytes + accountedBytes)
    let cache := { cache with
      loadedBytes := cache.loadedBytes + payload.length
      materializedRows := cache.materializedRows + rows
      pages := cache.pages.insert id ⟨nextCursor, declaredRows.toNat, payload, rows, 0⟩
      pageOrder := cache.pageOrder ++ [id]
      evictable := cache.evictable ++ [id]
      consumed
      consumedBytes
      nextPageSeq := nextCursor.map fun next => if next = cursor then pageSeq + 1 else 1
      nextCursor
      requestMaxBytes := 0
      requestMaxRows := 0
      state := if nextCursor.isSome then .idle else .complete }
    return (cache.evictToBudget, id)

end

def remainingAnchorCapacity : Nat :=
  cache.config.maxMaterializedRows - cache.anchorPages.keys.length

def ensureAnchorCapacity (additional : Nat) : Except HistoryCacheError Unit :=
  if cache.remainingAnchorCapacity < additional then
    .error (.projectionTooLarge (cache.anchorPages.keys.length + additional)
      cache.config.maxMaterializedRows)
  else .ok ()

def pin (id : HistoryPageId) : HistoryCache :=
  match cache.pages.lookup id with
  | none => cache
  | some page =>
    let cache :=
      if page.pinCount = 0 then
        { cache with
          pinnedBytes := cache.pinnedBytes + page.payload.length
          pinnedMaterializedRows := cache.pinnedMaterializedRows + page.materializedRows }
      else cache
    { cache with pages := cache.pages.replace id { page with pinCount := page.pinCount + 1 } }

def unpin (id : HistoryPageId) : HistoryCache :=
  match cache.pages.lookup id with
  | none => cache
  | some page =>
    let cache :=
      if page.pinCount = 1 then
        { cache with
          pinnedBytes := cache.pinnedBytes - page.payload.length
          pinnedMaterializedRows := cache.pinnedMaterializedRows - page.materializedRows
          evictable := cache.evictable ++ [id] }
      else cache
    { cache with pages := cache.pages.replace id { page with pinCount := page.pinCount - 1 } }

def registerAnchorPages (anchor : DocumentAnchorId)
    (pages : List HistoryPageId) : Except HistoryCacheError HistoryCache := do
  if (cache.anchorPages.lookup anchor).isNone then
    cache.ensureAnchorCapacity 1
  let pages := pages.dedup
  if pages.any fun page => (cache.pages.lookup page).isNone then
    throw .pageUnavailable
  let old := (cache.anchorPages.lookup anchor).getD []
  let cache := old.foldl unpin { cache with anchorPages := cache.anchorPages.erase anchor }
  let cache := pages.foldl pin cache
  return { cache with anchorPages := cache.anchorPages.insert anchor pages }

def removeAnchor (anchor : DocumentAnchorId) : HistoryCache :=
  let old := (cache.anchorPages.lookup anchor).getD []
  let cache := old.foldl unpin { cache with anchorPages := cache.anchorPages.erase anchor }
  let cache :=
    if cache.viewport = .pinned anchor then { cache with viewport := .tail, unreadRows := 0 }
    else cache
  cache.evictToBudget

def pinViewport (anchor : DocumentAnchorId) : Except HistoryCacheError HistoryCache :=
  if (cache.anchorPages.lookup anchor).isNone then .error .anchorUnavailable
  else .ok { cache with viewport := .pinned anchor }

def followTail : HistoryCache :=
  { cache with viewport := .tail, unreadRows := 0 }

def noteLiveOutput (rows : UInt64) : HistoryCache :=
  match cache.viewport with
  | .pinned _ =>
    { cache with
      unreadRows := UInt64.ofNat (min (cache.unreadRows.toNat + rows.toNat) 18446744073709551615) }
  | .tail => cache

def hasContinuation : Bool := cache.nextCursor.isSome

def isLocallyCleared : Bool := cache.state = .cleared

def invalidate (state : HistoryLoadState) : HistoryCache :=
  { cache with
    pages := ∅
    pageOrder := []
    evictable := []
    anchorPages := ∅
    nextCursor := none
    nextPageSeq := none
    consumed := []
    consumedBytes := 0
    requestMaxBytes := 0
    requestMaxRows := 0
    loadedBytes := 0
    materializedRows := 0
    pinnedBytes := 0
    pinnedMaterializedRows := 0
    viewport := .tail
    unreadRows := 0
    state }

def invalidateCursor (cursor : HistoryCursor) (state : HistoryLoadState) : HistoryCache × Bool :=
  if cache.nextCursor ≠ some cursor then (cache, false) else (cache.invalidate state, true)

def markPruned : HistoryCache := cache.invalidate .pruned

def clearPresentation : HistoryCache := cache.invalidate .cleared

def tombstone : HistoryCache := cache.invalidate .tombstoned

end HistoryCache

end Phux
