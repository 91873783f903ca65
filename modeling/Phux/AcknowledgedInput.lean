import Phux.Admission

/-! Acknowledged input reaches a PTY writer at most once for each entry of the dedupe
cache, over every interleaving of the clients, the lane, the waiter and the panes. -/

namespace Phux.InputLane

open ByteReader Exclusive OperationCache List Option AList

variable {cached : CachedOperation} {messages : List WaiterMessage} {rest : List WaiterTask}

/-! ### What the cache answers -/

namespace OperationCache

inductive Binds (cache : OperationCache) (id : InputOperationId) (digest : Bytes)
    (admittedAt : Nat) : CacheBinding → OperationCache → Prop
  | conflict {cached : CachedOperation} (hcached : cache.entries.lookup id = some cached)
      (hdigest : cached.digest ≠ digest) : Binds cache id digest admittedAt .conflict cache
  | final {cached : CachedOperation} {result : CommandResult}
      (hcached : cache.entries.lookup id = some cached) (hdigest : cached.digest = digest)
      (hresult : cached.result = some result) :
      Binds cache id digest admittedAt (.final result) cache
  | pending {cached : CachedOperation} (hcached : cache.entries.lookup id = some cached)
      (hdigest : cached.digest = digest) (hresult : cached.result = none) :
      Binds cache id digest admittedAt .pending cache
  | full (habsent : cache.entries.lookup id = none) (hfull : cache.isFull = true) :
      Binds cache id digest admittedAt .full cache
  | new (habsent : cache.entries.lookup id = none) (hfull : cache.isFull = false) :
      Binds cache id digest admittedAt .new
        ⟨cache.entries.insert id ⟨digest, none, admittedAt, cache.bindings⟩,
          cache.expiry ++ [(admittedAt, id)], cache.bindings + 1⟩

variable (cache : OperationCache)

theorem bindPruned_binds (id : InputOperationId) (digest : Bytes)
    (admittedAt : Nat) : Binds cache id digest admittedAt (cache.bindPruned id digest admittedAt).1
      (cache.bindPruned id digest admittedAt).2 := by
  rw [bindPruned]
  split
  · rename_i cached hcached
    by_cases hdigest : cached.digest = digest
    · rw [if_neg (not_not.mpr hdigest)]
      cases hresult : cached.result with
      | none => exact .pending hcached hdigest hresult
      | some result => exact .final hcached hdigest hresult
    · rw [if_pos hdigest]
      exact .conflict hcached hdigest
  · rename_i habsent
    by_cases hfull : cache.isFull = true
    · rw [if_pos hfull]
      exact .full habsent hfull
    · rw [if_neg hfull]
      exact .new habsent (by simpa using hfull)

variable {id : InputOperationId} {entries : Entries}

theorem lookup_dropRecord {insertedAt : Nat} {id' : InputOperationId}
    (h : (dropRecord entries insertedAt id').lookup id = some cached) :
    entries.lookup id = some cached := by
  rw [dropRecord] at h
  split at h
  · by_cases hid : id = id'
    · rw [hid, lookup_erase] at h
      cases h
    · rwa [lookup_erase_ne hid] at h
  · exact h

theorem lookup_pruneLoop {now : Nat} {records : List (Nat × InputOperationId)}
    (h : (pruneLoop now records entries).1.lookup id = some cached) :
    entries.lookup id = some cached := by
  induction records generalizing entries with
  | nil => exact h
  | cons record rest ih =>
    rw [pruneLoop] at h
    split at h
    · exact lookup_dropRecord (ih h)
    · exact h

theorem lookup_pruneExpired {cache : OperationCache} {now : Nat}
    (h : (cache.pruneExpired now).entries.lookup id = some cached) :
    cache.entries.lookup id = some cached :=
  lookup_pruneLoop h

theorem lookup_setFinal (id id' : InputOperationId)
    (result : CommandResult) : (cache.setFinal id result).entries.lookup id' =
      if id' = id then (cache.entries.lookup id').map ({ · with result := some result })
      else cache.entries.lookup id' := by
  rw [setFinal]
  by_cases hid : id' = id
  · subst hid
    split
    · rename_i cached hcached
      simp [hcached]
    · rename_i habsent
      simp [habsent]
  · rw [if_neg hid]
    split
    · exact lookup_insert_ne hid
    · rfl

end OperationCache

/-! ### The invariant -/

/-- The operation id of a request, and the insertion of its entry that it was bound to. -/
def EncodedInputRequest.key (request : EncodedInputRequest) : InputOperationId × Nat :=
  (request.op.input.operationId, request.binding)

/-- An operation that is still to be finalized; one about to be released no longer is. -/
def WaiterTask.unfinalized : WaiterTask → Option PendingCompletion
  | finalize pending _ => some pending
  | release _ _ => none
  | handle message => Lane.registeredOf message

def Turn.request : Turn → Option EncodedInputRequest
  | bound op ticket binding => some ⟨op, ticket, binding, []⟩
  | prepared request => some request
  | registered request => some request
  | _ => none

def Turn.ticket : Turn → Option Nat
  | preparing _ ticket => some ticket
  | turn => turn.request.map (·.ticket)

namespace Lane

def requests (s : Lane) : List EncodedInputRequest := s.mailbox ++ s.handed

def tracked (s : Lane) : List PendingCompletion :=
  s.messages.filterMap registeredOf ++ (s.tasks.filterMap WaiterTask.unfinalized ++ s.pending)

/-- The waiter will finalize the request's operation before it releases its terminal. -/
def Tracks (s : Lane) (request : EncodedInputRequest) : Prop :=
  ∃ p ∈ s.tracked, p.ticket = request.ticket ∧ p.operationId = request.op.input.operationId ∧
    p.terminalId = request.op.input.terminalId

def Abandons (s : Lane) (ticket : Nat) : Prop :=
  ∃ result, .abandoned ticket result ∈ s.messages ∨ .handle (.abandoned ticket result) ∈ s.tasks

structure Unsent (s : Lane) (ticket : Nat) : Prop where
  issued : ticket ≤ s.tickets
  requests : ∀ q ∈ s.requests, q.ticket ≠ ticket
  notices : ¬ s.Abandons ticket

/-- Where the entry that a request was bound to still stands, it has a result, or will have
one before the request's terminal is free, or the waiter is gone and nothing is sent any more. -/
def Settled (s : Lane) (request : EncodedInputRequest) : Prop :=
  ∀ cached, s.cache.entries.lookup request.op.input.operationId = some cached →
    cached.binding = request.binding →
      cached.result.isSome ∨ s.Tracks request ∨ s.waiting = false

/-- The entry a request was bound to still stands and carries the digest of its payload. -/
def BoundBy (digest : ApplyInput → Bytes) (s : Lane) (request : EncodedInputRequest) : Prop :=
  request.op.input.events.length ≤ maxApplyInputEvents ∧
    ∃ cached, s.cache.entries.lookup request.op.input.operationId = some cached ∧
      cached.binding = request.binding ∧ cached.digest = digest request.op.input

structure Readied (digest : ApplyInput → Bytes) (s : Lane) (request : EncodedInputRequest) :
    Prop where
  bound : s.BoundBy digest request
  first : request.key ∉ s.requests.map (·.key) ∨ s.waiting = false ∧ s.turn ≠ .registered request
  settled : s.turn = .registered request → s.Settled request

structure Delivery (digest : ApplyInput → Bytes) (s : Lane) : Prop where
  issued : ∀ q ∈ s.requests, q.ticket ≤ s.tickets
  noticed : ∀ ticket, s.Abandons ticket → ticket ≤ s.tickets
  unabandoned : ∀ q ∈ s.requests, ¬ s.Abandons q.ticket
  once : (s.requests.map (·.key)).Nodup
  numbered : ∀ q ∈ s.requests, q.binding < s.cache.bindings
  entries : ∀ id cached, s.cache.entries.lookup id = some cached →
    cached.binding < s.cache.bindings ∧ ∃ input : ApplyInput, input.operationId = id ∧
      input.events.length ≤ maxApplyInputEvents ∧ cached.digest = digest input
  counted : ∀ q ∈ s.requests, q.op.input.events.length ≤ maxApplyInputEvents
  payload : ∀ q ∈ s.requests, ∀ cached,
    s.cache.entries.lookup q.op.input.operationId = some cached → cached.binding = q.binding →
      cached.digest = digest q.op.input
  settled : ∀ q ∈ s.requests, s.Settled q
  unsent : ∀ ticket, s.turn.ticket = some ticket → s.Unsent ticket
  readied : ∀ request, s.turn.request = some request → s.Readied digest request

/-! ### Steps that send nothing -/

def Concerns (s : Lane) (ticket : Nat) : Prop :=
  (∃ q ∈ s.requests, q.ticket = ticket) ∨ s.turn.ticket = some ticket

/-- What every step does but those that take, bind, register and hand off an operation. -/
structure Carries (s s' : Lane) : Prop where
  tickets : s'.tickets = s.tickets
  waiting : s.waiting = false → s'.waiting = false
  requests : ∀ q ∈ s'.requests, q ∈ s.requests
  once : (s.requests.map (·.key)).Nodup → (s'.requests.map (·.key)).Nodup
  bindings : s'.cache.bindings = s.cache.bindings
  entries : ∀ id cached', s'.cache.entries.lookup id = some cached' →
    ∃ cached, s.cache.entries.lookup id = some cached ∧ cached'.binding = cached.binding ∧
      cached'.digest = cached.digest ∧ (cached.result.isSome → cached'.result.isSome)
  tracked : ∀ p ∈ s.tracked, s.Concerns p.ticket → p ∈ s'.tracked ∨ s'.waiting = false ∨
    ∀ cached, s'.cache.entries.lookup p.operationId = some cached → cached.result.isSome
  abandons : ∀ ticket, s'.Abandons ticket → s.Abandons ticket ∨
    s'.turn = .idle ∧ ticket ≤ s.tickets ∧ ∀ q ∈ s.requests, q.ticket ≠ ticket
  turn : s'.turn = .idle ∨ s'.turn = s.turn ∧ ∀ id cached, s.cache.entries.lookup id = some cached →
    ∃ cached', s'.cache.entries.lookup id = some cached' ∧ cached'.binding = cached.binding ∧
      cached'.digest = cached.digest

variable {s s' : Lane} {digest : ApplyInput → Bytes}

variable (c : Carries s s')

include c

variable {q : EncodedInputRequest}

theorem Carries.settled (hq : s.Concerns q.ticket) (h : s.Settled q) : s'.Settled q := by
  intro cached' hlookup hbinding
  obtain ⟨cached, hcached, hsame, -, hresult⟩ := c.entries _ _ hlookup
  rcases h cached hcached (hsame ▸ hbinding) with hdone | ⟨p, hp, hticket, hid, hterminal⟩ | hgone
  · exact .inl (hresult hdone)
  · rcases c.tracked p hp (hticket ▸ hq) with hstill | hgone | hdone
    · exact .inr (.inl ⟨p, hstill, hticket, hid, hterminal⟩)
    · exact .inr (.inr hgone)
    · exact .inl (hdone cached' (hid ▸ hlookup))
  · exact .inr (.inr (c.waiting hgone))

variable {ticket : Nat}

theorem Carries.unsent (hturn : s'.turn ≠ .idle) (h : s.Unsent ticket) : s'.Unsent ticket where
  issued := c.tickets ▸ h.issued
  requests q hq := h.requests q (c.requests q hq)
  notices ha := by
    rcases c.abandons ticket ha with hold | ⟨hidle, _, _⟩
    · exact h.notices hold
    · exact hturn hidle

variable {req : EncodedInputRequest}

theorem Carries.readied (hturn : s'.turn ≠ .idle)
    (h : s.Readied digest req) : s'.Readied digest req := by
  rcases c.turn with hidle | ⟨hsame, hkept⟩
  · exact absurd hidle hturn
  refine ⟨⟨h.bound.1, ?_⟩, ?_, fun hr => ?_⟩
  · obtain ⟨cached, hcached, hbinding, hdigest⟩ := h.bound.2
    obtain ⟨cached', hcached', hb, hd⟩ := hkept _ _ hcached
    exact ⟨cached', hcached', hb.trans hbinding, hd.trans hdigest⟩
  · rcases h.first with hfirst | ⟨hgone, hother⟩
    · refine .inl fun hmem => hfirst ?_
      obtain ⟨q, hq, hkey⟩ := mem_map.mp hmem
      exact mem_map.mpr ⟨q, c.requests q hq, hkey⟩
    · exact .inr ⟨c.waiting hgone, hsame ▸ hother⟩
  · have hr' : s.turn = .registered req := hsame ▸ hr
    exact c.settled (.inr (by rw [hr']; rfl)) (h.settled hr')

theorem Carries.turn_kept {α : Type} {f : Turn → Option α} {a : α}
    (hf : f .idle = none) (h : f s'.turn = some a) : s'.turn ≠ .idle ∧ f s.turn = some a := by
  have hne : s'.turn ≠ .idle := by
    intro hidle
    rw [hidle, hf] at h
    cases h
  exact ⟨hne, (c.turn.resolve_left hne).1 ▸ h⟩

theorem Carries.delivery (h : s.Delivery digest) : s'.Delivery digest where
  issued q hq := c.tickets ▸ h.issued q (c.requests q hq)
  noticed ticket ha := by
    rw [c.tickets]
    rcases c.abandons ticket ha with hold | ⟨_, hissued, _⟩
    · exact h.noticed ticket hold
    · exact hissued
  unabandoned q hq ha := by
    rcases c.abandons q.ticket ha with hold | ⟨_, _, hother⟩
    · exact h.unabandoned q (c.requests q hq) hold
    · exact hother q (c.requests q hq) rfl
  once := c.once h.once
  numbered q hq := c.bindings ▸ h.numbered q (c.requests q hq)
  entries id cached' hlookup := by
    obtain ⟨cached, hcached, hbinding, hdigest, _⟩ := c.entries id cached' hlookup
    rw [hbinding, hdigest, c.bindings]
    exact h.entries id cached hcached
  counted q hq := h.counted q (c.requests q hq)
  payload q hq cached' hlookup hbinding := by
    obtain ⟨cached, hcached, hsame, hdigest, _⟩ := c.entries _ cached' hlookup
    rw [hdigest]
    exact h.payload q (c.requests q hq) cached hcached (hsame ▸ hbinding)
  settled q hq := by
    have hold := c.requests q hq
    exact c.settled (.inl ⟨q, hold, rfl⟩) (h.settled q hold)
  unsent ticket ht := by
    obtain ⟨hne, hold⟩ := c.turn_kept rfl ht
    exact c.unsent hne (h.unsent ticket hold)
  readied req hr := by
    obtain ⟨hne, hold⟩ := c.turn_kept rfl hr
    exact c.readied hne (h.readied req hold)

omit c

theorem Carries.of_waiter (hturn : s'.turn = .idle ∨ s'.turn = s.turn)
    (htickets : s'.tickets = s.tickets) (hcache : s'.cache = s.cache)
    (hwaiting : s.waiting = false → s'.waiting = false) (hrequests : s'.requests = s.requests)
    (htracked : ∀ p ∈ s.tracked, s.Concerns p.ticket → p ∈ s'.tracked ∨ s'.waiting = false)
    (habandons : ∀ ticket, s'.Abandons ticket → s.Abandons ticket ∨
      s'.turn = .idle ∧ ticket ≤ s.tickets ∧ ∀ q ∈ s.requests, q.ticket ≠ ticket) :
    Carries s s' where
  tickets := htickets
  waiting := hwaiting
  requests q hq := hrequests ▸ hq
  once h := by rwa [hrequests]
  bindings := by rw [hcache]
  entries id cached hlookup := ⟨cached, hcache ▸ hlookup, rfl, rfl, fun h => h⟩
  tracked p hp hc := (htracked p hp hc).imp_right .inl
  abandons := habandons
  turn := hturn.imp_right fun h => ⟨h, fun id cached hlookup => ⟨cached, hcache ▸ hlookup, rfl, rfl⟩⟩

theorem Carries.refl : Carries s s :=
  .of_waiter (.inr rfl) rfl rfl id rfl (fun _ hp _ => .inl hp) fun _ h => .inl h

/-- A lane that gives its operation up; what the cache pruned on the way stays gone. -/
theorem Carries.idle (cache : OperationCache) (hbindings : cache.bindings = s.cache.bindings)
    (hentries : ∀ id cached, cache.entries.lookup id = some cached →
      s.cache.entries.lookup id = some cached) :
    Carries s { s with cache := cache, turn := .idle } where
  __ := refl (s := s)
  bindings := hbindings
  entries id cached hlookup := ⟨cached, hentries id cached hlookup, rfl, rfl, fun h => h⟩
  tracked _ hp _ := .inl hp
  abandons _ h := .inl h
  turn := .inl rfl

theorem Carries.refuse (op : Acknowledged) (result : CommandResult) (cache : OperationCache)
    (hbindings : cache.bindings = s.cache.bindings)
    (hentries : ∀ id cached, cache.entries.lookup id = some cached →
      s.cache.entries.lookup id = some cached) :
    Carries s (({ s with cache := cache } : Lane).refuse op result) :=
  { idle cache hbindings hentries with }

variable (clientId : Server.ClientId)

theorem Carries.applyInput (input : ApplyInput) (now : Nat) :
    Carries s (s.applyInput clientId input now) := by
  rw [Lane.applyInput]
  split
  · exact { Carries.refl (s := s) with }
  split
  all_goals exact { Carries.refl (s := s) with }

theorem Carries.route (terminalId : ResourceId) (event : InputEvent) :
    Carries s (s.route clientId terminalId event) := by
  rw [Lane.route]
  split
  all_goals exact { Carries.refl (s := s) with }

theorem notify_requests (messages : List WaiterMessage) :
    (s.notify messages).requests = s.requests := by
  rw [notify]
  split <;> rfl

theorem notify_turn (messages : List WaiterMessage) : (s.notify messages).turn = s.turn := by
  rw [notify]
  split <;> rfl

theorem tracked_notify {p : PendingCompletion} (hp : p ∈ s.tracked) :
    p ∈ (s.notify messages).tracked := by
  rw [notify]
  split
  · simp only [tracked, filterMap_append, mem_append] at hp ⊢
    tauto
  · exact hp

theorem abandons_notify (h : (s.notify messages).Abandons ticket) :
    s.Abandons ticket ∨ ∃ result, .abandoned ticket result ∈ messages := by
  rw [notify] at h
  split at h
  · obtain ⟨result, hm | ht⟩ := h
    · rcases mem_append.mp hm with hold | hnew
      · exact .inl ⟨result, .inl hold⟩
      · exact .inr ⟨result, hnew⟩
    · exact .inl ⟨result, .inr ht⟩
  · exact .inl h

theorem Carries.notify (hm : ∀ ticket result, .abandoned ticket result ∉ messages) :
    Carries s (s.notify messages) := by
  refine .of_waiter (.inr (notify_turn messages)) ?_ ?_ ?_ (notify_requests messages)
    (fun _ hp _ => .inl (tracked_notify hp)) ?_
  · rw [Lane.notify]
    split <;> rfl
  · rw [Lane.notify]
    split <;> rfl
  · intro h
    simp [Lane.notify, h]
  · intro ticket ha
    rcases abandons_notify ha with hold | ⟨result, hnew⟩
    · exact .inl hold
    · exact absurd hnew (hm ticket result)

variable {p : EncodedInputRequest → Bool}

theorem mem_requests_eraseP (hq : q ∈ s.mailbox.eraseP p ++ s.handed) : q ∈ s.requests := by
  rcases mem_append.mp hq with hmail | hhanded
  · exact mem_append_left _ (mem_of_mem_eraseP hmail)
  · exact mem_append_right _ hhanded

theorem Carries.mailbox (p : EncodedInputRequest → Bool) :
    Carries s { s with mailbox := s.mailbox.eraseP p } where
  __ := refl (s := s)
  requests q hq := mem_requests_eraseP hq
  once h := by
    refine .sublist (.map _ ?_) h
    exact (eraseP_sublist).append_right _

theorem Carries.forward (hfind : s.mailbox.find? p = some req) : Carries s { s with
      mailbox := s.mailbox.eraseP p
      writing := s.writing ++ [req]
      handed := s.handed ++ [req] } := by
  have hperm : (s.mailbox.eraseP p ++ (s.handed ++ [req])).Perm s.requests := by
    have hmail := (perm_eraseP hfind).append_right s.handed
    refine .trans ?_ hmail.symm
    rw [← append_assoc]
    exact perm_append_singleton req _
  exact { refl (s := s) with
    requests q hq := hperm.mem_iff.mp hq
    once h := (hperm.map _).nodup_iff.mpr h }

theorem Carries.wakeWith (messages rest : List WaiterMessage) (now : Nat) (htasks : s.tasks = [])
    (hm : s.messages = messages ++ rest) :
    Carries s ({ s with messages := rest }.wakeWith messages now) := by
  refine .of_waiter (.inr rfl) rfl rfl id rfl (fun p hp _ => .inl ?_) fun ticket ha => .inl ?_
  · simp only [Lane.tracked, Lane.wakeWith, htasks, hm, filterMap_append, mem_append,
      filterMap_nil, not_mem_nil, false_or] at hp ⊢
    rcases hp with (htold | hmore) | hpending
    · refine .inr (.inl (.inr ?_))
      rw [filterMap_map]
      exact htold
    · exact .inl hmore
    · rw [← takeWhile_append_dropWhile (p := (·.deadline ≤ now)) (l := s.pending),
        mem_append] at hpending
      rcases hpending with hdue | hlater
      · refine .inr (.inl (.inl ?_))
        exact mem_filterMap.mpr ⟨_, mem_map_of_mem hdue, rfl⟩
      · exact .inr (.inr hlater)
  · obtain ⟨result, hrest | htask⟩ := ha
    · exact ⟨result, .inl (by rw [hm]; exact mem_append_right _ hrest)⟩
    · refine ⟨result, .inl ?_⟩
      rcases mem_append.mp htask with hdue | hhandle
      · obtain ⟨_, _, heq⟩ := mem_map.mp hdue
        cases heq
      · obtain ⟨message, hmessage, heq⟩ := mem_map.mp hhandle
        cases heq
        rw [hm]
        exact mem_append_left _ hmessage

theorem Carries.wake (received : Bool) (now : Nat) : Carries s (s.wake received now) := by
  rw [Lane.wake]
  split
  · rename_i hidle
    have htasks : s.tasks = [] := isEmpty_iff.mp hidle.2
    by_cases hr : received = true
    · rw [if_pos hr]
      split
      · rename_i message rest hm
        exact .wakeWith [message] rest now htasks hm
      · exact .refl
    · rw [if_neg hr]
      split
      · exact .refl
      · exact .wakeWith [] s.messages now htasks rfl
  · exact .refl

theorem Carries.finalize {pending : PendingCompletion} {result : CommandResult}
    (htasks : s.tasks = .finalize pending result :: rest) : Carries s { s with
      cache := s.cache.setFinal pending.operationId result
      tasks := .release pending result :: rest } where
  tickets := rfl
  waiting h := h
  requests _ hq := hq
  once h := h
  bindings := by
    rw [setFinal]
    split <;> rfl
  entries id cached' hlookup := by
    rw [lookup_setFinal] at hlookup
    split at hlookup
    · obtain ⟨cached, hcached, rfl⟩ := map_eq_some_iff.mp hlookup
      exact ⟨cached, hcached, rfl, rfl, fun _ => rfl⟩
    · exact ⟨cached', hlookup, rfl, rfl, fun h => h⟩
  tracked p hp _ := by
    simp only [Lane.tracked, htasks, filterMap_cons, WaiterTask.unfinalized, mem_append,
      mem_cons] at hp ⊢
    by_cases hsame : p = pending
    · refine .inr (.inr fun cached hlookup => ?_)
      rw [lookup_setFinal, hsame, if_pos rfl] at hlookup
      obtain ⟨_, _, rfl⟩ := map_eq_some_iff.mp hlookup
      rfl
    · exact .inl (by tauto)
  abandons ticket ha := by
    refine .inl (ha.imp fun r => .imp_right fun ht => ?_)
    rw [htasks]
    simpa using ht
  turn := by
    refine .inr ⟨rfl, fun id cached hlookup => ?_⟩
    by_cases hid : id = pending.operationId
    · refine ⟨{ cached with result := some result }, ?_, rfl, rfl⟩
      rw [lookup_setFinal, if_pos hid, hlookup]
      rfl
    · refine ⟨cached, ?_, rfl, rfl⟩
      rw [lookup_setFinal, if_neg hid, hlookup]

theorem Carries.task {task : WaiterTask} (htasks : s.tasks = task :: rest)
    (hdone : task.unfinalized = none) : Carries s { s with tasks := rest } := by
  refine .of_waiter (.inr rfl) rfl rfl id rfl (fun p hp _ => .inl ?_) fun ticket ha => .inl ?_
  · simpa [Lane.tracked, htasks, filterMap_cons, hdone] using hp
  · exact ha.imp fun r => .imp_right fun ht => htasks ▸ mem_cons_of_mem _ ht

theorem Carries.release (pending : PendingCompletion) (result : CommandResult) :
    Carries s ((s.release pending.terminalId).answer pending.reply result) :=
  { refl (s := s) with }

theorem Carries.takePending_finalize (ticket : Nat) (result : CommandResult) :
    Carries s (s.takePending ticket (.finalize · result)) := by
  rw [takePending]
  split
  · rename_i pending hfind
    refine .of_waiter (.inr rfl) rfl rfl id rfl (fun p hp _ => .inl ?_) fun _ ha => .inl ?_
    · simp only [Lane.tracked, filterMap_cons, WaiterTask.unfinalized, mem_append,
        mem_cons, (perm_eraseP hfind).mem_iff] at hp ⊢
      tauto
    · exact ha.imp fun r => .imp_right fun ht => by simpa using ht
  · exact .refl

theorem Carries.takePending_release (result : CommandResult)
    (h : ¬ s.Concerns ticket) : Carries s (s.takePending ticket (.release · result)) := by
  rw [takePending]
  split
  · rename_i pending hfind
    have hticket : pending.ticket = ticket := by simpa using find?_some hfind
    refine .of_waiter (.inr rfl) rfl rfl id rfl (fun p hp hc => .inl ?_) fun _ ha => .inl ?_
    · have hne : p ≠ pending := by
        rintro rfl
        exact h (hticket ▸ hc)
      simp only [Lane.tracked, filterMap_cons, WaiterTask.unfinalized, mem_append,
        mem_cons, (perm_eraseP hfind).mem_iff, hne, false_or] at hp ⊢
      tauto
    · exact ha.imp fun r => .imp_right fun ht => by simpa using ht
  · exact .refl

theorem Carries.stopWaiter : Carries s s.stopWaiter := by
  refine .of_waiter (.inr rfl) rfl rfl (fun _ => rfl) rfl (fun _ _ _ => .inr rfl) fun _ ha => .inl ?_
  obtain ⟨r, hm | ht⟩ := ha
  · cases hm
  · exact ⟨r, .inr ht⟩

variable (h : s.Delivery digest)

include h

theorem Delivery.handleMessage {message : WaiterMessage}
    (htasks : s.tasks = .handle message :: rest) :
    (({ s with tasks := rest } : Lane).handleMessage message).Delivery digest := by
  cases message with
  | registered pending =>
    have c : Carries s { s with
        tasks := rest, pending := s.pending.orderedInsert Before pending } := by
      refine .of_waiter (.inr rfl) rfl rfl id rfl (fun p hp _ => .inl ?_) fun _ ha => .inl ?_
      · simp only [tracked, htasks, filterMap_cons, WaiterTask.unfinalized, registeredOf,
          mem_append, mem_cons, mem_orderedInsert] at hp ⊢
        tauto
      · exact ha.imp fun r => .imp_right fun ht => htasks ▸ mem_cons_of_mem _ ht
    exact c.delivery h
  | completed ticket outcome =>
    exact (Carries.takePending_finalize ticket _).delivery ((Carries.task htasks rfl).delivery h)
  | abandoned ticket result =>
    have ha : s.Abandons ticket := ⟨result, .inr (by rw [htasks]; exact mem_cons_self)⟩
    have hc : ¬ ({ s with tasks := rest } : Lane).Concerns ticket := by
      rintro (⟨q, hq, rfl⟩ | hturn)
      · exact h.unabandoned q hq ha
      · exact (h.unsent ticket hturn).notices ha
    exact (Carries.takePending_release result hc).delivery ((Carries.task htasks rfl).delivery h)
  | shutdown => exact Carries.stopWaiter.delivery ((Carries.task htasks rfl).delivery h)

theorem Delivery.work : s.work.Delivery digest := by
  rw [Lane.work]
  split
  · rename_i htasks
    exact (Carries.finalize htasks).delivery h
  · rename_i htasks
    exact (Carries.release _ _).delivery ((Carries.task htasks rfl).delivery h)
  · rename_i htasks
    exact h.handleMessage htasks
  · exact h

/-! ### Steps that move an operation along -/

theorem Delivery.take : s.take.Delivery digest := by
  rw [Lane.take]
  split
  · rename_i rest _ _
    have c : Carries s { s with queue := rest } := { Carries.refl (s := s) with }
    exact c.delivery h
  · exact { h with
      issued q hq := Nat.le_succ_of_le (h.issued q hq)
      noticed ticket ha := Nat.le_succ_of_le (h.noticed ticket ha)
      unsent ticket ht := by
        obtain rfl : s.tickets + 1 = ticket := some.inj ht
        refine ⟨Nat.le_refl _, fun q hq heq => ?_, fun ha => ?_⟩
        · have := h.issued q hq
          omega
        · have := h.noticed _ ha
          omega
      readied req hr := by cases hr }
  · exact h

theorem Delivery.withTurn {turn : Turn}
    (hunsent : ∀ ticket, turn.ticket = some ticket → s.Unsent ticket)
    (hreadied : ∀ req, turn.request = some req →
      ({ s with turn := turn } : Lane).Readied digest req) :
    ({ s with turn := turn } : Lane).Delivery digest where
  __ := h
  unsent ticket ht := { hunsent ticket ht with }
  readied := hreadied

theorem Delivery.insert {input : ApplyInput} (admittedAt : Nat)
    (expiry : List (Nat × InputOperationId)) (hturn : s.turn = .idle)
    (hcount : input.events.length ≤ maxApplyInputEvents) : ({ s with cache :=
        ⟨s.cache.entries.insert input.operationId ⟨digest input, none, admittedAt, s.cache.bindings⟩,
          expiry, s.cache.bindings + 1⟩ } : Lane).Delivery digest := by
  have hold : ∀ q ∈ s.requests, ∀ cached,
      (s.cache.entries.insert input.operationId
        ⟨digest input, none, admittedAt, s.cache.bindings⟩).lookup q.op.input.operationId = some cached →
      cached.binding = q.binding → s.cache.entries.lookup q.op.input.operationId = some cached := by
    intro q hq cached hlookup hbinding
    by_cases hid : q.op.input.operationId = input.operationId
    · rw [hid, lookup_insert] at hlookup
      obtain rfl := some.inj hlookup
      have hlt := h.numbered q hq
      have heq : s.cache.bindings = q.binding := hbinding
      omega
    · rwa [lookup_insert_ne hid] at hlookup
  exact { h with
    numbered q hq := Nat.lt_succ_of_lt (h.numbered q hq)
    entries id cached hlookup := by
      by_cases hid : id = input.operationId
      · dsimp only at hlookup
        rw [hid, lookup_insert] at hlookup
        obtain rfl := some.inj hlookup
        exact ⟨Nat.lt_succ_self _, input, hid.symm, hcount, rfl⟩
      · dsimp only at hlookup
        rw [lookup_insert_ne hid] at hlookup
        exact (h.entries id cached hlookup).imp_left Nat.lt_succ_of_lt
    payload q hq cached hlookup hbinding :=
      h.payload q hq cached (hold q hq cached hlookup hbinding) hbinding
    settled q hq cached hlookup hbinding :=
      h.settled q hq cached (hold q hq cached hlookup hbinding) hbinding
    unsent ticket ht := by
      rw [show _ = s.turn from rfl, hturn] at ht
      cases ht
    readied req hr := by
      rw [show _ = s.turn from rfl, hturn] at hr
      cases hr }

omit h

def Apart (digest : ApplyInput → Bytes) : Prop :=
  ∀ a b : ApplyInput, a.events.length ≤ maxApplyInputEvents →
    b.events.length ≤ maxApplyInputEvents → digest a = digest b → a = b

include h

variable {op : Acknowledged}

/-- While an operation holds its terminal, no request of the entry it finds without a result
can be on its way, or the waiter is gone. -/
theorem Delivery.first (hapart : Apart digest)
    (hadmitted : s.Admitted) (hop : s.turn.operation = some op)
    (hcount : op.input.events.length ≤ maxApplyInputEvents)
    (hcached : s.cache.entries.lookup op.input.operationId = some cached)
    (hdigest : cached.digest = digest op.input) (hresult : cached.result = none) :
    (op.input.operationId, cached.binding) ∉ s.requests.map (·.key) ∨ s.waiting = false := by
  by_cases hw : s.waiting = false
  · exact .inr hw
  refine .inl fun hmem => ?_
  obtain ⟨q, hq, hkey⟩ := mem_map.mp hmem
  have hid : q.op.input.operationId = op.input.operationId := congrArg Prod.fst hkey
  have hbinding : cached.binding = q.binding := (congrArg Prod.snd hkey).symm
  have hsame : q.op.input = op.input :=
    hapart _ _ (h.counted q hq) hcount
      ((h.payload q hq cached (hid ▸ hcached) hbinding).symm.trans hdigest)
  rcases h.settled q hq cached (hid ▸ hcached) hbinding with hdone | ⟨p, hp, _, _, hterminal⟩ | hgone
  · rw [hresult] at hdone
    cases hdone
  · -- The terminal would be held by the lane and by the waiter at once.
    have hlane : op.input.terminalId ∈ s.preparing.map (·.input.terminalId) := by
      rw [preparing, hop]
      simp
    have hwaiter : op.input.terminalId ∈ s.awaiting.map (·.terminalId) := by
      rw [← hsame, ← hterminal]
      refine mem_map_of_mem ?_
      simp only [tracked, awaiting, mem_append] at hp ⊢
      rcases hp with htold | htask | hpending
      · exact .inl htold
      · refine .inr (.inl ?_)
        obtain ⟨task, htask, hsome⟩ := mem_filterMap.mp htask
        refine mem_filterMap.mpr ⟨task, htask, ?_⟩
        cases task with
        | finalize _ _ | handle _ => exact hsome
        | release _ _ => cases hsome
      · exact .inr (.inr hpending)
    exact Holds.apart hadmitted hlane hwaiter
  · exact hw hgone

theorem Delivery.bindBatch (hapart : Apart digest)
    (hadmitted : s.Admitted) (hturn : s.turn = .preparing op ticket) :
    (s.bindBatch digest op ticket).Delivery digest := by
  rw [Lane.bindBatch]
  by_cases hcount : op.input.events = [] ∨ maxApplyInputEvents < op.input.events.length
  · rw [if_pos hcount]
    exact (Carries.refuse op _ s.cache rfl fun _ _ h => h).delivery h
  rw [if_neg hcount]
  obtain ⟨_, hle⟩ := not_or.mp hcount
  have hmax : op.input.events.length ≤ maxApplyInputEvents := Nat.le_of_not_lt hle
  have hprune : ∀ id cached, (s.cache.pruneExpired op.admittedAt).entries.lookup id = some cached →
      s.cache.entries.lookup id = some cached := fun _ _ => lookup_pruneExpired
  have hunsent := h.unsent ticket (by rw [hturn]; rfl)
  have hidle := (Carries.idle (s.cache.pruneExpired op.admittedAt) rfl hprune).delivery h
  have hrefused : ∀ result, (({ s with cache := s.cache.pruneExpired op.admittedAt } :
      Lane).refuse op result).Delivery digest :=
    fun result => (Carries.refuse op result (s.cache.pruneExpired op.admittedAt) rfl hprune).delivery h
  have hbinds := (s.cache.pruneExpired op.admittedAt).bindPruned_binds op.input.operationId
    (digest op.input) op.admittedAt
  dsimp only [bindAt]
  generalize (s.cache.pruneExpired op.admittedAt).bindPruned op.input.operationId
    (digest op.input) op.admittedAt = answer at hbinds ⊢
  obtain ⟨binding, cache⟩ := answer
  dsimp only at hbinds ⊢
  cases hbinds with
  | conflict | final | full => exact hrefused _
  | pending hcached hdigest hresult =>
    rename_i cached
    rw [hcached]
    refine hidle.withTurn ?_ ?_
    · intro t ht
      obtain rfl := some.inj ht
      exact { hunsent with }
    · intro req hr
      obtain rfl := some.inj hr
      refine ⟨⟨hmax, cached, hcached, rfl, hdigest⟩, ?_, fun h => by cases h⟩
      have hfirst := h.first hapart hadmitted (by rw [hturn]; rfl) hmax (hprune _ _ hcached) hdigest hresult
      exact hfirst.imp_right fun hw => ⟨hw, fun h => by cases h⟩
  | new habsent hfull =>
    rw [lookup_insert]
    refine (hidle.insert op.admittedAt _ rfl hmax).withTurn ?_ ?_
    · intro t ht
      obtain rfl := some.inj ht
      exact { hunsent with }
    · intro req hr
      obtain rfl := some.inj hr
      refine ⟨⟨hmax, _, lookup_insert _, rfl, rfl⟩, .inl fun hmem => ?_, fun h => by cases h⟩
      obtain ⟨q, hq, hkey⟩ := mem_map.mp hmem
      have hlt := h.numbered q hq
      have heq : q.binding = s.cache.bindings := congrArg Prod.snd hkey
      omega

theorem Delivery.encode (view : PaneView) : (s.encode view).Delivery digest := by
  rw [Lane.encode]
  split
  · rename_i op ticket binding hturn
    split
    · rename_i bytes _
      have hr := h.readied ⟨op, ticket, binding, []⟩ (by rw [hturn]; rfl)
      refine h.withTurn ?_ ?_
      · intro t ht
        exact h.unsent t (by rw [hturn]; exact ht)
      · intro req hrequest
        obtain rfl := some.inj hrequest
        exact ⟨hr.bound, hr.first.imp_right fun hw => ⟨hw.1, fun h => by cases h⟩, fun h => by cases h⟩
    · exact (Carries.refuse op _ s.cache rfl fun _ _ h => h).delivery h
  · exact h

theorem Delivery.register (now : Nat) : (s.register now).Delivery digest := by
  rw [Lane.register]
  split
  · rename_i req hturn
    by_cases hw : s.waiting = true
    · rw [if_pos hw]
      have hr := h.readied req (by rw [hturn]; rfl)
      have hu := h.unsent req.ticket (by rw [hturn]; rfl)
      have hc : Carries s (s.notify [.registered (req.pending now)]) := .notify (by simp)
      have hn := hc.delivery h
      have hne : (s.notify [.registered (req.pending now)]).turn ≠ .idle := by
        rw [notify_turn, hturn]
        intro h
        cases h
      refine hn.withTurn ?_ ?_
      · intro t ht
        obtain rfl := some.inj ht
        exact hc.unsent hne hu
      · intro request' hr'
        obtain rfl := some.inj hr'
        have hr'' := hc.readied hne hr
        have hstill : (s.notify [.registered (req.pending now)]).waiting = true := by
          simp [notify, hw]
        refine ⟨hr''.bound, .inl (hr''.first.resolve_right fun hgone => ?_), fun _ cached _ _ => ?_⟩
        · rw [hstill] at hgone
          exact absurd hgone.1 (by simp)
        · refine .inr (.inl ⟨req.pending now, ?_, rfl, rfl, rfl⟩)
          simp [tracked, notify, hw, registeredOf]
    · rw [if_neg hw]
      exact (Carries.refuse req.op _ s.cache rfl fun _ _ h => h).delivery h
  · exact h

theorem Delivery.sent (hturn : s.turn = .registered req) :
    ({ s with turn := .idle, mailbox := s.mailbox ++ [req] } : Lane).Delivery digest := by
  have hr := h.readied req (by rw [hturn]; rfl)
  have hu := h.unsent req.ticket (by rw [hturn]; rfl)
  have hfirst : req.key ∉ s.requests.map (·.key) := hr.first.resolve_right fun hw => hw.2 hturn
  obtain ⟨hcount, cached, hcached, hbinding, hdigest⟩ := hr.bound
  have hperm : (s.mailbox ++ [req] ++ s.handed).Perm (req :: s.requests) := by
    rw [append_assoc]
    exact perm_middle
  have hcases : ∀ q ∈ s.mailbox ++ [req] ++ s.handed, q = req ∨ q ∈ s.requests :=
    fun q hq => mem_cons.mp (hperm.mem_iff.mp hq)
  exact { h with
    issued q hq := by
      rcases hcases q hq with rfl | hold
      · exact hu.issued
      · exact h.issued q hold
    unabandoned q hq := by
      rcases hcases q hq with rfl | hold
      · exact hu.notices
      · exact h.unabandoned q hold
    once := by
      refine (hperm.map _).nodup_iff.mpr ?_
      exact nodup_cons.mpr ⟨hfirst, h.once⟩
    numbered q hq := by
      rcases hcases q hq with rfl | hold
      · exact hbinding ▸ (h.entries _ cached hcached).1
      · exact h.numbered q hold
    counted q hq := by
      rcases hcases q hq with rfl | hold
      · exact hcount
      · exact h.counted q hold
    payload q hq cached' hlookup hb := by
      rcases hcases q hq with rfl | hold
      · obtain rfl : cached = cached' := some.inj (hcached.symm.trans hlookup)
        exact hdigest
      · exact h.payload q hold cached' hlookup hb
    settled q hq := by
      rcases hcases q hq with rfl | hold
      · exact hr.settled hturn
      · exact h.settled q hold
    unsent _ ht := nomatch ht
    readied _ ht := nomatch ht }

theorem Delivery.handoff (outcome : Handoff) : (s.handoff outcome).Delivery digest := by
  rw [Lane.handoff]
  split
  · rename_i req hturn
    have hu := h.unsent req.ticket (by rw [hturn]; rfl)
    by_cases hsent : outcome = .sent
    · subst hsent
      have hnil : s.notify (handoffNotices req.ticket .sent) = s := by simp [notify, handoffNotices]
      dsimp only
      rw [hnil]
      exact h.sent hturn
    · have hidle : ({ s.notify (handoffNotices req.ticket outcome) with turn := .idle } :
          Lane).Delivery digest := by
        refine Carries.delivery (s := s) (.of_waiter (.inl rfl) ?_ ?_ ?_ (notify_requests _)
          (fun _ hp _ => .inl (tracked_notify hp)) ?_) h
        · simp only [notify]
          split <;> rfl
        · simp only [notify]
          split <;> rfl
        · intro hw
          simp [notify, hw]
        · intro ticket ha
          rcases abandons_notify ha with hold | ⟨result, hnew⟩
          · exact .inl hold
          · obtain rfl : ticket = req.ticket := by
              cases outcome <;> simp [handoffNotices] at hnew <;> omega
            exact .inr ⟨rfl, hu.issued, hu.requests⟩
      cases outcome with
      | sent => exact absurd rfl hsent
      | refused | changed | full | closed => exact hidle
  · exact h

theorem Delivery.next (step : Step) (hapart : Apart digest) (hadmitted : s.Admitted)
    : (s.next digest step).Delivery digest := by
  cases step with
  | applyInput clientId input now => exact (Carries.applyInput clientId input now).delivery h
  | route clientId terminalId event => exact (Carries.route clientId terminalId event).delivery h
  | take => exact h.take
  | bind =>
    rw [Lane.next, Lane.bind]
    split
    · rename_i hturn
      exact h.bindBatch hapart hadmitted hturn
    · exact h
  | encode view => exact h.encode view
  | register now => exact h.register now
  | handoff outcome => exact h.handoff outcome
  | wake received now => exact (Carries.wake received now).delivery h
  | work => exact h.work
  | forward ticket accepted =>
    rw [Lane.next, Lane.forward]
    split
    · rename_i hfind
      dsimp only
      split
      · exact (Carries.forward hfind).delivery h
      · exact (Carries.notify (by simp)).delivery ((Carries.mailbox _).delivery h)
    · exact h
  | report ticket outcome =>
    rw [Lane.next, Lane.report]
    split
    · have c : Carries s { s with writing := s.writing.eraseP (·.ticket = ticket) } :=
        { Carries.refl (s := s) with }
      exact (Carries.notify (by simp)).delivery (c.delivery h)
    · exact h
  | discard ticket =>
    rw [Lane.next, Lane.discard]
    split
    · exact (Carries.notify (by simp)).delivery ((Carries.mailbox _).delivery h)
    · exact h
  | shutdown => exact (Carries.notify (by simp)).delivery h

omit h

theorem spawn_delivery : spawn.Delivery digest where
  issued := nofun
  noticed _ ha := by
    obtain ⟨_, hm | ht⟩ := ha
    · cases hm
    · cases ht
  unabandoned := nofun
  once := nodup_nil
  numbered := nofun
  entries _ _ hlookup := by cases hlookup
  counted := nofun
  payload := nofun
  settled := nofun
  unsent _ ht := nomatch ht
  readied _ ht := nomatch ht

theorem after_delivery (hapart : Apart digest) (steps : List Step) :
    (after digest steps).Delivery digest := by
  have hstep : ∀ (s : Lane) (step : Step), s.Admitted ∧ s.Delivery digest →
      (s.next digest step).Admitted ∧ (s.next digest step).Delivery digest :=
    fun _ step h => ⟨h.1.next digest step, h.2.next step hapart h.1⟩
  exact (Machine.run_invariant hstep ⟨after_admitted digest [], spawn_delivery⟩).2

end Lane

end Phux.InputLane
