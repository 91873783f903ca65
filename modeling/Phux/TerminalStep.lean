import Phux.KernelUpdate

/-! What one call can do to a terminal's replicas. Every handler of the kernel
makes one of these steps on the terminal it names and leaves the others alone. -/

namespace Phux

open ByteReader

variable {R ε : Type} {s : TerminalState R} {g : GenerationId} {r : Replica R}

inductive EngineOp where
  | chunk (payload : Bytes)
  | finish
  | budget (maxBytes maxRows : Nat)
  | output (payload : Bytes)
  | historyPage (payload : Bytes)
  | clearDocument
  | clearPresentation
  | project (width : UInt16) (origin : EngineProjectionOrigin) (maxRows : Nat)
  | track (point : DocumentPoint)
  | release (anchor : DocumentAnchorId)
  | search (needle : String) (maxMatches : Nat)
deriving DecidableEq

namespace EngineAdapter

def perform (E : EngineAdapter R ε) (replica : R) : EngineOp → R
  | .chunk payload => (E.applyBootstrapChunk replica payload).1
  | .finish => (E.finishBootstrap replica).1
  | .budget maxBytes maxRows => (E.configureHistoryBudget replica maxBytes maxRows).1
  | .output payload => (E.applyOutput replica payload).1
  | .historyPage payload => (E.applyHistoryPage replica payload).1
  | .clearDocument => E.clearDocumentState replica
  | .clearPresentation => (E.clearPresentation replica).1
  | .project width origin maxRows => (E.projectHistory replica width origin maxRows).1
  | .track point => (E.trackDocumentAnchor replica point).1
  | .release anchor => E.releaseDocumentAnchor replica anchor
  | .search needle maxMatches => (E.searchLoaded replica needle maxMatches).1

def performAll (E : EngineAdapter R ε) (replica : R) (ops : List EngineOp) : R :=
  ops.foldl E.perform replica

variable (E : EngineAdapter R ε)

variable (r : R)

@[simp] theorem performAll_nil : E.performAll r [] = r := rfl

@[simp] theorem performAll_cons (op : EngineOp) (ops : List EngineOp) :
    E.performAll r (op :: ops) = E.performAll (E.perform r op) ops := rfl

theorem performAll_append (ops more : List EngineOp) :
    E.performAll r (ops ++ more) = E.performAll (E.performAll r ops) more :=
  List.foldl_append

end EngineAdapter

namespace KernelCall

/-- The engine calls a call may make on the published replica of a terminal's
generation. The last cases are the history and document operations. -/
def Reaches (t : ResourceId) (generation : GenerationId) : KernelCall → List EngineOp → Prop
  | update (.resourceOutput u g _ payload), ops =>
    u = t ∧ g = generation ∧ ∃ rest, ops = .output payload :: rest ∧ rest.Sublist [.clearDocument]
  | update (.historyPage page), ops =>
    page.terminalId = t ∧ page.generation = generation
      ∧ ops.Sublist [.historyPage page.payload, .clearDocument]
  | update (.historyTombstone u g _ _), ops =>
    u = t ∧ g = generation ∧ ops.Sublist [.clearDocument]
  | update (.historyRejected u g _ _ _ _), ops =>
    u = t ∧ g = generation ∧ ops.Sublist [.clearDocument]
  | prefetchHistory u _, ops => u = t ∧ ops = []
  | clearPresentation u, ops => u = t ∧ ops.Sublist [.clearPresentation]
  | projectHistory u _ maxRows, ops =>
    u = t ∧ ∃ width origin, ops.Sublist [.clearDocument, .project width origin maxRows]
  | trackDocumentAnchor u point, ops => u = t ∧ ops.Sublist [.track point]
  | pinHistoryViewport u _, ops => u = t ∧ ops = []
  | followHistoryTail u, ops => u = t ∧ ops = []
  | releaseDocumentAnchor u anchor, ops => u = t ∧ ops.Sublist [.release anchor]
  | searchLoadedHistory u needle _, ops =>
    u = t ∧ ∃ maxMatches, ∃ anchors : List DocumentAnchorId,
      ops.Sublist (.search needle maxMatches :: anchors.map .release)
  | _, _ => False

def outputSeq : KernelCall → Option UInt64
  | update (.resourceOutput _ _ seq _) => some seq
  | _ => none

end KernelCall

structure Fed (E : EngineAdapter R ε) (t : ResourceId) (call : KernelCall)
    (old new : Replica R) : Prop where
  key : new.key = old.key
  geometry : new.geometry = old.geometry
  engine : ∃ ops, call.Reaches t (generationOf old.key) ops
    ∧ new.engine = E.performAll old.engine ops
  seq : match call.outputSeq with
    | some seq => old.nextSeq = some seq ∧ new.lastSeq = seq ∧ new.nextSeq = checkedNext64 seq
    | none => new.lastSeq = old.lastSeq ∧ new.nextSeq = old.nextSeq

inductive AttachMark where
  | same
  | resolve
  | lose
  | freeze

def SessionKernel.marked (k : SessionKernel R) (t : ResourceId) : AttachMark → Option AttachState
  | .same => k.attach
  | .resolve => (k.markAttachResolved t).attach
  | .lose => (k.markAttachUnresolved t (k.attachBlocks t)).attach
  | .freeze => (k.markAttachUnresolved t false).attach

/-- What a call does to a terminal whose kind is then known to be `kind`, and how it marks the
terminal's participant in the attach. -/
inductive TerminalStep (E : EngineAdapter R ε) (config : HistoryCacheConfig) (t : ResourceId)
    (call : KernelCall) (kind : Option ResourceKind) :
    TerminalState R → AttachMark → TerminalState R → Prop
  | keep (s : TerminalState R) : TerminalStep E config t call kind s .same s
  | refuse (s : TerminalState R) (g : GenerationId) (record : TombstoneRecord)
      (hlive : s.retired g = none)
      (hpublished : holdsGeneration Replica.key s.published g = false)
      (hfresh : holdsGeneration Staging.key s.staging g = false) :
      TerminalStep E config t call kind s .same { s with retired := s.retired.insert g record }
  | stage (s : TerminalState R) (g : GenerationId) (profile : BootstrapStreamProfile)
      (geometry : CanonicalGeometry) (baseSeq : UInt64) (engine : R)
      (hcall : call = .update (.bootstrapBegin t g profile geometry baseSeq))
      (hkind : kind = some .terminal) (hlive : s.retired g = none)
      (hpublished : holdsGeneration Replica.key s.published g = false)
      (hfresh : holdsGeneration Staging.key s.staging g = false)
      (hstart : E.startReplica profile geometry = .ok engine) :
      TerminalStep E config t call kind s .same { s with
        staging := some ⟨g.key t profile, geometry, baseSeq, some 0, false, false, none, engine, []⟩
        retired := match s.staging with
          | none => s.retired
          | some old => supersede s.retired (generationOf old.key) old.baseSeq }
  | chunk (s : TerminalState R) (old new : Staging R) (seq : UInt32) (payload : Bytes)
      (hcall : call = .update (.bootstrapChunk t (generationOf old.key) seq payload))
      (hold : s.staging = some old) (hseq : old.nextChunkSeq = some seq)
      (hnew : new = { old with
        engine := E.perform old.engine (.chunk payload)
        nextChunkSeq := checkedNext32 seq
        engineReady := new.engineReady
        pendingEffects := new.pendingEffects }) :
      TerminalStep E config t call kind s .same { s with staging := some new }
  | abandon (s : TerminalState R) (old : Staging R) (record : TombstoneRecord)
      (hold : s.staging = some old) (hlive : s.retired (generationOf old.key) = none) :
      TerminalStep E config t call kind s .same { s with
        staging := none
        retired := s.retired.insert (generationOf old.key) record }
  | stall (s : TerminalState R) (old new : Staging R) (hold : s.staging = some old)
      (hkey : new.key = old.key) (hready : new.protocolReady = true) :
      TerminalStep E config t call kind s .same { s with staging := some new }
  | publish (s : TerminalState R) (old : Staging R) (new : Replica R) (cursor : Option Bytes)
      (hcall : call = .update (.bootstrapReady t (generationOf old.key) cursor))
      (hold : s.staging = some old) (hready : old.protocolReady = false)
      (hkey : new.key = old.key) (hgeometry : new.geometry = old.geometry)
      (hlast : new.lastSeq = old.baseSeq) (hnext : new.nextSeq = checkedNext64 old.baseSeq)
      (hengine : new.engine = E.performAll old.engine
        [.finish, .budget config.maxBytes config.maxMaterializedRows]) :
      TerminalStep E config t call kind s .resolve {
        published := some new
        staging := none
        retired := match s.published with
          | none => s.retired
          | some old =>
            retireOnce s.retired (generationOf old.key) ⟨.explicitReattach, old.lastSeq⟩ }
  | feed (s : TerminalState R) (old new : Replica R) (hold : s.published = some old)
      (hfed : Fed E t call old new) :
      TerminalStep E config t call kind s .same { s with published := some new }
  | lose (s : TerminalState R) (old : Replica R) (record : TombstoneRecord) (seq : UInt64)
      (payload : Bytes)
      (hcall : call = .update (.resourceOutput t (generationOf old.key) seq payload))
      (hold : s.published = some old) (hlive : s.retired (generationOf old.key) = none) :
      TerminalStep E config t call kind s .lose { s with
        published := none
        retired := s.retired.insert (generationOf old.key) record }
  | tombstone (s : TerminalState R) (g : GenerationId) (record : TombstoneRecord)
      (hcall : call = .update (.tombstone t g record)) {m : AttachMark}
      (hmark : m = if holdsGeneration Replica.key s.published g then .freeze else .same) :
      TerminalStep E config t call kind s m { s with
        retired := retireOnce s.retired g record
        staging := if holdsGeneration Staging.key s.staging g then none else s.staging }

namespace SessionKernel

def terminal (k : SessionKernel R) (t : ResourceId) : TerminalState R :=
  (k.terminals t).getD .default

variable (k : SessionKernel R)

theorem published_eq (t : ResourceId) : k.published t = (k.terminal t).published := by
  unfold published terminal
  cases k.terminals t <;> rfl

@[simp] theorem terminal_setTerminal_self (t : ResourceId)
    (s : TerminalState R) : (k.setTerminal t s).terminal t = s := by
  simp [terminal, setTerminal]

variable {k} {t : ResourceId}

theorem terminal_setTerminal_of_ne {u : ResourceId} (h : u ≠ t)
    (s : TerminalState R) : (k.setTerminal t s).terminal u = k.terminal u := by
  simp [terminal, setTerminal, h]

@[simp] theorem setTerminal_setTerminal (t : ResourceId)
    (s s' : TerminalState R) : (k.setTerminal t s).setTerminal t s' = k.setTerminal t s' := by
  simp [setTerminal, Table.insert]

theorem terminal_of_known (h : k.terminals t = some s) : k.terminal t = s := by simp [terminal, h]

theorem require_cases {α : Type} {p : Outcome R ε → Prop}
    {check : Except (KernelError ε) α} {next : α → Outcome R ε}
    (hreject : ∀ error, p (k.reject error)) (hnext : ∀ a, check = .ok a → p (next a)) :
    p (k.require check next) := by
  cases h : check with
  | error error => exact hreject error
  | ok a => exact hnext a h

theorem ensureOpen_eq_ok {u : Unit} :
    (k.ensureOpen t : Except (KernelError ε) Unit) = .ok u ↔ t ∉ k.closed := by
  unfold ensureOpen
  split <;> simp_all

end SessionKernel

theorem ensureLive_eq_ok {retired : Table GenerationId TombstoneRecord} {t : ResourceId}
    {u : Unit} :
    (ensureLive retired t g : Except (KernelError ε) Unit) = .ok u ↔ retired g = none := by
  unfold ensureLive
  cases retired g <;> simp

theorem ofGeneration_eq_ok {α : Type} {key : α → ReplicaKey} {held : Option α} {t : ResourceId}
    {a : α} : (ofGeneration key held t g : Except (KernelError ε) α) = .ok a ↔
      held = some a ∧ generationOf (key a) = g := by
  cases held with
  | none => simp [ofGeneration]
  | some b =>
    by_cases hb : generationOf (key b) = g
    · simp only [ofGeneration, if_pos hb, Except.ok.injEq, Option.some.injEq]
      constructor
      · rintro rfl
        exact ⟨rfl, hb⟩
      · exact And.left
    · simp only [ofGeneration, if_neg hb, reduceCtorEq, Option.some.injEq, false_iff]
      rintro ⟨rfl, h⟩
      exact hb h

variable {staging : Staging R}

theorem Staging.expectChunk_eq_ok {seq : UInt32}
    (h : (staging.expectChunk seq : Except (KernelError ε) Unit) = .ok ()) :
    staging.engineReady = false ∧ staging.nextChunkSeq = some seq := by
  unfold expectChunk at h
  by_cases hr : staging.engineReady = true
  · simp [hr] at h
  · cases hn : staging.nextChunkSeq with
    | none => simp [hr, hn] at h
    | some expected =>
      have heq : seq = expected := by
        by_cases hlt : seq < expected
        · simp [hr, hn, hlt] at h
        · by_cases hgt : expected < seq
          · simp [hr, hn, hlt, hgt] at h
          · exact UInt32.le_antisymm (UInt32.not_lt.mp hgt) (UInt32.not_lt.mp hlt)
      exact ⟨by simpa using hr, by rw [heq]⟩

theorem Replica.expectNextSeq_eq_ok {seq : UInt64}
    (h : (r.expectNextSeq seq : Except (KernelError ε) Unit) = .ok ()) : r.nextSeq = some seq := by
  unfold expectNextSeq at h
  cases hn : r.nextSeq with
  | none => simp [hn] at h
  | some expected =>
    by_cases hlt : seq < expected
    · simp [hn, hlt] at h
    · by_cases hgt : expected < seq
      · simp [hn, hlt, hgt] at h
      · rw [UInt64.le_antisymm (UInt64.not_lt.mp hgt) (UInt64.not_lt.mp hlt)]

namespace SessionKernel

variable {k : SessionKernel R} {t : ResourceId}

theorem knownTerminal_eq_ok :
    (k.knownTerminal t : Except (KernelError ε) (TerminalState R)) = .ok s ↔
      k.terminals t = some s := by
  unfold knownTerminal
  cases k.terminals t <;> simp

theorem knownTerminal_setTerminal :
    ((k.setTerminal t s).knownTerminal t : Except (KernelError ε) _) = .ok s :=
  knownTerminal_eq_ok.mpr (Table.insert_self ..)

theorem stagedReplica_eq_ok
    (h : (k.stagedReplica t g : Except (KernelError ε) _) = .ok (s, staging)) :
    k.terminal t = s ∧ s.retired g = none ∧ s.staging = some staging
      ∧ generationOf staging.key = g := by
  simp only [stagedReplica, Fallible.bind_eq_ok, Fallible.pure_eq_ok, knownTerminal_eq_ok,
    ensureLive_eq_ok, ofGeneration_eq_ok, Prod.mk.injEq] at h
  obtain ⟨_, _, _, hs, _, hlive, _, hheld, rfl, rfl⟩ := h
  exact ⟨terminal_of_known hs, hlive, hheld⟩

theorem publishedReplica_iff : (k.publishedReplica t g : Except (KernelError ε) _) = .ok (s, r) ↔
      t ∉ k.closed ∧ k.terminals t = some s ∧ s.retired g = none ∧ s.published = some r ∧
        generationOf r.key = g := by
  simp only [publishedReplica, Fallible.bind_eq_ok, Fallible.pure_eq_ok, knownTerminal_eq_ok,
    ensureLive_eq_ok, ofGeneration_eq_ok, ensureOpen_eq_ok, Prod.mk.injEq]
  constructor
  · rintro ⟨_, hopen, _, hs, _, hlive, _, hheld, rfl, rfl⟩
    exact ⟨hopen, hs, hlive, hheld⟩
  · rintro ⟨hopen, hs, hlive, hheld⟩
    exact ⟨(), hopen, s, hs, (), hlive, r, hheld, rfl, rfl⟩

theorem publishedReplica_eq_ok (h : (k.publishedReplica t g : Except (KernelError ε) _) = .ok (s, r)) :
    k.terminal t = s ∧ s.retired g = none ∧ s.published = some r ∧ generationOf r.key = g := by
  obtain ⟨-, hs, hheld⟩ := publishedReplica_iff.mp h
  exact ⟨terminal_of_known hs, hheld⟩

end SessionKernel

/-- The calls that may change the attach. -/
def KernelCall.marks : KernelCall → Bool
  | .update (.attachStarted ..) | .update (.attachReady _) | .update (.bootstrapReady ..)
  | .update (.resourceOutput ..) | .update (.tombstone ..) | .update (.resourceClosed _)
  | .releaseActiveAttach | .detachTerminal _ => true
  | _ => false

/-- The calls that may publish, lose or freeze a terminal's replica. -/
def KernelCall.shifts (t : ResourceId) : KernelCall → Bool
  | update (.bootstrapReady u _ _) => u = t
  | update (.resourceOutput u _ _ _) => u = t
  | update (.tombstone u _ _) => u = t
  | _ => false

variable {call : KernelCall}

theorem KernelCall.shifts_of_marks (h : call.marks = false) (t : ResourceId) :
    call.shifts t = false := by
  cases call with
  | update input =>
    cases input with
    | bootstrapReady | resourceOutput | tombstone => cases h
    | _ => rfl
  | _ => rfl

variable {m : AttachMark}

theorem TerminalStep.mark_eq {E : EngineAdapter R ε} {config : HistoryCacheConfig} {t : ResourceId}
    {kind : Option ResourceKind} {s' : TerminalState R}
    (h : TerminalStep E config t call kind s m s') (hcall : call.shifts t = false) : m = .same := by
  cases h with
  | publish old new cursor hcall' | lose old record seq payload hcall' | tombstone g record hcall' =>
    simp [hcall', KernelCall.shifts] at hcall
  | _ => rfl

structure TerminalMove (E : EngineAdapter R ε) (t : ResourceId) (call : KernelCall)
    (k k' : SessionKernel R) : Prop where
  here : ∃ m, TerminalStep E k.historyConfig t call (k.kinds t) (k.terminal t) m (k'.terminal t) ∧
    k'.attach = k.marked t m
  others : ∀ u, u ≠ t → k'.terminal u = k.terminal u
  kinds : k'.kinds = k.kinds
  agents : k'.agents = k.agents
  closed : k'.closed = k.closed
  selected : k'.selectedProfile = k.selectedProfile
  config : k'.historyConfig = k.historyConfig

namespace TerminalMove

variable {E : EngineAdapter R ε} {t : ResourceId} {k k' : SessionKernel R}

theorem refl (E : EngineAdapter R ε) (t : ResourceId) (call : KernelCall) (k : SessionKernel R) :
    TerminalMove E t call k k :=
  ⟨⟨.same, .keep _, rfl⟩, fun _ _ => rfl, rfl, rfl, rfl, rfl, rfl⟩

theorem mark (h : TerminalStep E k.historyConfig t call (k.kinds t) (k.terminal t) m s) :
    TerminalMove E t call k { k.setTerminal t s with attach := k.marked t m } where
  here := ⟨m, by rwa [← SessionKernel.terminal_setTerminal_self k t s] at h, rfl⟩
  others := fun _ hu => SessionKernel.terminal_setTerminal_of_ne hu s
  kinds := rfl
  agents := rfl
  closed := rfl
  selected := rfl
  config := rfl

theorem set (h : TerminalStep E k.historyConfig t call (k.kinds t) (k.terminal t) .same s) :
    TerminalMove E t call k (k.setTerminal t s) := mark h

theorem attach (h : TerminalMove E t call k k') (hmarks : call.marks = false) :
    k'.attach = k.attach := by
  obtain ⟨m, hstep, hattach⟩ := h.here
  rw [hstep.mark_eq (KernelCall.shifts_of_marks hmarks t)] at hattach
  exact hattach

theorem require {α : Type} {check : Except (KernelError ε) α} {next : α → Outcome R ε}
    (h : ∀ a, check = .ok a → TerminalMove E t call k (next a).kernel) :
    TerminalMove E t call k (k.require check next).kernel :=
  SessionKernel.require_cases (p := fun o => TerminalMove E t call k o.kernel)
    (fun _ => .refl _ _ _ _) h

end TerminalMove

end Phux
