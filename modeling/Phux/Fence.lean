import Phux.FrameKind
import Phux.Table
import Phux.Gate

/-! The fence in front of a client's writer. It remembers, per resource, the one
generation the client may receive, and holds back frames of any other. -/

namespace Phux

inductive Outbound where
  | frame (frame : FrameKind)
  | terminalError (requestId : Option UInt32) (code : ErrorCode) (message : String)

abbrev Generation := StreamId × BootstrapId

structure OutboundGeneration where
  streamId : StreamId
  bootstrapId : BootstrapId
  retired : Bool
deriving DecidableEq

def OutboundGeneration.sameIdentity (current : OutboundGeneration) (streamId : StreamId)
    (bootstrapId : BootstrapId) : Bool :=
  current.streamId == streamId && current.bootstrapId == bootstrapId

inductive OutboundTerminalState where
  | generation (current : OutboundGeneration)
  | closed
deriving DecidableEq

abbrev OutboundGenerationFence := Table ResourceId OutboundTerminalState

def generationOfOutboundFrame : FrameKind → Option (ResourceId × StreamId × BootstrapId)
  | .bootstrapChunk terminalId streamId bootstrapId _ _ => some (terminalId, streamId, bootstrapId)
  | .bootstrapReady terminalId streamId bootstrapId _ => some (terminalId, streamId, bootstrapId)
  | .historyPage terminalId streamId bootstrapId _ _ _ _ _ =>
    some (terminalId, streamId, bootstrapId)
  | .historyTombstone terminalId streamId bootstrapId _ _ =>
    some (terminalId, streamId, bootstrapId)
  | .historyRejected terminalId streamId bootstrapId _ _ _ _ =>
    some (terminalId, streamId, bootstrapId)
  | .resourceOutput terminalId streamId bootstrapId _ _ => some (terminalId, streamId, bootstrapId)
  | _ => none

namespace OutboundGenerationFence

variable (fence : OutboundGenerationFence)

def current (terminalId : ResourceId) : Option OutboundGeneration :=
  match fence terminalId with
  | some (.generation generation) => some generation
  | some .closed => none
  | none => none

def isClosed (terminalId : ResourceId) : Bool :=
  fence terminalId == some .closed

def admitBegin (terminalId : ResourceId) (streamId : StreamId)
    (bootstrapId : BootstrapId) : OutboundGenerationFence × Bool :=
  if isClosed fence terminalId || (current fence terminalId).any fun current =>
      current.retired && current.sameIdentity streamId bootstrapId then
    (fence, false)
  else (fence.insert terminalId (.generation ⟨streamId, bootstrapId, false⟩), true)

def admitTombstone (terminalId : ResourceId) (streamId : StreamId)
    (bootstrapId : BootstrapId) : OutboundGenerationFence × Bool :=
  if isClosed fence terminalId || (current fence terminalId).any fun current =>
      !current.sameIdentity streamId bootstrapId then
    (fence, false)
  else (fence.insert terminalId (.generation ⟨streamId, bootstrapId, true⟩), true)

def admitData (terminalId : ResourceId) (streamId : StreamId) (bootstrapId : BootstrapId) : Bool :=
  !isClosed fence terminalId && (current fence terminalId).all fun current =>
    !current.retired && current.sameIdentity streamId bootstrapId

/-- Offer one message; the fence moves on before the next one is considered. -/
def admits (message : Outbound) : OutboundGenerationFence × Bool :=
  match message with
  | .frame (.bootstrapBegin terminalId streamId bootstrapId _ _ _ _) =>
    admitBegin fence terminalId streamId bootstrapId
  | .frame (.bootstrapTombstone terminalId streamId bootstrapId _ _) =>
    admitTombstone fence terminalId streamId bootstrapId
  | .frame (.resourceClosed terminalId _ _) => (fence.insert terminalId .closed, true)
  | .frame frame =>
    (fence, match generationOfOutboundFrame frame with
      | none => true
      | some (terminalId, streamId, bootstrapId) => admitData fence terminalId streamId bootstrapId)
  | .terminalError _ _ _ => (fence, true)

end OutboundGenerationFence

inductive FenceMove where
  | begins (terminalId : ResourceId) (g : Generation)
  | retires (terminalId : ResourceId) (g : Generation)
  | closes (terminalId : ResourceId)
  | carries (terminalId : ResourceId) (g : Generation)
  | unbound
deriving DecidableEq

def Outbound.move : Outbound → FenceMove
  | .frame (.bootstrapBegin terminalId streamId bootstrapId _ _ _ _) =>
    .begins terminalId (streamId, bootstrapId)
  | .frame (.bootstrapTombstone terminalId streamId bootstrapId _ _) =>
    .retires terminalId (streamId, bootstrapId)
  | .frame (.resourceClosed terminalId _ _) => .closes terminalId
  | .frame kind =>
    match generationOfOutboundFrame kind with
    | none => .unbound
    | some (terminalId, streamId, bootstrapId) => .carries terminalId (streamId, bootstrapId)
  | .terminalError _ _ _ => .unbound

namespace OutboundGenerationFence

variable {fence fence' : OutboundGenerationFence} {message : Outbound} {t : ResourceId}
  {g : Generation}

def entry (g : Generation) (retired : Bool) : Option OutboundTerminalState :=
  some (.generation ⟨g.1, g.2, retired⟩)

def Passes (fence : OutboundGenerationFence) : FenceMove → Prop
  | .begins t g => fence t ≠ some .closed ∧ fence t ≠ entry g true
  | .retires t g => fence t = none ∨ ∃ retired, fence t = entry g retired
  | .closes _ => True
  | .carries t g => fence t = none ∨ fence t = entry g false
  | .unbound => True

def after (fence : OutboundGenerationFence) : FenceMove → OutboundGenerationFence
  | .begins t g => fence.insert t (.generation ⟨g.1, g.2, false⟩)
  | .retires t g => fence.insert t (.generation ⟨g.1, g.2, true⟩)
  | .closes t => fence.insert t .closed
  | .carries _ _ => fence
  | .unbound => fence

def Answers (fence : OutboundGenerationFence) (move : FenceMove)
    (answer : OutboundGenerationFence × Bool) : Prop :=
  (Passes fence move ∧ answer = (after fence move, true)) ∨
    (¬ Passes fence move ∧ answer = (fence, false))

theorem entry_ne {g' : Generation} (h : g' ≠ g) {r r' : Bool} : entry g' r' ≠ entry g r := by
  intro heq
  simp only [entry, Option.some.injEq, OutboundTerminalState.generation.injEq,
    OutboundGeneration.mk.injEq] at heq
  exact h (Prod.ext heq.1 heq.2.1)

theorem generation_eq_entry {c : OutboundGeneration} {retired : Bool} :
    some (.generation c) = entry g retired ↔
      c.sameIdentity g.1 g.2 = true ∧ c.retired = retired := by
  obtain ⟨s, b, r⟩ := c
  simp [entry, OutboundGeneration.sameIdentity, and_assoc]

theorem answers_admitBegin : Answers fence (.begins t g) (admitBegin fence t g.1 g.2) := by
  cases hf : fence t with
  | none => simp [Answers, Passes, admitBegin, isClosed, current, hf, after, entry]
  | some state =>
    cases state with
    | closed => simp [Answers, Passes, admitBegin, isClosed, hf]
    | generation c =>
      by_cases h : c.sameIdentity g.1 g.2 = true ∧ c.retired = true
      · simp [Answers, Passes, admitBegin, current, hf, generation_eq_entry, h]
      · have hkeep : (c.retired && c.sameIdentity g.1 g.2) = false := by simpa [and_comm] using h
        simp [Answers, Passes, admitBegin, isClosed, current, hf, generation_eq_entry, h, hkeep,
          after]

theorem answers_admitTombstone : Answers fence (.retires t g) (admitTombstone fence t g.1 g.2) := by
  cases hf : fence t with
  | none => simp [Answers, Passes, admitTombstone, isClosed, current, hf, after]
  | some state =>
    cases state with
    | closed => simp [Answers, Passes, admitTombstone, isClosed, hf, entry]
    | generation c =>
      by_cases h : c.sameIdentity g.1 g.2 = true
      · simp [Answers, Passes, admitTombstone, isClosed, current, hf, generation_eq_entry, h, after]
      · simp [Answers, Passes, admitTombstone, isClosed, current, hf, generation_eq_entry, h]

theorem admitData_iff : admitData fence t g.1 g.2 = true ↔ Passes fence (.carries t g) := by
  cases hf : fence t with
  | none => simp [Passes, admitData, isClosed, current, hf]
  | some state =>
    cases state with
    | closed => simp [Passes, admitData, isClosed, hf, entry]
    | generation c => simp [Passes, admitData, isClosed, current, hf, generation_eq_entry, and_comm]

theorem answers_admitData : Answers fence (.carries t g) (fence, admitData fence t g.1 g.2) := by
  by_cases h : Passes fence (.carries t g)
  · exact .inl ⟨h, by rw [admitData_iff.mpr h, after]⟩
  · have hd : admitData fence t g.1 g.2 = false := by simpa [← admitData_iff] using h
    exact .inr ⟨h, by rw [hd]⟩

theorem answers_admits (fence : OutboundGenerationFence) (message : Outbound) :
    Answers fence message.move (admits fence message) := by
  cases message with
  | terminalError => exact .inl ⟨trivial, rfl⟩
  | frame kind =>
    cases kind with
    | bootstrapBegin t s b => exact answers_admitBegin
    | bootstrapTombstone t s b => exact answers_admitTombstone
    | bootstrapChunk t s b | bootstrapReady t s b | historyPage t s b | historyTombstone t s b
    | historyRejected t s b | resourceOutput t s b => exact answers_admitData
    | _ => exact .inl ⟨trivial, rfl⟩

theorem passes_of_admits (h : admits fence message = (fence', true)) :
    Passes fence message.move ∧ fence' = after fence message.move := by
  rcases answers_admits fence message with ⟨hpass, heq⟩ | ⟨-, heq⟩
  · rw [heq] at h
    exact ⟨hpass, by simpa using h.symm⟩
  · rw [heq] at h
    simp at h

theorem after_cases {move : FenceMove} :
    after fence move t = fence t ∨ (∃ g, move = .begins t g ∧ after fence move t = entry g false) ∨
      (∃ g, move = .retires t g ∧ after fence move t = entry g true) ∨
      (move = .closes t ∧ after fence move t = some .closed) := by
  cases move with
  | carries | unbound => exact .inl rfl
  | begins t' g =>
    by_cases h : t = t'
    · subst h
      exact .inr (.inl ⟨g, rfl, Table.insert_self ..⟩)
    · exact .inl (Table.insert_of_ne h ..)
  | retires t' g =>
    by_cases h : t = t'
    · subst h
      exact .inr (.inr (.inl ⟨g, rfl, Table.insert_self ..⟩))
    · exact .inl (Table.insert_of_ne h ..)
  | closes t' =>
    by_cases h : t = t'
    · subst h
      exact .inr (.inr (.inr ⟨rfl, Table.insert_self ..⟩))
    · exact .inl (Table.insert_of_ne h ..)

theorem same_of_retires {g' : Generation} {b : Bool} (hpass : Passes fence (.retires t g'))
    (hheld : fence t = entry g b) : g' = g := by
  by_contra hgg
  rcases hpass with hnone | ⟨r, hr⟩
  · simp [hheld, entry] at hnone
  · exact absurd (hr.symm.trans hheld) (entry_ne hgg)

end OutboundGenerationFence

open OutboundGenerationFence

structure FenceLaw (sent : List Outbound) : Prop where
  /-- A retired generation begins or carries data only after another one of its resource began. -/
  retired : ∀ {before between rest : List Outbound} {tombstone later : Outbound} {t : ResourceId}
    {g : Generation}, sent = before ++ tombstone :: (between ++ later :: rest) →
    tombstone.move = .retires t g → later.move = .begins t g ∨ later.move = .carries t g →
    ∃ m ∈ between, ∃ g', g' ≠ g ∧ m.move = .begins t g'
  /-- A retired generation carries data only after it began anew. -/
  renewed : ∀ {before between rest : List Outbound} {tombstone later : Outbound} {t : ResourceId}
    {g : Generation}, sent = before ++ tombstone :: (between ++ later :: rest) →
    tombstone.move = .retires t g → later.move = .carries t g → ∃ m ∈ between, m.move = .begins t g
  /-- Nothing bound to a generation of a closed resource follows. -/
  closed : ∀ {before between rest : List Outbound} {closing later : Outbound} {t : ResourceId}
    {g : Generation}, sent = before ++ closing :: (between ++ later :: rest) →
    closing.move = .closes t →
    later.move ≠ .begins t g ∧ later.move ≠ .retires t g ∧ later.move ≠ .carries t g
  /-- Data names the generation that began last. -/
  latest : ∀ {before between rest : List Outbound} {beginning later : Outbound} {t : ResourceId}
    {g g' : Generation}, sent = before ++ beginning :: (between ++ later :: rest) →
    beginning.move = .begins t g → (∀ m ∈ between, ∀ g', m.move ≠ .begins t g') →
    later.move = .carries t g' → g' = g

section

variable {sent before between rest : List Outbound} {first later : Outbound} {t : ResourceId}
  {g g' : Generation} {start fin : OutboundGenerationFence}
variable (h : Gate.Admits admits start sent fin)
  (hsent : sent = before ++ first :: (between ++ later :: rest))
include h hsent

/-- The fence around two admitted messages: where the first leaves it, and where it stands when
the second passes. -/
theorem passes_around : ∃ fence s s', Passes fence first.move ∧ s = after fence first.move ∧
      Gate.Admits admits s between s' ∧ Passes s' later.move := by
  rw [hsent] at h
  obtain ⟨fence, s, -, hfirst, hrest⟩ := h.middle
  obtain ⟨s', _, hbetween, hlater, -⟩ := hrest.middle
  obtain ⟨hpass, hs⟩ := passes_of_admits hfirst
  exact ⟨fence, s, s', hpass, hs, hbetween, (passes_of_admits hlater).1⟩

theorem other_begins_after_retired (hfirst : first.move = .retires t g)
    (hlater : later.move = .begins t g ∨ later.move = .carries t g) :
    ∃ m ∈ between, ∃ g', g' ≠ g ∧ m.move = .begins t g' := by
  obtain ⟨fence, s, s', -, rfl, hrun, hpass⟩ := passes_around h hsent
  by_contra hnone
  have hq : ∀ m ∈ between, ∀ g', g' ≠ g → m.move ≠ .begins t g' := by
    intro m hm g' hg hmove
    exact hnone ⟨m, hm, g', hg, hmove⟩
  have hretired : s' t = entry g true ∨ s' t = some .closed := by
    refine hrun.invariant (fun s => s t = entry g true ∨ s t = some .closed) _
      (fun s m s' hs hkept hstep => ?_) hq (.inl (by simp [hfirst, after, entry]))
    obtain ⟨hpass, rfl⟩ := passes_of_admits hstep
    rcases after_cases with hsame | ⟨g', hm, -⟩ | ⟨g', hm, hg⟩ | ⟨-, hc⟩
    · rwa [hsame]
    · -- the retired generation itself may not begin again
      by_cases hgg : g' = g
      · subst hgg
        rw [hm] at hpass
        rcases hs with hr | hr
        · exact absurd hr hpass.2
        · exact absurd hr hpass.1
      · exact absurd hm (hkept g' hgg)
    · rw [hm] at hpass
      rcases hs with hr | hr
      · exact .inl (same_of_retires hpass hr ▸ hg)
      · simp [Passes, hr, entry] at hpass
    · exact .inr hc
  rcases hlater with hl | hl
  · rw [hl] at hpass
    exact hretired.elim hpass.2 hpass.1
  · rw [hl] at hpass
    rcases hretired with hs | hs <;> simp [Passes, hs, entry] at hpass

theorem begins_again_after_retired (hfirst : first.move = .retires t g)
    (hlater : later.move = .carries t g) :
    ∃ m ∈ between, m.move = .begins t g := by
  obtain ⟨fence, s, s', -, rfl, hrun, hpass⟩ := passes_around h hsent
  by_contra hnone
  have hq : ∀ m ∈ between, m.move ≠ .begins t g := fun m hm hmove => hnone ⟨m, hm, hmove⟩
  have hdormant : s' t ≠ none ∧ s' t ≠ entry g false := by
    refine hrun.invariant (fun s => s t ≠ none ∧ s t ≠ entry g false) _
      (fun s m s' hs hkept hstep => ?_) hq (by simp [hfirst, after, entry])
    obtain ⟨-, rfl⟩ := passes_of_admits hstep
    rcases after_cases with hsame | ⟨g', hm, hg⟩ | ⟨g', -, hg⟩ | ⟨-, hc⟩
    · rwa [hsame]
    · have hgg : g' ≠ g := fun heq => hkept (heq ▸ hm)
      exact ⟨by simp [hg, entry], by rw [hg]; exact entry_ne hgg⟩
    · exact ⟨by simp [hg, entry], by simp [hg, entry]⟩
    · exact ⟨by simp [hc], by simp [hc, entry]⟩
  rw [hlater] at hpass
  exact hpass.elim hdormant.1 hdormant.2

theorem not_passes_after_closed (hfirst : first.move = .closes t) :
    later.move ≠ .begins t g ∧ later.move ≠ .retires t g ∧ later.move ≠ .carries t g := by
  obtain ⟨fence, s, s', -, rfl, hrun, hpass⟩ := passes_around h hsent
  have hclosed : s' t = some .closed := by
    refine hrun.invariant (fun s => s t = some .closed) (fun _ => True)
      (fun s m s' hs _ hstep => ?_) (fun _ _ => trivial) (by simp [hfirst, after])
    obtain ⟨hpass, rfl⟩ := passes_of_admits hstep
    rcases after_cases with hsame | ⟨g, hm, -⟩ | ⟨g, hm, -⟩ | ⟨-, hc⟩
    · rw [hsame, hs]
    · simp [hm, Passes, hs] at hpass
    · simp [hm, Passes, hs, entry] at hpass
    · exact hc
  refine ⟨fun hl => ?_, fun hl => ?_, fun hl => ?_⟩ <;>
    simp [hl, Passes, hclosed, entry] at hpass

theorem carries_latest (hfirst : first.move = .begins t g) (hq : ∀ m ∈ between, ∀ g', m.move ≠ .begins t g')
    (hlater : later.move = .carries t g') : g' = g := by
  obtain ⟨fence, s, s', -, rfl, hrun, hpass⟩ := passes_around h hsent
  have hlatest : (∃ r, s' t = entry g r) ∨ s' t = some .closed := by
    refine hrun.invariant (fun s => (∃ r, s t = entry g r) ∨ s t = some .closed) _
      (fun s m s' hs hkept hstep => ?_) hq (.inl ⟨false, by simp [hfirst, after, entry]⟩)
    obtain ⟨hpass, rfl⟩ := passes_of_admits hstep
    rcases after_cases with hsame | ⟨g', hm, -⟩ | ⟨g', hm, hg⟩ | ⟨-, hc⟩
    · rwa [hsame]
    · exact absurd hm (hkept g')
    · rw [hm] at hpass
      rcases hs with ⟨r, hr⟩ | hr
      · exact .inl ⟨true, same_of_retires hpass hr ▸ hg⟩
      · simp [Passes, hr, entry] at hpass
    · exact .inr hc
  rw [hlater] at hpass
  by_contra hne
  rcases hlatest with ⟨r, hs⟩ | hs
  · rcases hpass with hnone | hlive
    · simp [hs, entry] at hnone
    · exact entry_ne hne (hlive.symm.trans hs)
  · simp [Passes, hs, entry] at hpass

end

/-- Whatever is offered to a fresh fence, what it admits keeps the law. -/
theorem fenceLaw_admitted (offered : List Outbound) :
    FenceLaw (Gate.admitted admits (fun _ => none) offered) := by
  have hrefused : ∀ s message, (admits s message).2 = false → (admits s message).1 = s := by
    intro s message h
    rcases answers_admits s message with ⟨-, heq⟩ | ⟨-, heq⟩
    · simp [heq] at h
    · rw [heq]
  obtain ⟨fin, h⟩ := Gate.admits_admitted hrefused (fun _ => none) offered
  exact
    { retired := other_begins_after_retired h
      renewed := begins_again_after_retired h
      closed := not_passes_after_closed h
      latest := carries_latest h }

/-- A generation that is retired twice, replaced by a second one, and then begun again. -/
def revivedGeneration : List Outbound :=
  let stream : StreamId := ⟨1, one_raw_ne⟩
  let one : BootstrapId := ⟨1, one_raw_ne⟩
  let two : BootstrapId := ⟨2, two_raw_ne⟩
  [.frame (.bootstrapBegin (.local 1) stream one .synthesizedVtRaw 80 24 0),
    .frame (.bootstrapTombstone (.local 1) stream one .outboundGap 0),
    .frame (.bootstrapTombstone (.local 1) stream one .resize 0),
    .frame (.bootstrapBegin (.local 1) stream two .synthesizedVtRaw 80 24 0),
    .frame (.bootstrapBegin (.local 1) stream one .synthesizedVtRaw 80 24 0),
    .frame (.resourceOutput (.local 1) stream one 1 [104])]

/-- The fence forgets a tombstone once another generation begins: output of the retired
generation is sent after its tombstone. -/
theorem admitted_revivedGeneration :
    Gate.admitted admits (fun _ => none) revivedGeneration = revivedGeneration ∧
      revivedGeneration.map Outbound.move = let stream : StreamId := ⟨1, one_raw_ne⟩
        let one : Generation := (stream, ⟨1, one_raw_ne⟩)
        let two : Generation := (stream, ⟨2, two_raw_ne⟩)
        [.begins (.local 1) one, .retires (.local 1) one, .retires (.local 1) one,
          .begins (.local 1) two, .begins (.local 1) one, .carries (.local 1) one] := by
  exact ⟨rfl, rfl⟩

end Phux
