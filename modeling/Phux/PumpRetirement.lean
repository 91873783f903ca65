import Phux.PumpProgress
import Phux.PumpSequencing

/-! What may still reach a retired pump without bringing it back. -/

namespace Phux

open ByteReader PumpGeneration OutputPumpContext List

variable {ctx : OutputPumpContext} {reply : ActorReply} {s s' t : PumpState}

/-- In `s'` the pump is retired without a gap fence, and since `s` it sent no frame and took no
resync. -/
structure StaysRetired (s s' : PumpState) : Prop where
  inactive : s'.generation.generationActive = false
  unfenced : s'.generation.gapPending = false
  bootstrapId : s'.generation.bootstrapId = s.generation.bootstrapId
  sent : s'.mailbox.sent = s.mailbox.sent

/-- No lag, no resync for everyone or for this pump, and no tombstone of its generation that the
client's mailbox would still take. -/
def OutputPumpContext.Harmless (ctx : OutputPumpContext) (s : PumpState) :
    Except RecvError PaneOutput → Prop
  | .ok (.live _ _ _) => True
  | .ok (.control owner frame) => owner = ctx.clientId →
    (ctx.classifyControl frame s.generation.bootstrapId).targetsPump = true → s.mailbox.room = 0
  | .ok (.resync _ _ _ audience _ _) => audience.includes (ctx.resyncTarget s.generation) = false
  | .error (.lagged _) => False
  | .error .closed => True

def OutputPumpContext.NextHarmless (ctx : OutputPumpContext) (s : PumpState) : Prop :=
  ∀ d ∈ s.outputRx.head?, ctx.Harmless s d.received

theorem StaysRetired.trans (h : StaysRetired s s') (h' : StaysRetired s' t) : StaysRetired s t :=
  ⟨h'.inactive, h'.unfenced, h'.bootstrapId.trans h.bootstrapId, h'.sent.trans h.sent⟩

theorem StaysRetired.rebase (h : StaysRetired s s') (h' : StaysRetired s t) : StaysRetired s' t :=
  ⟨h'.inactive, h'.unfenced, h'.bootstrapId.trans h.bootstrapId.symm, h'.sent.trans h.sent.symm⟩

theorem nextBootstrapId_ne (b : BootstrapId) : nextBootstrapId b ≠ b := by
  intro heq
  have hraw := congrArg BootstrapId.raw heq
  unfold nextBootstrapId at hraw
  split at hraw
  · next hwrap =>
    rw [← hraw] at hwrap
    exact absurd hwrap (by decide)
  · exact absurd hraw (by simp)

theorem forwardGatedReplay_bootstrapId {generation generation' : PumpGeneration}
    {mailbox mailbox' : Mailbox} {replay : List (UInt64 × Bytes)} {done : Bool}
    (h : ctx.forwardGatedReplay generation mailbox replay = (generation', mailbox', done)) :
    generation'.bootstrapId = generation.bootstrapId := by
  fun_induction ctx.forwardGatedReplay generation mailbox replay with
  | case1 | case3 =>
    cases h
    rfl
  | case2 _ _ _ _ _ _ ih | case4 _ _ _ _ _ _ _ _ ih => exact ih h

/-- Taking a resync always moves the pump to the next generation. -/
theorem republishGeneration_bootstrapId (cols rows : UInt16) (reason : ResyncReason)
    (baseSeq : UInt64) (bytes : Bytes) :
    (ctx.republishGeneration reply s cols rows reason baseSeq bytes).1.generation.bootstrapId =
      nextBootstrapId s.generation.bootstrapId := by
  unfold republishGeneration
  dsimp only
  split
  · unfold republishNativeGeneration
    dsimp only
    repeat' split
    all_goals first
      | rfl
      | next hreplay =>
        have hkept := forwardGatedReplay_bootstrapId hreplay
        exact hkept
  · unfold republishSynthesizedGeneration
    dsimp only
    repeat' split
    all_goals rfl

section

variable (hactive : s.generation.generationActive = false)
  (hpending : s.generation.gapPending = false)

include hactive hpending

theorem staysRetired_control_iff (ctx : OutputPumpContext) (owner : UInt64) (frame : FrameKind) :
    StaysRetired s (ctx.forwardControl s owner frame).1 ↔ ctx.Harmless s (.ok (.control owner frame)) := by
  have hsame : StaysRetired s s := ⟨hactive, hpending, rfl, rfl⟩
  by_cases howner : owner = ctx.clientId
  · by_cases htarget : (ctx.classifyControl frame s.generation.bootstrapId).targetsPump = true
    · cases hroom : s.mailbox.room with
      | zero => simpa [forwardControl, Harmless, Mailbox.send, howner, htarget, hroom] using hsame
      | succ room =>
        -- the mailbox takes the tombstone
        have hsent : ¬ StaysRetired s (ctx.forwardControl s owner frame).1 := by
          intro h
          simpa [forwardControl, Mailbox.send, howner, htarget, hroom] using h.sent
        subst howner
        simp [hsent, Harmless, htarget, hroom]
    · simpa [forwardControl, Harmless, howner, htarget] using hsame
  · simpa [forwardControl, Harmless, howner] using hsame

theorem staysRetired_resync_iff (ctx : OutputPumpContext) (reply : ActorReply)
    (cols rows : UInt16) (reason : ResyncReason)
    (audience : ResyncAudience) (baseSeq : UInt64) (bytes : Bytes) :
    StaysRetired s (ctx.applyResync reply s cols rows reason audience baseSeq bytes).1 ↔
      audience.includes (ctx.resyncTarget s.generation) = false := by
  cases haudience : audience.includes (ctx.resyncTarget s.generation) with
  | false =>
    have hkept : s.generation.takesResync audience _ = false := not_takesResync haudience
    simpa [applyResync, hkept] using (⟨hactive, hpending, rfl, rfl⟩ : StaysRetired s s)
  | true =>
    have htaken : s.generation.takesResync audience (ctx.resyncTarget s.generation) = true := by
      cases audience with
      | everyone => rfl
      | only targets => simp [takesResync, hactive, haudience]
    have hmoved : ¬ StaysRetired s
        (ctx.applyResync reply s cols rows reason audience baseSeq bytes).1 := by
      intro h
      have hid := h.bootstrapId
      simp only [applyResync, htaken, Bool.not_true, Bool.false_eq_true, ↓reduceIte,
        republishGeneration_bootstrapId] at hid
      exact nextBootstrapId_ne _ hid
    simp [hmoved]

theorem staysRetired_dispatch_iff (ctx : OutputPumpContext) (reply : ActorReply)
    (received : Except RecvError PaneOutput) :
    StaysRetired s (ctx.dispatch reply s received).1 ↔ ctx.Harmless s received := by
  have hlater : StaysRetired s (s.elapse reply.busy) := ⟨hactive, hpending, rfl, rfl⟩
  rcases received with (n | _) | (⟨seq, bytes, readAt⟩ | ⟨cols, rows, reason, audience, baseSeq, bytes⟩ |
    ⟨owner, frame⟩)
  · have hfenced : (ctx.dispatch reply s (.error (.lagged n))).1.generation.gapPending = true := by
      simp only [dispatch, requestGapResync, enqueueOutputResync]
      split <;> rfl
    simp only [Harmless, iff_false]
    intro h
    exact absurd h.unfenced (by simp [hfenced])
  · simpa [dispatch, Harmless] using hlater
  · have hblocked : ∀ seq, s.generation.forwards seq = false := by simp [forwards, hactive]
    simpa [dispatch, forwardLive, Harmless, PumpState.elapse, hblocked] using hlater
  · have hresync := staysRetired_resync_iff (s := s.elapse reply.busy) hactive hpending ctx reply
      cols rows reason audience baseSeq bytes
    exact ⟨fun h => hresync.mp (hlater.rebase h), fun h => hlater.trans (hresync.mpr h)⟩
  · have hcontrol := staysRetired_control_iff (s := s.elapse reply.busy) hactive hpending ctx owner
      frame
    exact ⟨fun h => hcontrol.mp (hlater.rebase h), fun h => hlater.trans (hcontrol.mpr h)⟩

theorem staysRetired_turn_iff (reply : ActorReply) :
    StaysRetired s (ctx.turn reply s).1 ↔ ctx.NextHarmless s := by
  cases hrx : s.outputRx with
  | nil =>
    have hsame : StaysRetired s s := ⟨hactive, hpending, rfl, rfl⟩
    simpa [turn, nextEvent, hpending, hrx, NextHarmless] using hsame
  | cons d rest =>
    have hnext := staysRetired_dispatch_iff
      (s := { s with outputRx := rest, now := max s.now d.time }) hactive hpending ctx reply d.received
    have hturn : ctx.turn reply s =
        ctx.dispatch reply { s with outputRx := rest, now := max s.now d.time } d.received := by
      simp [turn, nextEvent, hpending, hrx]
    rw [hturn]
    simp only [NextHarmless, hrx, head?_cons, Option.mem_def, Option.some.injEq, forall_eq']
    exact ⟨fun h => hnext.mp ⟨h.inactive, h.unfenced, h.bootstrapId, h.sent⟩, fun h =>
      have h' := hnext.mpr h
      ⟨h'.inactive, h'.unfenced, h'.bootstrapId, h'.sent⟩⟩

end

/-- Once retired, a pump stays so, sends nothing and takes no resync in every state it reaches,
exactly if no gap fenced it and every delivery it then meets is harmless. -/
theorem retired_pump_stays_retired_iff (ctx : OutputPumpContext)
    (hactive : s.generation.generationActive = false) (replies : List ActorReply) :
    (∀ done, done <+: replies → StaysRetired s (Loop.run ctx.turn done s).1) ↔
      s.generation.gapPending = false ∧ Loop.Always ctx.turn ctx.NextHarmless replies s := by
  induction replies generalizing s with
  | nil =>
    constructor
    · intro h
      exact ⟨(h [] nil_prefix).unfenced, trivial⟩
    · rintro ⟨hpending, -⟩ done hdone
      rw [prefix_nil.mp hdone]
      exact ⟨hactive, hpending, rfl, rfl⟩
  | cons reply replies ih =>
    constructor
    · intro h
      have hpending := (h [] nil_prefix).unfenced
      refine ⟨hpending, ?_, fun s' hturn => ?_⟩
      · refine (staysRetired_turn_iff hactive hpending reply).mp ?_
        have hone := h [reply] ⟨replies, rfl⟩
        rcases hturn : ctx.turn reply s with ⟨s', _ | w⟩
        · rwa [Loop.run_cons_next hturn] at hone
        · rwa [Loop.run_cons_stop hturn] at hone
      · have hafter : ∀ done, done <+: replies → StaysRetired s (Loop.run ctx.turn done s').1 := by
          intro done hdone
          rw [← Loop.run_cons_next hturn]
          exact h (reply :: done) (cons_prefix_cons.mpr ⟨rfl, hdone⟩)
        have hfirst := hafter [] nil_prefix
        exact ((ih hfirst.inactive).mp fun done hdone => hfirst.rebase (hafter done hdone)).2
    · rintro ⟨hpending, hnext, hrest⟩ done hdone
      have hturned := (staysRetired_turn_iff hactive hpending reply).mpr hnext
      cases done with
      | nil => exact ⟨hactive, hpending, rfl, rfl⟩
      | cons first done =>
        obtain ⟨rfl, htail⟩ := cons_prefix_cons.mp hdone
        rcases hturn : ctx.turn first s with ⟨s', _ | w⟩
        · rw [hturn] at hturned
          rw [Loop.run_cons_next hturn]
          exact hturned.trans
            ((ih hturned.inactive).mpr ⟨hturned.unfenced, hrest s' hturn⟩ done htail)
        · rw [hturn] at hturned
          rw [Loop.run_cons_stop hturn]
          exact hturned

def nativeAttach : OutputPumpContext :=
  { OutputPumpContext.rawAttach with profile := .nativeState .libghosttyCheckpointV2 }

/-- The tombstone the client's own reattach puts on the broadcast. -/
def reattachTombstone : FrameKind :=
  .bootstrapTombstone (.local 1) ⟨1, one_raw_ne⟩ ⟨1, one_raw_ne⟩ .explicitReattach 0

/-- The reattach, a lag, and the resync that answers the pump's request after the lag. -/
def laggedAfterReattach : List Delivery :=
  [⟨0, .ok (.control 1 reattachTombstone)⟩, ⟨0, .error (.lagged 1)⟩,
    ⟨0, .ok (.resync 80 24 .outboundGap
      (.only [nativeAttach.resyncTarget (.openedAt 0 ⟨1, one_raw_ne⟩ 0)]) 0 [])⟩]

def capturing : ActorReply :=
  { ActorReply.silent with
    capture := fun b => .captured
      ⟨[.bootstrapBegin (.local 1) ⟨1, one_raw_ne⟩ b nativeAttach.profile 80 24 0,
        .bootstrapReady (.local 1) ⟨1, one_raw_ne⟩ b none], 0, []⟩
    activate := fun _ _ => some ⟨[], []⟩ }

theorem lag_revives_retired_pump :
    let run := fun n => (runOutputPump nativeAttach ⟨0, [], none⟩ laggedAfterReattach 9 0
      (replicate n capturing)).1
    nativeAttach.publishesNativeCheckpoints = true ∧
      (run 1).generation.generationActive = false ∧ (run 1).mailbox.sent = [reattachTombstone] ∧
      (run 2).requests = [nativeAttach.resyncTarget (run 1).generation] ∧
      (run 3).generation.generationActive = true ∧
      (run 3).mailbox.sent = [reattachTombstone,
        .bootstrapBegin (.local 1) ⟨1, one_raw_ne⟩ ⟨2, two_raw_ne⟩ nativeAttach.profile 80 24 0,
        .bootstrapReady (.local 1) ⟨1, one_raw_ne⟩ ⟨2, two_raw_ne⟩ none] :=
  ⟨rfl, rfl, rfl, rfl, rfl, rfl⟩

def reattachedPump (outputRx : List Delivery) : PumpState where
  generation := (PumpGeneration.openedAt 0 ⟨1, one_raw_ne⟩ 0).retire
  mailbox := ⟨[reattachTombstone], 9⟩
  outputRx := outputRx
  requests := []
  now := 0

theorem reattached_pump_stays_retired :
    StaysRetired (reattachedPump [⟨0, .ok (.live 1 [104] 0)⟩, ⟨0, .error .closed⟩])
      (Loop.run nativeAttach.turn [capturing, capturing]
        (reattachedPump [⟨0, .ok (.live 1 [104] 0)⟩, ⟨0, .error .closed⟩])).1 := by
  refine (retired_pump_stays_retired_iff nativeAttach rfl [capturing, capturing]).mpr ⟨rfl, ?_⟩ _
    prefix_rfl
  refine ⟨?_, fun s' hturn => ⟨?_, fun _ _ => trivial⟩⟩
  · intro d hd
    cases hd
    trivial
  · cases hturn
    intro d hd
    cases hd
    trivial

end Phux
