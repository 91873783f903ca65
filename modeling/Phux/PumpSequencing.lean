import Phux.StreamView

/-! The pump keeps its client's stream sequenced. -/

namespace Phux

open ByteReader PumpGeneration StreamView OutputPumpContext List Option

/-- A broadcast that goes on from live sequence `last`: output is numbered consecutively, and a
resync's cut is the output broadcast before it. -/
def Consecutive : Nat → List PaneOutput → Prop
  | _, [] => True
  | last, .live seq _ _ :: rest => seq.toNat = last + 1 ∧ Consecutive (last + 1) rest
  | last, .resync _ _ _ _ baseSeq _ :: rest => baseSeq.toNat = last ∧ Consecutive last rest
  | last, .control _ _ :: rest => Consecutive last rest

/-- What a receiver gets of a broadcast. Windows may be dropped, each reported as a lag before the
next event. -/
inductive Receives : List PaneOutput → List Delivery → Prop
  | pending (outputs : List PaneOutput) : Receives outputs []
  | event (time : Nat) (output : PaneOutput) {outputs : List PaneOutput} {rx : List Delivery}
      (h : Receives outputs rx) : Receives (output :: outputs) (⟨time, .ok output⟩ :: rx)
  | dropped (time : Nat) (n : UInt64) (window : List PaneOutput) {outputs : List PaneOutput}
      {rx : List Delivery} (h : Receives outputs rx) :
      Receives (window ++ outputs) (⟨time, .error (.lagged n)⟩ :: rx)
  | closed (time : Nat) (outputs : List PaneOutput) (rx : List Delivery) :
      Receives outputs (⟨time, .error .closed⟩ :: rx)

/-- The receiver stands behind live sequence `last` of a consecutive broadcast. -/
def StandsAt (last : Nat) (rx : List Delivery) : Prop :=
  ∃ outputs, Consecutive last outputs ∧ Receives outputs rx

/-- Replayed output numbered consecutively from one sequence to another. -/
def Replays : Nat → List (UInt64 × Bytes) → Nat → Prop
  | first, [], last => first = last
  | first, (seq, _) :: replay, last => seq.toNat = first + 1 ∧ Replays (first + 1) replay last

/-- The replay and the receiver together go on from no later than the cut. -/
def ContinuesFrom (cut : UInt64) (replay : List (UInt64 × Bytes)) (live : List Delivery) : Prop :=
  ∃ first last, first ≤ cut.toNat ∧ Replays first replay last ∧ StandsAt last live

def Publishes (t : ResourceId) (s : StreamId) (b : BootstrapId) (cut : UInt64)
    (frames : List FrameKind) : Prop :=
  ∃ profile cols rows chunks cursor,
    frames = .bootstrapBegin t s b profile cols rows cut ::
      (chunks ++ [.bootstrapReady t s b cursor]) ∧
    ∀ f ∈ chunks, ∃ seq payload, f = .bootstrapChunk t s b seq payload

/-- The actor captures under the id it is asked for, and replays what it broadcast since. -/
def ActorReply.Faithful (ctx : OutputPumpContext) (reply : ActorReply) : Prop :=
  ∀ b captured, reply.capture b = .captured captured →
    Publishes ctx.wireTerminalId ctx.streamId b captured.baseSeq captured.frames ∧
      ∀ publication, reply.activate b captured.publicationCursor = some publication →
        ContinuesFrom captured.baseSeq publication.replay publication.live

section

variable {last : Nat} {rx : List Delivery} {time : Nat}

theorem Consecutive.drop {window outputs : List PaneOutput}
    (h : Consecutive last (window ++ outputs)) : ∃ last', Consecutive last' outputs := by
  induction window generalizing last with
  | nil => exact ⟨last, h⟩
  | cons output window ih =>
    cases output with
    | live seq bytes readAt | resync cols rows reason audience baseSeq bytes => exact ih h.2
    | control owner frame => exact ih h

theorem StandsAt.ok {output : PaneOutput} (h : StandsAt last (⟨time, .ok output⟩ :: rx)) :
    ∃ outputs, Consecutive last (output :: outputs) ∧ Receives outputs rx := by
  obtain ⟨outputs, hc, hr⟩ := h
  cases hr with
  | event _ _ hr => exact ⟨_, hc, hr⟩

variable {seq : UInt64} {cols rows : UInt16} {baseSeq : UInt64}

variable {bytes : Bytes}

theorem StandsAt.live {readAt : Nat}
    (h : StandsAt last (⟨time, .ok (.live seq bytes readAt)⟩ :: rx)) :
    seq.toNat = last + 1 ∧ StandsAt (last + 1) rx := by
  obtain ⟨outputs, hc, hr⟩ := h.ok
  exact ⟨hc.1, outputs, hc.2, hr⟩

theorem StandsAt.resync {reason : ResyncReason} {audience : ResyncAudience}
    (h : StandsAt last (⟨time, .ok (.resync cols rows reason audience baseSeq bytes)⟩ :: rx)) :
    baseSeq.toNat = last ∧ StandsAt last rx := by
  obtain ⟨outputs, hc, hr⟩ := h.ok
  exact ⟨hc.1, outputs, hc.2, hr⟩

theorem StandsAt.control {owner : UInt64} {frame : FrameKind}
    (h : StandsAt last (⟨time, .ok (.control owner frame)⟩ :: rx)) : StandsAt last rx := by
  obtain ⟨outputs, hc, hr⟩ := h.ok
  exact ⟨outputs, hc, hr⟩

theorem StandsAt.lagged {n : UInt64} (h : StandsAt last (⟨time, .error (.lagged n)⟩ :: rx)) :
    ∃ last', StandsAt last' rx := by
  obtain ⟨outputs, hc, hr⟩ := h
  cases hr with
  | dropped _ _ window hr =>
    obtain ⟨last', hc'⟩ := hc.drop
    exact ⟨last', _, hc', hr⟩

end

section

variable {mailbox mailbox' : Mailbox} {frame : FrameKind} {frames : List FrameKind}

theorem Mailbox.send_some (h : mailbox.send frame = some mailbox') :
    mailbox'.sent = mailbox.sent ++ [frame] := by
  cases hroom : mailbox.room with
  | zero => simp [send, hroom] at h
  | succ room =>
    simp only [send, hroom, some.injEq] at h
    rw [← h]

theorem Mailbox.sendAll_sent (mailbox : Mailbox) (frames : List FrameKind) :
    ∃ taken, taken <+: frames ∧ (mailbox.sendAll frames).1.sent = mailbox.sent ++ taken ∧
      ((mailbox.sendAll frames).2 = true → taken = frames) := by
  induction frames generalizing mailbox with
  | nil => exact ⟨[], ⟨[], rfl⟩, by simp [sendAll], fun _ => rfl⟩
  | cons frame frames ih =>
    cases hsend : mailbox.send frame with
    | none => exact ⟨[], ⟨_, rfl⟩, by simp [sendAll, hsend], by simp [sendAll, hsend]⟩
    | some mailbox' =>
      obtain ⟨taken, hpre, hsent, hall⟩ := ih mailbox'
      refine ⟨frame :: taken, cons_prefix_cons.mpr ⟨rfl, hpre⟩, ?_, fun hok => ?_⟩
      · simp [sendAll, hsend, hsent, send_some hsend]
      · rw [hall (by simpa [sendAll, hsend] using hok)]

end

/-- The client's view of the stream agrees with the pump's generation. -/
structure Tracks (ctx : OutputPumpContext) (v : StreamView) (generation : PumpGeneration) :
    Prop where
  terminalId : v.terminalId = ctx.wireTerminalId
  streamId : v.streamId = ctx.streamId
  current : v.current = generation.bootstrapId
  expected : v.expected = generation.lastForwardedSeq.toNat + 1
  retired : v.retired = !generation.generationActive

/-- An open generation has forwarded everything behind its cut that was broadcast. -/
def CaughtUp (generation : PumpGeneration) (last : Nat) : Prop :=
  generation.generationActive = true → generation.gapPending = false →
    generation.lastForwardedSeq.toNat = max generation.publishedCut.toNat last

section

variable {ctx : OutputPumpContext} {v : StreamView} {generation : PumpGeneration}

theorem PumpGeneration.forwards_iff :
    generation.forwards seq = true ↔ generation.generationActive = true ∧
      generation.gapPending = false ∧ generation.publishedCut.toNat < seq.toNat := by
  simp [forwards, and_assoc, UInt64.lt_iff_toNat_lt]

variable {last : Nat}

theorem observe_outputFrame (ht : Tracks ctx v generation)
    (hc : CaughtUp generation last) (hseq : seq.toNat = last + 1)
    (hf : generation.forwards seq = true) {bytes : Bytes} :
    ∃ v', v.observe (ctx.outputFrame generation seq bytes) = some v' ∧
      Tracks ctx v' (generation.noteForwarded seq) ∧
      CaughtUp (generation.noteForwarded seq) (last + 1) := by
  obtain ⟨hactive, hopen, hcut⟩ := forwards_iff.mp hf
  have hlast := hc hactive hopen
  have hexpected : seq.toNat = v.expected := by rw [ht.expected, hlast]; omega
  have hlive : v.retired = false := by simp [ht.retired, hactive]
  have hnames : v.Names ctx.wireTerminalId ctx.streamId generation.bootstrapId :=
    ⟨ht.terminalId.symm, ht.streamId.symm, ht.current.symm⟩
  refine ⟨{ v with expected := v.expected + 1 }, ?_, ?_, ?_⟩
  · simp only [observe, OutputPumpContext.outputFrame, hnames, hlive, hexpected, and_self, if_true]
  · exact { ht with expected := by rw [← hexpected]; rfl }
  · intro _ _
    show seq.toNat = max generation.publishedCut.toNat (last + 1)
    omega

theorem CaughtUp.skip (hc : CaughtUp generation last) (hseq : seq.toNat = last + 1)
    (hf : generation.forwards seq = false) : CaughtUp generation (last + 1) := by
  intro hactive hopen
  have hcut : ¬ generation.publishedCut.toNat < seq.toNat := fun hlt => by
    simp [forwards_iff.mpr ⟨hactive, hopen, hlt⟩] at hf
  have hlast := hc hactive hopen
  omega

theorem forwardGatedReplay_follow {first : Nat} {replay : List (UInt64 × Bytes)}
    (mailbox : Mailbox) (ht : Tracks ctx v generation) (hc : CaughtUp generation first)
    (hr : Replays first replay last) :
    ∃ frames v', (ctx.forwardGatedReplay generation mailbox replay).2.1.sent =
        mailbox.sent ++ frames ∧ v.follow frames = some v' ∧
      ((ctx.forwardGatedReplay generation mailbox replay).2.2 = true →
        Tracks ctx v' (ctx.forwardGatedReplay generation mailbox replay).1 ∧
          CaughtUp (ctx.forwardGatedReplay generation mailbox replay).1 last) := by
  induction replay generalizing first generation mailbox v with
  | nil =>
    obtain rfl : first = last := hr
    exact ⟨[], v, by simp [forwardGatedReplay], rfl, fun _ => ⟨ht, hc⟩⟩
  | cons entry replay ih =>
    obtain ⟨seq, bytes⟩ := entry
    obtain ⟨hseq, hrest⟩ := hr
    cases hf : generation.forwards seq with
    | false =>
      simp only [forwardGatedReplay, hf, Bool.not_false, if_true]
      exact ih mailbox ht (hc.skip hseq hf) hrest
    | true =>
      obtain ⟨w, hw, htw, hcw⟩ := observe_outputFrame ht hc hseq hf
      cases hsend : mailbox.send (ctx.outputFrame generation seq bytes) with
      | none =>
        refine ⟨[], v, ?_, rfl, ?_⟩ <;>
          simp [forwardGatedReplay, hf, hsend]
      | some mailbox' =>
        obtain ⟨frames, v', hsent, hfollow, hall⟩ := ih mailbox' htw hcw hrest
        refine ⟨ctx.outputFrame generation seq bytes :: frames, v', ?_, ?_, ?_⟩
        · simp [forwardGatedReplay, hf, hsend, hsent, Mailbox.send_some hsend]
        · rw [follow_cons, hw, bind_some, hfollow]
        · simpa [forwardGatedReplay, hf, hsend] using hall

end

section

variable {v : StreamView} {t : ResourceId} {s : StreamId} {b : BootstrapId} {cut : UInt64}
  {frames taken : List FrameKind}

theorem StreamView.follow_taken {w : StreamView} (h : v.follow frames = some w)
    (ht : taken <+: frames) : ∃ w', v.follow taken = some w' := by
  obtain ⟨rest, rfl⟩ := ht
  rw [follow_append, bind_eq_some_iff] at h
  obtain ⟨w', hw', -⟩ := h
  exact ⟨w', hw'⟩

theorem follow_chunks (ht : v.terminalId = t) (hs : v.streamId = s) (hb : v.current = b)
    (hlive : v.retired = false)
    (hframes : ∀ f ∈ frames, ∃ seq payload, f = .bootstrapChunk t s b seq payload) :
    v.follow frames = some v := by
  induction frames with
  | nil => rfl
  | cons f frames ih =>
    obtain ⟨seq, payload, rfl⟩ := hframes f mem_cons_self
    have hnames : v.Names t s b := ⟨ht.symm, hs.symm, hb.symm⟩
    have hf : v.observe (.bootstrapChunk t s b seq payload) = some v := by
      simp [observe, hnames, hlive]
    rw [follow_cons, hf, bind_some]
    exact ih fun g hg => hframes g (mem_cons_of_mem _ hg)

theorem Publishes.follow (h : Publishes t s b cut frames) (ht : v.terminalId = t)
    (hs : v.streamId = s) (hb : b = nextBootstrapId v.current) : v.follow frames =
      some { v with current := b, expected := cut.toNat + 1, retired := false } := by
  obtain ⟨profile, cols, rows, chunks, cursor, rfl, hchunks⟩ := h
  have hbegin : v.observe (.bootstrapBegin t s b profile cols rows cut) =
      some { v with current := b, expected := cut.toNat + 1, retired := false } := by
    simp [observe, ht, hs, hb]
  let w : StreamView := { v with current := b, expected := cut.toNat + 1, retired := false }
  have hfollow : w.follow chunks = some w := follow_chunks ht hs rfl rfl hchunks
  rw [follow_cons, hbegin, bind_some, follow_append, hfollow, bind_some]
  simp [follow_cons, observe, StreamView.Names, ht, hs, w]

variable {chunk : UInt32 → Bytes → FrameKind}

theorem chunkFrames_chunks {maxChunk fuel : Nat} {seq next : UInt32} {payload : Bytes}
    (h : chunkFrames chunk maxChunk fuel seq payload = some (frames, next)) :
    ∀ f ∈ frames, ∃ n p, f = chunk n p := by
  induction fuel generalizing seq payload frames next with
  | zero => simp_all [chunkFrames]
  | succ fuel ih =>
    simp only [chunkFrames] at h
    split at h
    · simp_all
    · split at h
      · simp at h
      · simp only [Option.bind_eq_bind, Option.bind_eq_some_iff, Prod.exists, Option.pure_def,
          Option.some.injEq, Prod.mk.injEq] at h
        obtain ⟨rest, n, hrest, rfl, -⟩ := h
        intro f hf
        rcases mem_cons.mp hf with rfl | hf
        · exact ⟨_, _, rfl⟩
        · exact ih hrest f hf

variable {payloads : List Bytes}

theorem payloadFrames_chunks {maxChunk : Nat} {seq : UInt32}
    (h : payloadFrames chunk maxChunk seq payloads = some frames) :
    ∀ f ∈ frames, ∃ n p, f = chunk n p := by
  induction payloads generalizing seq frames with
  | nil => simp_all [payloadFrames]
  | cons payload payloads ih =>
    simp only [payloadFrames, Option.bind_eq_bind, Option.bind_eq_some_iff, Prod.exists,
      Option.pure_def, Option.some.injEq] at h
    obtain ⟨chunks, next, hchunks, rest, hrest, rfl⟩ := h
    intro f hf
    rcases mem_append.mp hf with hf | hf
    · exact chunkFrames_chunks hchunks f hf
    · exact ih hrest f hf

theorem publishes_synthesized {profile : BootstrapStreamProfile} {limits : BootstrapLimits}
    (h : synthesizedBootstrapFrames t s b profile limits cols rows cut payloads = some frames) :
    Publishes t s b cut frames := by
  simp only [synthesizedBootstrapFrames, Option.bind_eq_bind, Option.bind_eq_some_iff,
    Option.pure_def, Option.some.injEq] at h
  obtain ⟨chunks, hchunks, rfl⟩ := h
  exact ⟨profile, cols, rows, chunks, none, rfl, payloadFrames_chunks hchunks⟩

end

section

variable {ctx : OutputPumpContext} {reply : ActorReply} {v₀ : StreamView} {s : PumpState}
  {last : Nat}

def Followed (v₀ : StreamView) (s : PumpState) : Prop :=
  ∃ v, v₀.follow s.mailbox.sent = some v

/-- While the pump goes on, the client's view, the generation and the receiver agree. -/
def InStep (ctx : OutputPumpContext) (v₀ : StreamView) (s : PumpState) : Prop :=
  ∃ v last, v₀.follow s.mailbox.sent = some v ∧ Tracks ctx v s.generation ∧
    CaughtUp s.generation last ∧ StandsAt last s.outputRx

theorem InStep.followed (h : InStep ctx v₀ s) : Followed v₀ s := by
  obtain ⟨v, -, hv, -⟩ := h
  exact ⟨v, hv⟩

/-- What a step of the pump ensures: it goes on in step, or stops with all it sent followed. -/
def Ensures (ctx : OutputPumpContext) (v₀ : StreamView) (result : PumpState × Flow) : Prop :=
  (result.2 = none → InStep ctx v₀ result.1) ∧ Followed v₀ result.1

theorem Ensures.go (h : InStep ctx v₀ s) : Ensures ctx v₀ (s, none) := ⟨fun _ => h, h.followed⟩

theorem Ensures.halt {fault : Option PumpFault} (h : Followed v₀ s) :
    Ensures ctx v₀ (s, some fault) :=
  ⟨fun hnone => by simp at hnone, h⟩

variable {mailbox : Mailbox}

variable {frame : FrameKind}

theorem Followed.of_send {v w : StreamView}
    (hv : v₀.follow s.mailbox.sent = some v) (hsend : s.mailbox.send frame = some mailbox)
    (hw : v.observe frame = some w) : v₀.follow mailbox.sent = some w := by
  rw [Mailbox.send_some hsend, follow_append, hv, bind_some, follow_cons, hw]
  rfl

variable {v : StreamView}

theorem followed_error (hv : v₀.follow mailbox.sent = some v)
    {requestId : Option UInt32} {code : ErrorCode} {message : String} :
    v₀.follow ((mailbox.send (.error requestId code message)).getD mailbox).sent = some v := by
  cases hsend : mailbox.send (.error requestId code message) with
  | none => exact hv
  | some mailbox' =>
    rw [getD_some, Mailbox.send_some hsend, follow_append, hv]
    rfl

theorem ensures_failUnrecoverableGap (h : Followed v₀ s) :
    Ensures ctx v₀ (failUnrecoverableGap s) := by
  obtain ⟨v, hv⟩ := h
  exact .halt ⟨v, followed_error hv⟩

variable (hv : v₀.follow s.mailbox.sent = some v) (ht : Tracks ctx v s.generation)
  (hc : CaughtUp s.generation last) (hrx : StandsAt last s.outputRx)

include hv ht hc hrx in
theorem ensures_enqueueOutputResync : Ensures ctx v₀ (ctx.enqueueOutputResync reply s) := by
  by_cases h : reply.resyncAccepted = true
  · rw [enqueueOutputResync, if_pos h]
    exact .go ⟨v, last, hv, { ht with }, hc, hrx⟩
  · rw [enqueueOutputResync, if_neg h]
    exact ensures_failUnrecoverableGap ⟨v, hv⟩

include hv ht hrx in
theorem ensures_requestGapResync : Ensures ctx v₀ (ctx.requestGapResync reply s) := by
  have ht' : Tracks ctx v s.generation.fenceForGap := { ht with }
  have hc : CaughtUp s.generation.fenceForGap last := by
    intro _ hopen
    simp [fenceForGap] at hopen
  exact ensures_enqueueOutputResync hv ht' hc hrx

include hv ht hc in
theorem ensures_forwardLive (bytes : Bytes) (hseq : seq.toNat = last + 1)
    (hrx : StandsAt (last + 1) s.outputRx) : Ensures ctx v₀ (ctx.forwardLive s seq bytes) := by
  cases hf : s.generation.forwards seq with
  | false =>
    simp only [forwardLive, hf, Bool.not_false, if_true]
    exact .go ⟨v, last + 1, hv, ht, hc.skip hseq hf, hrx⟩
  | true =>
    obtain ⟨w, hw, htw, hcw⟩ := observe_outputFrame ht hc hseq hf
    cases hsend : s.mailbox.send (ctx.outputFrame s.generation seq bytes) with
    | none =>
      simp only [forwardLive, hf, hsend, Bool.not_true, Bool.false_eq_true, if_false]
      exact .halt ⟨v, hv⟩
    | some mailbox =>
      simp only [forwardLive, hf, hsend, Bool.not_true, Bool.false_eq_true, if_false]
      exact .go ⟨w, last + 1, Followed.of_send hv hsend hw, htw, hcw, hrx⟩

variable {generation : PumpGeneration}

theorem observe_control (ht : Tracks ctx v generation)
    (htarget : (ctx.classifyControl frame generation.bootstrapId).targetsPump = true) :
    ∃ w, v.observe frame = some w ∧
      Tracks ctx w (if (ctx.classifyControl frame generation.bootstrapId).endsGeneration
        then generation.retire else generation) := by
  have hnames : v.Names ctx.wireTerminalId ctx.streamId generation.bootstrapId :=
    ⟨ht.terminalId.symm, ht.streamId.symm, ht.current.symm⟩
  cases frame with
  | bootstrapTombstone t s b reason lastValid =>
    simp only [classifyControl, Bool.and_eq_true, beq_iff_eq] at htarget
    obtain ⟨⟨rfl, rfl⟩, rfl⟩ := htarget
    refine ⟨{ v with retired := true }, by simp [observe, hnames], ?_⟩
    exact { ht with retired := rfl }
  | historyTombstone t s b cursor reason =>
    simp only [classifyControl, Bool.and_eq_true, beq_iff_eq] at htarget
    obtain ⟨⟨rfl, rfl⟩, rfl⟩ := htarget
    exact ⟨v, by simp [observe, hnames], ht⟩
  | _ => simp [classifyControl] at htarget

include hv ht hc hrx in
theorem ensures_forwardControl (owner : UInt64) (frame : FrameKind) :
    Ensures ctx v₀ (ctx.forwardControl s owner frame) := by
  have hsame : InStep ctx v₀ s := ⟨v, last, hv, ht, hc, hrx⟩
  by_cases howner : (owner != ctx.clientId) = true
  · rw [forwardControl, if_pos howner]
    exact .go hsame
  cases htarget : (ctx.classifyControl frame s.generation.bootstrapId).targetsPump with
  | false =>
    simp only [forwardControl, howner, htarget, Bool.not_false, if_true]
    exact .go hsame
  | true =>
    obtain ⟨w, hw, htw⟩ := observe_control ht htarget
    simp only [forwardControl, howner, htarget, Bool.not_true, Bool.false_eq_true, if_false]
    cases hsend : s.mailbox.send frame with
    | none => exact .halt ⟨v, hv⟩
    | some mailbox =>
      refine .go ⟨w, last, Followed.of_send hv hsend hw, htw, ?_, hrx⟩
      show CaughtUp (if _ then _ else _) last
      split
      · intro hactive
        simp [retire] at hactive
      · exact hc

/-- The view before a replacement: the one of the generation to be replaced. -/
structure Replaces (ctx : OutputPumpContext) (v : StreamView) (generation : PumpGeneration) :
    Prop where
  terminalId : v.terminalId = ctx.wireTerminalId
  streamId : v.streamId = ctx.streamId
  current : generation.bootstrapId = nextBootstrapId v.current

variable {cut : UInt64} {now : Nat}

theorem Replaces.tracks (h : Replaces ctx v generation) : Tracks ctx
    { v with current := generation.bootstrapId, expected := cut.toNat + 1, retired := false }
      (generation.republishedAt cut now) :=
  ⟨h.terminalId, h.streamId, rfl, rfl, rfl⟩

theorem sendAll_publishes {frames : List FrameKind} (hv : v₀.follow mailbox.sent = some v)
    (hr : Replaces ctx v generation)
    (hp : Publishes ctx.wireTerminalId ctx.streamId generation.bootstrapId cut frames) :
    (∃ w, v₀.follow (mailbox.sendAll frames).1.sent = some w) ∧ ((mailbox.sendAll frames).2 = true →
        v₀.follow (mailbox.sendAll frames).1.sent = some { v with
            current := generation.bootstrapId, expected := cut.toNat + 1, retired := false }) := by
  have hfollow := hp.follow hr.terminalId hr.streamId hr.current
  obtain ⟨taken, htaken, hsent, hall⟩ := mailbox.sendAll_sent frames
  rw [hsent, follow_append, hv, bind_some]
  exact ⟨follow_taken hfollow htaken, fun hok => by rw [hall hok, hfollow]⟩

theorem caughtUp_republishedAt (hcut : last ≤ cut.toNat)
    : CaughtUp (generation.republishedAt cut now) last := by
  intro _ _
  show cut.toNat = max cut.toNat last
  omega

theorem ensures_republishSynthesized (bytes : Bytes)
    (hv : v₀.follow s.mailbox.sent = some v) (hr : Replaces ctx v s.generation)
    (hbase : baseSeq.toNat = last) (hrx : StandsAt last s.outputRx) :
    Ensures ctx v₀ (ctx.republishSynthesizedGeneration s cols rows baseSeq bytes) := by
  rw [republishSynthesizedGeneration]
  cases hframes : synthesizedBootstrapFrames ctx.wireTerminalId ctx.streamId
      s.generation.bootstrapId ctx.profile ctx.limits cols rows baseSeq
      [ctx.downsampleForCaps bytes ctx.clientCaps] with
  | none => exact .halt ⟨v, hv⟩
  | some frames =>
    obtain ⟨htaken, hall⟩ := sendAll_publishes hv hr (publishes_synthesized hframes)
    dsimp only
    rcases hsend : s.mailbox.sendAll frames with ⟨mailbox, _ | _⟩
    · rw [hsend] at htaken
      refine .halt ?_
      exact htaken
    · rw [hsend] at hall
      refine .go ⟨_, last, hall rfl, ?_, ?_, hrx⟩
      · exact hr.tracks
      · exact caughtUp_republishedAt hbase.ge

theorem ensures_republishNative (hreply : reply.Faithful ctx)
    (reason : ResyncReason) (hv : v₀.follow s.mailbox.sent = some v)
    (hr : Replaces ctx v s.generation) {prior : BootstrapId} (hprior : v.current = prior) :
    Ensures ctx v₀ (ctx.republishNativeGeneration reply s prior reason) := by
  subst hprior
  simp only [republishNativeGeneration]
  split
  · exact .halt ⟨v, hv⟩
  · rename_i mailbox htomb
    obtain ⟨w, hw, hrw⟩ : ∃ w, v₀.follow mailbox.sent = some w ∧ Replaces ctx w s.generation := by
      split at htomb
      · have hnames : v.Names ctx.wireTerminalId ctx.streamId v.current :=
          ⟨hr.terminalId.symm, hr.streamId.symm, rfl⟩
        refine ⟨{ v with retired := true }, Followed.of_send hv htomb ?_, hr.terminalId,
          hr.streamId, hr.current⟩
        simp [observe, hnames]
      · obtain rfl : s.mailbox = mailbox := by simpa using htomb
        exact ⟨v, hv, hr⟩
    cases hcapture : reply.capture s.generation.bootstrapId with
    | mailboxClosed => exact .halt ⟨w, hw⟩
    | refused => exact .halt ⟨w, followed_error hw⟩
    | captured captured =>
      obtain ⟨hpub, hactivate⟩ := hreply _ _ hcapture
      obtain ⟨htaken, hall⟩ := sendAll_publishes hw hrw hpub
      dsimp only
      rcases hsend : mailbox.sendAll captured.frames with ⟨mailbox', _ | _⟩
      · rw [hsend] at htaken
        refine .halt ?_
        exact htaken
      · rw [hsend] at hall htaken
        dsimp only
        cases hact : reply.activate s.generation.bootstrapId captured.publicationCursor with
        | none =>
          refine .halt ?_
          exact htaken
        | some publication =>
          obtain ⟨first, last, hfirst, hreplay, hlive⟩ := hactivate publication hact
          obtain ⟨frames, u, hsent, hfollow, hdone⟩ := forwardGatedReplay_follow mailbox' hrw.tracks
            (caughtUp_republishedAt hfirst) hreplay
          have hu : v₀.follow (ctx.forwardGatedReplay
              (s.generation.republishedAt captured.baseSeq s.now) mailbox'
              publication.replay).2.1.sent = some u := by
            rw [hsent, follow_append, hall rfl, bind_some, hfollow]
          dsimp only
          rcases hrun : ctx.forwardGatedReplay (s.generation.republishedAt captured.baseSeq s.now)
            mailbox' publication.replay with ⟨generation, mailbox'', _ | _⟩
          · rw [hrun] at hu
            refine .halt ⟨u, ?_⟩
            exact hu
          · rw [hrun] at hu hdone
            obtain ⟨htu, hcu⟩ := hdone rfl
            refine .go ⟨u, last, ?_, ?_, ?_, ?_⟩
            · exact hu
            · exact { htu with }
            · exact hcu
            · exact hlive

include hv ht hc hrx in
theorem ensures_applyResync {audience : ResyncAudience} (bytes : Bytes)
    (hreply : reply.Faithful ctx) (reason : ResyncReason) (hbase : baseSeq.toNat = last) :
    Ensures ctx v₀ (ctx.applyResync reply s cols rows reason audience baseSeq bytes) := by
  rw [applyResync]
  split
  · exact .go ⟨v, last, hv, ht, hc, hrx⟩
  · let renamed : PumpState := { s with
      generation := { s.generation with bootstrapId := nextBootstrapId s.generation.bootstrapId } }
    have hr : Replaces ctx v renamed.generation := ⟨ht.terminalId, ht.streamId, by rw [ht.current]⟩
    simp only [republishGeneration]
    split
    · exact ensures_republishNative (s := renamed) hreply reason hv hr ht.current
    · exact ensures_republishSynthesized (s := renamed) bytes hv hr hbase hrx

theorem nextEvent_outputRx {outputRx rx : List Delivery}
    {now' : Nat} {wait : PumpWait} (h : nextEvent generation outputRx now = some (wait, rx, now')) :
    (∃ d, wait = .event d.received ∧ outputRx = d :: rx) ∨
      ((∀ received, wait ≠ .event received) ∧ rx = outputRx) := by
  unfold nextEvent at h
  split at h
  · cases outputRx with
    | nil => cases h
    | cons d rest =>
      cases h
      exact .inl ⟨d, rfl, rfl⟩
  · split at h
    · cases h
      exact .inr ⟨by simp, rfl⟩
    · cases outputRx with
      | nil =>
        cases h
        exact .inr ⟨by simp, rfl⟩
      | cons d rest =>
        dsimp only at h
        split at h
        · cases h
          exact .inl ⟨d, rfl, rfl⟩
        · cases h
          exact .inr ⟨by simp, rfl⟩

include hv ht hc in
theorem ensures_dispatch {d : Delivery} (hreply : reply.Faithful ctx)
    (hrx : StandsAt last (d :: s.outputRx)) : Ensures ctx v₀ (ctx.dispatch reply s d.received) := by
  obtain ⟨time, received⟩ := d
  cases received with
  | ok output =>
    cases output with
    | live seq bytes readAt =>
      obtain ⟨hseq, hrx'⟩ := hrx.live
      simp only [dispatch]
      split
      · exact ensures_requestGapResync hv ht hrx'
      · exact ensures_forwardLive (s := s.elapse _) hv ht hc bytes hseq hrx'
    | resync cols rows reason audience baseSeq bytes =>
      obtain ⟨hbase, hrx'⟩ := hrx.resync
      exact ensures_applyResync (s := s.elapse _) hv ht hc hrx' bytes hreply reason hbase
    | control owner frame => exact ensures_forwardControl (s := s.elapse _) hv ht hc hrx.control owner frame
  | error e =>
    cases e with
    | lagged n =>
      obtain ⟨last', hrx'⟩ := hrx.lagged
      exact ensures_requestGapResync hv ht hrx'
    | closed => exact .halt ⟨v, hv⟩

theorem ensures_turn (hreply : reply.Faithful ctx) (h : InStep ctx v₀ s) :
    Ensures ctx v₀ (ctx.turn reply s) := by
  obtain ⟨v, last, hv, ht, hc, hrx⟩ := h
  rcases hnext : nextEvent s.generation s.outputRx s.now with _ | ⟨wait, rx, now⟩
  · simp only [turn, hnext]
    exact .go ⟨v, last, hv, ht, hc, hrx⟩
  · simp only [turn, hnext]
    rcases nextEvent_outputRx hnext with ⟨d, rfl, hcons⟩ | ⟨hwait, rfl⟩
    · exact ensures_dispatch (s := { s with outputRx := rx, now }) hv ht hc hreply (hcons ▸ hrx)
    · cases wait with
      | event received => exact absurd rfl (hwait received)
      | retryResync => exact ensures_enqueueOutputResync hv ht hc hrx
      | gapUnrecoverable => exact ensures_failUnrecoverableGap ⟨v, hv⟩

end

/-- The client's view when the pump starts: the first generation, published at the cut. -/
def OutputPumpContext.initialView (ctx : OutputPumpContext) (cut : UInt64) : StreamView where
  terminalId := ctx.wireTerminalId
  streamId := ctx.streamId
  current := ctx.initialBootstrapId
  expected := cut.toNat + 1
  retired := false

theorem followed_runOutputPump {ctx : OutputPumpContext} (start : OutputPumpStart)
    (outputRx : List Delivery) (room now : Nat) {replies : List ActorReply}
    (hstart : ContinuesFrom start.publishedCut start.replay (start.live.getD outputRx))
    (hreplies : ∀ r ∈ replies, r.Faithful ctx) : Followed (ctx.initialView start.publishedCut)
      (runOutputPump ctx start outputRx room now replies).1 := by
  obtain ⟨first, last, hfirst, hreplay, hlive⟩ := hstart
  let generation := openedAt start.publishedCut ctx.initialBootstrapId now
  have ht : Tracks ctx (ctx.initialView start.publishedCut) generation := ⟨rfl, rfl, rfl, rfl, rfl⟩
  have hc : CaughtUp generation first := by
    intro _ _
    show start.publishedCut.toNat = max start.publishedCut.toNat first
    omega
  obtain ⟨frames, v, hsent, hfollow, hdone⟩ := forwardGatedReplay_follow ⟨[], room⟩ ht hc hreplay
  rw [nil_append] at hsent
  rcases hrun : ctx.forwardGatedReplay generation ⟨[], room⟩ start.replay with
    ⟨generation', mailbox, _ | _⟩
  · rw [hrun] at hsent
    simp only [runOutputPump, generation] at hrun ⊢
    rw [hrun]
    exact ⟨v, hsent ▸ hfollow⟩
  · rw [hrun] at hsent hdone
    obtain ⟨htv, hcv⟩ := hdone rfl
    simp only [runOutputPump, generation] at hrun ⊢
    rw [hrun]
    refine Loop.run_ensures (InStep ctx _) _ (fun _ h => h.followed)
      (fun r hr s s' hs hturn => ?_) (fun r hr s s' _ hs hturn => ?_) ?_
    · exact (hturn ▸ ensures_turn (hreplies r hr) hs).1 rfl
    · exact (hturn ▸ ensures_turn (hreplies r hr) hs).2
    · exact ⟨v, last, hsent ▸ hfollow, { htv with }, hcv, hlive⟩

/-- The pump's stream is sequenced: in every run over a consecutive broadcast, whatever windows of
it are dropped, as long as the bootstrap ids last. -/
theorem sequencedStream_runOutputPump (ctx : OutputPumpContext) (start : OutputPumpStart)
    (outputRx : List Delivery) (room now : Nat) {replies : List ActorReply}
    (hstart : ContinuesFrom start.publishedCut start.replay (start.live.getD outputRx))
    (hreplies : ∀ r ∈ replies, r.Faithful ctx)
    (hids : (publications (runOutputPump ctx start outputRx room now replies).1.mailbox.sent).length <
      bootstrapIdCount) : SequencedStream ctx.initialBootstrapId start.publishedCut.toNat
      (runOutputPump ctx start outputRx room now replies).1.mailbox.sent := by
  obtain ⟨v, hv⟩ := followed_runOutputPump start outputRx room now hstart hreplies
  refine sequencedStream_of_follow hv rfl ?_
  rw [publications_follow hv]
  exact nodup_iterate_nextBootstrapId _ hids

/-- Output, a dropped chunk, the resync the pump asked for, and output again. -/
def resyncedOutput : List Delivery :=
  [⟨0, .ok (.live 1 [104] 0)⟩, ⟨0, .error (.lagged 1)⟩, ⟨0, .ok (.resync 80 24 .outboundGap
      (.only [rawAttach.resyncTarget (.openedAt 0 ⟨1, one_raw_ne⟩ 0)]) 2 [])⟩,
    ⟨0, .ok (.live 3 [105] 0)⟩]

theorem continuesFrom_resyncedOutput : ContinuesFrom 0 [] resyncedOutput := by
  refine ⟨0, 0, le_rfl, rfl, [.live 1 [104] 0, .live 2 [33] 0, .resync 80 24 .outboundGap
    (.only [rawAttach.resyncTarget (.openedAt 0 ⟨1, one_raw_ne⟩ 0)]) 2 [],
    .live 3 [105] 0], ⟨rfl, rfl, rfl, rfl, trivial⟩, ?_⟩
  exact .event 0 _ (.dropped 0 1 [.live 2 [33] 0] (.event 0 _ (.event 0 _ (.pending []))))

theorem faithful_silent (ctx : OutputPumpContext) {n : Nat} :
    ∀ r ∈ replicate n ActorReply.silent, r.Faithful ctx := by
  intro r hr b captured hcapture
  rw [eq_of_mem_replicate hr] at hcapture
  simp [ActorReply.silent] at hcapture

theorem sequencedStream_resyncedOutput :
    (runOutputPump .rawAttach ⟨0, [], none⟩ resyncedOutput 100 0
        (List.replicate 4 .silent)).1.mailbox.sent =
      [.resourceOutput (.local 1) ⟨1, one_raw_ne⟩ ⟨1, one_raw_ne⟩ 1 [104],
        .bootstrapBegin (.local 1) ⟨1, one_raw_ne⟩ ⟨2, two_raw_ne⟩ .synthesizedVtRaw 80 24 2,
        .bootstrapReady (.local 1) ⟨1, one_raw_ne⟩ ⟨2, two_raw_ne⟩ none,
        .resourceOutput (.local 1) ⟨1, one_raw_ne⟩ ⟨2, two_raw_ne⟩ 3 [105]] ∧
      SequencedStream ⟨1, one_raw_ne⟩ 0 (runOutputPump .rawAttach ⟨0, [], none⟩ resyncedOutput 100 0
        (List.replicate 4 .silent)).1.mailbox.sent :=
  ⟨rfl, sequencedStream_runOutputPump .rawAttach ⟨0, [], none⟩ resyncedOutput 100 0
    continuesFrom_resyncedOutput (faithful_silent _) (by decide)⟩

def ownTombstone : FrameKind :=
  .bootstrapTombstone (.local 1) ⟨1, one_raw_ne⟩ ⟨1, one_raw_ne⟩ .resize 0

def tombstonedTwice : List Delivery :=
  [⟨0, .ok (.control 1 ownTombstone)⟩, ⟨0, .ok (.control 1 ownTombstone)⟩]

def resizedTimes (n : Nat) : List Delivery :=
  List.replicate n ⟨0, .ok (.resync 80 24 .resize .everyone 0 [])⟩

theorem standsAt_resizedTimes (n : Nat) : StandsAt 0 (resizedTimes n) := by
  refine ⟨replicate n (.resync 80 24 .resize .everyone 0 []), ?_, ?_⟩
  · induction n with
    | zero => trivial
    | succ n ih => exact ⟨rfl, ih⟩
  · induction n with
    | zero => exact .pending _
    | succ n ih => exact .event 0 _ ih

variable {s : PumpState}

theorem turn_resized {n : Nat} (hopen : s.generation.gapPending = false)
    (hrx : s.outputRx = resizedTimes (n + 1)) (hroom : 2 * (n + 1) ≤ s.mailbox.room) :
    ∃ s', rawAttach.turn .silent s = (s', none) ∧
      s'.generation.gapPending = false ∧ s'.outputRx = resizedTimes n ∧ 2 * n ≤ s'.mailbox.room ∧
      (publications s'.mailbox.sent).length = (publications s.mailbox.sent).length + 1 := by
  obtain ⟨room, hr⟩ : ∃ room, s.mailbox.room = room + 1 + 1 := ⟨s.mailbox.room - 2, by omega⟩
  have hcons : resizedTimes (n + 1) =
      ⟨0, .ok (.resync 80 24 .resize .everyone 0 [])⟩ :: resizedTimes n := rfl
  let next := nextBootstrapId s.generation.bootstrapId
  let now := max s.now 0 + 0
  refine ⟨{ s with
      generation := republishedAt { s.generation with bootstrapId := next } 0 now
      mailbox := ⟨s.mailbox.sent ++
        [.bootstrapBegin (.local 1) ⟨1, one_raw_ne⟩ next .synthesizedVtRaw 80 24 0] ++
        [.bootstrapReady (.local 1) ⟨1, one_raw_ne⟩ next none], room⟩
      outputRx := resizedTimes n
      now }, ?_, rfl, rfl, ?_, ?_⟩
  · have hnext : nextEvent s.generation s.outputRx s.now =
        some (.event (.ok (.resync 80 24 .resize .everyone 0 [])), resizedTimes n, max s.now 0) := by
      simp [nextEvent, hopen, hrx, hcons]
    have hturn : rawAttach.turn .silent s =
        rawAttach.republishSynthesizedGeneration { s with
          generation := { s.generation with bootstrapId := next }
          outputRx := resizedTimes n
          now } 80 24 0 [] := by
      rw [turn, hnext]
      rfl
    rw [hturn]
    simp [republishSynthesizedGeneration, rawAttach,
      synthesizedBootstrapFrames, payloadFrames, chunkFrames, Mailbox.sendAll, Mailbox.send, hr]
  · show 2 * n ≤ room
    omega
  · simp [publications_append, publications]

theorem run_resizedTimes {n : Nat} (hopen : s.generation.gapPending = false)
    (hrx : s.outputRx = resizedTimes n) (hroom : 2 * n ≤ s.mailbox.room) :
    (publications (Loop.run rawAttach.turn (replicate n .silent)
      s).1.mailbox.sent).length = (publications s.mailbox.sent).length + n := by
  induction n generalizing s with
  | zero => simp [Loop.run]
  | succ n ih =>
    obtain ⟨s', hturn, hopen', hrx', hroom', hcount⟩ := turn_resized hopen hrx hroom
    rw [replicate_succ, Loop.run_cons_next hturn, ih hopen' hrx' hroom', hcount]
    omega

theorem publications_resizedTimes (n : Nat) : rawAttach.initialBootstrapId ::
        (publications (runOutputPump .rawAttach ⟨0, [], none⟩ (resizedTimes n) (2 * n) 0
          (replicate n .silent)).1.mailbox.sent).map Prod.fst =
      (range (n + 1)).map fun i => nextBootstrapId^[i] rawAttach.initialBootstrapId := by
  obtain ⟨v, hv⟩ := followed_runOutputPump ⟨0, [], none⟩ (resizedTimes n) (2 * n) 0
    ⟨0, 0, le_rfl, rfl, standsAt_resizedTimes n⟩ (faithful_silent _)
  have hcount : (publications (runOutputPump .rawAttach ⟨0, [], none⟩ (resizedTimes n) (2 * n) 0
      (replicate n .silent)).1.mailbox.sent).length = n := by
    have hrun := @run_resizedTimes ⟨openedAt 0 ⟨1, one_raw_ne⟩ 0, ⟨[], 2 * n⟩,
      resizedTimes n, [], 0⟩ n rfl rfl le_rfl
    simp only [publications, length_nil, Nat.zero_add] at hrun
    exact hrun
  have hlist := publications_follow hv
  rwa [hcount] at hlist

theorem iterate_nextBootstrapId_count (b : BootstrapId) :
    nextBootstrapId^[bootstrapIdCount] b = b := by
  have hraw := iterate_nextBootstrapId_raw b bootstrapIdCount
  have hself := iterate_nextBootstrapId_raw b 0
  have hpos := (nextBootstrapId^[bootstrapIdCount] b).raw_pos
  have hpos' := b.raw_pos
  rw [Nat.add_mod_right, ← Nat.add_zero (b.raw.toNat - 1), ← hself, Function.iterate_zero,
    id_eq] at hraw
  have heq : (nextBootstrapId^[bootstrapIdCount] b).raw = b.raw := UInt64.toNat_inj.mp (by omega)
  cases hb : nextBootstrapId^[bootstrapIdCount] b
  cases b
  simp_all

/-- The pump passes on a second tombstone of a retired generation, and once all ids are used it
publishes the first one again. -/
theorem runOutputPump_repeats : (ContinuesFrom 0 [] tombstonedTwice ∧
      (runOutputPump .rawAttach ⟨0, [], none⟩ tombstonedTwice 2 0
        [.silent, .silent]).1.mailbox.sent = [ownTombstone, ownTombstone]) ∧
    ContinuesFrom 0 [] (resizedTimes bootstrapIdCount) ∧ ¬ (rawAttach.initialBootstrapId ::
        (publications (runOutputPump .rawAttach ⟨0, [], none⟩ (resizedTimes bootstrapIdCount)
          (2 * bootstrapIdCount) 0
          (List.replicate bootstrapIdCount .silent)).1.mailbox.sent).map Prod.fst).Nodup := by
  have htwice : StandsAt 0 tombstonedTwice :=
    ⟨[.control 1 ownTombstone, .control 1 ownTombstone], trivial,
      .event 0 _ (.event 0 _ (.pending []))⟩
  refine ⟨⟨⟨0, 0, le_rfl, rfl, htwice⟩, rfl⟩,
    ⟨0, 0, le_rfl, rfl, standsAt_resizedTimes _⟩, fun hnodup => ?_⟩
  rw [publications_resizedTimes] at hnodup
  have hback := iterate_nextBootstrapId_count rawAttach.initialBootstrapId
  have hzero : bootstrapIdCount = 0 := inj_on_of_nodup_map hnodup
    (mem_range.mpr (Nat.lt_succ_self _)) (mem_range.mpr (Nat.succ_pos _)) hback
  simp [bootstrapIdCount] at hzero

end Phux
