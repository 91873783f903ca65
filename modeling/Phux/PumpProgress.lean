import Phux.Pump

/-! How long a fenced pump waits for the resync it asked for. -/

namespace Phux
open PumpGeneration OutputPumpContext PumpState List

variable {delay : Nat} {g : PumpGeneration} {d : Delivery}

namespace PumpState

def waits (s : PumpState) : Nat :=
  match nextEvent s.generation s.outputRx s.now with
  | none => 0
  | some (_, _, now) => now - s.now

end PumpState

def OutputPumpContext.waited (ctx : OutputPumpContext) : List ActorReply → PumpState → Nat
  | [], _ => 0
  | reply :: replies, s =>
    s.waits +
      match ctx.turn reply s with
      | (s', none) => ctx.waited replies s'
      | (_, some _) => 0

def Delivery.isLag (d : Delivery) : Bool :=
  match d.received with
  | .error (.lagged _) => true
  | _ => false

/-- Nothing the pump `target` may take for a replacement, and not the end of the broadcast. -/
def Delivery.Unanswering (d : Delivery) (target : ResyncTarget) : Prop :=
  match d.received with
  | .ok (.resync _ _ _ audience _ _) => audience.includes target = false
  | .error .closed => False
  | _ => True

/-- No event but a lag report reaches the pump in the middle of a bounded wait. -/
def Undisturbed (s : PumpState) : Prop :=
  ∀ delay d rest, s.generation.gapRetryDelay = some delay → s.outputRx = d :: rest →
    d.isLag = false → s.now < d.time → s.now + delay < d.time

/-- What the backoff still holds for a gap that asked `attempts` times. -/
def backoffLeft (attempts : Nat) : Nat :=
  ((List.range' attempts (gapResyncMaxAttempts - attempts)).map fun n =>
    min (gapResyncRetry * (1 <<< (n - 1))) gapResyncMaxBackoff).sum

example : backoffLeft 1 = 500 + 1000 + 2000 + 4000 := by decide

theorem PumpGeneration.gapRetryDelay_eq (g : PumpGeneration) : g.gapRetryDelay =
      if gapResyncMaxAttempts ≤ g.gapAttempts then none
      else some (min (gapResyncRetry * (1 <<< (g.gapAttempts - 1))) gapResyncMaxBackoff) := by
  by_cases h : gapResyncMaxAttempts ≤ g.gapAttempts
  · simp [gapRetryDelay, h]
  · have hstep : min (g.gapAttempts - 1) 31 = g.gapAttempts - 1 := by
      simp only [gapResyncMaxAttempts] at h
      omega
    simp only [gapRetryDelay, h, if_false, hstep]

section

variable {ctx : OutputPumpContext} {reply : ActorReply} {s s' : PumpState}

/-- A pump that waits for a resync which its receiver does not hold. -/
structure Fenced (ctx : OutputPumpContext) (s : PumpState) : Prop where
  pending : s.generation.gapPending = true
  unanswered : ∀ d ∈ s.outputRx, d.Unanswering (ctx.resyncTarget s.generation)
  room : s.outputRx.length ≤ s.mailbox.room

/-- The pump is still fenced in `s'`, on the same generation, having asked `asked` more times. -/
structure StaysFenced (s s' : PumpState) (asked : Nat) : Prop where
  pending : s'.generation.gapPending = true
  bootstrapId : s'.generation.bootstrapId = s.generation.bootstrapId
  attempts : s'.generation.gapAttempts = s.generation.gapAttempts + asked
  outputRx : s'.outputRx = s.outputRx

theorem StaysFenced.fenced {rx : List Delivery} {now asked : Nat}
    (h : StaysFenced { s with outputRx := rx, now } s' asked) (hf : Fenced ctx s)
    (hrx : rx <:+ s.outputRx) (hroom : rx.length ≤ s'.mailbox.room) : Fenced ctx s' := by
  have htarget : ctx.resyncTarget s'.generation = ctx.resyncTarget s.generation := by
    simp [resyncTarget, h.bootstrapId]
  refine ⟨h.pending, fun e he => ?_, h.outputRx ▸ hroom⟩
  rw [h.outputRx] at he
  rw [htarget]
  exact hf.unanswered e (hrx.subset he)

theorem not_takesResync {audience : ResyncAudience} {target : ResyncTarget}
    (h : audience.includes target = false) : g.takesResync audience target = false := by
  cases audience with
  | everyone => simp [ResyncAudience.includes] at h
  | only targets => simp [takesResync, h]

theorem forwardControl_fenced (ctx : OutputPumpContext) (hs : s.generation.gapPending = true)
    (hroom : 0 < s.mailbox.room) (owner : UInt64) (frame : FrameKind) :
    ∃ s', ctx.forwardControl s owner frame = (s', none) ∧ StaysFenced s s' 0 ∧
      s.mailbox.room ≤ s'.mailbox.room + 1 := by
  have hsame : StaysFenced s s 0 := ⟨hs, rfl, rfl, rfl⟩
  obtain ⟨room, hr⟩ : ∃ room, s.mailbox.room = room + 1 := ⟨s.mailbox.room - 1, by omega⟩
  by_cases howner : (owner != ctx.clientId) = true
  · exact ⟨s, by simp [forwardControl, howner], hsame, by omega⟩
  by_cases htarget : (ctx.classifyControl frame s.generation.bootstrapId).targetsPump = true
  · by_cases hends : (ctx.classifyControl frame s.generation.bootstrapId).endsGeneration = true
    · refine ⟨{ s with
          mailbox := ⟨s.mailbox.sent ++ [frame], room⟩, generation := s.generation.retire },
        by simp [forwardControl, howner, htarget, hends, Mailbox.send, hr], ?_⟩
      exact ⟨⟨hs, rfl, rfl, rfl⟩, hr.le⟩
    · refine ⟨{ s with mailbox := ⟨s.mailbox.sent ++ [frame], room⟩ },
        by simp [forwardControl, howner, htarget, hends, Mailbox.send, hr], ?_⟩
      exact ⟨⟨hs, rfl, rfl, rfl⟩, hr.le⟩
  · exact ⟨s, by simp [forwardControl, howner, htarget], hsame, by omega⟩

theorem dispatch_ignored (reply : ActorReply) (hs : s.generation.gapPending = true)
    (hroom : 0 < s.mailbox.room) (hd : d.Unanswering (ctx.resyncTarget s.generation))
    (hlag : d.isLag = false) :
    ∃ s', ctx.dispatch reply s d.received = (s', none) ∧ StaysFenced s s' 0 ∧
      s.mailbox.room ≤ s'.mailbox.room + 1 := by
  obtain ⟨time, received⟩ := d
  have hsame : StaysFenced s (s.elapse reply.busy) 0 := ⟨hs, rfl, rfl, rfl⟩
  have hkeep : s.mailbox.room ≤ (s.elapse reply.busy).mailbox.room + 1 := Nat.le_succ _
  cases received with
  | error e =>
    cases e with
    | lagged n => simp [Delivery.isLag] at hlag
    | closed => exact hd.elim
  | ok output =>
    cases output with
    | live seq bytes readAt =>
      refine ⟨s.elapse reply.busy, ?_, hsame, hkeep⟩
      simp [dispatch, forwardLive, forwards, hs, elapse]
    | resync cols rows reason audience baseSeq bytes =>
      refine ⟨s.elapse reply.busy, ?_, hsame, hkeep⟩
      have htake : s.generation.takesResync audience (ctx.resyncTarget s.generation) = false :=
        not_takesResync hd
      simp [dispatch, applyResync, elapse, htake]
    | control owner frame =>
      obtain ⟨s', heq, hs', hr⟩ :=
        forwardControl_fenced (s := s.elapse reply.busy) ctx hs hroom owner frame
      exact ⟨s', heq, ⟨hs'.pending, hs'.bootstrapId, hs'.attempts, hs'.outputRx⟩, hr⟩

theorem enqueueOutputResync_fenced (ctx : OutputPumpContext) (reply : ActorReply)
    (hs : s.generation.gapPending = true)
    (hattempts : s.generation.gapAttempts < gapResyncMaxAttempts) :
    (∃ s', ctx.enqueueOutputResync reply s = (s', none) ∧ StaysFenced s s' 1 ∧
        s'.mailbox = s.mailbox) ∨
      (∃ s', ctx.enqueueOutputResync reply s = (s', some (some .generationLost)) ∧
        reply.resyncAccepted = false) := by
  have hmin : min (s.generation.gapAttempts + 1) 0xFFFFFFFF = s.generation.gapAttempts + 1 := by
    simp only [gapResyncMaxAttempts] at hattempts
    omega
  by_cases h : reply.resyncAccepted = true
  · refine .inl ⟨{ s with
        generation := s.generation.noteResyncRequested
        requests := s.requests ++ [ctx.resyncTarget s.generation.noteResyncRequested] },
      by simp [enqueueOutputResync, h], ?_, rfl⟩
    exact ⟨hs, rfl, hmin, rfl⟩
  · exact .inr ⟨_, by simp only [enqueueOutputResync, h]; rfl, by simpa using h⟩

inductive FencedTurn (ctx : OutputPumpContext) (reply : ActorReply) (s : PumpState) : Prop
  | spent (s' : PumpState) (hturn : ctx.turn reply s = (s', some (some .generationLost)))
      (hattempts : gapResyncMaxAttempts ≤ s.generation.gapAttempts) (hwaits : s.waits = 0)
  | refused (s' : PumpState) (delay : Nat)
      (hturn : ctx.turn reply s = (s', some (some .generationLost)))
      (hdelay : s.generation.gapRetryDelay = some delay) (hwaits : s.waits ≤ delay)
      (hreply : reply.resyncAccepted = false)
  | asked (s' : PumpState) (delay : Nat) (hturn : ctx.turn reply s = (s', none))
      (hdelay : s.generation.gapRetryDelay = some delay) (hwaits : s.waits ≤ delay)
      (hlag : (∀ d ∈ s.outputRx, d.isLag = false) → s.waits = delay) (hquiet : Undisturbed s)
      (hfenced : Fenced ctx s')
      (hattempts : s'.generation.gapAttempts = s.generation.gapAttempts + 1)
      (hrx : s'.outputRx <:+ s.outputRx)
  | ignored (s' : PumpState) (delay : Nat) (d : Delivery) (hturn : ctx.turn reply s = (s', none))
      (hdelay : s.generation.gapRetryDelay = some delay) (hwaits : s.waits = d.time - s.now)
      (htime : d.time ≤ s.now + delay) (hlag : d.isLag = false) (hfenced : Fenced ctx s')
      (hattempts : s'.generation.gapAttempts = s.generation.gapAttempts)
      (hrx : s.outputRx = d :: s'.outputRx)

theorem gapAttempts_lt_of_delay (h : g.gapRetryDelay = some delay) :
    g.gapAttempts < gapResyncMaxAttempts := by
  rw [gapRetryDelay_eq] at h
  by_contra hge
  simp [Nat.not_lt.mp hge] at h

theorem fencedTurn_retry (hf : Fenced ctx s) (hdelay : s.generation.gapRetryDelay = some delay)
    (hlate : ∀ d rest, s.outputRx = d :: rest → s.now + delay < d.time) :
    FencedTurn ctx reply s := by
  have hnext : nextEvent s.generation s.outputRx s.now =
      some (.retryResync, s.outputRx, s.now + delay) := by
    cases hrx : s.outputRx with
    | nil => simp [nextEvent, hf.pending, hdelay]
    | cons d rest => simp [nextEvent, hf.pending, hdelay, Nat.not_le.mpr (hlate d rest hrx)]
  have hwaits : s.waits = delay := by simp [waits, hnext]
  let later := elapse { s with now := s.now + delay } reply.busy
  have hturn : ctx.turn reply s = ctx.enqueueOutputResync reply later := by
    simp [turn, hnext, retryGapResync, later]
  rcases enqueueOutputResync_fenced (s := later) ctx reply hf.pending
    (gapAttempts_lt_of_delay hdelay) with ⟨s', hs', hstay, hbox⟩ | ⟨s', hs', hno⟩
  · have hstay' : StaysFenced { s with outputRx := s.outputRx, now := s.now + delay } s' 1 :=
      { hstay with }
    have hroom : s.outputRx.length ≤ s'.mailbox.room := by
      rw [hbox]
      exact hf.room
    refine .asked s' delay (hturn.trans hs') hdelay hwaits.le (fun _ => hwaits) ?_
      (hstay'.fenced hf suffix_rfl hroom) hstay.attempts (hstay'.outputRx ▸ suffix_rfl)
    intro delay' d rest hd hrx _ _
    obtain rfl : delay = delay' := by simpa [hdelay] using hd
    exact hlate d rest hrx
  · exact .refused s' delay (hturn.trans hs') hdelay hwaits.le hno

theorem fencedTurn_event {rest : List Delivery} (hf : Fenced ctx s)
    (hdelay : s.generation.gapRetryDelay = some delay) (hrx : s.outputRx = d :: rest)
    (htime : d.time ≤ s.now + delay) : FencedTurn ctx reply s := by
  have hnext : nextEvent s.generation s.outputRx s.now =
      some (.event d.received, rest, max s.now d.time) := by
    simp [nextEvent, hf.pending, hdelay, hrx, htime]
  have hwaits : s.waits = d.time - s.now := by
    simp only [waits, hnext]
    omega
  have hlen : rest.length + 1 ≤ s.mailbox.room := by simpa [hrx] using hf.room
  have hsuffix : rest <:+ s.outputRx := hrx ▸ suffix_cons d rest
  let woken : PumpState := { s with outputRx := rest, now := max s.now d.time }
  have hturn : ctx.turn reply s = ctx.dispatch reply woken d.received := by
    simp [turn, hnext, woken]
  cases hlag : d.isLag with
  | false =>
    obtain ⟨s', hs', hstay, hroom⟩ := dispatch_ignored (s := woken) reply hf.pending
      (Nat.lt_of_lt_of_le (Nat.succ_pos _) hlen) (hf.unanswered d (by simp [hrx])) hlag
    have hroom' : s.mailbox.room ≤ s'.mailbox.room + 1 := hroom
    have hf' := hstay.fenced hf hsuffix (by omega)
    refine .ignored s' delay d (hturn.trans hs') hdelay hwaits htime hlag hf' hstay.attempts ?_
    rw [hrx, hstay.outputRx]
  | true =>
    obtain ⟨time, received⟩ := d
    obtain ⟨n, rfl⟩ : ∃ n, received = .error (.lagged n) := by
      revert hlag
      simp only [Delivery.isLag]
      split <;> simp_all
    let fenced : PumpState := elapse { woken with
      generation := woken.generation.fenceForGap } reply.busy
    have hask : ctx.dispatch reply woken (.error (.lagged n)) =
        ctx.enqueueOutputResync reply fenced := rfl
    have hwait : s.waits ≤ delay := by omega
    rcases enqueueOutputResync_fenced (s := fenced) ctx reply rfl
      (gapAttempts_lt_of_delay hdelay) with ⟨s', hs', hstay, hbox⟩ | ⟨s', hs', hno⟩
    · have hstay' : StaysFenced { s with outputRx := rest, now := max s.now time } s' 1 :=
        { hstay with }
      have hroom : rest.length ≤ s'.mailbox.room := by
        rw [hbox]
        exact Nat.le_of_succ_le hlen
      refine .asked s' delay ((hturn.trans hask).trans hs') hdelay hwait ?_ ?_
        (hstay'.fenced hf hsuffix hroom) hstay.attempts (hstay'.outputRx ▸ hsuffix)
      · intro hno
        simp [hno _ (hrx ▸ mem_cons_self)] at hlag
      · intro _ d' rest' _ hrx' hlag' _
        rw [hrx] at hrx'
        obtain ⟨rfl, -⟩ := cons.inj hrx'
        simp [hlag] at hlag'
    · exact .refused s' delay ((hturn.trans hask).trans hs') hdelay hwait hno

theorem fencedTurn (reply : ActorReply) (hf : Fenced ctx s) : FencedTurn ctx reply s := by
  cases hdelay : s.generation.gapRetryDelay with
  | none =>
    have hnext : nextEvent s.generation s.outputRx s.now =
        some (.gapUnrecoverable, s.outputRx, s.now) := by
      simp [nextEvent, hf.pending, hdelay]
    have hattempts : gapResyncMaxAttempts ≤ s.generation.gapAttempts := by
      rw [gapRetryDelay_eq] at hdelay
      by_contra hlt
      simp [hlt] at hdelay
    refine .spent (abandonUnansweredGap s).1 ?_ hattempts (by simp [waits, hnext])
    simp only [turn, hnext]
    rfl
  | some delay =>
    cases hrx : s.outputRx with
    | nil => exact fencedTurn_retry hf hdelay (by simp [hrx])
    | cons d rest =>
      by_cases htime : d.time ≤ s.now + delay
      · exact fencedTurn_event hf hdelay hrx htime
      · refine fencedTurn_retry hf hdelay fun d' rest' hrx' => ?_
        rw [hrx] at hrx'
        obtain ⟨rfl, -⟩ := cons.inj hrx'
        omega

end

section

variable {ctx : OutputPumpContext} {replies : List ActorReply} {s : PumpState}

theorem backoffLeft_of_delay (h : g.gapRetryDelay = some delay) :
    backoffLeft g.gapAttempts = delay + backoffLeft (g.gapAttempts + 1) := by
  have hlt := gapAttempts_lt_of_delay h
  rw [gapRetryDelay_eq, if_neg (by omega), Option.some.injEq] at h
  have hlen : gapResyncMaxAttempts - g.gapAttempts =
      gapResyncMaxAttempts - (g.gapAttempts + 1) + 1 := by omega
  rw [← h, backoffLeft, hlen, range'_succ]
  simp [backoffLeft]

/-- A fenced pump that is not answered loses its generation: each turn uses up a delivery or an
attempt. -/
theorem fenced_ends (hf : Fenced ctx s)
    (hlong : s.outputRx.length + (gapResyncMaxAttempts - s.generation.gapAttempts) <
      replies.length) : (Loop.run ctx.turn replies s).2 = some (some .generationLost) := by
  induction replies generalizing s with
  | nil => simp at hlong
  | cons reply replies ih =>
    simp only [length_cons] at hlong
    cases fencedTurn reply hf with
    | spent s' hturn | refused s' delay hturn => rw [Loop.run_cons_stop hturn]
    | asked s' delay hturn hdelay _ _ _ hf' hattempts hrx =>
      have hlt := gapAttempts_lt_of_delay hdelay
      have hlen := hrx.length_le
      rw [Loop.run_cons_next hturn]
      exact ih hf' (by omega)
    | ignored s' delay d hturn _ _ _ _ hf' hattempts hrx =>
      have hlen : s.outputRx.length = s'.outputRx.length + 1 := by simp [hrx]
      rw [Loop.run_cons_next hturn]
      exact ih hf' (by omega)

variable {reply : ActorReply} {s' : PumpState}

theorem waited_cons_next (h : ctx.turn reply s = (s', none)) :
    ctx.waited (reply :: replies) s = s.waits + ctx.waited replies s' := by
  simp [waited, h]

theorem waited_cons_stop {fault : Option PumpFault}
    (h : ctx.turn reply s = (s', some fault)) : ctx.waited (reply :: replies) s = s.waits := by
  simp [waited, h]

theorem waited_le_of_undisturbed (hf : Fenced ctx s)
    (hquiet : Loop.Always ctx.turn Undisturbed replies s) :
    ctx.waited replies s ≤ backoffLeft s.generation.gapAttempts := by
  induction replies generalizing s with
  | nil => simp [waited]
  | cons reply replies ih =>
    obtain ⟨hnow, hlater⟩ := hquiet
    cases fencedTurn reply hf with
    | spent s' hturn _ hwaits => simp [waited_cons_stop hturn, hwaits]
    | refused s' delay hturn hdelay hwaits =>
      rw [waited_cons_stop hturn, backoffLeft_of_delay hdelay]
      omega
    | asked s' delay hturn hdelay hwaits _ _ hf' hattempts =>
      have hrest := ih hf' (hlater s' hturn)
      rw [waited_cons_next hturn, backoffLeft_of_delay hdelay, ← hattempts]
      omega
    | ignored s' delay d hturn hdelay hwaits htime hlag hf' hattempts hrx =>
      have hrest := ih hf' (hlater s' hturn)
      have hready : ¬ s.now < d.time := fun hlt => by
        have := hnow delay d s'.outputRx hdelay hrx hlag hlt
        omega
      rw [waited_cons_next hturn, ← hattempts]
      omega

/-- Without lag reports and refusals the pump waits out its whole backoff, and longer than that
as soon as it is disturbed. -/
theorem undisturbed_of_waited_le (hf : Fenced ctx s)
    (hlag : ∀ d ∈ s.outputRx, d.isLag = false) (haccept : ∀ r ∈ replies, r.resyncAccepted = true)
    (hlong : s.outputRx.length + (gapResyncMaxAttempts - s.generation.gapAttempts) <
      replies.length) : backoffLeft s.generation.gapAttempts ≤ ctx.waited replies s ∧
      (ctx.waited replies s ≤ backoffLeft s.generation.gapAttempts →
        Loop.Always ctx.turn Undisturbed replies s) := by
  induction replies generalizing s with
  | nil => simp at hlong
  | cons reply replies ih =>
    have haccept' : ∀ r ∈ replies, r.resyncAccepted = true := fun r hr =>
      haccept r (mem_cons_of_mem _ hr)
    simp only [length_cons] at hlong
    cases fencedTurn reply hf with
    | spent s' hturn hattempts hwaits =>
      have hzero : backoffLeft s.generation.gapAttempts = 0 := by
        simp [backoffLeft, Nat.sub_eq_zero_of_le hattempts]
      refine ⟨by omega, fun _ => ⟨?_, fun s'' hs'' => ?_⟩⟩
      · intro delay d rest hdelay
        have := gapAttempts_lt_of_delay hdelay
        omega
      · simp [hturn] at hs''
    | refused s' delay hturn _ _ hreply => simp [haccept reply mem_cons_self] at hreply
    | asked s' delay hturn hdelay _ hwait hquiet hf' hattempts hrx =>
      have hlen := hrx.length_le
      have hlt := gapAttempts_lt_of_delay hdelay
      obtain ⟨hlow, halways⟩ := ih hf' (fun d hd => hlag d (hrx.subset hd)) haccept' (by omega)
      have hdelay' := hwait hlag
      rw [waited_cons_next hturn, backoffLeft_of_delay hdelay, ← hattempts]
      refine ⟨by omega, fun hle => ⟨hquiet, fun s'' hs'' => ?_⟩⟩
      obtain rfl : s' = s'' := by simpa [hturn] using hs''
      exact halways (by omega)
    | ignored s' delay d hturn hdelay hwaits htime hlag' hf' hattempts hrx =>
      have hlen : s.outputRx.length = s'.outputRx.length + 1 := by simp [hrx]
      obtain ⟨hlow, halways⟩ := ih hf'
        (fun e he => hlag e (hrx ▸ mem_cons_of_mem _ he)) haccept' (by omega)
      rw [waited_cons_next hturn, ← hattempts]
      refine ⟨by omega, fun hle => ⟨?_, fun s'' hs'' => ?_⟩⟩
      · intro _ d' rest _ hrx' _ hlt
        obtain ⟨rfl, -⟩ := cons.inj (hrx.symm.trans hrx')
        omega
      · obtain rfl : s' = s'' := by simpa [hturn] using hs''
        exact halways (by omega)

/-- A pump fenced for a gap, with no resync for it to come, always ends with the unrecoverable
gap. It does so within the backoff of 0.5 + 1 + 2 + 4 seconds in every run whose waits are
undisturbed; where the actor takes its requests and no further lag is reported, only in those. -/
theorem fenced_pump_ends_in_backoff (hpending : s.generation.gapPending = true)
    (hfirst : s.generation.gapAttempts = 1)
    (hunanswered : ∀ d ∈ s.outputRx, d.Unanswering (ctx.resyncTarget s.generation))
    (hroom : s.outputRx.length ≤ s.mailbox.room)
    (hlong : s.outputRx.length + gapResyncMaxAttempts ≤ replies.length) :
    (Loop.run ctx.turn replies s).2 = some (some .generationLost) ∧
      (Loop.Always ctx.turn Undisturbed replies s →
        ctx.waited replies s ≤ 500 + 1000 + 2000 + 4000) ∧
      ((∀ d ∈ s.outputRx, d.isLag = false) → (∀ r ∈ replies, r.resyncAccepted = true) →
        (ctx.waited replies s ≤ 500 + 1000 + 2000 + 4000 ↔
          Loop.Always ctx.turn Undisturbed replies s)) := by
  have hf : Fenced ctx s := ⟨hpending, hunanswered, hroom⟩
  have hlong' : s.outputRx.length + (gapResyncMaxAttempts - s.generation.gapAttempts) <
      replies.length := by
    simp only [gapResyncMaxAttempts, hfirst] at hlong ⊢
    omega
  have hbound : backoffLeft s.generation.gapAttempts = 500 + 1000 + 2000 + 4000 := by
    rw [hfirst]
    decide
  refine ⟨fenced_ends hf hlong', fun hquiet => ?_, fun hlag haccept => ⟨fun hle => ?_, ?_⟩⟩
  · exact hbound ▸ waited_le_of_undisturbed hf hquiet
  · exact (undisturbed_of_waited_le hf hlag haccept hlong').2 (hbound ▸ hle)
  · exact fun hquiet => hbound ▸ waited_le_of_undisturbed hf hquiet

end

/-- A pump that fenced itself at time zero and asked once, with what its receiver will get. -/
def fencedPump (outputRx : List Delivery) : PumpState where
  generation := (openedAt 0 ⟨1, one_raw_ne⟩ 0).fenceForGap.noteResyncRequested
  mailbox := ⟨[], 100⟩
  outputRx := outputRx
  requests := []
  now := 0

def steadyOutput : List Delivery :=
  (List.range 20).map fun n => ⟨400 * (n + 1), .ok (.live (UInt64.ofNat (n + 1)) [] 0)⟩

/-- Each chunk of a talking pane starts the wait anew: the fenced pump waits for twice the
backoff. -/
theorem waited_steadyOutput : (fencedPump steadyOutput).generation.gapPending = true ∧
      (fencedPump steadyOutput).generation.gapAttempts = 1 ∧
      rawAttach.waited (List.replicate 25 .silent) (fencedPump steadyOutput) =
        8000 + (500 + 1000 + 2000 + 4000) := by
  decide

/-- A silent pane never disturbs the pump, which gives up after the backoff. -/
theorem silent_pane_ends_in_backoff :
    (Loop.run rawAttach.turn (List.replicate 5 .silent) (fencedPump [])).2 =
        some (some .generationLost) ∧
      Loop.Always rawAttach.turn Undisturbed (List.replicate 5 .silent) (fencedPump []) ∧
      rawAttach.waited (List.replicate 5 .silent) (fencedPump []) ≤ 500 + 1000 + 2000 + 4000 := by
  obtain ⟨hends, hbound, hiff⟩ :=
    @fenced_pump_ends_in_backoff .rawAttach (replicate 5 .silent) (fencedPump []) rfl rfl
      (by simp [fencedPump]) (by simp [fencedPump]) (by simp [fencedPump, gapResyncMaxAttempts])
  have hquiet := (hiff (by simp [fencedPump]) (by simp [ActorReply.silent])).mp (by decide)
  exact ⟨hends, hquiet, hbound hquiet⟩

end Phux
