import Phux.AgentLines

/-! The agent stream of a server is whole: a cut and the batches broadcast past it are the newest
records accepted, numbered without a gap. -/

namespace Phux

open ByteReader List

variable {lines : List Bytes} {outputs : List PaneOutput}

namespace AgentSession

variable {json : JsonCodec}

def acceptedRun (json : JsonCodec) : AgentSession → List AppendRequest → List ValidRecord
  | _, [] => []
  | s, request :: requests =>
    s.accepted json request ++ acceptedRun json (s.afterAppend json request) requests

def liveAbove (baseSeq : UInt64) (outputs : List PaneOutput) : List PaneOutput :=
  outputs.filter fun output =>
    match output with
    | .live seq _ _ => decide (baseSeq < seq)
    | _ => false

/-- Broadcasts that carry the lines in batches, each under the number of its last line. -/
inductive Framed (json : JsonCodec) : UInt64 → List PaneOutput → List Bytes → UInt64 → Prop
  | nil (a : UInt64) : Framed json a [] [] a
  | cons {a n b : UInt64} {batch lines : List Bytes} {outputs : List PaneOutput} (instant : Nat)
      (hbatch : Counted (NumberedLine json) a batch n) (hne : batch ≠ [])
      (hrest : Framed json n outputs lines b) :
    Framed json a (.live n batch.flatten instant :: outputs) (batch ++ lines) b

theorem Framed.counted {a b : UInt64} (h : Framed json a outputs lines b) :
    Counted (NumberedLine json) a lines b := by
  induction h with
  | nil a => exact .nil a
  | cons _ hbatch _ _ ih => exact hbatch.append ih

theorem outputs_framed (json : JsonCodec) (s : AgentSession) (rs : List AppendRequest) :
    Framed json s.seq (s.outputs json rs) (s.stampedRun json rs) (s.run json rs).seq := by
  induction rs generalizing s with
  | nil => exact .nil s.seq
  | cons req rs ih =>
    have hrest := ih (s.afterAppend json req)
    have hrun : s.run json (req :: rs) = (s.afterAppend json req).run json rs := rfl
    rw [hrun, outputs, stampedRun]
    cases handleAppend_step json s req with
    | refused hlines _ houtput hsession =>
      rw [houtput, hlines]
      rw [hsession] at hrest ⊢
      exact hrest
    | batch hne _ hlines _ houtput _ _ =>
      rw [houtput]
      exact .cons req.instant hlines hne hrest

theorem Framed.liveAbove_le {a b base : UInt64} (h : Framed json a outputs lines b)
    (hbase : b.toNat ≤ base.toNat) : liveAbove base outputs = [] := by
  induction h with
  | nil a => rfl
  | @cons a n b batch lines outputs instant hbatch hne hrest ih =>
    have hle : n.toNat ≤ base.toNat := by
      have hcount := hrest.counted.toNat_eq
      omega
    have hnot : ¬base < n := by
      rw [UInt64.lt_iff_toNat_lt]
      omega
    simpa [liveAbove, hnot] using ih hbase

theorem Framed.liveAbove_gt {a b base : UInt64} (h : Framed json a outputs lines b)
    (hbase : base.toNat ≤ a.toNat) : liveAbove base outputs = outputs := by
  induction h with
  | nil a => rfl
  | @cons a n b batch lines outputs instant hbatch hne hrest ih =>
    have hcount := hbatch.toNat_eq
    have hpos := length_pos_iff.mpr hne
    have hlt : base < n := by
      rw [UInt64.lt_iff_toNat_lt]
      omega
    have hrest := ih (by omega)
    simp only [liveAbove] at hrest
    simp [liveAbove, hlt, hrest]

theorem stampedRun_append (json : JsonCodec) (s : AgentSession) (xs ys : List AppendRequest) :
    s.stampedRun json (xs ++ ys) = s.stampedRun json xs ++ (s.run json xs).stampedRun json ys := by
  induction xs generalizing s with
  | nil => rfl
  | cons req xs ih =>
    simp only [cons_append, stampedRun, ih, append_assoc]
    rfl

theorem ring_suffix {s : AgentSession} (h : Retains json s.seq s.ring) (rs : List AppendRequest) :
    (s.run json rs).ring.records <:+ s.ring.records ++ s.stampedRun json rs ∧
      (s.run json rs).ring.ceiling = s.ring.ceiling := by
  induction rs generalizing s with
  | nil => simp [run, Machine.run, stampedRun]
  | cons req rs ih =>
    have hrest := ih (retains_afterAppend json req h)
    have hrun : s.run json (req :: rs) = (s.afterAppend json req).run json rs := rfl
    rw [hrun, stampedRun]
    cases handleAppend_step json s req with
    | refused hlines _ _ hsession =>
      rw [hsession] at hrest ⊢
      rw [hlines]
      exact hrest
    | batch _ _ hlines _ _ hring _ =>
      obtain ⟨-, hsuffix, hceiling⟩ := h.foldl hlines
      rw [← hring] at hsuffix hceiling
      refine ⟨hrest.1.trans ?_, hrest.2.trans hceiling⟩
      obtain ⟨gone, hgone⟩ := hsuffix
      exact ⟨gone, by rw [← append_assoc, hgone, append_assoc]⟩

theorem stampedRun_length (json : JsonCodec) (s : AgentSession) (rs : List AppendRequest) :
    (s.stampedRun json rs).length = (s.acceptedRun json rs).length := by
  induction rs generalizing s with
  | nil => rfl
  | cons req rs ih =>
    simp only [stampedRun, acceptedRun, length_append, ih]
    cases handleAppend_step json s req with
    | refused hlines hrecords _ _ => rw [hlines, hrecords]; rfl
    | batch _ _ _ hlen _ _ _ => rw [hlen]

/-! The end of a session. -/

variable {records : List ValidRecord}

theorem validateLines_ended (h : validateLines json true lines = .ok records) : records = [] := by
  induction lines with
  | nil =>
    cases h
    rfl
  | cons line lines ih =>
    rcases validateLines_cons h with h | ⟨hended, -⟩
    · exact ih h
    · cases hended

abbrev EndsLast (records : List ValidRecord) : Prop :=
  records.Pairwise fun earlier _ => earlier.endsSession = false

theorem validateLines_endsLast {ended : Bool}
    (h : validateLines json ended lines = .ok records) : EndsLast records := by
  induction lines generalizing ended records with
  | nil =>
    cases h
    exact .nil
  | cons line lines ih =>
    rcases validateLines_cons h with h | ⟨-, text, record, more, rfl, -, hmore⟩
    · exact ih h
    · refine .cons (fun r hr => ?_) (ih hmore)
      cases hend : record.endsSession with
      | false => rfl
      | true =>
        rw [hend] at hmore
        rw [validateLines_ended hmore] at hr
        cases hr

theorem acceptedRun_endsLast (json : JsonCodec) (s : AgentSession) (rs : List AppendRequest) :
    EndsLast (s.acceptedRun json rs) ∧ (s.ended = true → s.acceptedRun json rs = []) := by
  induction rs generalizing s with
  | nil => exact ⟨.nil, fun _ => rfl⟩
  | cons req rs ih =>
    obtain ⟨hlast, hnone⟩ := ih (s.afterAppend json req)
    rw [acceptedRun]
    cases handleAppend_step json s req with
    | refused _ hrecords _ hsession =>
      rw [hrecords, nil_append]
      exact ⟨hlast, fun hended => hnone (by rw [hsession, hended])⟩
    | batch _ hvalid _ _ _ _ hended =>
      obtain ⟨hfound, hne⟩ := validate_eq_ok hvalid
      refine ⟨pairwise_append.mpr ⟨validateLines_endsLast hfound, hlast, ?_⟩, ?_⟩
      · intro record hrecord later hlater
        cases hend : record.endsSession with
        | false => rfl
        | true =>
          have hany : (s.accepted json req).any ValidRecord.endsSession = true :=
            any_eq_true.mpr ⟨record, hrecord, hend⟩
          rw [hnone (by rw [hended, hany, Bool.or_true])] at hlater
          cases hlater
      · intro hs
        rw [hs] at hfound
        exact absurd (validateLines_ended hfound) hne

end AgentSession

open AgentSession

/-- What holds of a session `s` that took the appends `before`, a cut of it, and the appends
`after` that follow. -/
structure StreamComplete (json : JsonCodec) (logBytes : UInt32) (before after : List AppendRequest)
    (s : AgentSession) : Prop where
  /-- The cut's records and the lines broadcast above it end everything ever stamped, and are
  numbered one by one from the number dropped. -/
  gapless : ∃ gone lines last,
    (build logBytes).stampedRun json (before ++ after) = gone ++ (s.bootstrap.records ++ lines) ∧
    gone.length = s.bootstrap.dropped.toNat ∧
    Counted (NumberedLine json) s.bootstrap.dropped s.bootstrap.records s.bootstrap.baseSeq ∧
    Framed json s.bootstrap.baseSeq
      (liveAbove s.bootstrap.baseSeq ((build logBytes).outputs json (before ++ after))) lines last
  counts : s.bootstrap.records.length + s.bootstrap.dropped.toNat =
    ((build logBytes).acceptedRun json before).length
  bytes : (s.bootstrap.records.map List.length).sum ≤ logBytes.toNat ∨
    s.bootstrap.records.length = 1
  refused : ∀ request rejection, (s.handleAppend json request).reply = .error rejection →
    (s.handleAppend json request).session = s ∧ (s.handleAppend json request).output = none
  ended : EndsLast ((build logBytes).acceptedRun json (before ++ after))

theorem agent_stream_complete (json : JsonCodec) (logBytes : UInt32)
    (before after : List AppendRequest) :
    StreamComplete json logBytes before after ((build logBytes).run json before) := by
  have hretains := retains_run json logBytes before
  have hbefore := outputs_framed json (build logBytes) before
  have hafter := outputs_framed json ((build logBytes).run json before) after
  obtain ⟨⟨gone, hgone⟩, hceiling⟩ := ring_suffix (retains_build json logBytes) before
  have hsplit := stampedRun_append json (build logBytes) before after
  have houtputs := outputs_append json (build logBytes) before after
  have haccepted := stampedRun_length json (build logBytes) before
  obtain ⟨s, hs⟩ : ∃ s, (build logBytes).run json before = s := ⟨_, rfl⟩
  rw [hs] at hretains hbefore hafter hgone hceiling hsplit houtputs ⊢
  have hstamped : gone ++ s.ring.records = (build logBytes).stampedRun json before := hgone
  have hseq : s.seq.toNat = ((build logBytes).stampedRun json before).length := by
    have hcount := hbefore.counted.toNat_eq
    have hzero : (build logBytes).seq.toNat = 0 := rfl
    omega
  have hkept := hretains.lines.toNat_eq
  have hlen := congrArg length hstamped
  rw [length_append] at hlen
  refine ⟨⟨gone, s.stampedRun json after, (s.run json after).seq, ?_, ?_, hretains.lines, ?_⟩,
    ?_, ?_, fun request rejection h => ?_, (acceptedRun_endsLast json _ _).1⟩
  · rw [hsplit, ← hstamped, append_assoc]
    rfl
  · change gone.length = s.ring.dropped.toNat
    omega
  · have hold := hbefore.liveAbove_le (Nat.le_refl s.seq.toNat)
    have hnew := hafter.liveAbove_gt (Nat.le_refl s.seq.toNat)
    have hlive : liveAbove s.seq ((build logBytes).outputs json (before ++ after)) =
        s.outputs json after := by
      rw [houtputs, liveAbove, filter_append]
      exact congrArg₂ (· ++ ·) hold hnew
    change Framed json s.seq (liveAbove s.seq _) _ _
    rw [hlive]
    exact hafter
  · change s.ring.records.length + s.ring.dropped.toNat = _
    omega
  · change (s.ring.records.map length).sum ≤ _ ∨ s.ring.records.length = 1
    have hbytes := hretains.bounded.bytes_eq
    have hbuild : (build logBytes).ring.ceiling = logBytes.toNat := rfl
    rcases hretains.bounded.le_ceiling with hle | hle
    · left
      omega
    · cases hrecords : s.ring.records with
      | nil => exact .inl (by simp)
      | cons record records =>
        right
        rw [hrecords] at hle
        simp only [length_cons] at hle ⊢
        omega
  · cases hadmit : AgentSession.admitBatch json s request.bytes with
    | error found => simp [handleAppend, hadmit]
    | ok admitted => simp [handleAppend, hadmit] at h

end Phux
