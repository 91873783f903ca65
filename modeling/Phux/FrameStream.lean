import Phux.Frame
import Phux.Machine
import Phux.Splitter

/-! Frames taken off byte streams. A stream delivers its bytes in reads of any size,
so a reader keeps one buffer and splits whole frames off its front. -/

namespace Phux

open ByteReader Splitter List

inductive FramingError where
  | headerTruncated (actual : Nat)
  | lengthOutOfRange (length : Nat)
  | lengthMismatch (expected actual : Nat)
deriving DecidableEq

def lengthPrefixLen : Nat := 4

def decodeLength (header : Bytes) : Except FramingError Nat :=
  let length := ofBeBytes header
  if 1 ≤ length ∧ length ≤ maxFrameLen then .ok length else .error (.lengthOutOfRange length)

def splitFrame : Split UInt8 FramingError := fun buf =>
  if buf.length < lengthPrefixLen then .ok none
  else do
    let total := lengthPrefixLen + (← decodeLength (buf.take lengthPrefixLen))
    if buf.length < total then .ok none else .ok (some (buf.take total, buf.drop total))

def checkFrame (bytes : Bytes) : Except FramingError Nat :=
  if bytes.length < lengthPrefixLen then .error (.headerTruncated bytes.length)
  else do
    let bodyLen ← decodeLength (bytes.take lengthPrefixLen)
    let expected := lengthPrefixLen + bodyLen
    if bytes.length = expected then .ok bodyLen
    else .error (.lengthMismatch expected bytes.length)

variable {b p r : Bytes} {n : Nat} {e : FramingError}

theorem checkFrame_eq_ok : checkFrame b = .ok n ↔
    b.length = lengthPrefixLen + n ∧ decodeLength (b.take lengthPrefixLen) = .ok n := by
  unfold checkFrame
  split
  · simp only [reduceCtorEq, false_iff]
    omega
  · cases hd : decodeLength (b.take lengthPrefixLen) with
    | error e => simp [bind, Except.bind]
    | ok k =>
      simp only [bind, Except.bind, Except.ok.injEq]
      split <;> simp <;> omega

theorem splitFrame_eq_some : splitFrame b = .ok (some (p, r)) ↔
    b = p ++ r ∧ ∃ n, checkFrame p = .ok n := by
  simp only [checkFrame_eq_ok]
  constructor
  · intro h
    unfold splitFrame at h
    split at h
    · simp at h
    · cases hd : decodeLength (b.take lengthPrefixLen) with
      | error e => simp [hd, bind, Except.bind] at h
      | ok n =>
        simp only [hd, bind, Except.bind] at h
        split at h
        · simp at h
        · cases h
          refine ⟨(take_append_drop _ b).symm, n, by rw [length_take]; omega, ?_⟩
          rwa [take_take, min_eq_left (by omega)]
  · rintro ⟨rfl, n, hlen, hd⟩
    have hhead : (p ++ r).take lengthPrefixLen = p.take lengthPrefixLen :=
      take_append_of_le_length (by omega)
    have hlong : ¬ (p ++ r).length < lengthPrefixLen + n := by rw [length_append]; omega
    rw [splitFrame, if_neg (by omega), hhead, hd]
    simp only [bind, Except.bind, if_neg hlong]
    rw [← hlen, take_left, drop_left]

theorem splitFrame_eq_error : splitFrame b = .error e ↔
    lengthPrefixLen ≤ b.length ∧ decodeLength (b.take lengthPrefixLen) = .error e := by
  unfold splitFrame
  split
  · simp only [reduceCtorEq, false_iff]
    omega
  · cases hd : decodeLength (b.take lengthPrefixLen) with
    | error e' =>
      simp only [bind, Except.bind, Except.error.injEq]
      exact ⟨fun h => ⟨by omega, h⟩, And.right⟩
    | ok n =>
      simp only [bind, Except.bind]
      split <;> simp

theorem splitFrame_waits_length (h : splitFrame b = .ok none) :
    b.length < lengthPrefixLen + maxFrameLen := by
  unfold splitFrame at h
  split at h
  · omega
  · cases hd : decodeLength (b.take lengthPrefixLen) with
    | error e => simp [hd, bind, Except.bind] at h
    | ok n =>
      have hn : n ≤ maxFrameLen := by
        simp only [decodeLength] at hd
        split at hd <;> simp at hd
        omega
      simp only [hd, bind, Except.bind] at h
      split at h
      · omega
      · simp at h

theorem splitFrame_lawful : Lawful splitFrame where
  taken {b p r} h := by
    obtain ⟨hb, n, hp⟩ := splitFrame_eq_some.mp h
    refine ⟨?_, hb, fun m => splitFrame_eq_some.mpr ⟨by rw [hb, append_assoc], n, hp⟩⟩
    have hlen := (checkFrame_eq_ok.mp hp).1
    exact ne_nil_of_length_pos (by rw [hlen, lengthPrefixLen]; omega)
  failed {b e} h m := by
    obtain ⟨hlen, hdec⟩ := splitFrame_eq_error.mp h
    refine splitFrame_eq_error.mpr ⟨by rw [length_append]; omega, ?_⟩
    rwa [take_append_of_le_length hlen]

theorem checkFrame_encode {ext : External} {frame : FrameKind}
    (hfits : (encodeBody ext frame).length ≤ maxFrameLen) :
    checkFrame (encode ext frame) = .ok (encodeBody ext frame).length := by
  have hbody : 0 < (encodeBody ext frame).length := by simp [encodeBody, writeU8]
  have hsat := saturateU32_toNat (n := (encodeBody ext frame).length)
    (by rw [maxFrameLen] at hfits; omega)
  have hhead : (encode ext frame).take lengthPrefixLen =
      writeU32Be (saturateU32 (encodeBody ext frame).length) := take_left' (length_writeU32Be _)
  refine checkFrame_eq_ok.mpr ⟨by simp [encode, length_writeU32Be, lengthPrefixLen], ?_⟩
  rw [hhead, decodeLength, writeU32Be, hsat, ofBeBytes_beBytes (by rw [maxFrameLen] at hfits; omega),
    if_pos ⟨hbody, hfits⟩]

theorem drain_frames {frames : List Bytes} {tail : Bytes}
    (hframes : ∀ f ∈ frames, ∃ n, checkFrame f = .ok n) :
    drain splitFrame (frames.flatten ++ tail) = { drain splitFrame tail with
      pieces := frames ++ (drain splitFrame tail).pieces } :=
  splitFrame_lawful.drain_pieces fun f hf _ => splitFrame_eq_some.mpr ⟨rfl, hframes f hf⟩

/-- However the encodings are cut into reads, a reader splits off exactly these frames.
It keeps nothing, or fails at a malformed prefix behind them. -/
theorem frames_reassembled {ext : External} {frames : List FrameKind} {reads : List Bytes}
    {tail : Bytes} (hcut : reads.flatten = (frames.map (encode ext)).flatten ++ tail)
    (hfits : ∀ frame ∈ frames, (encodeBody ext frame).length ≤ maxFrameLen) :
    (tail = [] → reassemble splitFrame [] reads = ⟨frames.map (encode ext), [], none⟩) ∧
      ∀ e, splitFrame tail = .error e →
        (reassemble splitFrame [] reads).pieces = frames.map (encode ext) ∧
          (reassemble splitFrame [] reads).failed = some e := by
  have hbuf : splitFrame [] = .ok none := rfl
  obtain ⟨unread, heq⟩ := splitFrame_lawful.reassemble_eq hbuf reads
  have hwhole : ∀ f ∈ frames.map (encode ext), ∃ n, checkFrame f = .ok n := by
    intro f hf
    obtain ⟨frame, hmem, rfl⟩ := mem_map.mp hf
    exact ⟨_, checkFrame_encode (hfits frame hmem)⟩
  rw [nil_append, hcut, drain_frames hwhole] at heq
  have hpieces := congrArg Drained.pieces heq
  have hrest := congrArg Drained.rest heq
  have hfailed := congrArg Drained.failed heq
  constructor
  · rintro rfl
    have hdrain : drain splitFrame [] = ⟨[], [], none⟩ := rfl
    simp only [hdrain, append_nil] at hpieces hrest hfailed
    exact Drained.ext hpieces.symm (append_eq_nil_iff.mp hrest.symm).1 hfailed.symm
  · intro e he
    simp only [drain_fails he, append_nil] at hpieces hfailed
    exact ⟨hpieces.symm, hfailed.symm⟩

theorem split_detach_reassembled :
    reassemble splitFrame [] [[0, 0], [0, 1, 3, 0], [0, 0, 0]] =
        ⟨[encode External.unary .detach], [0, 0, 0, 0], some (.lengthOutOfRange 0)⟩ ∧
      [[0, 0], [0, 1, 3, 0], [0, 0, 0]].flatten =
        ([FrameKind.detach].map (encode External.unary)).flatten ++ [0, 0, 0, 0] ∧
      (reassemble splitFrame [] [[0, 0], [0, 1, 3, 0], [0, 0, 0]]).failed =
        some (.lengthOutOfRange 0) := by
  have hcut : [[0, 0], [0, 1, 3, 0], [0, 0, 0]].flatten =
      ([FrameKind.detach].map (encode External.unary)).flatten ++ [0, 0, 0, 0] := by decide
  exact ⟨by decide, hcut, ((frames_reassembled hcut (by decide)).2 _ (by decide)).2⟩

structure StreamPump where
  buf : Bytes := []
  forwarded : List Bytes := []
  ended : Bool := false
deriving DecidableEq

/-- One turn of the loop. A read is `none` at the end of the stream and when it fails. -/
def pumpRead (s : StreamPump) (read : Option Bytes) : StreamPump :=
  if s.ended then s
  else
    match read with
    | none => { s with ended := true }
    | some bytes =>
      -- The inner loop breaks at an error as it does at an incomplete frame.
      let d := drain splitFrame (s.buf ++ bytes)
      { s with buf := d.rest, forwarded := s.forwarded ++ d.pieces }

def pumpTerminalStream (reads : List (Option Bytes)) : StreamPump := Machine.run pumpRead {} reads

theorem pumpTerminalStream_reads (reads : List Bytes) : pumpTerminalStream (reads.map some) =
    ⟨(drain splitFrame reads.flatten).rest, (drain splitFrame reads.flatten).pieces, false⟩ := by
  induction reads using reverseRecOn with
  | nil => rfl
  | append_singleton reads read ih =>
    have happ := splitFrame_lawful.drain_append reads.flatten read
    rw [pumpTerminalStream] at ih
    rw [pumpTerminalStream, map_append, map_singleton, Machine.run_concat, ih, flatten_concat, happ]
    rfl

theorem pump_forwards {reads frames : List Bytes} {tail : Bytes}
    (hcut : reads.flatten = frames.flatten ++ tail)
    (hframes : ∀ f ∈ frames, ∃ n, checkFrame f = .ok n) (htail : splitFrame tail = .ok none) :
    pumpTerminalStream (reads.map some) = ⟨tail, frames, false⟩ ∧
      pumpTerminalStream (reads.map some ++ [none]) = ⟨tail, frames, true⟩ ∧
      ∀ before, before <+: reads →
        (pumpTerminalStream (before.map some)).buf.length < lengthPrefixLen + maxFrameLen := by
  have hdrain : drain splitFrame reads.flatten = ⟨frames, tail, none⟩ := by
    rw [hcut, drain_frames hframes, drain_waits htail, append_nil]
  have hrun : pumpTerminalStream (reads.map some) = ⟨tail, frames, false⟩ := by
    rw [pumpTerminalStream_reads, hdrain]
  refine ⟨hrun, ?_, ?_⟩
  · rw [pumpTerminalStream] at hrun
    rw [pumpTerminalStream, Machine.run_concat, hrun]
    rfl
  · rintro before ⟨after, rfl⟩
    rw [flatten_append] at hdrain
    have hrest := splitFrame_lawful.split_rest before.flatten
    cases hfailed : (drain splitFrame before.flatten).failed with
    | none =>
      rw [hfailed] at hrest
      rw [pumpTerminalStream_reads]
      exact splitFrame_waits_length hrest
    | some e =>
      rw [splitFrame_lawful.failed_append hfailed] at hdrain
      simp at hdrain

theorem pump_forwards_detach :
    (∀ f ∈ [[0, 0, 0, 1, 3]], ∃ n, checkFrame f = .ok n) ∧ splitFrame [0] = .ok none ∧
      pumpTerminalStream ([[0, 0], [0, 1, 3, 0]].map some) = ⟨[0], [[0, 0, 0, 1, 3]], false⟩ := by
  have hwhole : ∀ f ∈ [[0, 0, 0, 1, 3]], ∃ n, checkFrame f = .ok n := by
    simp only [mem_singleton, forall_eq]
    exact ⟨1, by decide⟩
  have htail : splitFrame [0] = .ok none := rfl
  exact ⟨hwhole, htail, (pump_forwards rfl hwhole htail).1⟩

/-- Whatever the reads, the client decodes the frames that were sent, in order. -/
theorem pump_decodes {ext : External} (hjson : ext.JsonRoundTrips) (frames : List FrameKind)
    (reads : List Bytes) (hcut : reads.flatten = (frames.map (encode ext)).flatten)
    (hframes : ∀ f ∈ frames, f.Bounded protocolLimits ∧ (encodeBody ext f).length ≤ maxFrameLen) :
    (pumpTerminalStream (reads.map some)).forwarded.map (decode ext) =
      frames.map fun f => .ok (f.normal, []) := by
  have hwhole : ∀ p ∈ frames.map (encode ext), ∃ n, checkFrame p = .ok n := by
    intro p hp
    obtain ⟨f, hf, rfl⟩ := mem_map.mp hp
    exact ⟨_, checkFrame_encode (hframes f hf).2⟩
  have hdrain : drain splitFrame [] = ⟨[], [], none⟩ := rfl
  rw [pumpTerminalStream_reads, hcut, ← append_nil (flatten _), drain_frames hwhole, hdrain,
    append_nil, map_map]
  refine map_congr_left fun f hf => ?_
  have hread := decode_encode_normal hjson (hframes f hf).1 (hframes f hf).2 []
  rwa [append_nil] at hread

theorem pump_decodes_detach : (pumpTerminalStream [some [0, 0], some [0, 1, 3]]).forwarded.map
    (decode .unary) = [.ok (.detach, [])] :=
  pump_decodes External.unary_jsonRoundTrips [.detach] [[0, 0], [0, 1, 3]] rfl
    (by simp; exact ⟨trivial, by decide⟩)

/-- After a zero length prefix the pump buffers what arrives and never ends by itself. -/
theorem zero_prefix_fills_buffer :
    pumpTerminalStream (([0, 0, 0, 0] :: replicate (2 * maxFrameLen) [0]).map some) =
      ⟨replicate (4 + 2 * maxFrameLen) 0, [], false⟩ := by
  have hflat : ([0, 0, 0, 0] :: replicate (2 * maxFrameLen) [0]).flatten =
      replicate (4 + 2 * maxFrameLen) (0 : UInt8) := by
    rw [flatten_cons, flatten_replicate_singleton, replicate_add]
    rfl
  have hfails : splitFrame (replicate (4 + 2 * maxFrameLen) 0) = .error (.lengthOutOfRange 0) := by
    rw [replicate_add]
    exact splitFrame_lawful.failed (by decide) _
  rw [pumpTerminalStream_reads, hflat, drain_fails hfails]

end Phux
