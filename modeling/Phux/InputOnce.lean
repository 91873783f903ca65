import Phux.AcknowledgedInput

/-! What the input lane guarantees of acknowledged input, for the digests it computes. -/

namespace Phux.InputLane

open ByteReader External OperationCache Lane

/-! ### The digest tells payloads apart -/

def ApplyInput.frame (input : ApplyInput) : FrameKind :=
  .command 0 (.applyInput input.operationId input.terminalId input.events)

variable (ext : External)

theorem ApplyInput.frame_length (input : ApplyInput) :
    (encodeBody ext input.frame).length ≤ maxFrameLen := by
  have hbody := length_field_le 2
    (encodeCommand (.applyInput input.operationId input.terminalId input.events))
  have hrequest := length_field_le 1 (writeU32Be 0)
  have hfits := input.fits
  have hword : (writeU32Be 0).length = 4 := rfl
  have htype : (writeU8 input.frame.typeByte).length = 1 := rfl
  rw [maxApplyInputCommandBody] at hfits
  rw [encodeBody, List.length_append, maxFrameLen]
  simp only [frame, encodePayload, encodeCommandFrame, encodeCall, List.length_append] at htype ⊢
  omega

/-- No two payloads have one encoding, so with no collisions of the hash no two have one digest. -/
theorem apart_operationDigest {sha256 : Bytes → Bytes}
    (hsha : Function.Injective sha256) : Lane.Apart (operationDigest ext sha256) := by
  intro a b ha hb hdigest
  have hencode : encode unary a.frame = encode unary b.frame := hsha hdigest
  have hbounded : ∀ c : ApplyInput, c.events.length ≤ maxApplyInputEvents →
      decode unary (encode unary c.frame ++ []) = .ok (c.frame, []) := by
    intro c hc
    refine (decode_encode_iff unary_jsonRoundTrips ?_ (c.frame_length _) []).mpr trivial
    exact ⟨c.fits, hc⟩
  have hframe : a.frame = b.frame := by
    have h := (hbounded a ha).symm.trans ((congrArg (decode unary <| · ++ []) hencode).trans
      (hbounded b hb))
    simpa using h
  cases a
  cases b
  simp only [ApplyInput.frame, FrameKind.command.injEq, Command.applyInput.injEq, true_and] at hframe
  obtain ⟨rfl, rfl, rfl⟩ := hframe
  rfl

/-! ### The guarantee -/

/-- What holds at every moment: each entry of the cache has had its batch handed to a writer at
most once, each terminal has at most one unresolved operation, and an operation that the lane
takes up while the entry of its id stands gets the recorded result, or a conflict when its
payload is not the entry's. An operation that is not admitted leaves the lane as it is. -/
structure Lane.AtMostOnce (digest : ApplyInput → Bytes) (s : Lane) : Prop where
  handed : (s.handed.map (·.key)).Nodup
  unresolved : (s.unresolved.map Prod.snd).Nodup
  retried : ∀ op ticket cached, s.turn = .preparing op ticket → op.input.events ≠ [] →
    op.input.events.length ≤ maxApplyInputEvents →
    (s.cache.pruneExpired op.admittedAt).entries.lookup op.input.operationId = some cached →
    ∃ payload : ApplyInput, payload.operationId = op.input.operationId ∧
      (∀ q ∈ s.handed, q.key = (op.input.operationId, cached.binding) → q.op.input = payload) ∧
      (op.input = payload → ∀ result, cached.result = some result → s.next digest .bind =
          ({ s with cache := s.cache.pruneExpired op.admittedAt } : Lane).refuse op result) ∧
      (op.input ≠ payload → s.next digest .bind =
        ({ s with cache := s.cache.pruneExpired op.admittedAt } : Lane).refuse op
          (invalidCommand "APPLY_INPUT operation id reused with a different payload"))
  refused : ∀ clientId input now,
    input.terminalId ∈ s.inFlight ∨ inputLaneCapacity ≤ s.queue.length →
    ∃ message, s.next digest (.applyInput clientId input now) =
      ({ s with calls := s.calls + 1 } : Lane).answer s.calls
        (acknowledgedResourceExhausted message)

def shownId : InputOperationId := ⟨Vector.replicate 16 1, by decide⟩

def otherId : InputOperationId := ⟨Vector.replicate 16 2, by decide⟩

def shownInput : ApplyInput := ⟨shownId, .local 1, [.focus .gained], by decide⟩

def otherInput : ApplyInput := ⟨otherId, .local 1, [.focus .gained], by decide⟩

def changedInput : ApplyInput := ⟨shownId, .local 1, [.focus .lost], by decide⟩

def shownView : PaneView := ⟨.ok (), true, fun _ => false, fun _ => .ok (some [27])⟩

def shownSteps : List Step :=
  [.applyInput ⟨1⟩ shownInput 0, .take, .bind, .encode shownView, .register 0, .handoff .sent,
    .forward 1 true, .report 1 .delivered, .wake true 0, .work, .wake true 0, .work, .work, .work]

abbrev shownDigest : ApplyInput → Bytes := operationDigest unary id

end Phux.InputLane
