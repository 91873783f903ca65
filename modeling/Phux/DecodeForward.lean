import Phux.Frame
import Phux.Metered

/-! The decoders only ever move forward through their input, and those of list elements by a byte
at least. -/

namespace Phux

open ByteReader Onward

variable {α : Type} {p : Decode α}

theorem forward_be (k : Nat) : Forward k (readBe DecodeError.unexpectedEof k) :=
  forward_take.before fun _ => forward_pure _

theorem forward_u8 : Forward 1 readU8 := forward_take.before fun _ => forward_pure _

theorem forward_u32 : Forward 4 readU32Be := (forward_be 4).before fun _ => forward_pure _

theorem forward_bytes : Forward 4 readBytes :=
  forward_u32.before fun _ => forward_failIf.andThen fun _ => forward_take.mono (Nat.zero_le _)

theorem forward_str : Forward 4 readStr := forward_bytes.before fun _ => forward_okOr _ _

instance : Onward readU8 := forward_u8.onward

instance : Onward readU16Be := ((forward_be 2).before fun _ => forward_pure _).onward

instance : Onward readU32Be := forward_u32.onward

instance : Onward readU64Be := ((forward_be 8).before fun _ => forward_pure _).onward

instance : Onward readBytes := forward_bytes.onward

instance : Onward readStr := forward_str.onward

instance (name : String) (tag : UInt8) : Onward (unknownTag name tag : Decode α) :=
  (forward_throw 0 _).onward

theorem forward_optional {name : String} [Onward p] : Forward 1 (decodeOptional name p) := by
  refine forward_u8.before fun tag => ?_
  split <;> exact forward

instance (name : String) [Onward p] : Onward (decodeOptional name p) :=
  forward_optional.onward

instance : Onward decodeOptionalStr := forward_optional.onward

theorem forward_terminalId : Forward 1 decodeTerminalId := by
  refine forward_u8.before fun tag => ?_
  split <;> exact forward

instance : Onward decodeTerminalId := forward_terminalId.onward

instance : Onward decodeOptionTerminalId := forward_optional.onward

instance : Onward decodeOptionalU32 := forward_optional.onward

instance : Onward readI64Be := by unfold readI64Be; infer_instance

instance : Onward decodeSplitDir := by
  refine ⟨forward_u8.any.andThen fun tag => ?_⟩
  split <;> exact forward

instance : Onward readF32Be := by unfold readF32Be; infer_instance

theorem forward_layoutNode (levels : Nat) : Forward 0 (decodeLayoutNodeDepth levels) := by
  induction levels with
  | zero => exact forward_throw 0 _
  | succ levels ih =>
    have _ : Onward (decodeLayoutNodeDepth levels) := ih.onward
    refine forward_u8.any.andThen fun tag => ?_
    split <;> exact forward

instance : Onward decodeLayoutNode := (forward_layoutNode _).onward

theorem forward_sessionInfo : Forward 1 decodeSessionInfo := by
  have _ : Onward decodeOptionWindowId := forward_optional.onward
  exact .one <| forward_u32.before fun _ => forward

theorem forward_windowInfo : Forward 1 decodeWindowInfo := by
  have _ : Onward decodeOptionLayoutNode := forward_optional.onward
  exact .one <| forward_u32.before fun _ => forward

theorem forward_terminalInfo : Forward 1 decodeTerminalInfo :=
  forward_terminalId.before fun _ => forward

theorem forward_hostSession : Forward 1 decodeHostSession :=
  Forward.one <| forward_u32.before fun _ => forward

theorem forward_hostRow : Forward 1 decodeHostRow := by
  have _ : Onward decodeHostSession := forward_hostSession.onward
  have _ : Onward (decodeList decodeHostSession) := by unfold decodeList; infer_instance
  exact .one <| forward_str.before fun _ => forward

instance (resources : List ResourceInfo) : Onward (decodeResourceFacets resources) := by
  have _ : Onward decodeResourceKind := by unfold decodeResourceKind; infer_instance
  have _ : Onward decodeAgentFacet := by unfold decodeAgentFacet; infer_instance
  have _ : Onward decodeFacetRow := by
    unfold decodeFacetRow
    infer_instance
  unfold decodeResourceFacets
  infer_instance

instance (sessions : List SessionInfo) : Onward (decodeSessionFacets sessions) := by
  unfold decodeSessionFacets decodeSessionFacetRow
  infer_instance

instance (ext : External) : Onward (decodeListeners ext) := by
  unfold decodeListeners
  infer_instance

instance (n : Nat) : Onward (readByteArray n) := by
  induction n with
  | zero => exact inferInstanceAs (Onward (pure _))
  | succ n ih =>
    unfold readByteArray
    infer_instance

instance : Onward readFlag := by unfold readFlag; infer_instance

theorem forward_inputEvent : Forward 1 decodeInputEvent := by
  have _ : Onward readModSet := by unfold readModSet; infer_instance
  have _ : Onward readF64Be := by unfold readF64Be; infer_instance
  have _ : Onward decodePasteTrust := by
    refine ⟨forward_u8.any.andThen fun tag => ?_⟩
    split <;> exact forward
  have _ : Onward decodeKeyEvent := by unfold decodeKeyEvent decodeEnum32; infer_instance
  have _ : Onward decodeMouseEvent := by unfold decodeMouseEvent decodeEnum32; infer_instance
  have _ : Onward readFocusEvent := by unfold readFocusEvent; infer_instance
  have _ : Onward decodePasteEvent := by unfold decodePasteEvent; infer_instance
  refine forward_u8.before fun tag => ?_
  split <;> exact forward

instance : Onward decodeInputEvent := forward_inputEvent.onward

instance [Onward p] : Onward (decodeFlagged p) := by
  refine ⟨forward.andThen fun present => ?_⟩
  split <;> exact forward

instance (f : UInt8 → Option α) (e : UInt8 → DecodeError) : Onward (decodeEnum8 f e) := by
  unfold decodeEnum8
  infer_instance

instance : Onward decodeFileUploadId := by unfold decodeFileUploadId; infer_instance

instance (tag : UInt8) : Onward (decodeTerminalSubscriptionCommand tag) := by
  have _ : Onward decodeKillPrecondition := by
    unfold decodeKillPrecondition decodeServerInstance
    infer_instance
  unfold decodeTerminalSubscriptionCommand
  split <;> infer_instance

instance : Onward decodePutFileCommand := by
  unfold decodePutFileCommand decodePutFileExtension decodePutFileChunk
  infer_instance

instance [Onward p] : Onward (decodeList16 p) := by unfold decodeList16; infer_instance

instance (len : Nat) (tag : UInt8) : Onward (decodeLiveAffordanceCommand len tag) := by
  unfold decodeLiveAffordanceCommand decodeGetScreenCommand decodeApplyInputCommand
    decodeGetTerminalStateCommand decodeSubscribeTerminalEventsCommand
  split <;> infer_instance

instance (tag : UInt8) : Onward (decodeSupervisoryCommand tag) := by
  unfold decodeSupervisoryCommand
  split <;> infer_instance

instance (tag : UInt8) : Onward (decodeAgentReportCommand tag) := by
  unfold decodeAgentReportCommand
  split
  · exact (forward_terminalId.any.andThen fun _ => (forward_forFields _ _ _ _ _).andThen fun _ =>
      forward_pure _).onward
  · infer_instance
  · infer_instance

instance (tag : UInt8) : Onward (decodeSessionCommand tag) := by
  have _ : Onward decodeStateScope := by
    refine ⟨forward_u8.any.andThen fun tag => ?_⟩
    split <;> exact forward
  unfold decodeSessionCommand
  split <;> infer_instance

instance (tag : UInt8) : Onward (decodeResourceCommand tag) := by
  unfold decodeResourceCommand
  split <;> infer_instance

end Phux
