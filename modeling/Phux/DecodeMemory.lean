import Phux.DecodedFrames
import Phux.DecodeForward

/-! What decoding a frame sets aside: room for the elements of counted lists, the copies of field
values and the buffer an envelope is inflated into. -/

namespace Phux

open ByteReader DecodeError External Nat

variable {α : Type} {k : Nat} {m : Metered DecodeError α} {p : Decode α}

/-- The element types of the lists whose room is set aside ahead of their elements. -/
inductive ListElement where
  | str | envEntry | session | window | resource | hostRow | hostSession | directoryEntry
  | inputEvent | resourceId | eventType
deriving DecidableEq

def ListElement.all : List ListElement :=
  [.str, .envEntry, .session, .window, .resource, .hostRow, .hostSession, .directoryEntry,
    .inputEvent, .resourceId, .eventType]

def widest (slots : ListElement → Nat) : Nat := ListElement.all.foldr (fun e n => max (slots e) n) 0

theorem slots_le_widest (slots : ListElement → Nat) (e : ListElement) : slots e ≤ widest slots := by
  have hmax : ∀ l : List ListElement, e ∈ l → slots e ≤ l.foldr (fun e n => max (slots e) n) 0 := by
    intro l he
    induction l with
    | nil => cases he
    | cons first l ih =>
      rw [List.foldr_cons]
      rcases List.mem_cons.mp he with rfl | he
      · exact le_max_left _ _
      · exact le_trans (ih he) (le_max_right _ _)
  exact hmax ListElement.all (by cases e <;> decide)

section

open Metered

-- the size in memory of an element of each list
variable (slots : ListElement → Nat)

def meteredElements {α : Type} (element : ListElement) (count : Nat) (m : Metered DecodeError α) :
    Metered DecodeError (List α) := do
  reserveBounded count (slots element)
  Metered.replicate count m

def meteredList {α : Type} (element : ListElement) (m : Metered DecodeError α) :
    Metered DecodeError (List α) := do
  let len ← free readU32Be
  meteredElements slots element len.toNat m

def meteredList16 {α : Type} (element : ListElement) (m : Metered DecodeError α) :
    Metered DecodeError (List α) := do
  let count ← free readU16Be
  reserve count.toNat (slots element)
  Metered.replicate count.toNat m

def meteredOptional {α : Type} (tagName : String) (m : Metered DecodeError α) :
    Metered DecodeError (Option α) := do
  match ← free readU8 with
  | 0 => pure none
  | 1 =>
    let a ← m
    pure (some a)
  | other => free (unknownTag tagName other)

def meteredStringList : Metered DecodeError (List String) := meteredList slots .str (free readStr)

def meteredEnv : Metered DecodeError (List (String × String)) :=
  meteredList slots .envEntry (free decodeEnvEntry)

def meteredAttachTarget : Metered DecodeError AttachTarget := do
  match ← free readU8 with
  | 0 => pure .last
  | 1 =>
    let name ← free readStr
    pure (.byName name)
  | 2 =>
    let id ← free readU32Be
    pure (.byId ⟨id⟩)
  | 3 =>
    let name ← free readStr
    let command ← meteredOptional "Option<list<str>> tag" (meteredStringList slots)
    let cwd ← free decodeOptionalStr
    pure (.createIfMissing name command cwd)
  | other => free (unknownTag "AttachTarget" other)

def meteredHostRow : Metered DecodeError HostInventory := do
  let host ← free readStr
  let unreachable ← free decodeOptionalStr
  let sessions ← meteredList slots .hostSession (free decodeHostSession)
  pure { host := ⟨host⟩, unreachable, sessions }

def meteredSessionSnapshot (ext : External) : Metered DecodeError SessionSnapshot := do
  let sessions ← meteredList slots .session (free decodeSessionInfo)
  let windows ← meteredList slots .window (free decodeWindowInfo)
  let resources ← meteredList slots .resource (free decodeTerminalInfo)
  let focusedSession ← free readU32Be
  let focusedWindow ← free readU32Be
  let focusedResource ← free decodeTerminalId
  let resources ← free (decodeResourceFacets resources)
  let hosts ← Metered.trailing [] (meteredList slots .hostRow (meteredHostRow slots))
  let sessions ← free (decodeSessionFacets sessions)
  let listeners ← free (decodeListeners ext)
  let snapshot : SessionSnapshot :=
    { sessions, windows, resources, focusedSession := ⟨focusedSession⟩,
      focusedWindow := ⟨focusedWindow⟩, focusedResource, trail := none }
  pure (snapshot.withTrail hosts listeners)

def meteredEntries : Metered DecodeError (List DirectoryEntry) := do
  let count ← free readU32Be
  free (failIf (maxDirectoryEntries < count.toNat) directoryEntryLimitExceeded)
  meteredElements slots .directoryEntry count.toNat (free decodeDirectoryEntry)

def meteredApplyInputCommand (commandBodyLen : Nat) : Metered DecodeError (Option Command) := do
  free (failIf (maxApplyInputCommandBody < commandBodyLen) applyInputLimitExceeded)
  let bytes ← free (readByteArray 16)
  let operationId ← free (okOr (InputOperationId.new bytes) invalidInputOperationId)
  let terminalId ← free decodeTerminalId
  let count ← free readU16Be
  free (failIf (maxApplyInputEvents < count.toNat) applyInputLimitExceeded)
  let events ← meteredElements slots .inputEvent count.toNat (free decodeInputEvent)
  pure (some (.applyInput operationId terminalId events))

def meteredSubscribeTerminalEventsCommand : Metered DecodeError (Option Command) := do
  let terminalId ← free decodeTerminalId
  let eventTypes ← meteredList16 slots .eventType (free do
    let b ← readU8
    pure (ResourceEventType.fromU8 b))
  pure (some (.subscribeResourceEvents terminalId (eventTypes.filterMap fun et => et)))

def meteredLiveAffordanceCommand (commandBodyLen : Nat) (tag : UInt8) :
    Metered DecodeError (Option Command) :=
  match tag with
  | 0x14 => meteredApplyInputCommand slots commandBodyLen
  | 0x0d => meteredSubscribeTerminalEventsCommand slots
  | other => free (decodeLiveAffordanceCommand commandBodyLen other)

def meteredSessionCommand (tag : UInt8) : Metered DecodeError (Option Command) :=
  match tag with
  | 0x09 => do
    let ids ← meteredList16 slots .resourceId (free decodeTerminalId)
    pure (some (.killResources ids))
  | other => free (decodeSessionCommand other)

def meteredCommand : Metered DecodeError Command := do
  let commandBodyLen ← free remaining
  let tag ← free readU8
  Metered.firstSome (free (unknownTag "Command" tag))
    [free (decodeTerminalSubscriptionCommand tag),
      meteredLiveAffordanceCommand slots commandBodyLen tag, free (decodeSupervisoryCommand tag),
      free (decodeAgentReportCommand tag), meteredSessionCommand slots tag,
      free (decodeResourceCommand tag)]

def meteredCommandValue (ext : External) : Metered DecodeError CommandValue := do
  match ← free readU8 with
  | 0 =>
    let id ← free decodeTerminalId
    pure (.resourceId id)
  | 1 =>
    let id ← free readU32Be
    pure (.groupId ⟨id⟩)
  | 2 =>
    let snapshot ← meteredSessionSnapshot slots ext
    pure (.state snapshot)
  | 3 =>
    let text ← free readStr
    pure (.json text)
  | 4 =>
    let data ← free readBytes
    pure (.bytes data)
  | 5 =>
    let nextOffset ← free readU64Be
    let path ← free (decodeFlagged readStr)
    pure (.fileUpload { nextOffset, path })
  | other => free (unknownTag "CommandValue" other)

def meteredCommandResult (ext : External) : Metered DecodeError CommandResult := do
  match ← free readU8 with
  | 0 => pure .ok
  | 1 =>
    let value ← meteredCommandValue slots ext
    pure (.okWith value)
  | 2 =>
    let code ← free decodeErrorCode
    let message ← free readStr
    pure (.error code message)
  | other => free (unknownTag "CommandResult" other)

variable (element : ListElement)

theorem run_list (m : Metered DecodeError α) :
    (meteredList slots element m).run = decodeList m.run := by
  unfold decodeList
  simp only [← run_replicate]
  rfl

theorem run_list16 (m : Metered DecodeError α) :
    (meteredList16 slots element m).run = decodeList16 m.run := by
  unfold decodeList16
  simp only [← run_replicate]
  rfl

theorem run_attachTarget : (meteredAttachTarget slots).run = decodeAttachTarget := by
  have hlist : (meteredStringList slots).run = decodeStringList := run_list slots _ _
  have hoptional : (meteredOptional "Option<list<str>> tag" (meteredStringList slots)).run =
      decodeOptionalStringList := by
    unfold decodeOptionalStringList decodeOptional
    rw [← hlist]
    refine bind_congr fun tag => ?_
    dsimp only
    split <;> first | rfl | (split <;> first | rfl | contradiction)
  unfold decodeAttachTarget
  rw [← hoptional]
  refine bind_congr fun tag => ?_
  dsimp only
  split <;> first | rfl | (split <;> first | rfl | contradiction)

theorem run_hostRow : (meteredHostRow slots).run = decodeHostRow := by
  unfold decodeHostRow
  have hsessions := run_list slots .hostSession (free decodeHostSession)
  simp only [free] at hsessions
  rw [← hsessions]
  rfl

variable (ext : External)

theorem run_sessionSnapshot :
    (meteredSessionSnapshot slots ext).run = decodeSessionSnapshot ext := by
  unfold decodeSessionSnapshot decodeHostInventory
  rw [← run_hostRow slots]
  have h1 := run_list slots .session (free decodeSessionInfo)
  have h2 := run_list slots .window (free decodeWindowInfo)
  have h3 := run_list slots .resource (free decodeTerminalInfo)
  have h4 := run_list slots .hostRow (meteredHostRow slots)
  simp only [free] at h1 h2 h3
  rw [← h1, ← h2, ← h3, ← h4]
  rfl

theorem run_entries : (meteredEntries slots).run = decodeEntries := by
  unfold decodeEntries
  have hentries : ∀ n, (replicate n (free decodeDirectoryEntry)).run =
      replicate n decodeDirectoryEntry := fun n => run_replicate n _
  simp only [← hentries]
  rfl

variable (len : Nat)

theorem run_applyInputCommand :
    (meteredApplyInputCommand slots len).run = decodeApplyInputCommand len := by
  unfold decodeApplyInputCommand
  have hevents : ∀ n, (replicate n (free decodeInputEvent)).run =
      replicate n decodeInputEvent := fun n => run_replicate n _
  simp only [← hevents]
  rfl

theorem run_liveAffordanceCommand (tag : UInt8) :
    (meteredLiveAffordanceCommand slots len tag).run = decodeLiveAffordanceCommand len tag := by
  unfold meteredLiveAffordanceCommand
  split
  · exact run_applyInputCommand slots len
  · change _ = decodeSubscribeTerminalEventsCommand
    unfold decodeSubscribeTerminalEventsCommand meteredSubscribeTerminalEventsCommand
    simp only [run_bind, run_list16]
    rfl
  · rfl

variable (tag : UInt8)

theorem run_sessionCommand : (meteredSessionCommand slots tag).run = decodeSessionCommand tag := by
  unfold meteredSessionCommand
  split
  · simp only [run_bind, run_list16]
    rfl
  · rfl

theorem run_command : (meteredCommand slots).run = decodeCommand := by
  unfold meteredCommand decodeCommand
  simp only [run_bind, run_firstSome, List.map_cons, List.map_nil, run_liveAffordanceCommand,
    run_sessionCommand]
  rfl

theorem run_commandResult : (meteredCommandResult slots ext).run = decodeCommandResult ext := by
  have hvalue : (meteredCommandValue slots ext).run = decodeCommandValue ext := by
    unfold decodeCommandValue
    rw [← run_sessionSnapshot slots]
    refine bind_congr fun tag => ?_
    dsimp only
    split <;> first | rfl | (split <;> first | rfl | contradiction)
  unfold decodeCommandResult
  rw [← hvalue]
  refine bind_congr fun tag => ?_
  dsimp only
  split <;> first | rfl | (split <;> first | rfl | contradiction)

/-- What a failing list of commands may set aside beyond the bytes it has. -/
def overrun : Nat := 65535 * widest slots

theorem linear_list (h : Linear k 0 m) (hforward : Forward 1 m.run) :
    Linear (widest slots + k) 0 (meteredList slots element m) := by
  refine .after fun len => ?_
  exact (h.bounded len.toNat (slots element) hforward).mono
    (Nat.add_le_add_right (slots_le_widest slots element) k) (Nat.le_refl 0)

theorem linear_flatList (h : Forward 1 p) {e : Nat} :
    Linear (2 * widest slots) e (meteredList slots element (free p)) :=
  have _ : Onward p := h.onward
  (linear_list slots element (linear_free (k := 0)) h).mono (by omega) (zero_le e)

theorem linear_list16 (h : Linear 0 0 m) (hforward : Forward 1 m.run) :
    Linear (2 * widest slots) (overrun slots) (meteredList16 slots element m) := by
  refine .after fun count => ?_
  have hcount : count.toNat ≤ 65535 := by
    have := count.toNat_lt
    omega
  have hwide := slots_le_widest slots element
  exact (h.unbounded hcount hforward).mono (by omega) (mul_le_mul_left 65535 hwide)

variable {e : Nat}

theorem linear_attachTarget : Linear (2 * widest slots) e (meteredAttachTarget slots) := by
  have hlist : Linear (2 * widest slots) e (meteredStringList slots) :=
    linear_flatList slots .str forward_str.one
  have hoptional : Linear (2 * widest slots) e
      (meteredOptional "Option<list<str>> tag" (meteredStringList slots)) := by
    refine .after fun tag => ?_
    split
    · exact linear_pure
    · exact hlist.bind fun _ => linear_pure
    · exact linear_free
  refine .after fun tag => ?_
  split
  · exact linear_pure
  · exact .after fun _ => linear_pure
  · exact .after fun _ => linear_pure
  · exact .after fun _ => hoptional.bind fun _ => .after fun _ => linear_pure
  · exact linear_free

theorem linear_sessionSnapshot :
    Linear (2 * widest slots) e (meteredSessionSnapshot slots ext) := by
  have hrow : Linear (widest slots) 0 (meteredHostRow slots) :=
    .after fun _ => .after fun _ =>
      (linear_list slots .hostSession (linear_free (k := 0))
        forward_hostSession).bind fun _ => linear_pure
  have hrowForward : Forward 1 (meteredHostRow slots).run := by
    rw [run_hostRow]
    exact forward_hostRow
  have hhosts : Linear (2 * widest slots) e (meteredList slots .hostRow (meteredHostRow slots)) :=
    (linear_list slots .hostRow hrow hrowForward).mono (by omega) (zero_le e)
  exact (linear_flatList slots .session forward_sessionInfo).bind fun _ =>
    (linear_flatList slots .window forward_windowInfo).bind fun _ =>
    (linear_flatList slots .resource forward_terminalInfo).bind fun resources =>
    .after fun _ => .after fun _ => .after fun _ => .after fun _ =>
    (hhosts.trailing []).bind fun _ => .after fun _ => .after fun _ => linear_pure

theorem linear_entries : Linear (2 * widest slots) e (meteredEntries slots) := by
  have hentry : Forward 1 decodeDirectoryEntry :=
    Forward.one <| forward_str.before fun _ => forward_u8.any.andThen fun _ => forward_pure _
  have hwide := slots_le_widest slots .directoryEntry
  refine .after fun count => .after fun _ => ?_
  exact ((linear_free (k := 0) (e := e)).bounded count.toNat _ hentry).mono (by omega) (le_refl e)

theorem linear_liveAffordanceCommand (tag : UInt8) :
    Linear (2 * widest slots) (overrun slots) (meteredLiveAffordanceCommand slots len tag) := by
  unfold meteredLiveAffordanceCommand
  split
  · have hwide := slots_le_widest slots .inputEvent
    refine .after fun _ => .after fun _ => .after fun _ => .after fun _ => .after fun count =>
      .after fun _ => .bind ?_ fun _ => linear_pure
    exact ((linear_free (k := 0) (e := overrun slots) (p := decodeInputEvent)).bounded count.toNat _
      forward_inputEvent).mono (by omega) (le_refl _)
  · have hbyte : Forward 1 (do
        let b ← readU8
        pure (ResourceEventType.fromU8 b) : Decode (Option ResourceEventType)) :=
      forward_u8.before fun _ => forward_pure _
    exact .after fun _ =>
      (linear_list16 slots .eventType linear_free hbyte).bind fun _ => linear_pure
  · exact linear_free

theorem linear_sessionCommand :
    Linear (2 * widest slots) (overrun slots) (meteredSessionCommand slots tag) := by
  unfold meteredSessionCommand
  split
  · exact (linear_list16 slots .resourceId (linear_free (p := decodeTerminalId))
      forward_terminalId).bind fun _ => linear_pure
  · exact linear_free

theorem linear_command : Linear (2 * widest slots) (overrun slots) (meteredCommand slots) := by
  have _ : Onward (remaining : Decode Nat) := by
    refine ⟨fun c n d h => ?_⟩
    cases h
    exact ⟨0, le_refl 0, zero_le _, Cursor.advance_zero.symm⟩
  refine .after fun len => .after fun tag => linear_free.firstSome fun m hm => ?_
  simp only [List.mem_cons, List.not_mem_nil, or_false] at hm
  rcases hm with rfl | rfl | rfl | rfl | rfl | rfl
  · exact linear_free
  · exact linear_liveAffordanceCommand slots len tag
  · exact linear_free
  · exact linear_free
  · exact linear_sessionCommand slots tag
  · exact linear_free

theorem linear_commandResult : Linear (2 * widest slots) e (meteredCommandResult slots ext) := by
  have _ : Onward decodeErrorCode := by unfold decodeErrorCode; infer_instance
  have hvalue : Linear (2 * widest slots) e (meteredCommandValue slots ext) := by
    refine .after fun tag => ?_
    split
    · exact .after fun _ => linear_pure
    · exact .after fun _ => linear_pure
    · exact (linear_sessionSnapshot slots ext).bind fun _ => linear_pure
    · exact .after fun _ => linear_pure
    · exact .after fun _ => linear_pure
    · exact .after fun _ => .after fun _ => linear_pure
    · exact linear_free
  refine .after fun tag => ?_
  split
  · exact linear_pure
  · exact hvalue.bind fun _ => linear_pure
  · exact .after fun _ => .after fun _ => linear_pure
  · exact linear_free

def meteredFields {σ : Type} (step : σ → UInt32 → Bytes → Except DecodeError σ) (acc : σ)
    (finish : σ → Except DecodeError FrameKind) (fieldCost : UInt32 → Bytes → Nat) :
    Metered DecodeError FrameKind :=
  ⟨decodeFields step acc finish, fun c =>
    loopCost .unexpectedEof .lengthOverflow maxFrameLen step fieldCost (c.rest.length + 1) acc c⟩

/-- The cost of the field that a metered decoder reads; the others set nothing aside. -/
def onField {α : Type} (id : UInt32) (m : Metered DecodeError α) (id' : UInt32) (value : Bytes) :
    Nat := if id' = id then m.onValue value else 0

def meteredCall {α : Type} (dec : Decode α) (build : UInt32 → α → FrameKind)
    (m : Metered DecodeError α) : Metered DecodeError FrameKind :=
  meteredFields (callStep dec) {} (fun f => (required f.body).map (build f.requestId)) (onField 2 m)

variable (limits : BootstrapLimits)

/-- The frames with a list in them, and the others, which set nothing aside. -/
def meteredFrameBody (typeByte : UInt8) : Metered DecodeError FrameKind :=
  match typeByte with
  | 0x02 => meteredFields attachStep {} attachFrame (onField 1 (meteredAttachTarget slots))
  | 0x81 =>
    meteredFields (attachedStep ext) {} attachedFrame (onField 1 (meteredSessionSnapshot slots ext))
  | 0xd2 => meteredFields keysStep {} keysFrame (onField 2 (meteredStringList slots))
  | 0xd3 =>
    meteredFields ListingFields.absorb {} listingFrame (onField 4 (meteredEntries slots))
  | 0x22 =>
    meteredFields spawnStep {} spawnFrame fun id value =>
      onField 3 (meteredStringList slots) id value + onField 5 (meteredEnv slots) id value
  | 0x31 => meteredCall decodeCommand .command (meteredCommand slots)
  | 0xc2 => meteredCall (decodeCommandResult ext) .commandResult (meteredCommandResult slots ext)
  | other => free (decodeFrameBody ext limits other)

/-- A body whose field values are copied out of it, each at most once. -/
def copied {α : Type} (m : Metered DecodeError α) : Metered DecodeError α :=
  ⟨m.run, fun c => c.left + m.cost c⟩

def meteredInflated : Metered DecodeError FrameKind := do
  let typeByte ← free readU8
  free (failIf (typeByte = typeFrameCompressed) compressedFrameInvalid)
  copied (meteredFrameBody slots ext ((BootstrapLimits.new limits.maxChunkBytes
    limits.maxHistoryPageBytes).getD default) typeByte)

/-- The buffer for the inflated body, set aside before inflating, and then what decoding that body
sets aside. -/
def inflateCost (f : CompressedFields) : Nat :=
  match f.algorithm, f.uncompressedLen, f.payload with
  | some .deflate, some declared, some payload =>
    if declared = 0 ∨ maxCompressedFrameBytes limits < declared.toNat then 0
    else declared.toNat +
      match ext.inflate payload declared.toNat with
      | some body =>
        (meteredInflated slots ext limits).cost { rest := body, bodyEnd := some body.length }
      | none => 0
  | _, _, _ => 0

def envelopeCost (c : Cursor) : Nat :=
  match readFields compressedStep {} c with
  | .ok (f, _) => inflateCost slots ext limits f
  | .error _ => 0

def meteredBody : Metered DecodeError FrameKind := do
  let typeByte ← free readU8
  if typeByte = typeFrameCompressed then
    ⟨decodeFrameCompressed ext limits, envelopeCost slots ext limits⟩
  else copied (meteredFrameBody slots ext limits typeByte)

def memoryReserved (input : Bytes) : Nat :=
  match readU32Be { rest := input } with
  | .ok (length, c) =>
    if length.toNat < 1 ∨ maxFrameLen < length.toNat ∨ input.length < c.pos + length.toNat then 0
    else (meteredBody slots ext limits).cost { c with bodyEnd := some (c.pos + length.toNat) }
  | .error _ => 0

variable (ty : UInt8)

theorem run_frameBody :
    (meteredFrameBody slots ext limits ty).run = decodeFrameBody ext limits ty := by
  unfold meteredFrameBody
  split <;> rfl

/-- The metered decoder is the decoder. -/
theorem run_body : (meteredBody slots ext limits).run = readBody ext limits := by
  refine bind_congr fun ty => ?_
  unfold decodeBody
  by_cases hcompressed : ty = typeFrameCompressed
  · simp only [if_pos hcompressed]
  · simp only [if_neg hcompressed]
    exact run_frameBody slots ext limits ty

variable (body : Bytes)

theorem run_inflated :
    ((meteredInflated slots ext limits).run { rest := body, bodyEnd := some body.length }).map
      Prod.fst = decodeInflated ext limits body := by
  unfold meteredInflated decodeInflated
  simp only [run_bind, copied, run_frameBody]
  rfl

theorem onField_le (h : Linear k e m) (id id' : UInt32) {value : Bytes} :
    onField id m id' value ≤ k * value.length + e := by
  unfold onField
  split
  · exact (h { rest := value } (by simp [Cursor.left])).2
  · exact zero_le _

variable {id : UInt32}

theorem onField_ok {σ : Type} (h : Linear k e m) {step : σ → UInt32 → Bytes → Except DecodeError σ}
    (hrun : m.run = p) {f : σ → α → σ}
    (hstep : ∀ acc value, step acc id value = store (sub p value) (f acc)) (acc : σ)
    (id' : UInt32) (value : Bytes) (acc' : σ) (hok : step acc id' value = .ok acc') :
    onField id m id' value ≤ k * value.length := by
  unfold onField
  split
  · rename_i hid
    rw [hid, hstep] at hok
    obtain ⟨a, ha, -⟩ := store_eq_ok.mp hok
    rw [← hrun] at ha
    exact h.onValue_ok ha
  · exact zero_le _

theorem cost_fields_le {σ : Type} {step : σ → UInt32 → Bytes → Except DecodeError σ} {acc : σ}
    {finish : σ → Except DecodeError FrameKind} {fieldCost : UInt32 → Bytes → Nat}
    (hany : ∀ id value, fieldCost id value ≤ k * value.length + e)
    (hok : ∀ acc id value acc', step acc id value = .ok acc' → fieldCost id value ≤ k * value.length)
    (c : Cursor) : (meteredFields step acc finish fieldCost).cost c ≤ k * c.rest.length + e :=
  loopCost_le hany hok _ acc c

theorem cost_field_le {σ : Type} (h : Linear k e m)
    {step : σ → UInt32 → Bytes → Except DecodeError σ} {acc : σ}
    {finish : σ → Except DecodeError FrameKind} (hrun : m.run = p)
    {f : σ → α → σ} (hstep : ∀ acc value, step acc id value = store (sub p value) (f acc))
    (c : Cursor) : (meteredFields step acc finish (onField id m)).cost c ≤ k * c.rest.length + e :=
  cost_fields_le (onField_le h id) (onField_ok h hrun hstep) c

theorem cost_call_le (h : Linear k e m) (hrun : m.run = p) (build : UInt32 → α → FrameKind)
    (c : Cursor) : (meteredCall p build m).cost c ≤ k * c.rest.length + e :=
  cost_field_le h hrun (f := fun acc x => { acc with body := some x }) (fun _ _ => rfl) c

theorem onField_add {β : Type} (m' : Metered DecodeError β)
    {id' : UInt32} (hne : id ≠ id') (other : UInt32) (value : Bytes) :
    onField id m other value + onField id' m' other value = onField id m other value ∨
      onField id m other value + onField id' m' other value = onField id' m' other value := by
  unfold onField
  by_cases hid : other = id
  · rw [if_pos hid, if_neg fun h => hne (hid.symm.trans h)]
    exact .inl rfl
  · rw [if_neg hid, zero_add]
    exact .inr rfl

theorem cost_spawn_le (c : Cursor) : (meteredFields spawnStep {} spawnFrame fun id value =>
      onField 3 (meteredStringList slots) id value + onField 5 (meteredEnv slots) id value).cost c ≤
      2 * widest slots * c.rest.length + e := by
  have hstrings : Linear (2 * widest slots) e (meteredStringList slots) :=
    linear_flatList slots .str forward_str.one
  have hentry : Forward 1 decodeEnvEntry :=
    Forward.one <| forward_str.before fun _ => forward_str.any.andThen fun _ => forward_pure _
  have henv : Linear (2 * widest slots) e (meteredEnv slots) :=
    linear_flatList slots .envEntry hentry
  refine cost_fields_le (fun id value => ?_) (fun acc id value acc' hok => ?_) c
  · rcases onField_add (meteredEnv slots) (show (3 : UInt32) ≠ 5 by decide)
      id value with hadd | hadd
    · rw [hadd]
      exact onField_le hstrings 3 id
    · rw [hadd]
      exact onField_le henv 5 id
  · rcases onField_add (meteredEnv slots) (show (3 : UInt32) ≠ 5 by decide)
      id value with hadd | hadd
    · rw [hadd]
      exact onField_ok hstrings (run_list slots _ _)
        (f := fun acc x => { acc with command := some x }) (fun _ _ => rfl) acc id value acc' hok
    · rw [hadd]
      exact onField_ok henv (run_list slots _ _)
        (f := fun acc x => { acc with env := some x }) (fun _ _ => rfl) acc id value acc' hok

theorem cost_frameBody_le (c : Cursor) : (meteredFrameBody slots ext limits ty).cost c ≤
      2 * widest slots * c.rest.length + overrun slots := by
  have hstrings : Linear (2 * widest slots) (overrun slots) (meteredStringList slots) :=
    linear_flatList slots .str forward_str.one
  unfold meteredFrameBody
  split
  · exact cost_field_le (linear_attachTarget slots) (run_attachTarget slots)
      (f := fun acc x => { acc with target := some x }) (fun _ _ => rfl) c
  · exact cost_field_le (linear_sessionSnapshot slots ext) (run_sessionSnapshot slots ext)
      (f := fun acc x => { acc with snapshot := some x }) (fun _ _ => rfl) c
  · exact cost_field_le hstrings (run_list slots _ _)
      (f := fun acc keys => { acc with keys }) (fun _ _ => rfl) c
  · exact cost_field_le (linear_entries slots) (run_entries slots)
      (f := fun acc entries => { acc with entries }) (fun _ _ => rfl) c
  · exact cost_spawn_le slots c
  · exact cost_call_le (linear_command slots) (run_command slots) _ c
  · exact cost_call_le (linear_commandResult slots ext) (run_commandResult slots ext) _ c
  · exact zero_le _

variable {c : Cursor}

theorem cost_copied_le (hc : c.left ≤ c.rest.length) :
    (copied (meteredFrameBody slots ext limits ty)).cost c ≤
      (2 * widest slots + 1) * c.rest.length + overrun slots := by
  have hbody := cost_frameBody_le slots ext limits ty c
  change c.left + (meteredFrameBody slots ext limits ty).cost c ≤ _
  rw [add_mul, one_mul]
  omega

theorem cost_tagged_le {f : UInt8 → Metered DecodeError FrameKind} (hc : c.left ≤ c.rest.length)
    (h : ∀ ty (d : Cursor), d.left ≤ d.rest.length → d.rest.length ≤ c.rest.length → (f ty).cost d ≤ k) :
    (free readU8 >>= f).cost c ≤ k := by
  cases hread : readU8 c with
  | error err =>
    rw [cost_bind_error (m := free readU8) hread]
    exact zero_le _
  | ok result =>
    obtain ⟨ty, d⟩ := result
    obtain ⟨n, -, hn, rfl⟩ := forward_u8 c ty d hread
    have hcost : (free readU8 : Metered DecodeError UInt8).cost c = 0 := rfl
    rw [cost_bind_ok (m := free readU8) hread, hcost, zero_add]
    refine h ty _ (left_advance_le hc hn) ?_
    rw [length_advance]
    omega

theorem cost_inflated_le :
    (meteredInflated slots ext limits).cost { rest := body, bodyEnd := some body.length } ≤
      (2 * widest slots + 1) * body.length + overrun slots := by
  refine cost_tagged_le (by simp [Cursor.left]) fun ty d hd hshort => ?_
  by_cases hnested : ty = typeFrameCompressed
  · have hfail : (free (failIf (ty = typeFrameCompressed)
        compressedFrameInvalid) : Metered DecodeError Unit).run d =
        .error compressedFrameInvalid := by
      simp only [free, failIf, if_pos hnested]
      rfl
    rw [cost_bind_error hfail]
    exact zero_le _
  · have hpass : (free (failIf (ty = typeFrameCompressed)
        compressedFrameInvalid) : Metered DecodeError Unit).run d = .ok ((), d) :=
      failIf_eq_ok.mpr ⟨hnested, rfl⟩
    rw [cost_bind_ok hpass]
    have hcopied := cost_copied_le slots ext ((BootstrapLimits.new limits.maxChunkBytes
      limits.maxHistoryPageBytes).getD default) ty hd
    have hscale := mul_le_mul_left (2 * widest slots + 1) hshort
    have hzero : (free (failIf (ty = typeFrameCompressed)
      compressedFrameInvalid) : Metered DecodeError Unit).cost d = 0 := rfl
    simp only at hscale
    omega

/-- No more comes out of the decompressor than `ratio` times what goes in. -/
def External.ExpandsBy (ext : External) (ratio : Nat) : Prop :=
  ∀ payload n body, ext.inflate payload n = some body → body.length ≤ ratio * payload.length

variable {ext} {ratio : Nat}

theorem inflateCost_le (hratio : ext.ExpandsBy ratio) {f : CompressedFields} {most : Nat}
    (hpayload : ∀ payload, f.payload = some payload → payload.length ≤ most) :
    inflateCost slots ext limits f ≤
      maxCompressedFrameBytes limits + (2 * widest slots + 1) * (ratio * most) + overrun slots := by
  unfold inflateCost
  split
  · rename_i declared payload _ _ hfield
    split
    · exact zero_le _
    · rename_i hbounds
      have hle : declared.toNat ≤ maxCompressedFrameBytes limits := by omega
      split
      · rename_i body hinflate
        have hbody := cost_inflated_le slots ext limits body
        have hlen : body.length ≤ ratio * most :=
          le_trans (hratio _ _ _ hinflate) (mul_le_mul_left ratio (hpayload payload hfield))
        have hscale := mul_le_mul_left (2 * widest slots + 1) hlen
        omega
      · omega
  · exact zero_le _

theorem envelopeCost_le (hratio : ext.ExpandsBy ratio) (c : Cursor) :
    envelopeCost slots ext limits c ≤
      maxCompressedFrameBytes limits + (2 * widest slots + 1) * (ratio * c.rest.length) +
        overrun slots := by
  unfold envelopeCost
  split
  · rename_i f d hfields
    refine inflateCost_le slots limits hratio ?_
    refine fieldLoop_within (S := fun f : CompressedFields => ∀ payload, f.payload = some payload →
      payload.length ≤ c.rest.length) ?_ _ ?_ (le_refl _) f d hfields
    · intro acc id value acc' hacc hvalue hstep
      unfold compressedStep at hstep
      split at hstep
      · obtain ⟨_, -, rfl⟩ := store_eq_ok.mp hstep
        exact hacc
      · obtain ⟨_, -, rfl⟩ := store_eq_ok.mp hstep
        exact hacc
      · cases hstep
        intro payload hpayload
        cases hpayload
        exact hvalue
      · cases hstep
        exact hacc
    · intro payload hpayload
      cases hpayload
  · exact zero_le _

def memoryMultiple (ratio : Nat) : Nat := (2 * widest slots + 1) * (ratio + 1) + overrun slots

theorem le_memoryMultiple (ratio : Nat) {n len : Nat} (hn : n ≤ len) (hlen : 1 ≤ len) :
    (2 * widest slots + 1) * n + (2 * widest slots + 1) * (ratio * n) + overrun slots ≤
      memoryMultiple slots ratio * len := by
  have hflat := mul_le_mul_left (2 * widest slots + 1) hn
  have hratio := mul_le_mul_left (2 * widest slots + 1) (mul_le_mul_left ratio hn)
  have hover := mul_le_mul_left (overrun slots) hlen
  have hsplit : memoryMultiple slots ratio * len = (2 * widest slots + 1) * len +
      (2 * widest slots + 1) * (ratio * len) + overrun slots * len := by
    unfold memoryMultiple
    rw [add_mul, mul_add, mul_one, add_mul, mul_assoc _ ratio len]
    omega
  omega

theorem memoryReserved_le (hratio : ext.ExpandsBy ratio) (input : Bytes) :
    memoryReserved slots ext limits input ≤
      memoryMultiple slots ratio * input.length + maxCompressedFrameBytes limits := by
  unfold memoryReserved
  split
  · rename_i length c hlength
    obtain ⟨n, -, hn, hc⟩ := forward_u32 _ _ _ hlength
    split
    · exact zero_le _
    · rename_i hbounds
      simp only at hn
      have hpos : c.pos = n := by rw [hc]; simp [Cursor.advance]
      have hrest : c.rest.length = input.length - n := by rw [hc, length_advance]
      have hinput : 1 ≤ input.length := by omega
      refine cost_tagged_le ?_ fun ty d hd hshort => ?_
      · simp only [Cursor.left, Option.getD_some]
        omega
      · have hd' : d.rest.length ≤ input.length := by
          simp only at hshort
          omega
        have hle := le_memoryMultiple slots ratio hd' hinput
        split
        · have henvelope := envelopeCost_le slots limits hratio d
          change envelopeCost slots ext limits d ≤ _
          omega
        · have hcopied := cost_copied_le slots ext limits ty hd
          omega
  · exact zero_le _

end

/-- Whatever bytes come in, a frame that is decoded is a plain one and keeps the limits, and what
decoding sets aside is a multiple of the input and the inflate ceiling at most. -/
theorem decoding_keeps_limits (ext : External) (limits : BootstrapLimits) (input : Bytes)
    (slots : ListElement → Nat) (ratio : Nat) (hratio : ext.ExpandsBy ratio) :
    (∀ frame rest, decodeWithLimits ext limits input = .ok (frame, rest) →
      frame.typeByte ≠ typeFrameCompressed ∧ (∀ terminalId streamId bootstrapId chunkSeq payload,
        frame = .bootstrapChunk terminalId streamId bootstrapId chunkSeq payload →
        payload.length ≤ limits.maxChunkBytes.toNat) ∧
      ∀ terminalId streamId bootstrapId pageSeq cursor nextCursor payload rows,
        frame = .historyPage terminalId streamId bootstrapId pageSeq cursor nextCursor payload rows →
        payload.length ≤ limits.maxHistoryPageBytes.toNat) ∧
    (∀ inner, decodeInflated ext limits (typeFrameCompressed :: inner) =
      .error .compressedFrameInvalid) ∧ memoryReserved slots ext limits input ≤
      memoryMultiple slots ratio * input.length + maxCompressedFrameBytes limits := by
  refine ⟨fun frame rest h => ⟨typeByte_ne_compressed frame, ?_⟩, fun _ => rfl,
    memoryReserved_le slots limits hratio input⟩
  obtain ⟨-, -, -, d, hbody, -⟩ := readFrame_eq_ok.mp h
  have hyields : Yields (FrameKind.Lossless limits) (readBody ext limits) :=
    .after fun typeByte => yields_body limits
  have hlegible := (hyields _ _ _ hbody).1
  constructor
  · rintro terminalId streamId bootstrapId chunkSeq payload rfl
    exact hlegible
  · rintro terminalId streamId bootstrapId pageSeq cursor nextCursor payload rows rfl
    exact hlegible.payload_le

def External.stored : External :=
  { unary with
    inflate := fun payload n => if payload.length = n then some payload else none }

theorem stored_expands : stored.ExpandsBy 1 := by
  intro payload n body h
  simp only [stored] at h
  split at h
  · cases h
    omega
  · cases h

def storedChunk : Bytes :=
  [0, 0, 0, 59, 154, 1, 4, 1, 1, 2, 4, 4, 0, 0, 0, 44, 3, 4, 44, 148, 1, 4, 5, 0, 0, 0, 0, 1, 2, 4,
    8, 0, 0, 0, 0, 0, 0, 0, 1, 3, 4, 8, 0, 0, 0, 0, 0, 0, 0, 1, 4, 4, 4, 0, 0, 0, 0, 5, 4, 3, 1, 2, 3]

def chunkPayload : Except DecodeError (FrameKind × Bytes) → Option Bytes
  | .ok (.bootstrapChunk _ _ _ _ payload, _) => some payload
  | _ => none

theorem storedChunk_keeps_limits :
    chunkPayload (decodeWithLimits stored smallLimits storedChunk) = some [1, 2, 3] ∧
      [1, 2, 3].length ≤ smallLimits.maxChunkBytes.toNat ∧
      memoryReserved (fun _ => 24) stored smallLimits storedChunk ≤
        memoryMultiple (fun _ => 24) 1 * 63 + 66560 := by
  have hpayload : chunkPayload (decodeWithLimits stored smallLimits storedChunk) =
      some [1, 2, 3] := by decide +kernel
  have hkeeps := decoding_keeps_limits stored smallLimits storedChunk (fun _ => 24) 1 stored_expands
  refine ⟨hpayload, ?_, hkeeps.2.2⟩
  unfold chunkPayload at hpayload
  split at hpayload
  · rename_i terminalId streamId bootstrapId chunkSeq payload rest hread
    cases hpayload
    exact (hkeeps.1 _ _ hread).2.1 terminalId streamId bootstrapId chunkSeq _ rfl
  · cases hpayload

end Phux
