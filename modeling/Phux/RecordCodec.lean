import Phux.WirePrimitives
import Phux.Capabilities
import Phux.Ids

/-! Positional codecs of the records nested in message fields. Every encoder is
followed by its decoder and the law relating the two. -/

namespace Phux

open ByteReader DecodeError

def unknownTag {α : Type} (field : String) (tag : UInt8) : Decode α :=
  throw (.unknownEnumValue field tag.toUInt32)

section

variable {α : Type} {enc : α → Bytes} {dec : Decode α}

def encodeOptional (enc : α → Bytes) : Option α → Bytes
  | none => writeU8 0
  | some a => writeU8 1 ++ enc a

def decodeOptional (tagName : String) (dec : Decode α) : Decode (Option α) := do
  match ← readU8 with
  | 0 => pure none
  | 1 =>
    let a ← dec
    pure (some a)
  | other => unknownTag tagName other

theorem decodes_optional {tagName : String} {o : Option α}
    (h : ∀ a, o = some a → Decodes dec (enc a) a) :
    Decodes (decodeOptional tagName dec) (encodeOptional enc o) o := by
  cases o with
  | none => exact decodes_u8.thenPure rfl
  | some a => exact decodes_u8.bind ((h a rfl).map some)

def encodeList (enc : α → Bytes) (xs : List α) : Bytes :=
  writeU32Be (saturateU32 xs.length) ++ xs.flatMap enc

def decodeList (dec : Decode α) : Decode (List α) := do
  let len ← readU32Be
  replicate len.toNat dec

variable {xs : List α}

theorem length_le_flatMap (hne : ∀ x ∈ xs, enc x ≠ []) : xs.length ≤ (xs.flatMap enc).length := by
  induction xs with
  | nil => exact Nat.le_refl 0
  | cons x xs ih =>
    have hx : 0 < (enc x).length := List.length_pos_iff.mpr (hne x List.mem_cons_self)
    have htail := ih fun y hy => hne y (List.mem_cons_of_mem x hy)
    rw [List.flatMap_cons, List.length_append, List.length_cons]
    omega

theorem saturate_count (hne : ∀ x ∈ xs, enc x ≠ [])
    (hb : (encodeList enc xs).length ≤ maxFrameLen) : (saturateU32 xs.length).toNat = xs.length := by
  have hcount := length_le_flatMap hne
  have hbytes : (encodeList enc xs).length = 4 + (xs.flatMap enc).length := by
    simp [encodeList, writeU32Be]
  exact saturateU32_toNat (by rw [maxFrameLen] at hb; omega)

theorem decodes_listMap {β : Type} {dec : Decode β} {g : α → β}
    (hne : ∀ x ∈ xs, enc x ≠ []) (h : ∀ x ∈ xs, Decodes dec (enc x) (g x)) :
    Decodes (decodeList dec) (encodeList enc xs) (xs.map g) := by
  intro hb
  have hrep : Decodes (replicate (saturateU32 xs.length).toNat dec) (xs.flatMap enc) (xs.map g) := by
    rw [saturate_count hne hb]
    exact reads_replicate xs h
  exact decodes_u32.bind hrep hb

theorem decodes_list (hne : ∀ x ∈ xs, enc x ≠ [])
    (h : ∀ x ∈ xs, Decodes dec (enc x) x) : Decodes (decodeList dec) (encodeList enc xs) xs := by
  simpa only [List.map_id'] using decodes_listMap (g := fun x => x) hne h

end

theorem writeU8_ne_nil {x : UInt8} {bs : Bytes} : writeU8 x ++ bs ≠ [] := by simp [writeU8]

theorem writeStr_ne_nil (s : String) : writeStr s ≠ [] := by
  simp [writeStr, writeBytes, writeU32Be, beBytes]

def encodeOptionalStr : Option String → Bytes := encodeOptional writeStr

def decodeOptionalStr : Decode (Option String) := decodeOptional "Option<str> tag" readStr

theorem decodes_optionalStr {o : Option String} :
    Decodes decodeOptionalStr (encodeOptionalStr o) o := decodes_optional fun _ _ => decodes_str

def encodeOptionalU16 : Option UInt16 → Bytes := encodeOptional writeU16Be

def decodeOptionalU16 : Decode (Option UInt16) := decodeOptional "Option<u16> tag" readU16Be

theorem decodes_optionalU16 {o : Option UInt16} :
    Decodes decodeOptionalU16 (encodeOptionalU16 o) o := decodes_optional fun _ _ => decodes_u16

def encodeOptionalU32 : Option UInt32 → Bytes := encodeOptional writeU32Be

def decodeOptionalU32 : Decode (Option UInt32) := decodeOptional "Option<u32> tag" readU32Be

theorem decodes_optionalU32 {o : Option UInt32} :
    Decodes decodeOptionalU32 (encodeOptionalU32 o) o := decodes_optional fun _ _ => decodes_u32

def encodeStringList : List String → Bytes := encodeList writeStr

def decodeStringList : Decode (List String) := decodeList readStr

theorem decodes_stringList {xs : List String} : Decodes decodeStringList (encodeStringList xs) xs :=
  decodes_list (fun s _ => writeStr_ne_nil s) fun _ _ => decodes_str

def encodeOptionalStringList : Option (List String) → Bytes := encodeOptional encodeStringList

def decodeOptionalStringList : Decode (Option (List String)) :=
  decodeOptional "Option<list<str>> tag" decodeStringList

theorem decodes_optionalStringList {o : Option (List String)} :
    Decodes decodeOptionalStringList (encodeOptionalStringList o) o :=
  decodes_optional fun _ _ => decodes_stringList

def encodeEnvEntry (entry : String × String) : Bytes := writeStr entry.1 ++ writeStr entry.2

def decodeEnvEntry : Decode (String × String) := do
  let k ← readStr
  let v ← readStr
  pure (k, v)

def encodeEnv : List (String × String) → Bytes := encodeList encodeEnvEntry

def decodeEnv : Decode (List (String × String)) := decodeList decodeEnvEntry

theorem decodes_env {xs : List (String × String)} : Decodes decodeEnv (encodeEnv xs) xs :=
  decodes_list (fun x _ => by simp [encodeEnvEntry, writeStr_ne_nil])
    fun _ _ => decodes_str.bind (decodes_str.map _)

def readByteArray : (n : Nat) → Decode (Vector UInt8 n)
  | 0 => pure #v[]
  | n + 1 => do
    let v ← readByteArray n
    let b ← readU8
    pure (v.push b)

theorem decodes_byteArray {n : Nat} (v : Vector UInt8 n) :
    Decodes (readByteArray n) (v.toList.flatMap writeU8) v := by
  induction n with
  | zero =>
    have hv : v = #v[] := by simp
    subst hv
    exact reads_pure _
  | succ n ih =>
    obtain ⟨w, b, rfl⟩ : ∃ (w : Vector UInt8 n) (b : UInt8), v = w.push b :=
      ⟨v.pop, v.back, (Vector.push_pop_back v).symm⟩
    have hl : (w.push b).toList.flatMap writeU8 = w.toList.flatMap writeU8 ++ writeU8 b := by
      rw [Vector.toList_push, List.flatMap_append, List.flatMap_singleton]
    rw [hl]
    exact (ih w).bind (decodes_u8.map _)

def encodeServerInstance (instance_ : ServerInstance) : Bytes :=
  instance_.bytes.toList.flatMap writeU8

def decodeServerInstance : Decode ServerInstance := do
  let bytes ← readByteArray 16
  pure ⟨bytes⟩

theorem decodes_serverInstance {i : ServerInstance} :
    Decodes decodeServerInstance (encodeServerInstance i) i := (decodes_byteArray i.bytes).map _

def encodeTerminalId : ResourceId → Bytes
  | .local id => writeU8 0 ++ writeU32Be id
  | .satellite host id => writeU8 1 ++ (writeStr host.name ++ writeU32Be id)

def decodeTerminalId : Decode ResourceId := do
  match ← readU8 with
  | 0 =>
    let id ← readU32Be
    pure (.local id)
  | 1 =>
    let host ← readStr
    let id ← readU32Be
    pure (.satellite ⟨host⟩ id)
  | other => unknownTag "ResourceId" other

theorem decodes_terminalId {id : ResourceId} : Decodes decodeTerminalId (encodeTerminalId id) id := by
  cases id with
  | «local» id => exact decodes_u8.bind (decodes_u32.map _)
  | satellite host id => exact decodes_u8.bind (decodes_str.bind (decodes_u32.map _))

theorem encodeTerminalId_ne_nil (id : ResourceId) : encodeTerminalId id ≠ [] := by
  cases id <;> exact writeU8_ne_nil

def decodeEngineCodec : Decode EngineCodec := do
  let value ← readU8
  okOr (EngineCodec.fromWire value) (unknownEnumValue "EngineCodec" value.toUInt32)

theorem decodes_engineCodec {c : EngineCodec} : Decodes decodeEngineCodec (writeU8 c.asWire) c :=
  decodes_u8.translate c.fromWire_asWire

def encodeBootstrapCodec : BootstrapCodec → Bytes
  | .synthesizedVtV1 => writeU8 0
  | .native version => writeU8 1 ++ writeU8 version.asWire
  | .agentEventsJsonlV1 => writeU8 3

def decodeBootstrapCodec : Decode BootstrapCodec := do
  match ← readU8 with
  | 0 => pure .synthesizedVtV1
  | 1 =>
    let codec ← decodeEngineCodec
    pure (.native codec)
  | 3 => pure .agentEventsJsonlV1
  | value => unknownTag "BootstrapCodec" value

theorem decodes_bootstrapCodec {c : BootstrapCodec} :
    Decodes decodeBootstrapCodec (encodeBootstrapCodec c) c := by
  cases c with
  | synthesizedVtV1 | agentEventsJsonlV1 => exact decodes_u8.thenPure rfl
  | native codec => exact decodes_u8.bind (decodes_engineCodec.map _)

section

variable {k8 : BitVec 8} {k32 : BitVec 32} {k64 : BitVec 64}

def writeFlags8 (s : BitSet 8 k8) : Bytes := writeU8 ⟨s.asWire⟩

def writeFlags32 (s : BitSet 32 k32) : Bytes := writeU32Be ⟨s.asWire⟩

def writeFlags64 (s : BitSet 64 k64) : Bytes := writeU64Be ⟨s.asWire⟩

def readFlags8 : Decode (BitSet 8 k8) := do
  let bits ← readU8
  pure (.fromWire bits.toBitVec)

def readFlags32 : Decode (BitSet 32 k32) := do
  let bits ← readU32Be
  pure (.fromWire bits.toBitVec)

def readFlags64 : Decode (BitSet 64 k64) := do
  let bits ← readU64Be
  pure (.fromWire bits.toBitVec)

theorem decodes_flags8 {s : BitSet 8 k8} : Decodes readFlags8 (writeFlags8 s) s :=
  decodes_u8.thenPure (by rw [s.fromWire_asWire])

theorem decodes_flags32 {s : BitSet 32 k32} : Decodes readFlags32 (writeFlags32 s) s :=
  decodes_u32.thenPure (by rw [s.fromWire_asWire])

theorem decodes_flags64 {s : BitSet 64 k64} : Decodes readFlags64 (writeFlags64 s) s :=
  decodes_u64.thenPure (by rw [s.fromWire_asWire])

end

def encodeBootstrapProfile : BootstrapProfile → Bytes
  | .nativeState codec features => writeU8 3 ++ (writeU8 codec.asWire ++ writeFlags32 features)
  | .synthesizedVtRaw => writeU8 1
  | .synthesizedVtStateSync => writeU8 2

def decodeBootstrapProfile : Decode BootstrapProfile := do
  match ← readU8 with
  | 3 =>
    let codec ← decodeEngineCodec
    let features : EngineFeatureSet ← readFlags32
    failIf (features.supportsNative = false) invalidBootstrapProfile
    pure (.nativeState codec features)
  | 1 => pure .synthesizedVtRaw
  | 2 => pure .synthesizedVtStateSync
  | value => unknownTag "BootstrapProfile" value

def BootstrapProfile.Supported : BootstrapProfile → Prop
  | .nativeState _ features => features.supportsNative = true
  | _ => True

theorem decodes_bootstrapProfile {p : BootstrapProfile} (h : p.Supported) :
    Decodes decodeBootstrapProfile (encodeBootstrapProfile p) p := by
  cases p with
  | nativeState codec features =>
    have hs : ¬ features.supportsNative = false := by simpa [BootstrapProfile.Supported] using h
    exact decodes_u8.bind <| decodes_engineCodec.bind <|
      decodes_flags32.thenPure (by rw [failIf_of_not hs]; rfl)
  | synthesizedVtRaw | synthesizedVtStateSync => exact decodes_u8.thenPure rfl

def decodeBootstrapStreamProfile (codec : BootstrapCodec) (outputMode : UInt8) :
    Except DecodeError BootstrapStreamProfile :=
  match codec, outputMode with
  | .native codec, 0 => .ok (.nativeState codec)
  | .synthesizedVtV1, 0 => .ok .synthesizedVtRaw
  | .synthesizedVtV1, 1 => .ok .synthesizedVtStateSync
  | .agentEventsJsonlV1, 0 => .ok .agentEventsJsonlV1
  | _, _ => .error .invalidBootstrapProfile

def decodeStreamId : Decode StreamId := do
  let raw ← readU64Be
  okOr (StreamId.new raw) invalidStreamId

theorem decodes_streamId {id : StreamId} : Decodes decodeStreamId (writeU64Be id.raw) id :=
  decodes_u64.translate id.new_raw

def decodeBootstrapId : Decode BootstrapId := do
  let raw ← readU64Be
  okOr (BootstrapId.new raw) invalidBootstrapId

theorem decodes_bootstrapId {id : BootstrapId} : Decodes decodeBootstrapId (writeU64Be id.raw) id :=
  decodes_u64.translate id.new_raw

inductive AttachTarget where
  | last
  | byName (name : String)
  | byId (id : SessionId)
  | createIfMissing (name : String) (command : Option (List String)) (cwd : Option String)
deriving DecidableEq

def encodeAttachTarget : AttachTarget → Bytes
  | .last => writeU8 0
  | .byName name => writeU8 1 ++ writeStr name
  | .byId id => writeU8 2 ++ writeU32Be id.raw
  | .createIfMissing name command cwd =>
    writeU8 3 ++ (writeStr name ++ (encodeOptionalStringList command ++ encodeOptionalStr cwd))

def decodeAttachTarget : Decode AttachTarget := do
  match ← readU8 with
  | 0 => pure .last
  | 1 =>
    let name ← readStr
    pure (.byName name)
  | 2 =>
    let id ← readU32Be
    pure (.byId ⟨id⟩)
  | 3 =>
    let name ← readStr
    let command ← decodeOptionalStringList
    let cwd ← decodeOptionalStr
    pure (.createIfMissing name command cwd)
  | other => unknownTag "AttachTarget" other

theorem decodes_attachTarget {t : AttachTarget} :
    Decodes decodeAttachTarget (encodeAttachTarget t) t := by
  cases t with
  | last => exact decodes_u8.thenPure rfl
  | byName name => exact decodes_u8.bind (decodes_str.map _)
  | byId id => exact decodes_u8.bind (decodes_u32.map _)
  | createIfMissing name command cwd =>
    exact decodes_u8.bind <| decodes_str.bind <|
      decodes_optionalStringList.bind <| decodes_optionalStr.map _

structure ViewportInfo where
  cols : UInt16
  rows : UInt16
  pixelW : Option UInt16
  pixelH : Option UInt16
deriving DecidableEq

def encodeViewportInfo (v : ViewportInfo) : Bytes :=
  writeU16Be v.cols ++ (writeU16Be v.rows ++
    (encodeOptionalU16 v.pixelW ++ encodeOptionalU16 v.pixelH))

def decodeViewportInfo : Decode ViewportInfo := do
  let cols ← readU16Be
  let rows ← readU16Be
  let pixelW ← decodeOptionalU16
  let pixelH ← decodeOptionalU16
  pure { cols, rows, pixelW, pixelH }

theorem decodes_viewportInfo {v : ViewportInfo} :
    Decodes decodeViewportInfo (encodeViewportInfo v) v :=
  decodes_u16.bind <| decodes_u16.bind <| decodes_optionalU16.bind <| decodes_optionalU16.map _

def decodeEnum32 {α : Type} (field : String) (fromU32 : UInt32 → Option α) : Decode α := do
  let raw ← readU32Be
  okOr (fromU32 raw) (unknownEnumValue field raw)

theorem decodes_enum32 {α : Type} {field : String} {fromU32 : UInt32 → Option α} {v : UInt32}
    {a : α} (h : fromU32 v = some a) : Decodes (decodeEnum32 field fromU32) (writeU32Be v) a :=
  decodes_u32.translate h

def readModSet : Decode ModSet := do
  let bits ← readU16Be
  pure (.fromBitsTruncate bits)

theorem decodes_modSet {m : ModSet} : Decodes readModSet (writeU16Be m.bits) m :=
  decodes_u16.thenPure (by rw [ModSet.fromBitsTruncate_bits])

def encodeFocusEvent : FocusEvent → UInt8
  | .gained => 0
  | .lost => 1

def decodeFocusEvent (tag : UInt8) : Except DecodeError FocusEvent :=
  match tag with
  | 0 => .ok .gained
  | 1 => .ok .lost
  | other => .error (.unknownEnumValue "FocusEvent" other.toUInt32)

@[simp] theorem decodeFocusEvent_encode (e : FocusEvent) :
    decodeFocusEvent (encodeFocusEvent e) = .ok e := by
  cases e <;> rfl

def encodeKeyEvent (event : KeyEvent) : Bytes :=
  writeU32Be event.action.toU32 ++ (writeU32Be event.key.toU32 ++ (writeU16Be event.mods.bits ++
    (writeU16Be event.consumedMods.bits ++ (writeBool event.composing ++
      (encodeOptionalStr event.text ++ encodeOptionalU32 event.unshiftedCodepoint)))))

def decodeKeyEvent : Decode KeyEvent := do
  let action ← decodeEnum32 "KeyAction" KeyAction.fromU32
  let key ← decodeEnum32 "PhysicalKey" PhysicalKey.fromU32
  let mods ← readModSet
  let consumedMods ← readModSet
  let composing ← readFlag
  let text ← decodeOptionalStr
  let unshiftedCodepoint ← decodeOptionalU32
  pure { action, key, mods, consumedMods, composing, text, unshiftedCodepoint }

theorem decodes_keyEvent {e : KeyEvent} : Decodes decodeKeyEvent (encodeKeyEvent e) e :=
  (decodes_enum32 e.action.fromU32_toU32).bind <| (decodes_enum32 e.key.fromU32_toU32).bind <|
    decodes_modSet.bind <| decodes_modSet.bind <| decodes_flag.bind <| decodes_optionalStr.bind <|
    decodes_optionalU32.map _

def encodeMouseEvent (event : MouseEvent) : Bytes :=
  writeU32Be event.action.toU32 ++ (writeU32Be event.button.toU32 ++
    (writeU16Be event.mods.bits ++ (writeF64Be event.x ++ writeF64Be event.y)))

def decodeMouseEvent : Decode MouseEvent := do
  let action ← decodeEnum32 "MouseAction" MouseAction.fromU32
  let button ← decodeEnum32 "MouseButton" MouseButton.fromU32
  let mods ← readModSet
  let x ← readF64Be
  let y ← readF64Be
  pure { action, button, mods, x, y }

theorem decodes_mouseEvent {e : MouseEvent} : Decodes decodeMouseEvent (encodeMouseEvent e) e :=
  (decodes_enum32 e.action.fromU32_toU32).bind <| (decodes_enum32 e.button.fromU32_toU32).bind <|
    decodes_modSet.bind <| decodes_f64.bind <| decodes_f64.map _

def encodePasteTrust : PasteTrust → UInt8
  | .trusted => 0
  | .untrusted => 1

def decodePasteTrust : Decode PasteTrust := do
  match ← readU8 with
  | 0 => pure .trusted
  | 1 => pure .untrusted
  | other => unknownTag "PasteTrust" other

theorem decodes_pasteTrust {t : PasteTrust} :
    Decodes decodePasteTrust (writeU8 (encodePasteTrust t)) t := by
  cases t with
  | trusted | untrusted => exact decodes_u8.thenPure rfl

def encodePasteEvent (event : PasteEvent) : Bytes :=
  writeU8 (encodePasteTrust event.trust) ++ writeBytes event.data

def decodePasteEvent : Decode PasteEvent := do
  let trust ← decodePasteTrust
  let data ← readBytes
  pure { trust, data }

theorem decodes_pasteEvent {e : PasteEvent} : Decodes decodePasteEvent (encodePasteEvent e) e :=
  decodes_pasteTrust.bind (decodes_bytes.map _)

inductive Scope where
  | resource (id : ResourceId)
  | group (id : GroupId)
  | global
deriving DecidableEq

def encodeScope : Scope → Bytes
  | .resource id => writeU8 0 ++ encodeTerminalId id
  | .group id => writeU8 1 ++ writeU32Be id.raw
  | .global => writeU8 2

def decodeScope : Decode Scope := do
  match ← readU8 with
  | 0 =>
    let id ← decodeTerminalId
    pure (.resource id)
  | 1 =>
    let id ← readU32Be
    pure (.group ⟨id⟩)
  | 2 => pure .global
  | other => unknownTag "Scope" other

theorem decodes_scope {s : Scope} : Decodes decodeScope (encodeScope s) s := by
  cases s with
  | resource id => exact decodes_u8.bind (decodes_terminalId.map _)
  | group id => exact decodes_u8.bind (decodes_u32.map _)
  | global => exact decodes_u8.thenPure rfl

inductive SpawnError where
  | groupNotFound
  | spawnFailed (message : String)
  | unsupportedSatelliteRoute
  | satelliteUnreachable (message : String)
  | unsupportedKind
  | parentNotFound
  | parentKindMismatch
deriving DecidableEq

inductive SpawnResult where
  | ok (id : ResourceId)
  | err (error : SpawnError)
  | okBound (id : ResourceId) (instance_ : ServerInstance)
deriving DecidableEq

def SpawnResult.boundInstance : SpawnResult → Option ServerInstance
  | okBound _ instance_ => some instance_
  | _ => none

def encodeSpawnError : SpawnError → Bytes
  | .groupNotFound => writeU8 0
  | .spawnFailed message => writeU8 1 ++ writeStr message
  | .unsupportedSatelliteRoute => writeU8 2
  | .satelliteUnreachable message => writeU8 3 ++ writeStr message
  | .unsupportedKind => writeU8 4
  | .parentNotFound => writeU8 5
  | .parentKindMismatch => writeU8 6

def decodeSpawnError : Decode SpawnError := do
  match ← readU8 with
  | 0 => pure .groupNotFound
  | 1 =>
    let message ← readStr
    pure (.spawnFailed message)
  | 2 => pure .unsupportedSatelliteRoute
  | 3 =>
    let message ← readStr
    pure (.satelliteUnreachable message)
  | 4 => pure .unsupportedKind
  | 5 => pure .parentNotFound
  | 6 => pure .parentKindMismatch
  | other => unknownTag "SpawnError" other

theorem decodes_spawnError {e : SpawnError} : Decodes decodeSpawnError (encodeSpawnError e) e := by
  cases e with
  | groupNotFound => exact decodes_u8.thenPure rfl
  | spawnFailed message | satelliteUnreachable message => exact decodes_u8.bind (decodes_str.map _)
  | unsupportedSatelliteRoute => exact decodes_u8.thenPure rfl
  | unsupportedKind => exact decodes_u8.thenPure rfl
  | parentNotFound => exact decodes_u8.thenPure rfl
  | parentKindMismatch => exact decodes_u8.thenPure rfl

def encodeSpawnResult : SpawnResult → Bytes
  | .ok id => writeU8 0 ++ encodeTerminalId id
  | .okBound id _ => writeU8 0 ++ encodeTerminalId id
  | .err error => writeU8 1 ++ encodeSpawnError error

def decodeSpawnResult : Decode SpawnResult := do
  match ← readU8 with
  | 0 =>
    let id ← decodeTerminalId
    pure (.ok id)
  | 1 =>
    let error ← decodeSpawnError
    pure (.err error)
  | other => unknownTag "SpawnResult" other

def SpawnResult.unbound : SpawnResult → SpawnResult
  | okBound id _ => ok id
  | r => r

theorem decodes_spawnResult {r : SpawnResult} :
    Decodes decodeSpawnResult (encodeSpawnResult r) r.unbound := by
  cases r with
  | ok id | okBound id _ => exact decodes_u8.bind (decodes_terminalId.map _)
  | err error => exact decodes_u8.bind (decodes_spawnError.map _)

inductive MoveError where
  | moveFailed (message : String)
  | unsupportedSatelliteRoute
deriving DecidableEq

inductive MoveResult where
  | ok (id : ResourceId)
  | err (error : MoveError)
deriving DecidableEq

def encodeMoveError : MoveError → Bytes
  | .moveFailed message => writeU8 0 ++ writeStr message
  | .unsupportedSatelliteRoute => writeU8 1

def decodeMoveError : Decode MoveError := do
  match ← readU8 with
  | 0 =>
    let message ← readStr
    pure (.moveFailed message)
  | 1 => pure .unsupportedSatelliteRoute
  | other => unknownTag "MoveError" other

theorem decodes_moveError {e : MoveError} : Decodes decodeMoveError (encodeMoveError e) e := by
  cases e with
  | moveFailed message => exact decodes_u8.bind (decodes_str.map _)
  | unsupportedSatelliteRoute => exact decodes_u8.thenPure rfl

def encodeMoveResult : MoveResult → Bytes
  | .ok id => writeU8 0 ++ encodeTerminalId id
  | .err error => writeU8 1 ++ encodeMoveError error

def decodeMoveResult : Decode MoveResult := do
  match ← readU8 with
  | 0 =>
    let id ← decodeTerminalId
    pure (.ok id)
  | 1 =>
    let error ← decodeMoveError
    pure (.err error)
  | other => unknownTag "MoveResult" other

theorem decodes_moveResult {r : MoveResult} : Decodes decodeMoveResult (encodeMoveResult r) r := by
  cases r with
  | ok id => exact decodes_u8.bind (decodes_terminalId.map _)
  | err error => exact decodes_u8.bind (decodes_moveError.map _)

end Phux
