import Phux.FrameKind

/-! The opening handshake: what each side advertises, and the two frames that
carry it. -/

namespace Phux

open ByteReader BootstrapLimits CompressionSet FieldRun Option

def writeEndpoint (endpoint : SocketAddr) : Bytes :=
  writeStr endpoint.ip.display ++ writeU16Be endpoint.port

def encodeSshOrigin (origin : SshOrigin) : Bytes :=
  writeEndpoint origin.client ++
    match origin.server with
    | some server => writeU8 1 ++ writeEndpoint server
    | none => writeU8 0

def readEndpoint : Decode (Option SocketAddr) := do
  let text ← readStr
  match IpAddr.parse text with
  | none => pure none
  | some ip =>
    let port ← readU16Be
    pure (some (SocketAddr.new ip port))

def readSshOrigin : Decode (Option SshOrigin) := do
  match ← readEndpoint with
  | none => pure none
  | some client =>
    match ← readU8 with
    | 0 => pure (some ⟨client, none⟩)
    | 1 =>
      let server ← readEndpoint
      pure (server.map fun server => ⟨client, some server⟩)
    | _ => pure none

def decodeSshOrigin (value : Bytes) : Option SshOrigin := (sub readSshOrigin value).toOption.join

theorem decodes_endpoint {endpoint : SocketAddr} (h : endpoint.Plain) :
    Decodes readEndpoint (writeEndpoint endpoint) (some endpoint) := by
  refine decodes_str.bind ?_
  simp only [IpAddr.parse_display]
  have hport := (decodes_u16 (x := endpoint.port)).map fun port => some (SocketAddr.new endpoint.ip port)
  rwa [(SocketAddr.new_ip_port_iff endpoint).mpr h] at hport

theorem decodes_sshOrigin {origin : SshOrigin} (h : origin.Plain) :
    Decodes readSshOrigin (encodeSshOrigin origin) (some origin) := by
  obtain ⟨client, server⟩ := origin
  refine (decodes_endpoint h.1).bind ?_
  cases server with
  | none => exact decodes_u8.thenPure rfl
  | some server => exact decodes_u8.bind ((decodes_endpoint (h.2 server rfl)).map _)

def encodeTerminalColor (color : TerminalColor) : Bytes :=
  writeU8 color.r ++ (writeU8 color.g ++ writeU8 color.b)

def decodeTerminalColor : Decode TerminalColor := do
  let r ← readU8
  let g ← readU8
  let b ← readU8
  pure ⟨r, g, b⟩

theorem decodes_terminalColor {color : TerminalColor} :
    Decodes decodeTerminalColor (encodeTerminalColor color) color :=
  decodes_u8.bind <| decodes_u8.bind <| decodes_u8.map _

def encodeDefaultColors : Option TerminalDefaultColors → Bytes :=
  encodeOptional fun colors =>
    encodeTerminalColor colors.foreground ++ encodeTerminalColor colors.background

def decodeDefaultColors : Decode (Option TerminalDefaultColors) :=
  decodeOptional "default_colors presence" do
    let foreground ← decodeTerminalColor
    let background ← decodeTerminalColor
    pure ⟨foreground, background⟩

theorem decodes_defaultColors {o : Option TerminalDefaultColors} :
    Decodes decodeDefaultColors (encodeDefaultColors o) o :=
  decodes_optional fun _ _ => decodes_terminalColor.bind (decodes_terminalColor.map _)

def encodeBootstrapCapabilities (caps : BootstrapCapabilities) : Bytes :=
  writeFlags8 caps.profiles ++ (writeFlags64 caps.nativeCodecs ++
    (writeFlags32 caps.nativeFeatures ++ (writeU32Be caps.limits.maxChunkBytes ++
      writeU32Be caps.limits.maxHistoryPageBytes)))

def decodeBootstrapCapabilities : Decode BootstrapCapabilities := do
  let profiles ← readFlags8
  let nativeCodecs ← readFlags64
  let nativeFeatures ← readFlags32
  let maxChunkBytes ← readU32Be
  let maxHistoryPageBytes ← readU32Be
  let limits ← okOr (new maxChunkBytes maxHistoryPageBytes)
    DecodeError.bootstrapLimitExceeded
  pure { profiles, nativeCodecs, nativeFeatures, limits }

theorem decodes_bootstrapCapabilities {caps : BootstrapCapabilities} :
    Decodes decodeBootstrapCapabilities (encodeBootstrapCapabilities caps) caps := by
  refine decodes_flags8.bind <| decodes_flags64.bind <| decodes_flags32.bind <|
    decodes_u32.bind <| decodes_u32.thenPure ?_
  rw [new_self]
  rfl

def decodeColorSupport : Decode ColorSupport := do
  let value ← readU8
  okOr (ColorSupport.fromWire value) (DecodeError.unknownEnumValue "ColorSupport" value.toUInt32)

def decodeStrictFlag (name : String) : Decode Bool := do
  match ← readU8 with
  | 0 => pure false
  | 1 => pure true
  | value => unknownTag name value

def decodeHyperlinksFlag : Decode Bool := decodeStrictFlag "hyperlinks"

def decodeOutputMode : Decode OutputMode := do
  match ← readU8 with
  | 0 => pure .raw
  | 1 => pure .stateSync
  | value => unknownTag "OutputMode" value

theorem decodes_colorSupport {c : ColorSupport} : Decodes decodeColorSupport (writeU8 c.asWire) c :=
  decodes_u8.translate (ColorSupport.fromWire_asWire c)

theorem decodes_strictFlag (name : String) (b : Bool) :
    Decodes (decodeStrictFlag name) (writeBool b) b := by
  cases b with
  | false | true => exact decodes_u8.thenPure rfl

theorem decodes_outputMode {m : OutputMode} : Decodes decodeOutputMode (writeU8 m.asWire) m := by
  cases m with
  | raw | stateSync => exact decodes_u8.thenPure rfl

def encodeClientCapabilities (caps : ClientCapabilities) : Bytes :=
  writeU8 caps.colorSupport.asWire ++ (writeU8 caps.layers.asWire ++
    (writeFlags8 caps.imageProtocols ++ (writeFlags8 caps.kbdProtocols ++
      (writeBool caps.hyperlinks ++ (writeU8 caps.outputMode.asWire ++
        (encodeDefaultColors caps.defaultColors ++ encodeBootstrapCapabilities caps.bootstrap))))))

def readLayers : Decode LayerSet := do
  let byte ← readU8
  pure (LayerSet.fromWire byte)

theorem decodes_layers {s : LayerSet} : Decodes readLayers (writeU8 s.asWire) s := by
  have h := (decodes_u8 (x := s.asWire)).map LayerSet.fromWire
  rwa [LayerSet.fromWire_asWire] at h

def decodeClientCapabilities : Decode ClientCapabilities := do
  let colorSupport ← decodeColorSupport
  let layers ← readLayers
  let imageProtocols ← readFlags8
  let kbdProtocols ← readFlags8
  let hyperlinks ← decodeHyperlinksFlag
  let outputMode ← decodeOutputMode
  let defaultColors ← decodeDefaultColors
  let bootstrap ← decodeBootstrapCapabilities
  pure { ClientCapabilities.new with
    colorSupport, layers, imageProtocols, kbdProtocols, hyperlinks, outputMode, defaultColors,
    bootstrap }

theorem decodes_clientCapabilities {caps : ClientCapabilities} :
    Decodes decodeClientCapabilities (encodeClientCapabilities caps)
      { caps with compression := .new, sshOrigin := none } :=
  decodes_colorSupport.bind <| decodes_layers.bind <| decodes_flags8.bind <|
    decodes_flags8.bind <| (decodes_strictFlag _ _).bind <| decodes_outputMode.bind <|
    decodes_defaultColors.bind <| decodes_bootstrapCapabilities.map _

def encodeHello (clientName : String) (protocolMajor protocolMinor protocolPatch : UInt16)
    (clientCaps : ClientCapabilities) : Bytes :=
  field 1 (strBytes clientName) ++ (field 2 (writeU16Be protocolMajor) ++
    (field 3 (writeU16Be protocolMinor) ++ (field 4 (writeU16Be protocolPatch) ++
      (field 5 (encodeClientCapabilities clientCaps) ++
        (optField 6 (fun s : CompressionSet => writeU8 s.bits)
            (Option.guard (fun s => !s.isEmpty) clientCaps.compression) ++
          optField 9 encodeSshOrigin clientCaps.sshOrigin)))))

structure HelloFields where
  clientName : Option String := none
  protocolMajor : Option UInt16 := none
  protocolMinor : Option UInt16 := none
  protocolPatch : Option UInt16 := none
  clientCaps : Option ClientCapabilities := none
  compression : Option CompressionSet := none
  sshOrigin : Option SshOrigin := none

def readCompressionSet : Decode CompressionSet := do
  let bits ← readU8
  pure ⟨bits⟩

def helloStep (acc : HelloFields) (id : UInt32) (value : Bytes) : Except DecodeError HelloFields :=
  match id with
  | 1 => store (utf8Field value) fun s => { acc with clientName := some s }
  | 2 => store (sub readU16Be value) fun n => { acc with protocolMajor := some n }
  | 3 => store (sub readU16Be value) fun n => { acc with protocolMinor := some n }
  | 4 => store (sub readU16Be value) fun n => { acc with protocolPatch := some n }
  | 5 => store (sub decodeClientCapabilities value) fun caps => { acc with clientCaps := some caps }
  | 6 => store (sub readCompressionSet value) fun set => { acc with compression := some set }
  | 9 => .ok { acc with sshOrigin := decodeSshOrigin value }
  | _ => .ok acc

def helloFrame (f : HelloFields) : Except DecodeError FrameKind := do
  let caps ← required f.clientCaps
  let caps : ClientCapabilities := { caps with
    sshOrigin := f.sshOrigin.or caps.sshOrigin
    compression := f.compression.getD caps.compression }
  let clientName ← required f.clientName
  let protocolMajor ← required f.protocolMajor
  let protocolMinor ← required f.protocolMinor
  let protocolPatch ← required f.protocolPatch
  pure (.hello clientName protocolMajor protocolMinor protocolPatch caps)

def decodeHello : Decode FrameKind := decodeFields helloStep {} helloFrame

theorem decodesToEnd_hello (clientName : String)
    (protocolMajor protocolMinor protocolPatch : UInt16) {clientCaps : ClientCapabilities}
    (h : ∀ origin, clientCaps.sshOrigin = some origin → origin.Plain) : DecodesToEnd decodeHello
      (encodeHello clientName protocolMajor protocolMinor protocolPatch clientCaps)
      (.hello clientName protocolMajor protocolMinor protocolPatch clientCaps) := by
  have hset : (guard (fun s => !isEmpty s) clientCaps.compression).getD .new =
      clientCaps.compression :=
    guard_getD fun he => by cases hset : clientCaps.compression; simp_all [isEmpty, CompressionSet.new]
  have hcaps : { clientCaps with
      sshOrigin := clientCaps.sshOrigin.or none
      compression := (guard (fun s => !isEmpty s)
        clientCaps.compression).getD .new } = clientCaps := by
    rw [hset, or_none]
  have hfields : FieldsTo helloStep {}
      (encodeHello clientName protocolMajor protocolMinor protocolPatch clientCaps)
      { clientName := some clientName, protocolMajor := some protocolMajor,
        protocolMinor := some protocolMinor, protocolPatch := some protocolPatch,
        clientCaps := some { clientCaps with compression := .new, sshOrigin := none },
        compression := guard (fun s => !isEmpty s) clientCaps.compression,
        sshOrigin := clientCaps.sshOrigin } := by
    refine append (fieldsTo_utf8 clientName) ?_
    refine append decodes_u16.fieldsTo ?_
    refine append decodes_u16.fieldsTo ?_
    refine append decodes_u16.fieldsTo ?_
    refine append decodes_clientCapabilities.fieldsTo ?_
    refine append (fieldsTo_optRead (fun acc o =>
      { acc with compression := o }) _ rfl (p := readCompressionSet) ?_ fun _ => rfl) ?_
    · exact fun s _ => (decodes_u8.map mk).toEnd
    refine fieldsTo_optField (fun (acc : HelloFields) o => { acc with sshOrigin := o }) _ rfl ?_
    intro origin ho hb
    have horigin : decodeSshOrigin (encodeSshOrigin origin) = some origin := by
      rw [decodeSshOrigin, (decodes_sshOrigin (h origin ho)).sub hb]
      rfl
    rw [← horigin]
    rfl
  exact decodesToEnd_decodeFields hfields
    (congrArg (fun caps => Except.ok (FrameKind.hello _ _ _ _ caps)) hcaps)

def encodeServerCapabilities (caps : ServerCapabilities) : Bytes :=
  writeU8 caps.layers.asWire ++ if caps.features.isEmpty then [] else writeFlags32 caps.features

def decodeServerCapabilities : Decode ServerCapabilities := do
  let layers ← readLayers
  let features ← trailing .empty readFlags32
  pure { ServerCapabilities.new with layers, features }

theorem decodesToEnd_serverCapabilities (caps : ServerCapabilities) :
    DecodesToEnd decodeServerCapabilities (encodeServerCapabilities caps)
      { caps with compression := .none } := by
  refine decodes_layers.bindToEnd ?_
  by_cases he : caps.features.isEmpty = true
  · rw [if_pos he, ← BitSet.eq_empty_of_isEmpty he]
    exact .trailing_absent (reads_pure _).toEnd
  · have hpresent : DecodesToEnd (trailing .empty readFlags32 >>= fun features => pure
        { ServerCapabilities.new with layers := caps.layers, features }) (writeFlags32 caps.features ++ [])
        { caps with compression := .none } :=
      ReadsToEnd.trailing_present (List.append_ne_nil_of_left_ne_nil (writeU32Be_ne_nil _ []) _)
        decodes_flags32 (reads_pure _).toEnd
    rw [if_neg he]
    rwa [List.append_nil] at hpresent

def encodeHelloOk (protocolMajor protocolMinor protocolPatch : UInt16)
    (serverCaps : ServerCapabilities) (serverId : Bytes) (selectedProfile : BootstrapProfile)
    (bootstrapLimits : BootstrapLimits) : Bytes :=
  field 1 (writeU16Be protocolMajor) ++ (field 2 (writeU16Be protocolMinor) ++
    (field 3 (writeU16Be protocolPatch) ++ (field 4 (encodeServerCapabilities serverCaps) ++
      (field 5 serverId ++ (field 6 (encodeBootstrapProfile selectedProfile) ++
        (field 7 (writeU32Be bootstrapLimits.maxChunkBytes) ++
          (field 8 (writeU32Be bootstrapLimits.maxHistoryPageBytes) ++
            optField 9 (fun c : Compression => writeU8 c.asU8)
              (Option.guard (· != .none) serverCaps.compression))))))))

structure HelloOkFields where
  protocolMajor : Option UInt16 := none
  protocolMinor : Option UInt16 := none
  protocolPatch : Option UInt16 := none
  serverCaps : Option ServerCapabilities := none
  serverId : Option Bytes := none
  selectedProfile : Option BootstrapProfile := none
  maxChunkBytes : Option UInt32 := none
  maxHistoryPageBytes : Option UInt32 := none
  compression : Option Compression := none

def readCompression : Decode Compression := do
  let tag ← readU8
  pure (Compression.fromU8 tag)

theorem decodes_compression {c : Compression} : Decodes readCompression (writeU8 c.asU8) c := by
  have h := (decodes_u8 (x := c.asU8)).map Compression.fromU8
  rwa [Compression.fromU8_asU8] at h

def helloOkStep (acc : HelloOkFields) (id : UInt32) (value : Bytes) :
    Except DecodeError HelloOkFields :=
  match id with
  | 1 => store (sub readU16Be value) fun n => { acc with protocolMajor := some n }
  | 2 => store (sub readU16Be value) fun n => { acc with protocolMinor := some n }
  | 3 => store (sub readU16Be value) fun n => { acc with protocolPatch := some n }
  | 4 => store (sub decodeServerCapabilities value) fun caps => { acc with serverCaps := some caps }
  | 5 => .ok { acc with serverId := some value }
  | 6 => store (sub decodeBootstrapProfile value) fun p => { acc with selectedProfile := some p }
  | 7 => store (sub readU32Be value) fun n => { acc with maxChunkBytes := some n }
  | 8 => store (sub readU32Be value) fun n => { acc with maxHistoryPageBytes := some n }
  | 9 => store (sub readCompression value) fun c => { acc with compression := some c }
  | _ => .ok acc

def negotiatedBootstrapLimits (maxChunkBytes maxHistoryPageBytes : Option UInt32) :
    Except DecodeError BootstrapLimits := do
  let chunk ← required maxChunkBytes
  let page ← required maxHistoryPageBytes
  okOr (new chunk page) DecodeError.bootstrapLimitExceeded

def helloOkFrame (f : HelloOkFields) : Except DecodeError FrameKind := do
  let bootstrapLimits ← negotiatedBootstrapLimits f.maxChunkBytes f.maxHistoryPageBytes
  let caps ← required f.serverCaps
  let caps : ServerCapabilities := { caps with
    compression := f.compression.getD caps.compression }
  let protocolMajor ← required f.protocolMajor
  let protocolMinor ← required f.protocolMinor
  let protocolPatch ← required f.protocolPatch
  let serverId ← required f.serverId
  let selectedProfile ← required f.selectedProfile
  pure (.helloOk protocolMajor protocolMinor protocolPatch caps serverId selectedProfile
    bootstrapLimits)

def decodeHelloOk : Decode FrameKind := decodeFields helloOkStep {} helloOkFrame

theorem decodesToEnd_helloOk (protocolMajor protocolMinor protocolPatch : UInt16)
    (serverCaps : ServerCapabilities) (serverId : Bytes) {selectedProfile : BootstrapProfile}
    (bootstrapLimits : BootstrapLimits) (h : selectedProfile.Supported) : DecodesToEnd decodeHelloOk
      (encodeHelloOk protocolMajor protocolMinor protocolPatch serverCaps serverId selectedProfile
        bootstrapLimits)
      (.helloOk protocolMajor protocolMinor protocolPatch serverCaps serverId selectedProfile
        bootstrapLimits) := by
  have hcomp : (guard (· != .none) serverCaps.compression).getD .none =
      serverCaps.compression := guard_getD fun he => by simpa using he
  have hfields : FieldsTo helloOkStep {}
      (encodeHelloOk protocolMajor protocolMinor protocolPatch serverCaps serverId selectedProfile
        bootstrapLimits)
      { protocolMajor := some protocolMajor, protocolMinor := some protocolMinor,
        protocolPatch := some protocolPatch,
        serverCaps := some { serverCaps with compression := .none },
        serverId := some serverId, selectedProfile := some selectedProfile,
        maxChunkBytes := some bootstrapLimits.maxChunkBytes,
        maxHistoryPageBytes := some bootstrapLimits.maxHistoryPageBytes,
        compression := guard (· != .none) serverCaps.compression } := by
    refine append decodes_u16.fieldsTo ?_
    refine append decodes_u16.fieldsTo ?_
    refine append decodes_u16.fieldsTo ?_
    refine append (fieldsTo_read (decodesToEnd_serverCapabilities serverCaps)) ?_
    refine append (fieldsTo_field fun _ => rfl) ?_
    refine append ((decodes_bootstrapProfile h).fieldsTo) ?_
    refine append decodes_u32.fieldsTo ?_
    refine append decodes_u32.fieldsTo ?_
    exact fieldsTo_optRead (fun (acc : HelloOkFields) o => { acc with compression := o }) _ rfl
      (fun _ _ => decodes_compression.toEnd) fun _ => rfl
  refine decodesToEnd_decodeFields hfields ?_
  simp only [helloOkFrame, negotiatedBootstrapLimits, required, okOr_some, pure_bind,
    new_self, hcomp]
  rfl

end Phux
