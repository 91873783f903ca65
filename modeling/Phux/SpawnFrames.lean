import Phux.RequestFrames
import Phux.Handshake

/-! Directory listings, the spawning and moving of resources, commands and events. -/

namespace Phux

open ByteReader Option

variable (requestId : UInt32)

def encodeListDirectory (path : String) (host : Option SatelliteHost) : Bytes :=
  field 1 (writeU32Be requestId) ++ (field 2 (strBytes path) ++
    optField 3 (fun host : SatelliteHost => strBytes host.name) host)

structure ListDirectoryFields where
  requestId : UInt32 := 0
  path : String := ""
  host : Option SatelliteHost := none

def listDirectoryStep (acc : ListDirectoryFields) (id : UInt32) (value : Bytes) :
    Except DecodeError ListDirectoryFields :=
  match id with
  | 1 => store (sub readU32Be value) fun n => { acc with requestId := n }
  | 2 => store (utf8Field value) fun path => { acc with path }
  | 3 => store (utf8Field value) fun host => { acc with host := some ⟨host⟩ }
  | _ => .ok acc

def listDirectoryFrame (f : ListDirectoryFields) : Except DecodeError FrameKind :=
  .ok (.listDirectory f.requestId f.path f.host)

def decodeListDirectory : Decode FrameKind := decodeFields listDirectoryStep {} listDirectoryFrame

theorem decodesToEnd_listDirectory (path : String) (host : Option SatelliteHost) :
    DecodesToEnd decodeListDirectory (encodeListDirectory requestId path host)
      (.listDirectory requestId path host) := by
  refine decodesToEnd_decodeFields ?_ (show listDirectoryFrame ⟨requestId, path, host⟩ = _ from rfl)
  refine decodes_u32.fieldsTo.append ?_
  refine (fieldsTo_utf8 path).append ?_
  exact fieldsTo_optField (fun (acc : ListDirectoryFields) o => { acc with host := o }) host rfl
    fun host _ _ => store_ok utf8Field_strBytes rfl

def encodeDirectoryEntry (entry : DirectoryEntry) : Bytes :=
  writeStr entry.name ++ writeU8 (if entry.isSymlink then 0x01 else 0)

def decodeDirectoryEntry : Decode DirectoryEntry := do
  let name ← readStr
  let flags ← readU8
  pure ⟨name, flags &&& 0x01 != 0⟩

theorem decodes_directoryEntry {entry : DirectoryEntry} :
    Decodes decodeDirectoryEntry (encodeDirectoryEntry entry) entry := by
  obtain ⟨name, isSymlink⟩ := entry
  refine decodes_str.bind ?_
  cases isSymlink with
  | false => exact (decodes_u8 (x := 0)).thenPure rfl
  | true => exact (decodes_u8 (x := 1)).thenPure rfl

def decodeEntries : Decode (List DirectoryEntry) := do
  let count ← readU32Be
  failIf (maxDirectoryEntries < count.toNat) DecodeError.directoryEntryLimitExceeded
  replicate count.toNat decodeDirectoryEntry

theorem decodes_entries {entries : List DirectoryEntry} (h : entries.length ≤ maxDirectoryEntries) :
    Decodes decodeEntries (encodeList encodeDirectoryEntry entries) entries := by
  have hcount : (saturateU32 entries.length).toNat = entries.length :=
    saturateU32_toNat (by rw [maxDirectoryEntries] at h; omega)
  have hrows : Decodes (replicate (saturateU32 entries.length).toNat decodeDirectoryEntry)
      (entries.flatMap encodeDirectoryEntry) entries := by
    have hr := reads_replicate (g := fun e => e) entries fun _ _ => decodes_directoryEntry
    rw [List.map_id'] at hr
    rwa [hcount]
  exact decodes_u32.bind (.failIf (by omega) hrows)

def encodeListingOk (listing : DirectoryListing) : Bytes :=
  field 2 (strBytes listing.path) ++ (optField 3 strBytes listing.parent ++
    (field 4 (encodeList encodeDirectoryEntry listing.entries) ++
      if listing.truncated then field 5 (writeU8 1) else []))

def encodeListingErr (error : DirectoryListingError) : Bytes :=
  field 2 (strBytes error.path) ++ (field 6 (writeU8 error.code.asWire) ++
    field 7 (strBytes error.message))

def encodeDirectoryListing (result : DirectoryListingResult) : Bytes :=
  field 1 (writeU32Be requestId) ++
    match result with
    | .ok listing => encodeListingOk listing
    | .error error => encodeListingErr error

structure ListingFields where
  requestId : UInt32 := 0
  path : String := ""
  parent : Option String := none
  entries : List DirectoryEntry := []
  truncated : Bool := false
  error : Option DirectoryErrorCode := none
  message : String := ""

def readDirectoryErrorCode : Decode DirectoryErrorCode := do
  let value ← readU8
  pure (DirectoryErrorCode.fromWire value)

def ListingFields.absorb (acc : ListingFields) (id : UInt32) (value : Bytes) :
    Except DecodeError ListingFields :=
  match id with
  | 1 => store (sub readU32Be value) fun n => { acc with requestId := n }
  | 2 => store (utf8Field value) fun path => { acc with path }
  | 3 => store (utf8Field value) fun parent => { acc with parent := some parent }
  | 4 => store (sub decodeEntries value) fun entries => { acc with entries }
  | 5 => store (sub readFlag value) fun truncated => { acc with truncated }
  | 6 => store (sub readDirectoryErrorCode value) fun code => { acc with error := some code }
  | 7 => store (utf8Field value) fun message => { acc with message }
  | _ => .ok acc

def ListingFields.intoResult (f : ListingFields) : DirectoryListingResult :=
  match f.error with
  | some code => .error ⟨f.path, code, f.message⟩
  | none => .ok ⟨f.path, f.parent, f.entries, f.truncated⟩

def listingFrame (f : ListingFields) : Except DecodeError FrameKind :=
  .ok (.directoryListing f.requestId f.intoResult)

def decodeDirectoryListing : Decode FrameKind :=
  decodeFields ListingFields.absorb {} listingFrame

def ListingWithin : DirectoryListingResult → Prop
  | .ok listing => listing.entries.length ≤ maxDirectoryEntries
  | .error _ => True

theorem decodesToEnd_listingOk {listing : DirectoryListing}
    (h : listing.entries.length ≤ maxDirectoryEntries) :
    DecodesToEnd decodeDirectoryListing (encodeDirectoryListing requestId (.ok listing))
      (.directoryListing requestId (.ok listing)) := by
  obtain ⟨path, parent, entries, truncated⟩ := listing
  refine decodesToEnd_decodeFields ?_ (show listingFrame
    ⟨requestId, path, parent, entries, truncated, none, ""⟩ = _ from rfl)
  refine decodes_u32.fieldsTo.append ?_
  refine (fieldsTo_utf8 path).append ?_
  refine (fieldsTo_optUtf8 (fun acc o => { acc with parent := o }) parent rfl
    fun _ => rfl).append ?_
  refine (decodes_entries h).fieldsTo.append ?_
  cases truncated with
  | false => exact .nil
  | true => exact (decodes_flag (x := true)).fieldsTo

theorem decodesToEnd_listingErr (error : DirectoryListingError) :
    DecodesToEnd decodeDirectoryListing (encodeDirectoryListing requestId (.error error))
      (.directoryListing requestId (.error error)) := by
  obtain ⟨path, code, message⟩ := error
  have hcode := (decodes_u8 (x := code.asWire)).map DirectoryErrorCode.fromWire
  rw [DirectoryErrorCode.fromWire_asWire] at hcode
  refine decodesToEnd_decodeFields ?_ (show listingFrame
    ⟨requestId, path, none, [], false, some code, message⟩ = _ from rfl)
  refine decodes_u32.fieldsTo.append ?_
  refine (fieldsTo_utf8 path).append ?_
  exact (fieldsTo_read hcode.toEnd).append (fieldsTo_utf8 message)

def encodeSize (size : UInt16 × UInt16) : Bytes := writeU16Be size.1 ++ writeU16Be size.2

def decodeSize : Decode (UInt16 × UInt16) := do
  let cols ← readU16Be
  let rows ← readU16Be
  pure (cols, rows)

theorem decodes_size {size : UInt16 × UInt16} : Decodes decodeSize (encodeSize size) size :=
  decodes_u16.bind (decodes_u16.map _)

def encodeSpawnTerminalProcess (command : Option (List String)) (cwd : Option String)
    (env : Option (List (String × String))) (term : Option String) (more : Bytes) : Bytes :=
  optField 3 encodeStringList command ++ (optField 4 strBytes cwd ++ (optField 5 encodeEnv env ++
    (optField 6 strBytes term ++ more)))

def encodeSpawnTerminalPlacement (satellite : Option SatelliteHost)
    (ownerTerminal : Option ResourceId) (agentSession : Option Bytes)
    (initialSize : Option (UInt16 × UInt16)) (more : Bytes) : Bytes :=
  optField 7 (fun host : SatelliteHost => strBytes host.name) satellite ++
    (optField 8 encodeTerminalId ownerTerminal ++ (optField 9 (fun v => v) agentSession ++
      (optField 10 encodeSize initialSize ++ more)))

def encodeSpawnTerminalResource (resource : SpawnResource) : Bytes :=
  optField 11 (fun kind : ResourceKind => writeU8 kind.asWire)
      (Option.guard (fun kind => !kind.isTerminal) resource.kind) ++
    (optField 12 encodeTerminalId resource.parent ++ (optField 13 strBytes resource.provider ++
      (optField 14 strBytes resource.nativeId ++
        optField 15 writeBool (Option.guard (· = true) resource.bindInstance))))

def encodeSpawnTerminal (group : GroupId) (command : Option (List String))
    (cwd : Option String) (env : Option (List (String × String))) (term : Option String)
    (satellite : Option SatelliteHost) (ownerTerminal : Option ResourceId)
    (agentSession : Option Bytes) (initialSize : Option (UInt16 × UInt16))
    (resource : Option SpawnResource) : Bytes :=
  field 1 (writeU32Be requestId) ++ (field 2 (writeU32Be group.raw) ++
    encodeSpawnTerminalProcess command cwd env term
      (encodeSpawnTerminalPlacement satellite ownerTerminal agentSession initialSize
        ((resource.map encodeSpawnTerminalResource).getD [])))

structure SpawnFields where
  requestId : UInt32 := 0
  group : GroupId := ⟨0⟩
  command : Option (List String) := none
  cwd : Option String := none
  env : Option (List (String × String)) := none
  term : Option String := none
  satellite : Option SatelliteHost := none
  ownerTerminal : Option ResourceId := none
  agentSession : Option Bytes := none
  initialSize : Option (UInt16 × UInt16) := none
  resource : SpawnResource := {}

def decodeAgentFacetStr (value : Bytes) (max : Nat) : Except DecodeError String := do
  failIf (value.isEmpty ∨ max < value.length) DecodeError.agentFacetLimitExceeded
  utf8Field value

def decodeBindInstance : Decode Bool := decodeStrictFlag "SpawnResource.bind_instance"

def spawnStep (acc : SpawnFields) (id : UInt32) (value : Bytes) : Except DecodeError SpawnFields :=
  match id with
  | 1 => store (sub readU32Be value) fun n => { acc with requestId := n }
  | 2 => store (sub readU32Be value) fun n => { acc with group := ⟨n⟩ }
  | 3 => store (sub decodeStringList value) fun x => { acc with command := some x }
  | 4 => store (utf8Field value) fun s => { acc with cwd := some s }
  | 5 => store (sub decodeEnv value) fun x => { acc with env := some x }
  | 6 => store (utf8Field value) fun s => { acc with term := some s }
  | 7 => store (utf8Field value) fun s => { acc with satellite := some ⟨s⟩ }
  | 8 => store (sub decodeTerminalId value) fun x => { acc with ownerTerminal := some x }
  | 9 => .ok { acc with agentSession := some value }
  | 10 => store (sub decodeSize value) fun x => { acc with initialSize := some x }
  | 11 => store (sub decodeResourceKind value) fun kind =>
      { acc with resource := { acc.resource with kind } }
  | 12 => store (sub decodeTerminalId value) fun x =>
      { acc with resource := { acc.resource with parent := some x } }
  | 13 => store (decodeAgentFacetStr value maxResourceProviderBytes) fun s =>
      { acc with resource := { acc.resource with provider := some s } }
  | 14 => store (decodeAgentFacetStr value maxResourceNativeIdBytes) fun s =>
      { acc with resource := { acc.resource with nativeId := some s } }
  | 15 => store (sub decodeBindInstance value) fun b =>
      { acc with resource := { acc.resource with bindInstance := b } }
  | _ => .ok acc

/-- The fields a kind forbids or demands, in the order they are checked. -/
def checkPresence (kind : ResourceKind) (mustBePresent : Bool) :
    List (UInt32 × Bool) → Except DecodeError Unit
  | [] => .ok ()
  | (field, present) :: rest =>
    if present = mustBePresent then checkPresence kind mustBePresent rest
    else .error (.invalidSpawnForKind kind.asWire field mustBePresent)

def validateSpawnForKind (command : Option (List String)) (cwd : Option String)
    (env : Option (List (String × String))) (term : Option String)
    (ownerTerminal : Option ResourceId) (initialSize : Option (UInt16 × UInt16))
    (resource : Option SpawnResource) : Except DecodeError Unit :=
  match resource with
  | none => .ok ()
  | some resource =>
    match resource.kind with
    | .terminal =>
      checkPresence .terminal false [(12, resource.parent.isSome), (13, resource.provider.isSome),
        (14, resource.nativeId.isSome)]
    | .agentSession => do
      checkPresence .agentSession true [(12, resource.parent.isSome), (13, resource.provider.isSome)]
      checkPresence .agentSession false [(3, command.isSome), (4, cwd.isSome), (5, env.isSome),
        (6, term.isSome), (8, ownerTerminal.isSome), (10, initialSize.isSome)]
    | .unknown _ => .ok ()

def spawnFrame (f : SpawnFields) : Except DecodeError FrameKind := do
  let resource := Option.guard (fun r => !SpawnResource.isDefault r) f.resource
  validateSpawnForKind f.command f.cwd f.env f.term f.ownerTerminal f.initialSize resource
  pure (.spawnResource f.requestId f.group f.command f.cwd f.env f.term f.satellite f.ownerTerminal
    f.agentSession f.initialSize resource)

def decodeSpawnTerminal : Decode FrameKind := decodeFields spawnStep {} spawnFrame

def FacetWithin (max : Nat) (facet : Option String) : Prop :=
  ∀ s, facet = some s → strBytes s ≠ [] ∧ (strBytes s).length ≤ max

structure SpawnResource.Within (resource : SpawnResource) : Prop where
  kind_ok : resource.kind.ReallyUnknown
  provider_ok : FacetWithin maxResourceProviderBytes resource.provider
  nativeId_ok : FacetWithin maxResourceNativeIdBytes resource.nativeId

theorem decodeAgentFacetStr_ok {s : String} {max : Nat}
    (h : strBytes s ≠ [] ∧ (strBytes s).length ≤ max) :
    decodeAgentFacetStr (strBytes s) max = .ok s := by
  refine then_ok (failIf_of_not ?_) utf8Field_strBytes
  simp only [List.isEmpty_iff, h.1, false_or]
  omega

theorem fieldsTo_spawnResource (acc : SpawnFields) {resource : SpawnResource} (h : resource.Within) :
    FieldsTo spawnStep { acc with resource := {} } (encodeSpawnTerminalResource resource)
      { acc with resource } := by
  obtain ⟨kind, parent, provider, nativeId, bindInstance⟩ := resource
  have hkind : (guard (fun kind => !ResourceKind.isTerminal kind) kind).getD .terminal = kind :=
    guard_getD fun he => by cases kind <;> simp_all [ResourceKind.isTerminal]
  have hbind : (guard (· = true) bindInstance).getD false = bindInstance :=
    guard_getD fun he => by simpa using he
  have hrun : FieldsTo spawnStep { acc with resource := {} }
      (encodeSpawnTerminalResource ⟨kind, parent, provider, nativeId, bindInstance⟩)
      { acc with resource := ⟨(guard (fun kind => !ResourceKind.isTerminal kind) kind).getD
        .terminal, parent, provider, nativeId, (guard (· = true) bindInstance).getD false⟩ } := by
    refine (fieldsTo_optField (fun acc o =>
      { acc with resource := { acc.resource with kind := o.getD .terminal } }) _ rfl ?_).append ?_
    · intro k hk hb
      obtain ⟨rfl, -⟩ := guard_eq_some_iff.mp hk
      exact store_ok ((decodes_resourceKind h.kind_ok).sub hb) rfl
    refine (fieldsTo_optRead (fun acc o =>
      { acc with resource := { acc.resource with parent := o } }) parent rfl
      (fun _ _ => decodes_terminalId.toEnd) fun _ => rfl).append ?_
    refine (fieldsTo_optField (fun acc o =>
      { acc with resource := { acc.resource with provider := o } }) provider rfl fun x hx _ =>
      store_ok (decodeAgentFacetStr_ok (h.provider_ok x hx)) rfl).append ?_
    refine (fieldsTo_optField (fun acc o =>
      { acc with resource := { acc.resource with nativeId := o } }) nativeId rfl fun x hx _ =>
      store_ok (decodeAgentFacetStr_ok (h.nativeId_ok x hx)) rfl).append ?_
    exact fieldsTo_optField (fun (acc : SpawnFields) o =>
      { acc with resource := { acc.resource with bindInstance := o.getD false } }) _ rfl fun b _ hb =>
      store_ok ((decodes_strictFlag _ b).sub hb) rfl
  rwa [hkind, hbind] at hrun

theorem decodesToEnd_spawnTerminal (group : GroupId)
    {command : Option (List String)} {cwd : Option String} {env : Option (List (String × String))}
    {term : Option String} (satellite : Option SatelliteHost) {ownerTerminal : Option ResourceId}
    (agentSession : Option Bytes) {initialSize : Option (UInt16 × UInt16)}
    {resource : Option SpawnResource} (hwithin : ∀ r, resource = some r → r.Within)
    (hdefault : ∀ r, resource = some r → r.isDefault = false)
    (hvalid : validateSpawnForKind command cwd env term ownerTerminal initialSize resource = .ok ()) :
    DecodesToEnd decodeSpawnTerminal
      (encodeSpawnTerminal requestId group command cwd env term satellite ownerTerminal agentSession
        initialSize resource)
      (.spawnResource requestId group command cwd env term satellite ownerTerminal agentSession
        initialSize resource) := by
  have hguard : guard (fun r => !SpawnResource.isDefault r) (resource.getD {}) = resource := by
    cases resource with
    | none => rfl
    | some r => simp [Option.guard, hdefault r rfl]
  have hframe : spawnFrame ⟨requestId, group, command, cwd, env, term, satellite, ownerTerminal,
      agentSession, initialSize, resource.getD {}⟩ = .ok (.spawnResource requestId group command cwd
        env term satellite ownerTerminal agentSession initialSize resource) := by
    simp only [spawnFrame, hguard]
    exact then_ok hvalid rfl
  refine decodesToEnd_decodeFields ?_ hframe
  refine decodes_u32.fieldsTo.append ?_
  refine decodes_u32.fieldsTo.append ?_
  refine (fieldsTo_optRead (fun acc o => { acc with command := o }) command rfl
    (fun _ _ => decodes_stringList.toEnd) fun _ => rfl).append ?_
  refine (fieldsTo_optUtf8 (fun acc o => { acc with cwd := o }) cwd rfl fun _ => rfl).append ?_
  refine (fieldsTo_optRead (fun acc o => { acc with env := o }) env rfl
    (fun _ _ => decodes_env.toEnd) fun _ => rfl).append ?_
  refine (fieldsTo_optUtf8 (fun acc o => { acc with term := o }) term rfl fun _ => rfl).append ?_
  refine (fieldsTo_optField (fun acc o => { acc with satellite := o }) satellite rfl
    fun host _ _ => store_ok utf8Field_strBytes rfl).append ?_
  refine (fieldsTo_optRead (fun acc o => { acc with ownerTerminal := o })
    ownerTerminal rfl (fun _ _ => decodes_terminalId.toEnd) fun _ => rfl).append ?_
  refine (fieldsTo_optField (fun acc o => { acc with agentSession := o })
    agentSession rfl fun _ _ _ => rfl).append ?_
  refine (fieldsTo_optRead (fun acc o => { acc with initialSize := o })
    initialSize rfl (fun _ _ => decodes_size.toEnd) fun _ => rfl).append ?_
  cases resource with
  | none => exact .nil
  | some r =>
    exact fieldsTo_spawnResource ⟨requestId, group, command, cwd, env, term, satellite, ownerTerminal,
      agentSession, initialSize, {}⟩ (hwithin r rfl)

def encodeTerminalSpawned (result : SpawnResult) : Bytes :=
  field 1 (writeU32Be requestId) ++ (field 2 (encodeSpawnResult result) ++
    optField 3 encodeServerInstance result.boundInstance)

structure SpawnedFields where
  requestId : UInt32 := 0
  result : Option SpawnResult := none
  boundInstance : Option ServerInstance := none

def spawnedStep (acc : SpawnedFields) (id : UInt32) (value : Bytes) :
    Except DecodeError SpawnedFields :=
  match id with
  | 1 => store (sub readU32Be value) fun n => { acc with requestId := n }
  | 2 => store (sub decodeSpawnResult value) fun x => { acc with result := some x }
  | 3 => store (sub decodeServerInstance value) fun x => { acc with boundInstance := some x }
  | _ => .ok acc

def bindSpawnResult (result : SpawnResult) (boundInstance : Option ServerInstance) : SpawnResult :=
  match result, boundInstance with
  | .ok id, some i => .okBound id i
  | result, _ => result

def spawnedFrame (f : SpawnedFields) : Except DecodeError FrameKind := do
  let result ← required f.result
  pure (.resourceSpawned f.requestId (bindSpawnResult result f.boundInstance))

def decodeTerminalSpawned : Decode FrameKind := decodeFields spawnedStep {} spawnedFrame

theorem decodesToEnd_terminalSpawned (result : SpawnResult) :
    DecodesToEnd decodeTerminalSpawned (encodeTerminalSpawned requestId result)
      (.resourceSpawned requestId result) := by
  have hframe : spawnedFrame ⟨requestId, some result.unbound, result.boundInstance⟩ =
      .ok (.resourceSpawned requestId result) :=
    congrArg (fun r => Except.ok (FrameKind.resourceSpawned requestId r)) (by cases result <;> rfl)
  refine decodesToEnd_decodeFields ?_ hframe
  refine decodes_u32.fieldsTo.append ?_
  refine decodes_spawnResult.fieldsTo.append ?_
  exact fieldsTo_optRead (fun (acc : SpawnedFields) o => { acc with boundInstance := o }) _ rfl
    (fun _ _ => decodes_serverInstance.toEnd) fun _ => rfl

def encodeMoveTerminal (terminal ownerTerminal : ResourceId) : Bytes :=
  field 1 (writeU32Be requestId) ++ (field 2 (encodeTerminalId terminal) ++
    field 3 (encodeTerminalId ownerTerminal))

structure MoveFields where
  requestId : UInt32 := 0
  terminal : Option ResourceId := none
  ownerTerminal : Option ResourceId := none

def moveStep (acc : MoveFields) (id : UInt32) (value : Bytes) : Except DecodeError MoveFields :=
  match id with
  | 1 => store (sub readU32Be value) fun n => { acc with requestId := n }
  | 2 => store (sub decodeTerminalId value) fun x => { acc with terminal := some x }
  | 3 => store (sub decodeTerminalId value) fun x => { acc with ownerTerminal := some x }
  | _ => .ok acc

def moveFrame (f : MoveFields) : Except DecodeError FrameKind := do
  let terminal ← required f.terminal
  let ownerTerminal ← required f.ownerTerminal
  pure (.moveResource f.requestId terminal ownerTerminal)

def decodeMoveTerminal : Decode FrameKind := decodeFields moveStep {} moveFrame

theorem decodesToEnd_moveTerminal (terminal ownerTerminal : ResourceId) :
    DecodesToEnd decodeMoveTerminal (encodeMoveTerminal requestId terminal ownerTerminal)
      (.moveResource requestId terminal ownerTerminal) := by
  refine decodesToEnd_decodeFields ?_ (show moveFrame
    ⟨requestId, some terminal, some ownerTerminal⟩ = _ from rfl)
  exact decodes_u32.fieldsTo.append <| decodes_terminalId.fieldsTo.append <|
    decodes_terminalId.fieldsTo

def encodeTerminalMoved (result : MoveResult) : Bytes :=
  encodeCall requestId (encodeMoveResult result)

def decodeTerminalMoved : Decode FrameKind := decodeCall decodeMoveResult .resourceMoved

def encodeCommandFrame (command : Command) : Bytes :=
  encodeCall requestId (encodeCommand command)

def decodeCommandFrame : Decode FrameKind := decodeCall decodeCommand .command

def encodeCommandResultFrame (ext : External) (requestId : UInt32) (result : CommandResult) : Bytes :=
  encodeCall requestId (encodeCommandResult ext result)

def decodeCommandResultFrame (ext : External) : Decode FrameKind :=
  decodeCall (decodeCommandResult ext) .commandResult

def encodeTerminalClosed (terminalId : ResourceId) (exitStatus : Option Int32)
    (reason : CloseReason) : Bytes :=
  field 1 (encodeTerminalId terminalId) ++ (optField 2 writeI32Be exitStatus ++
    optField 3 (fun reason : CloseReason => writeU8 reason.asWire)
      (Option.guard (· ≠ .unknown) reason))

structure ClosedFields where
  terminalId : Option ResourceId := none
  exitStatus : Option Int32 := none
  reason : CloseReason := .unknown

def readCloseReason : Decode CloseReason := do
  let value ← readU8
  pure (CloseReason.fromWire value)

def closedStep (acc : ClosedFields) (id : UInt32) (value : Bytes) :
    Except DecodeError ClosedFields :=
  match id with
  | 1 => store (sub decodeTerminalId value) fun x => { acc with terminalId := some x }
  | 2 => store (sub readI32Be value) fun n => { acc with exitStatus := some n }
  | 3 => store (sub readCloseReason value) fun reason => { acc with reason }
  | _ => .ok acc

def closedFrame (f : ClosedFields) : Except DecodeError FrameKind := do
  let terminalId ← required f.terminalId
  pure (.resourceClosed terminalId f.exitStatus f.reason)

def decodeTerminalClosed : Decode FrameKind := decodeFields closedStep {} closedFrame

variable (t : ResourceId)

theorem decodesToEnd_terminalClosed (exitStatus : Option Int32) (reason : CloseReason) :
    DecodesToEnd decodeTerminalClosed (encodeTerminalClosed t exitStatus reason)
      (.resourceClosed t exitStatus reason) := by
  have hreason : (guard (fun r => decide (r ≠ .unknown)) reason).getD .unknown = reason :=
    guard_getD fun he => by simpa using he
  have hframe : closedFrame ⟨some t, exitStatus,
      (guard (fun r => decide (r ≠ .unknown)) reason).getD .unknown⟩ =
      .ok (.resourceClosed t exitStatus reason) :=
    congrArg (fun r => Except.ok (FrameKind.resourceClosed t exitStatus r)) hreason
  refine decodesToEnd_decodeFields ?_ hframe
  refine decodes_terminalId.fieldsTo.append ?_
  refine (fieldsTo_optRead (fun acc o => { acc with exitStatus := o }) exitStatus rfl
    (fun _ _ => decodes_i32.toEnd) fun _ => rfl).append ?_
  refine fieldsTo_optField (fun (acc : ClosedFields) o => { acc with reason := o.getD .unknown }) _ rfl
    fun r _ hb => ?_
  have hread := (decodes_u8 (x := r.asWire)).map CloseReason.fromWire
  rw [CloseReason.fromWire_asWire] at hread
  exact store_ok (hread.sub hb) rfl

def encodeTerminalResize (terminalId : ResourceId) (cols rows : UInt16) : Bytes :=
  field 1 (encodeTerminalId terminalId) ++ (field 2 (writeU16Be cols) ++ field 3 (writeU16Be rows))

structure ResizeFields where
  terminalId : Option ResourceId := none
  cols : UInt16 := 0
  rows : UInt16 := 0

def resizeStep (acc : ResizeFields) (id : UInt32) (value : Bytes) :
    Except DecodeError ResizeFields :=
  match id with
  | 1 => store (sub decodeTerminalId value) fun x => { acc with terminalId := some x }
  | 2 => store (sub readU16Be value) fun n => { acc with cols := n }
  | 3 => store (sub readU16Be value) fun n => { acc with rows := n }
  | _ => .ok acc

def resizeFrame (f : ResizeFields) : Except DecodeError FrameKind := do
  let terminalId ← required f.terminalId
  pure (.resizeTerminal terminalId f.cols f.rows)

def decodeTerminalResize : Decode FrameKind := decodeFields resizeStep {} resizeFrame

theorem decodesToEnd_terminalResize (cols rows : UInt16) :
    DecodesToEnd decodeTerminalResize (encodeTerminalResize t cols rows)
      (.resizeTerminal t cols rows) := by
  refine decodesToEnd_decodeFields ?_ (show resizeFrame ⟨some t, cols, rows⟩ = _ from rfl)
  exact decodes_terminalId.fieldsTo.append <| decodes_u16.fieldsTo.append <| decodes_u16.fieldsTo

def encodeSubscribeEvents (terminal : Option ResourceId) : Bytes :=
  optField 1 encodeTerminalId terminal

structure EventFields where
  terminal : Option ResourceId := none
  event : Option AgentEvent := none

def subscribeEventsStep (acc : EventFields) (id : UInt32) (value : Bytes) :
    Except DecodeError EventFields :=
  match id with
  | 1 => store (sub decodeTerminalId value) fun x => { acc with terminal := some x }
  | _ => .ok acc

def decodeSubscribeEvents : Decode FrameKind :=
  decodeFields subscribeEventsStep {} fun f => .ok (.subscribeEvents f.terminal)

variable (terminal : Option ResourceId)

theorem decodesToEnd_subscribeEvents :
    DecodesToEnd decodeSubscribeEvents (encodeSubscribeEvents terminal)
      (.subscribeEvents terminal) := by
  have hfields : FieldsTo subscribeEventsStep {} (encodeSubscribeEvents terminal) { terminal } :=
    fieldsTo_optRead (fun (acc : EventFields) o => { acc with terminal := o }) terminal rfl
      (fun _ _ => decodes_terminalId.toEnd) fun _ => rfl
  exact decodesToEnd_decodeFields hfields rfl

def encodeEvent (terminal : Option ResourceId) (event : AgentEvent) : Bytes :=
  optField 1 encodeTerminalId terminal ++ field 2 (encodeAgentEvent event)

def eventStep (acc : EventFields) (id : UInt32) (value : Bytes) : Except DecodeError EventFields :=
  match id with
  | 1 => store (sub decodeTerminalId value) fun x => { acc with terminal := some x }
  | 2 => store (sub decodeAgentEvent value) fun x => { acc with event := some x }
  | _ => .ok acc

def eventFrame (f : EventFields) : Except DecodeError FrameKind := do
  let event ← required f.event
  pure (.event f.terminal event)

def decodeEvent : Decode FrameKind := decodeFields eventStep {} eventFrame

theorem decodesToEnd_event {event : AgentEvent} (h : event.ReallyUnknown) :
    DecodesToEnd decodeEvent (encodeEvent terminal event) (.event terminal event) := by
  refine decodesToEnd_decodeFields ?_ (show eventFrame ⟨terminal, some event⟩ = _ from rfl)
  refine (fieldsTo_optRead (fun acc o => { acc with terminal := o }) terminal rfl
    (fun _ _ => decodes_terminalId.toEnd) fun _ => rfl).append ?_
  exact (decodes_agentEvent h).fieldsTo

end Phux
