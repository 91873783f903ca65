import Phux.DecodedRecords
import Phux.FrameCompression

/-! Relayed frames. What a decoder builds from a body, however that body was written, encodes to
a frame that decodes to the same thing. -/

namespace Phux

open ByteReader

section

variable {σ α : Type} {P : α → Prop} {S : σ → Prop}
  {step : σ → UInt32 → Bytes → Except DecodeError σ} {acc : σ} {finish : σ → Except DecodeError α}

variable {x : Except DecodeError α} {f : α → σ}

theorem makes_store (h : Makes P x) (hf : ∀ a, P a → S (f a)) : Makes S (store x f) := by
  intro s hs
  obtain ⟨a, ha, rfl⟩ := store_eq_ok.mp hs
  exact hf a (h a ha)

theorem makes_store_beside (hf : ∀ a, S (f a)) : Makes S (store x f) := by
  intro s hs
  obtain ⟨a, -, rfl⟩ := store_eq_ok.mp hs
  exact hf a

theorem yields_decodeFields (hacc : S acc) (hstep : ∀ s id value, S s → Makes S (step s id value))
    (hfinish : ∀ s, S s → Makes P (finish s)) : Yields P (decodeFields step acc finish) :=
  (yields_forFields hacc hstep).bind fun s hs => yields_lift (hfinish s hs)

theorem yields_finish (h : ∀ s, Makes P (finish s)) : Yields P (decodeFields step acc finish) :=
  .after fun s => yields_lift (h s)

theorem yields_stream {finish : StreamFields σ → Except DecodeError α} (hacc : S acc)
    (hstep : ∀ s id value, S s → Makes S (step s id value))
    (hfinish : ∀ f, S f.more → Makes P (finish f)) :
    Yields P (decodeFields (streamStep step) { more := acc } finish) := by
  refine yields_decodeFields (S := fun f : StreamFields σ => S f.more) hacc
    (fun f id value hf => ?_) hfinish
  unfold streamStep
  split
  · exact makes_store_beside fun _ => hf
  · exact makes_store_beside fun _ => hf
  · exact makes_store_beside fun _ => hf
  · exact makes_store (hstep _ _ _ hf) fun _ h => h

theorem makes_streamFrame {f : StreamFields σ}
    {build : ResourceId → StreamId → BootstrapId → Except DecodeError α}
    (h : ∀ t streamId bid, Makes P (build t streamId bid)) : Makes P (streamFrame f build) :=
  .after fun t => .after fun streamId => .after fun bid => h t streamId bid

theorem makes_checkedBytes {max : Nat} {value : Bytes} :
    Makes (fun bytes => bytes.length ≤ max) (checkedBytes max value) := by
  unfold checkedBytes
  split
  · intro a h
    cases h
  · exact makes_ok (by omega)

end

def FrameKind.Lossless (limits : BootstrapLimits) (frame : FrameKind) : Prop :=
  frame.Legible limits ∧ frame.Canonical

def Filled {α : Type} (P : α → Prop) (column : Option α) : Prop := ∀ a, column = some a → P a

variable {α : Type}

theorem filled_none {P : α → Prop} : Filled P none := fun _ h => by cases h

theorem filled_some {P : α → Prop} {a : α} (h : P a) : Filled P (some a) := by
  intro b hb
  rwa [← Option.some.inj hb]

theorem Filled.required {P : α → Prop} {column : Option α} (h : Filled P column) :
    Makes P (required column) := makes_ok_or.imp h

variable (limits : BootstrapLimits)

theorem yields_endpoint : Yields (Filled SocketAddr.Plain) readEndpoint := by
  refine .after fun text => ?_
  split
  · exact yields_pure filled_none
  · refine .after fun port => yields_pure (filled_some ?_)
    rw [← SocketAddr.new_ip_port_iff]
    simp

theorem yields_sshOrigin : Yields (Filled SshOrigin.Plain) readSshOrigin := by
  refine yields_endpoint.bind fun client hclient => ?_
  cases client with
  | none => exact yields_pure filled_none
  | some client =>
    have hplain := hclient client rfl
    refine .after fun tag => ?_
    split
    · exact yields_pure (filled_some ⟨hplain, fun _ h => by cases h⟩)
    · refine yields_endpoint.bind fun server hserver => yields_pure ?_
      cases server with
      | none => exact filled_none
      | some server => exact filled_some ⟨hplain, hserver⟩
    · exact yields_pure filled_none

variable (value : Bytes)

theorem decodeSshOrigin_plain : Filled SshOrigin.Plain (decodeSshOrigin value) := by
  intro origin h
  unfold decodeSshOrigin at h
  cases hsub : sub readSshOrigin value with
  | error e =>
    rw [hsub] at h
    cases h
  | ok found =>
    rw [hsub] at h
    exact yields_sshOrigin.sub value found hsub origin h

theorem yields_clientCapabilities :
    Yields (fun caps => caps.sshOrigin = none) decodeClientCapabilities := by
  refine .after fun color => .after fun layers => .after fun images => .after fun kbd => ?_
  exact .after fun links => .after fun mode => .after fun colors => .after fun caps => yields_pure rfl

theorem yields_hello : Yields (FrameKind.Lossless limits) decodeHello := by
  refine yields_decodeFields (S := fun f : HelloFields => Filled SshOrigin.Plain f.sshOrigin ∧
    Filled (fun caps => caps.sshOrigin = none) f.clientCaps) ⟨filled_none, filled_none⟩ ?_ ?_
  · intro acc id value hacc
    unfold helloStep
    split
    case h_5 => exact makes_store (yields_clientCapabilities.sub value) fun _ h => ⟨hacc.1, filled_some h⟩
    case h_7 => exact makes_ok ⟨decodeSshOrigin_plain value, hacc.2⟩
    case h_8 => exact makes_ok hacc
    all_goals exact makes_store_beside fun _ => hacc
  · intro acc hacc
    refine hacc.2.required.bind fun caps hcaps => .after fun name => .after fun major => ?_
    refine .after fun minor => .after fun patch => makes_ok ⟨trivial, ?_⟩
    intro origin horigin
    rw [hcaps, Option.or_none] at horigin
    exact hacc.1 origin horigin

theorem yields_bootstrapProfile : Yields BootstrapProfile.Supported decodeBootstrapProfile := by
  refine .after fun tag => ?_
  split
  · refine .after fun codec => .after fun features => yields_failIf.bind fun _ h => yields_pure ?_
    simpa [BootstrapProfile.Supported] using h
  · exact yields_pure trivial
  · exact yields_pure trivial
  · exact yields_unknownTag

theorem yields_helloOk : Yields (FrameKind.Lossless limits) decodeHelloOk := by
  refine yields_decodeFields (S := fun f : HelloOkFields =>
    Filled BootstrapProfile.Supported f.selectedProfile) filled_none ?_ ?_
  · intro acc id value hacc
    unfold helloOkStep
    split
    case h_6 => exact makes_store (yields_bootstrapProfile.sub value) fun _ h => filled_some h
    case h_5 => exact makes_ok hacc
    case h_10 => exact makes_ok hacc
    all_goals exact makes_store_beside fun _ => hacc
  · intro acc hacc
    refine .after fun limits => .after fun caps => .after fun major => .after fun minor => ?_
    refine .after fun patch => .after fun serverId => hacc.required.bind fun profile h => ?_
    exact makes_ok ⟨h, trivial⟩

theorem makes_checkedTerminalReply :
    Makes (fun bytes => bytes ≠ [] ∧ bytes.length ≤ maxInputTerminalReplyBytes)
      (checkedTerminalReply value) := by
  unfold checkedTerminalReply
  split
  · intro a h
    cases h
  · rename_i h
    obtain ⟨hne, hle⟩ := not_or.mp h
    exact makes_ok ⟨by simpa using hne, Nat.not_lt.mp hle⟩

variable {Q : FrameKind → Prop}

theorem yields_input {P : α → Prop}
    {read : Bytes → Except DecodeError α} {build : ResourceId → α → FrameKind}
    (hread : ∀ value, Makes P (read value)) (hbuild : ∀ id a, P a → Q (build id a)) :
    Yields Q (decodeInput read build) := by
  refine yields_decodeFields (S := fun f : InputFields α => Filled P f.event) filled_none ?_ ?_
  · intro acc id value hacc
    unfold inputStep
    split
    · exact makes_store_beside fun _ => hacc
    · exact makes_store (hread value) fun _ h => filled_some h
    · exact makes_ok hacc
  · intro f hf
    exact .after fun id => hf.required.bind fun a h => makes_ok (hbuild id a h)

variable {dec : Decode α}

theorem yields_call {P : α → Prop}
    {build : UInt32 → α → FrameKind} (hdec : ∀ value, Makes P (sub dec value))
    (hbuild : ∀ id a, P a → Q (build id a)) : Yields Q (decodeCall dec build) := by
  refine yields_decodeFields (S := fun f : CallFields α => Filled P f.body) filled_none ?_ ?_
  · intro acc id value hacc
    unfold callStep
    split
    · exact makes_store_beside fun _ => hacc
    · exact makes_store (hdec value) fun _ h => filled_some h
    · exact makes_ok hacc
  · intro f hf frame hframe
    obtain ⟨a, ha, rfl⟩ := Fallible.map_eq_ok.mp hframe
    exact hbuild f.requestId a (hf.required a ha)

theorem yields_sole {build : α → FrameKind}
    (hbuild : ∀ a, Q (build a)) : Yields Q (decodeSole dec build) := by
  refine yields_finish fun o frame hframe => ?_
  obtain ⟨a, -, rfl⟩ := Fallible.map_eq_ok.mp hframe
  exact hbuild a

theorem yields_attached (ext : External) :
    Yields (FrameKind.Lossless limits) (decodeAttached ext) := by
  refine yields_decodeFields (S := fun f : AttachedFields =>
    Filled SessionSnapshot.Legible f.snapshot) filled_none ?_ ?_
  · intro acc id value hacc
    unfold attachedStep
    split
    case h_1 => exact makes_store ((yields_sessionSnapshot ext).sub value) fun _ h => filled_some h
    case h_4 => exact makes_ok hacc
    all_goals exact makes_store_beside fun _ => hacc
  · intro acc hacc
    refine .after fun attachId => hacc.required.bind fun snapshot h => .after fun client => ?_
    exact makes_ok ⟨h, trivial⟩

theorem yields_bootstrapBegin : Yields (FrameKind.Lossless limits) decodeBootstrapBegin := by
  refine yields_finish fun f => .after fun codec => .after fun mode => .after fun profile => ?_
  have hdim : Makes (fun size : UInt16 × UInt16 => profile.gridless = (size.1 == 0 && size.2 == 0))
      (checkedBootstrapDimensions profile f.more.cols f.more.rows) := by
    refine .after fun cols => .after fun rows => makes_check.bind fun _ h => makes_ok ?_
    simpa using h
  refine hdim.bind fun size h => makes_streamFrame fun t streamId bid => ?_
  exact .after fun baseSeq => makes_ok ⟨h, trivial⟩

theorem yields_bootstrapChunk : Yields (FrameKind.Lossless limits) (decodeBootstrapChunk limits) := by
  refine yields_stream (S := fun acc : ChunkFields =>
    Filled (fun bytes : Bytes => bytes.length ≤ limits.maxChunkBytes.toNat) acc.payload) filled_none ?_ ?_
  · intro acc id value hacc
    unfold chunkStep
    split
    · exact makes_store_beside fun _ => hacc
    · exact makes_store makes_checkedBytes fun _ h => filled_some h
    · exact makes_ok hacc
  · intro f hf
    refine makes_streamFrame fun t streamId bid => .after fun chunkSeq => ?_
    exact hf.required.bind fun payload h => makes_ok ⟨h, trivial⟩

def CursorShort (cursor : Bytes) : Prop := cursor.length ≤ maxHistoryCursorBytes

theorem yields_bootstrapReady : Yields (FrameKind.Lossless limits) decodeBootstrapReady := by
  refine yields_stream (S := fun acc : ReadyFields =>
    Filled CursorShort acc.historyCursor) filled_none ?_ ?_
  · intro acc id value hacc
    unfold readyStep
    split
    · exact makes_store makes_checkedBytes fun _ h => filled_some h
    · exact makes_ok hacc
  · intro f hf
    exact makes_streamFrame fun t streamId bid => makes_ok ⟨hf, trivial⟩

theorem yields_historyRequest : Yields (FrameKind.Lossless limits) decodeHistoryRequest := by
  refine yields_stream (S := fun acc : RequestFields =>
    Filled CursorShort acc.cursor) filled_none ?_ ?_
  · intro acc id value hacc
    unfold requestStep
    split
    · exact makes_store makes_checkedBytes fun _ h => filled_some h
    · exact makes_store_beside fun _ => hacc
    · exact makes_store_beside fun _ => hacc
    · exact makes_ok hacc
  · intro f hf
    refine .after fun maxBytes => .after fun maxRows => ?_
    refine makes_streamFrame fun t streamId bid => ?_
    exact hf.required.bind fun cursor h => makes_ok ⟨h, trivial⟩

theorem yields_historyTombstone : Yields (FrameKind.Lossless limits) decodeHistoryTombstone := by
  refine yields_stream (S := fun acc : HistoryTombstoneFields =>
    Filled CursorShort acc.cursor) filled_none ?_ ?_
  · intro acc id value hacc
    unfold historyTombstoneStep
    split
    · exact makes_store makes_checkedBytes fun _ h => filled_some h
    · exact makes_store_beside fun _ => hacc
    · exact makes_ok hacc
  · intro f hf
    refine makes_streamFrame fun t streamId bid => ?_
    exact hf.required.bind fun cursor h => .after fun reason => makes_ok ⟨h, trivial⟩

theorem makes_checkedRequirement {max : UInt32} {error : DecodeError} {value : Option UInt32} :
    Makes (fun n => n ≠ 0 ∧ n ≤ max) (checkedRequirement max error value) := by
  refine .after fun n => makes_check.bind fun _ h => makes_ok ?_
  obtain ⟨hne, hle⟩ := not_or.mp h
  exact ⟨hne, UInt32.not_lt.mp hle⟩

theorem yields_historyRejected : Yields (FrameKind.Lossless limits) (decodeHistoryRejected limits) := by
  refine yields_stream (S := fun acc : RejectedFields =>
    Filled CursorShort acc.cursor) filled_none ?_ ?_
  · intro acc id value hacc
    unfold rejectedStep
    split
    · exact makes_store makes_checkedBytes fun _ h => filled_some h
    · exact makes_store_beside fun _ => hacc
    · exact makes_store_beside fun _ => hacc
    · exact makes_store_beside fun _ => hacc
    · exact makes_ok hacc
  · intro f hf
    refine makes_checkedRequirement.bind fun bytes hbytes => ?_
    refine makes_checkedRequirement.bind fun rows hrows => ?_
    refine makes_streamFrame fun t streamId bid => ?_
    exact hf.required.bind fun cursor h => .after fun reason => makes_ok ⟨⟨h, hbytes, hrows⟩, trivial⟩

theorem yields_historyPage : Yields (FrameKind.Lossless limits) (decodeHistoryPage limits) := by
  refine yields_finish fun f => .after fun _ => .after fun streamId => .after fun _ => ?_
  have hseq : Makes (fun n : UInt64 => n ≠ 0) (checkedHistoryPageSeq f.pageSeq) :=
    .after fun _ => .after fun n => makes_check.bind fun _ h => makes_ok h
  have hrows : Makes (fun n : UInt32 => n ≤ maxHistoryPageRows) (checkedHistoryPageRows f.rows) :=
    .after fun _ => .after fun n => makes_check.bind fun _ h => makes_ok (UInt32.not_lt.mp h)
  refine .after fun bid => hseq.bind fun pageSeq hpageSeq => hrows.bind fun rows hrow => ?_
  refine .after fun payload => makes_check.bind fun _ hpayload => .after fun cursor => ?_
  refine makes_check.bind fun _ hcursor => makes_check.bind fun _ hnext => ?_
  refine .after fun _ => .after fun t => makes_ok ⟨⟨hpageSeq, ?_, ?_, ?_, hrow⟩, trivial⟩
  · exact Nat.not_lt.mp hcursor
  · intro next h
    simpa [h] using hnext
  · exact Nat.not_lt.mp hpayload

theorem yields_directoryListing : Yields (FrameKind.Lossless limits) decodeDirectoryListing := by
  have hentries : Yields (fun entries => entries.length ≤ maxDirectoryEntries) decodeEntries := by
    have hentry : Yields (fun _ => True) decodeDirectoryEntry := fun _ _ _ _ => trivial
    refine .after fun count => yields_failIf.bind fun _ h => ?_
    refine (hentry.replicate count.toNat).imp fun entries he => ?_
    have hcount := he.1
    omega
  refine yields_decodeFields (S := fun f : ListingFields =>
    f.entries.length ≤ maxDirectoryEntries) (Nat.zero_le _) ?_ ?_
  · intro acc id value hacc
    unfold ListingFields.absorb
    split
    case h_4 => exact makes_store (hentries.sub value) fun _ h => h
    case h_8 => exact makes_ok hacc
    all_goals exact makes_store_beside fun _ => hacc
  · intro f hf
    refine makes_ok ⟨?_, trivial⟩
    show ListingWithin f.intoResult
    unfold ListingFields.intoResult
    split
    · trivial
    · exact hf

theorem makes_agentFacetStr {value : Bytes} {max : Nat} :
    Makes (fun s => strBytes s ≠ [] ∧ (strBytes s).length ≤ max) (decodeAgentFacetStr value max) := by
  refine makes_check.bind fun _ h => makes_ok_or.imp fun s hs => ?_
  obtain ⟨hne, hle⟩ := not_or.mp h
  rw [strBytes_of_fromUtf8 hs]
  exact ⟨by simpa using hne, Nat.not_lt.mp hle⟩

theorem yields_spawnTerminal : Yields (FrameKind.Lossless limits) decodeSpawnTerminal := by
  refine yields_decodeFields (S := fun f : SpawnFields => f.resource.Within)
    ⟨trivial, filled_none, filled_none⟩ ?_ ?_
  · intro acc id value hacc
    unfold spawnStep
    split
    case h_11 =>
      exact makes_store (yields_resourceKind.sub value) fun _ h =>
        ⟨h, hacc.provider_ok, hacc.nativeId_ok⟩
    case h_13 =>
      exact makes_store makes_agentFacetStr fun _ h =>
        ⟨hacc.kind_ok, filled_some h, hacc.nativeId_ok⟩
    case h_14 =>
      exact makes_store makes_agentFacetStr fun _ h =>
        ⟨hacc.kind_ok, hacc.provider_ok, filled_some h⟩
    case h_12 | h_15 =>
      exact makes_store_beside fun _ => ⟨hacc.kind_ok, hacc.provider_ok, hacc.nativeId_ok⟩
    case h_9 | h_16 => exact makes_ok hacc
    all_goals exact makes_store_beside fun _ => hacc
  · intro f hf frame h
    obtain ⟨_, hvalid, h⟩ := Fallible.bind_eq_ok.mp h
    obtain rfl := Fallible.pure_eq_ok.mp h
    refine ⟨⟨fun r hr => ?_, hvalid⟩, fun r hr => ?_⟩
    · obtain ⟨rfl, -⟩ := Option.guard_eq_some_iff.mp hr
      exact hf
    · obtain ⟨rfl, hdefault⟩ := Option.guard_eq_some_iff.mp hr
      simpa using hdefault

theorem yields_event : Yields (FrameKind.Lossless limits) decodeEvent := by
  refine yields_decodeFields (S := fun f : EventFields => Filled AgentEvent.ReallyUnknown f.event)
    filled_none ?_ ?_
  · intro acc id value hacc
    unfold eventStep
    split
    · exact makes_store_beside fun _ => hacc
    · exact makes_store (yields_agentEvent.sub value) fun _ h => filled_some h
    · exact makes_ok hacc
  · intro f hf
    exact hf.required.bind fun event h => makes_ok ⟨h, trivial⟩

variable {typeByte : UInt8} {ext : External}

theorem yields_frameBody :
    Yields (FrameKind.Lossless limits) (decodeFrameBody ext limits typeByte) := by
  have hany : ∀ {α : Type} (x : Except DecodeError α), Makes (fun _ => True) x :=
    fun _ _ _ => trivial
  unfold decodeFrameBody
  split
  case h_1 => exact yields_hello limits
  case h_2 => exact yields_helloOk limits
  case h_3 | h_4 | h_14 | h_16 | h_26 => exact yields_sole fun _ => ⟨trivial, trivial⟩
  case h_5 =>
    exact yields_finish fun f => .after fun _ => .after fun _ => .after fun _ => .after fun _ =>
      .after fun _ => makes_ok ⟨trivial, trivial⟩
  case h_6 =>
    exact yields_finish fun f => .after fun _ => .after fun _ => .after fun _ =>
      makes_ok ⟨trivial, trivial⟩
  case h_8 | h_9 | h_10 | h_11 =>
    exact yields_input (fun value => hany (sub _ value)) fun _ _ _ => ⟨trivial, trivial⟩
  case h_12 => exact yields_input makes_checkedTerminalReply fun _ _ h => ⟨h, trivial⟩
  case h_13 =>
    exact yields_finish fun f => .after fun _ => .after fun _ => .after fun _ => .after fun _ =>
      makes_ok ⟨trivial, trivial⟩
  case h_15 => exact yields_attached limits ext
  case h_17 => exact yields_bootstrapBegin limits
  case h_18 => exact yields_bootstrapChunk limits
  case h_19 => exact yields_bootstrapReady limits
  case h_20 => exact yields_historyRequest limits
  case h_21 => exact yields_historyPage limits
  case h_22 =>
    exact yields_finish fun f => makes_streamFrame fun _ _ _ => .after fun _ => .after fun _ =>
      makes_ok ⟨trivial, trivial⟩
  case h_23 => exact yields_historyTombstone limits
  case h_24 => exact yields_historyRejected limits
  case h_31 | h_41 =>
    exact yields_call (fun value => hany (sub _ value)) fun _ _ _ => ⟨trivial, trivial⟩
  case h_27 | h_28 | h_29 | h_30 | h_32 | h_33 | h_40 =>
    exact yields_finish fun f => .after fun _ => .after fun _ => makes_ok ⟨trivial, trivial⟩
  case h_39 | h_42 | h_43 =>
    exact yields_finish fun f => .after fun _ => makes_ok ⟨trivial, trivial⟩
  case h_7 | h_25 | h_34 | h_35 | h_36 | h_46 =>
    exact yields_finish fun f => makes_ok ⟨trivial, trivial⟩
  case h_37 => exact yields_directoryListing limits
  case h_38 => exact yields_spawnTerminal limits
  case h_44 => exact yields_call makes_command fun _ _ h => ⟨h, trivial⟩
  case h_45 => exact yields_call (yields_commandResult ext).sub fun _ _ h => ⟨h, trivial⟩
  case h_47 => exact yields_event limits
  case h_48 => exact yields_throw _

theorem yields_body : Yields (FrameKind.Lossless limits) (decodeBody ext limits typeByte) := by
  unfold decodeBody
  split
  · refine yields_finish fun fields frame h => ?_
    obtain ⟨_, _, body, -, -, -, -, hbody⟩ := compressedFrame_eq_ok.mp h
    obtain ⟨inner, payload, d, -, -, hdecode⟩ := decodeInflated_eq_ok.mp hbody
    exact yields_frameBody limits _ _ _ hdecode
  · exact yields_frameBody limits

/-- Whatever bytes a frame was read from, its own encoding reads as the same frame. -/
theorem frame_relayed {ext : External} (hjson : ext.JsonRoundTrips) (limits : BootstrapLimits)
    {b r : Bytes} {frame : FrameKind} (h : readFrame ext limits b = .ok (frame, r))
    (hfits : (encodeBody ext frame).length ≤ maxFrameLen) (rest : Bytes) :
    readFrame ext limits (encode ext frame ++ rest) = .ok (frame, rest) := by
  obtain ⟨-, -, -, d, hbody, -⟩ := readFrame_eq_ok.mp h
  have hyields : Yields (FrameKind.Lossless limits) (readBody ext limits) :=
    .after fun typeByte => yields_body limits
  obtain ⟨hlegible, hcanonical⟩ := hyields _ _ _ hbody
  exact readFrame_encode hjson hlegible hcanonical hfits rest

theorem padded_detach_relayed :
    readFrame External.unary protocolLimits [0, 0, 0, 5, 3, 5, 4, 1, 7] = .ok (.detach, []) ∧
      ∀ rest, readFrame External.unary protocolLimits (encode External.unary .detach ++ rest) =
        .ok (.detach, rest) := by
  have hread : readFrame External.unary protocolLimits [0, 0, 0, 5, 3, 5, 4, 1, 7] =
      .ok (.detach, []) := rfl
  exact ⟨hread, frame_relayed External.unary_jsonRoundTrips protocolLimits hread (by decide)⟩

end Phux
