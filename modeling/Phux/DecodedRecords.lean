import Phux.Command
import Phux.Postcondition

/-! What the record decoders can return: every snapshot, command and event they build is one the
encoders write without loss. -/

namespace Phux

open ByteReader KeyedRows List Nat

variable {α : Type} {P : α → Prop}

theorem yields_unknownTag {field : String} {tag : UInt8} :
    Yields P (unknownTag field tag) := yields_throw _

variable {dec : Decode α}

variable (tagName : String)

theorem yields_optional
    (h : Yields P dec) : Yields (fun o => ∀ a, o = some a → P a) (decodeOptional tagName dec) := by
  refine .after fun tag => ?_
  split
  · exact yields_pure fun a ha => by cases ha
  · refine h.bind fun a ha => yields_pure fun b hb => ?_
    rwa [← Option.some.inj hb]
  · exact yields_unknownTag

theorem yields_list (h : Yields P dec) : Yields (fun xs => ∀ x ∈ xs, P x) (decodeList dec) :=
  .after fun len => (h.replicate len.toNat).imp fun _ hxs => hxs.2

theorem yields_resourceKind : Yields ResourceKind.ReallyUnknown decodeResourceKind := by
  refine .after fun tag => yields_pure ?_
  unfold ResourceKind.fromWire
  split
  · trivial
  · split
    · trivial
    · exact ⟨‹_›, ‹_›⟩

/-! ### Snapshots -/

theorem yields_layoutNodeDepth (levels : Nat) :
    Yields (fun node => node.depth < levels ∧ node.RatiosValid) (decodeLayoutNodeDepth levels) := by
  induction levels with
  | zero => exact yields_throw _
  | succ levels ih =>
    refine .after fun tag => ?_
    split
    · exact .after fun pane => yields_pure ⟨succ_pos _, trivial⟩
    · refine .after fun dir => .after fun ratio => yields_failIf.bind fun _ hratio => ?_
      refine ih.bind fun left hl => ih.bind fun right hr => yields_pure ⟨?_, ?_, hl.2, hr.2⟩
      · have hleft := hl.1
        have hright := hr.1
        simp only [LayoutNode.depth]
        omega
      · simpa using hratio
    · exact yields_unknownTag

theorem yields_windowInfo : Yields WindowInfo.LayoutValid decodeWindowInfo := by
  have hlayout := yields_optional "Option<LayoutNode> tag" (yields_layoutNodeDepth maxLayoutDepth)
  refine .after fun id => .after fun sessionId => .after fun index => .after fun name => ?_
  exact .after fun activeResource => hlayout.bind fun layout h => yields_pure h

theorem yields_terminalInfo :
    Yields (fun info => info.hasResourceFacets = false ∧ info.kind.ReallyUnknown) decodeTerminalInfo := by
  refine .after fun id => .after fun windowId => .after fun cols => .after fun rows => ?_
  exact .after fun title => .after fun cwd => yields_pure ⟨rfl, trivial⟩

theorem yields_sessionInfo : Yields (fun info => info.keepEmpty = false) decodeSessionInfo := by
  refine .after fun id => .after fun name => .after fun activeWindow => .after fun created => ?_
  exact .after fun windows => .after fun clients => yields_pure rfl

theorem yields_facetRow : Yields (fun row => row.kind.ReallyUnknown) decodeFacetRow := by
  refine .after fun id => yields_resourceKind.bind fun kind hkind => ?_
  exact .after fun parent => .after fun agent => yields_pure hkind

structure ResourcesLegible (resources : List ResourceInfo) : Prop where
  kinds : ∀ r ∈ resources, r.kind.ReallyUnknown
  leading : Leading ResourceInfo.id ResourceInfo.hasResourceFacets resources

variable {resources : List ResourceInfo}

theorem ResourcesLegible.patch {row : FacetRow}
    (h : ResourcesLegible resources) (hrow : row.kind.ReallyUnknown) :
    ResourcesLegible (applyRow ResourceInfo.id FacetRow.id FacetRow.patch resources row) where
  kinds r hr := by
    rcases mem_updateFirst hr with hr | ⟨a, -, -, rfl⟩
    · exact h.kinds r hr
    · exact hrow
  leading := by
    have hkey : ∀ (row : FacetRow) info, (row.patch info).id = info.id := fun _ _ => rfl
    exact h.leading.applyRow hkey row

theorem yields_resourceFacets (h : ResourcesLegible resources) :
    Yields ResourcesLegible (decodeResourceFacets resources) :=
  .trailing h <| .after fun rows =>
    yields_facetRow.foldRows (fun _ _ hs hrow => hs.patch hrow) rows.toNat h

theorem yields_sessionFacets {sessions : List SessionInfo}
    (h : Leading SessionInfo.id SessionInfo.keepEmpty sessions) :
    Yields (Leading SessionInfo.id SessionInfo.keepEmpty) (decodeSessionFacets sessions) := by
  have hrow : Yields (fun _ => True) decodeSessionFacetRow := fun _ _ _ _ => trivial
  have hkey : ∀ (row : SessionFacetRow) info, (row.patch info).id = info.id := fun _ _ => rfl
  refine .trailing h <| .after fun rows => hrow.foldRows (fun _ row hs _ => ?_) rows.toNat h
  exact hs.applyRow hkey row

theorem SessionSnapshot.Legible.withTrail {snap : SessionSnapshot} (h : snap.Legible)
    (hosts : List HostInventory) (listeners : Option RemoteListenersReport) :
    (snap.withTrail hosts listeners).Legible := by
  have hhosts : (if hosts.isEmpty then snap else snap.setHosts hosts).Legible := by
    split
    · exact h
    · exact ⟨h.layouts, h.kinds, h.resources, h.sessions⟩
  cases listeners with
  | none => exact hhosts
  | some report => exact ⟨hhosts.layouts, hhosts.kinds, hhosts.resources, hhosts.sessions⟩

variable (ext : External)

theorem yields_sessionSnapshot : Yields SessionSnapshot.Legible (decodeSessionSnapshot ext) := by
  refine (yields_list yields_sessionInfo).bind fun sessions hsessions => ?_
  refine (yields_list yields_windowInfo).bind fun windows hwindows => ?_
  refine (yields_list yields_terminalInfo).bind fun resources hresources => ?_
  have hlegible : ResourcesLegible resources :=
    ⟨fun r hr => (hresources r hr).2, leading_of_unmarked fun r hr => (hresources r hr).1⟩
  refine .after fun session => .after fun window => .after fun resource => ?_
  refine (yields_resourceFacets hlegible).bind fun resources hresources => .after fun hosts => ?_
  refine (yields_sessionFacets (leading_of_unmarked hsessions)).bind fun sessions hsessions => ?_
  refine .after fun listeners => yields_pure (.withTrail ?_ hosts listeners)
  exact ⟨hwindows, hresources.kinds, hresources.leading, hsessions⟩

theorem yields_commandResult : Yields CommandResult.Legible (decodeCommandResult ext) := by
  refine .after fun tag => ?_
  split
  · exact yields_pure trivial
  · have hvalue : Yields (fun value => (CommandResult.okWith value).Legible)
        (decodeCommandValue ext) := by
      refine .after fun tag => ?_
      split
      · exact .after fun id => yields_pure trivial
      · exact .after fun id => yields_pure trivial
      · exact (yields_sessionSnapshot ext).bind fun snapshot h => yields_pure h
      · exact .after fun text => yields_pure trivial
      · exact .after fun data => yields_pure trivial
      · exact .after fun offset => .after fun path => yields_pure trivial
      · exact yields_unknownTag
    exact hvalue.bind fun value h => yields_pure h
  · exact .after fun code => .after fun message => yields_pure trivial
  · exact yields_unknownTag

/-! ### Commands

The one bound on a command that its own value does not show is the length of the body it came in,
so the bytes an `applyInput` takes are counted. -/

def Measures {α : Type} (enc : α → Bytes) (p : Decode α) : Prop :=
  Spends (fun a n => n = (enc a).length) p

section

variable {enc : α → Bytes}

theorem measures_be {f : Nat → α} {k : Nat} (h : ∀ a, (enc a).length = k) :
    Measures enc (do let n ← readBe .unexpectedEof k; pure (f n)) := by
  have hbe : Spends (fun _ n => n = k) (readBe DecodeError.unexpectedEof k) :=
    spends_take.bind fun bs m hm => spends_pure (by rw [hm.2]; rfl)
  exact hbe.bind fun a m hm => spends_pure (by rw [hm, h, add_zero])

theorem measures_u8 : Measures writeU8 readU8 :=
  spends_take.bind fun bs m hm => spends_pure (by rw [hm.2]; rfl)

theorem measures_u16 : Measures writeU16Be readU16Be := measures_be fun _ => length_beBytes

theorem measures_u32 : Measures writeU32Be readU32Be := measures_be fun _ => length_beBytes

theorem measures_u64 : Measures writeU64Be readU64Be := measures_be fun _ => length_beBytes

variable {β : Type} {f : α → β}

theorem Measures.map {enc' : β → Bytes} (h : Measures enc dec)
    (hf : ∀ a, (enc' (f a)).length = (enc a).length) : Measures enc' (do let a ← dec; pure (f a)) :=
  h.bind fun a m hm => spends_pure (by rw [hm, hf, add_zero])

theorem Measures.translate {enc' : β → Bytes} {f : α → Option β} {e : α → DecodeError}
    (h : Measures enc dec) (hf : ∀ a b, (enc' b).length = (enc a).length) :
    Measures enc' (do let a ← dec; okOr (f a) (e a)) := by
  refine h.bind fun a m hm => ?_
  cases f a with
  | none => exact spends_throw
  | some b => exact spends_pure (by rw [hm, hf a b, add_zero])

/-- A value behind its tag. -/
theorem Measures.tagged {enc' : β → Bytes} {tag : UInt8} {m : Nat}
    (h : Measures enc dec) (hm : m = (writeU8 tag).length)
    (hf : ∀ a, enc' (f a) = writeU8 tag ++ enc a) :
    Spends (fun b n => m + n = (enc' b).length) (do let a ← dec; pure (f a)) := by
  refine h.bind fun a k hk => spends_pure ?_
  rw [hf, length_append, hm, hk, add_zero]

theorem measures_enum32 (name : String) (fromU32 : UInt32 → Option α) (toU32 : α → UInt32) :
    Measures (fun a => writeU32Be (toU32 a)) (decodeEnum32 name fromU32) :=
  measures_u32.translate fun _ _ => by simp [writeU32Be]

theorem measures_modSet : Measures (fun m : ModSet => writeU16Be m.bits) readModSet :=
  measures_u16.map fun _ => by simp [writeU16Be]

theorem measures_bytes : Measures writeBytes readBytes := by
  refine measures_u32.bind fun len m hm => spends_failIf.bind fun _ k hk => ?_
  intro c bs d h
  obtain ⟨n, hn, hlen, rfl⟩ := spends_take c bs d h
  refine ⟨_, hn, ?_⟩
  have hnone := hk.2
  simp only [writeBytes, writeU32Be, length_append, length_beBytes] at hm ⊢
  omega

theorem measures_str : Measures writeStr readStr := by
  refine measures_bytes.bind fun bytes m hm => ?_
  cases hs : fromUtf8 bytes with
  | none => exact spends_throw
  | some s =>
    refine spends_pure ?_
    rw [writeStr, strBytes_of_fromUtf8 hs, hm, add_zero]

theorem Measures.optional (h : Measures enc dec) :
    Measures (encodeOptional enc) (decodeOptional tagName dec) := by
  refine measures_u8.bind fun tag m hm => ?_
  split
  · exact spends_pure (by rw [hm]; rfl)
  · exact h.tagged hm fun _ => rfl
  · exact spends_throw

theorem Measures.replicate (h : Measures enc dec) (n : Nat) :
    Spends (fun xs m => xs.length = n ∧ m = (xs.flatMap enc).length) (replicate n dec) := by
  induction n with
  | zero => exact spends_pure ⟨rfl, rfl⟩
  | succ n ih =>
    refine h.bind fun x k hk => ih.bind fun xs m hm => spends_pure ⟨?_, ?_⟩
    · rw [length_cons, hm.1]
    · rw [flatMap_cons, length_append, hk, hm.2, add_zero]

theorem measures_byteArray (n : Nat) : Spends (fun _ m => m = n) (readByteArray n) := by
  induction n with
  | zero => exact spends_pure rfl
  | succ n ih =>
    refine ih.bind fun v k hk => measures_u8.bind fun b m hm => spends_pure ?_
    rw [hk, hm]
    rfl

theorem measures_terminalId : Measures encodeTerminalId decodeTerminalId := by
  refine measures_u8.bind fun tag m hm => ?_
  split
  · exact measures_u32.tagged hm fun _ => rfl
  · refine measures_str.bind fun host j hj => measures_u32.bind fun id k hk => spends_pure ?_
    rw [hm, hj, hk, encodeTerminalId, length_append, length_append]
    rfl
  · exact spends_throw

end

theorem measures_keyEvent : Measures encodeKeyEvent decodeKeyEvent := by
  have haction := measures_enum32 "KeyAction" KeyAction.fromU32 KeyAction.toU32
  have hkey := measures_enum32 "PhysicalKey" PhysicalKey.fromU32 PhysicalKey.toU32
  have hmods := measures_modSet
  have hflag : Measures writeBool readFlag := measures_u8.map fun _ => rfl
  refine haction.bind fun action n₁ h₁ => hkey.bind fun key n₂ h₂ => hmods.bind fun mods n₃ h₃ => ?_
  refine hmods.bind fun consumed n₄ h₄ => hflag.bind fun composing n₅ h₅ => ?_
  refine (measures_str.optional _).bind fun text n₆ h₆ => ?_
  refine (measures_u32.optional _).bind fun codepoint n₇ h₇ => spends_pure ?_
  simp only [encodeKeyEvent, length_append, encodeOptionalStr, encodeOptionalU32] at h₁ h₂ h₃ h₄ ⊢
  omega

theorem measures_mouseEvent : Measures encodeMouseEvent decodeMouseEvent := by
  have haction := measures_enum32 "MouseAction" MouseAction.fromU32 MouseAction.toU32
  have hbutton := measures_enum32 "MouseButton" MouseButton.fromU32 MouseButton.toU32
  have hmods := measures_modSet
  have hcoordinate : Measures writeF64Be readF64Be := measures_u64.map fun _ => rfl
  refine haction.bind fun action n₁ h₁ => hbutton.bind fun button n₂ h₂ => ?_
  refine hmods.bind fun mods n₃ h₃ => hcoordinate.bind fun x n₄ h₄ => ?_
  refine hcoordinate.bind fun y n₅ h₅ => spends_pure ?_
  simp only [encodeMouseEvent, length_append] at h₁ h₂ h₃ ⊢
  omega

theorem measures_pasteEvent : Measures encodePasteEvent decodePasteEvent := by
  have htrust : Measures (fun t : PasteTrust => writeU8 (encodePasteTrust t)) decodePasteTrust := by
    refine measures_u8.bind fun tag m hm => ?_
    split
    · exact spends_pure (by rw [hm]; rfl)
    · exact spends_pure (by rw [hm]; rfl)
    · exact spends_throw
  refine htrust.bind fun trust m hm => measures_bytes.bind fun data k hk => spends_pure ?_
  simp only [encodePasteEvent, length_append] at hm ⊢
  omega

theorem measures_focusEvent :
    Measures (fun e : FocusEvent => writeU8 (encodeFocusEvent e)) readFocusEvent := by
  refine measures_u8.bind fun tag m hm => ?_
  cases decodeFocusEvent tag with
  | error e => exact spends_throw
  | ok event => exact spends_pure (by rw [hm]; rfl)

theorem measures_inputEvent : Measures encodeInputEvent decodeInputEvent := by
  refine measures_u8.bind fun tag m hm => ?_
  split
  · exact measures_keyEvent.tagged hm fun _ => rfl
  · exact measures_mouseEvent.tagged hm fun _ => rfl
  · exact measures_focusEvent.tagged hm fun _ => rfl
  · exact measures_pasteEvent.tagged hm fun _ => rfl
  · exact spends_throw

theorem spends_applyInput (len : Nat) :
    Spends (fun o n => ∃ operationId id events, o = some (.applyInput operationId id events) ∧
        len ≤ maxApplyInputCommandBody ∧ events.length ≤ maxApplyInputEvents ∧
        (encodeCommand (.applyInput operationId id events)).length = n + 1)
      (decodeApplyInputCommand len) := by
  refine spends_failIf.bind fun _ n₀ h₀ => (measures_byteArray 16).bind fun bytes n₁ h₁ => ?_
  cases InputOperationId.new bytes with
  | none => exact spends_throw
  | some operationId =>
    refine (spends_pure (R := fun o n => o = operationId ∧ n = 0) ⟨rfl, rfl⟩).bind fun o n₂ h₂ => ?_
    refine measures_terminalId.bind fun id n₃ h₃ => measures_u16.bind fun count n₄ h₄ => ?_
    refine spends_failIf.bind fun _ n₅ h₅ => ?_
    refine (measures_inputEvent.replicate _).bind fun events n₆ h₆ => spends_pure ?_
    have hid : (o.bytes.toList.flatMap writeU8).length = 16 := by simp [length_flatMap, writeU8]
    have hcount := h₆.1
    refine ⟨o, id, events, rfl, not_lt.mp h₀.1, by omega, ?_⟩
    have htag : (writeU8 0x14).length = 1 := rfl
    have hu16 : ∀ n, (writeU16Be n).length = 2 := fun _ => length_beBytes
    simp only [encodeCommand, encodeList16, length_append, hid, htag, hu16] at h₄ ⊢
    omega

theorem yields_list16 (dec : Decode α) :
    Yields (fun xs => xs.length < 2 ^ 16) (decodeList16 dec) := by
  have hdec : Yields (fun _ => True) dec := fun _ _ _ _ => trivial
  refine .after fun count => (hdec.replicate count.toNat).imp fun xs hxs => ?_
  have := count.toNat_lt
  omega

/-- A parser that recognised a command found one within its bounds. -/
def FoundBounded (o : Option Command) : Prop := ∀ command, o = some command → command.Bounded

theorem yields_none : Yields FoundBounded (pure none : Decode (Option Command)) :=
  yields_pure fun _ h => by cases h

theorem yields_some {command : Command} (h : command.Bounded) :
    Yields FoundBounded (pure (some command) : Decode (Option Command)) := by
  refine yields_pure fun found hfound => ?_
  rwa [← Option.some.inj hfound]

variable (tag : UInt8)

theorem yields_terminalSubscriptionCommand :
    Yields FoundBounded (decodeTerminalSubscriptionCommand tag) := by
  unfold decodeTerminalSubscriptionCommand
  split
  · exact .after fun id => yields_some trivial
  · exact .after fun id => yields_some trivial
  · exact .after fun id => yields_some trivial
  · exact .after fun id => .after fun precondition => yields_some trivial
  · exact yields_none

theorem yields_putFileCommand : Yields FoundBounded decodePutFileCommand := by
  have hextension : Yields (fun s : String => (strBytes s).length ≤ 16) decodePutFileExtension :=
    .after fun extension => yields_failIf.bind fun _ h => yields_pure (not_lt.mp h)
  have hchunk : ∀ offset, Yields (fun data : Bytes => data.length ≤ maxFileUploadChunk ∧
      offset.toNat + data.length ≤ maxFileUploadSize) (decodePutFileChunk offset) := by
    refine fun offset => .after fun data => yields_failIf.bind fun _ h => yields_pure ?_
    omega
  refine .after fun uploadId => .after fun id => hextension.bind fun extension he => ?_
  refine .after fun offset => (hchunk offset).bind fun data hd => .after fun last => ?_
  exact .after fun sha256 => yields_some ⟨he, hd.1, hd.2⟩

theorem yields_liveAffordanceCommand (len : Nat) {tag : UInt8} (htag : tag ≠ 0x14) :
    Yields FoundBounded (decodeLiveAffordanceCommand len tag) := by
  unfold decodeLiveAffordanceCommand
  split
  · exact .after fun id => .after fun scrollback => .after fun cells => yields_some trivial
  · exact .after fun id => .after fun event => yields_some trivial
  · exact absurd rfl htag
  · exact .after fun id => .after fun scrollback => .after fun lines => yields_some trivial
  · refine .after fun id => (yields_list16 _).bind fun types htypes => yields_some ?_
    exact lt_of_le_of_lt (length_filterMap_le _ _) htypes
  · exact yields_putFileCommand
  · exact .after fun uploadId => .after fun id => yields_some trivial
  · exact yields_none

theorem yields_supervisoryCommand : Yields FoundBounded (decodeSupervisoryCommand tag) := by
  unfold decodeSupervisoryCommand
  split
  · exact .after fun id => .after fun mode => .after fun ttlMs => yields_some trivial
  · exact .after fun id => yields_some trivial
  · exact .after fun id => .after fun signal => yields_some trivial
  · exact yields_none

theorem yields_agentReportCommand : Yields FoundBounded (decodeAgentReportCommand tag) := by
  unfold decodeAgentReportCommand
  split
  · exact .after fun id => .after fun asked => yields_some trivial
  · exact .after fun id => .after fun state => yields_some trivial
  · exact yields_none

theorem yields_sessionCommand : Yields FoundBounded (decodeSessionCommand tag) := by
  unfold decodeSessionCommand
  split
  · exact .after fun scope => yields_some trivial
  · exact (yields_list16 _).bind fun ids hids => yields_some hids
  · exact .after fun session => yields_some trivial
  · exact yields_some trivial
  · exact yields_some trivial
  · exact .after fun reset => yields_some trivial
  · exact yields_none

theorem yields_resourceCommand : Yields FoundBounded (decodeResourceCommand tag) := by
  unfold decodeResourceCommand
  split
  · refine .after fun id => .after fun bytes => yields_failIf.bind fun _ h => yields_some ?_
    obtain ⟨hne, hle⟩ := not_or.mp h
    exact ⟨hne, not_lt.mp hle⟩
  · exact yields_none

theorem makes_command (value : Bytes) : Makes Command.Bounded (sub decodeCommand value) := by
  intro command h
  obtain ⟨⟨_, d⟩, hdecode, rfl⟩ := Fallible.map_eq_ok.mp h
  obtain ⟨len, c, hlen, hdecode⟩ := bind_eq_ok.mp hdecode
  obtain ⟨rfl, rfl⟩ : value.length = len ∧ ({ rest := value } : Cursor) = c := by
    have hleft : ({ rest := value } : Cursor).left = value.length := by simp [Cursor.left]
    have heq := Except.ok.inj hlen
    rw [hleft] at heq
    exact Prod.mk.inj heq
  obtain ⟨tag, c', htag, hdecode⟩ := bind_eq_ok.mp hdecode
  by_cases happly : tag = 0x14
  · subst happly
    obtain ⟨n, hn, hone⟩ := measures_u8 _ _ _ htag
    have hskip : decodeTerminalSubscriptionCommand 0x14 = pure none := rfl
    rw [firstSome, hskip, pure_bind, firstSome] at hdecode
    obtain ⟨o, c'', happly, hdone⟩ := bind_eq_ok.mp hdecode
    obtain ⟨k, hk, operationId, id, events, rfl, hbody, hcount, hlen⟩ :=
      spends_applyInput _ _ _ _ happly
    obtain ⟨rfl, -⟩ := pure_eq_ok.mp hdone
    have htag : (writeU8 0x14).length = 1 := rfl
    have hwithin : (encodeCommand (.applyInput operationId id events)).length ≤ value.length := by
      simp only at hn
      omega
    exact ⟨hwithin.trans hbody, hcount⟩
  · refine yields_firstSome yields_unknownTag (fun p hp => ?_) c' _ d hdecode
    simp only [mem_cons, not_mem_nil, or_false] at hp
    rcases hp with rfl | rfl | rfl | rfl | rfl | rfl
    · exact yields_terminalSubscriptionCommand tag
    · exact yields_liveAffordanceCommand _ happly
    · exact yields_supervisoryCommand tag
    · exact yields_agentReportCommand tag
    · exact yields_sessionCommand tag
    · exact yields_resourceCommand tag

/-! ### Events -/

theorem yields_paneSpawnedEvent : Yields AgentEvent.ReallyUnknown decodePaneSpawnedEvent := by
  have hfields : Yields (fun f : PaneSpawnedFields => f.kind.ReallyUnknown)
      (readFields paneSpawnedStep {}) := by
    refine yields_forFields trivial fun acc id value hacc => ?_
    unfold paneSpawnedStep
    split
    · exact (yields_resourceKind.sub value).bind fun kind hkind => makes_ok hkind
    · exact .after fun parent => makes_ok hacc
    · exact makes_ok hacc
  exact hfields.bind fun f hf => yields_pure hf

theorem makes_agentEventBody (body : Bytes) :
    Makes AgentEvent.ReallyUnknown (decodeAgentEventBody tag body) := by
  have hother : tag ∉ [0x00, 0x01, 0x02, 0x03, 0x04, 0x05, 0x06, 0x07, 0x08, 0x09, 0x0a] →
      0x0a < tag := by
    intro h
    simp only [mem_cons, not_mem_nil, or_false, not_or, ← UInt8.toNat_inj, UInt8.reduceToNat] at h
    simp only [UInt8.lt_iff_toNat_lt, UInt8.reduceToNat]
    omega
  unfold decodeAgentEventBody
  split
  · exact makes_ok trivial
  · exact .after fun exitCode => makes_ok trivial
  · exact .after fun title => makes_ok trivial
  · exact makes_ok trivial
  · exact yields_paneSpawnedEvent.sub body
  · exact .after fun exitStatus => makes_ok trivial
  · exact makes_ok trivial
  · exact makes_ok trivial
  · have hcontrol : Yields AgentEvent.ReallyUnknown decodeTerminalControlEvent := by
      refine .after fun lifecycle => .after fun exitStatus => .after fun inputHolder => ?_
      exact .after fun action => .after fun actor => yields_pure trivial
    exact hcontrol.sub body
  · exact .after fun fields => makes_ok trivial
  · exact .after fun cwd => makes_ok trivial
  · refine makes_ok (hother ?_)
    simp_all

theorem yields_agentEvent : Yields AgentEvent.ReallyUnknown decodeAgentEvent :=
  .after fun tag => .after fun body => yields_lift (makes_agentEventBody tag body)

end Phux
