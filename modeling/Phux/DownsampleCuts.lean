import Mathlib.Data.List.TakeWhile
import Phux.Downsample

/-! Where a stream may be cut before it is rewritten. A cut between two sequences
is never seen; a cut inside one is, for some continuation. -/

namespace Phux

open ByteReader Scanner List Char

section

def isStringKind (kind : UInt8) : Bool := (chars [']', 'P', '_', '^', 'X']).contains kind

def dropsString (caps : ClientCapabilities) (kind : UInt8) (string : Bytes) : Bool :=
  if kind = ']'.toUInt8 then dropsOsc caps string
  else if kind = 'P'.toUInt8 then dropsDcs caps string
  else if kind = '_'.toUInt8 then dropsApc caps string
  else false

def terminated : Bytes → Bool
  | [] => false
  | b :: rest =>
    b == bel || (b == esc && rest.head? == some '\\'.toUInt8) || terminated rest

theorem scanStringTerminated_parts (body : Bytes) :
    (scanStringTerminated body).1 ++ (scanStringTerminated body).2 = body := by
  induction body with
  | nil => rfl
  | cons b rest ih =>
    rw [scanStringTerminated]
    by_cases hbel : b = bel
    · rw [if_pos hbel, singleton_append]
    · by_cases hst : b = esc ∧ rest.head? = some '\\'.toUInt8
      · rw [if_neg hbel, if_pos hst]
        have hrest := eq_cons_of_mem_head? hst.2
        simpa using hrest.symm
      · rw [if_neg hbel, if_neg hst, cons_append, ih]

variable {body : Bytes}

theorem scanStringTerminated_append (h : terminated body = true) (more : Bytes) :
    scanStringTerminated (body ++ more) =
      ((scanStringTerminated body).1, (scanStringTerminated body).2 ++ more) := by
  induction body with
  | nil => cases h
  | cons b rest ih =>
    rw [cons_append, scanStringTerminated, scanStringTerminated]
    by_cases hbel : b = bel
    · rw [if_pos hbel, if_pos hbel]
    · rw [if_neg hbel, if_neg hbel]
      cases rest with
      | nil => simp [terminated, hbel] at h
      | cons c tail =>
        by_cases hst : b = esc ∧ c = '\\'.toUInt8
        · rw [if_pos (by simpa using hst), if_pos (by simpa using hst)]
          rfl
        · have hrest : terminated (c :: tail) = true := by
            rw [terminated] at h
            simpa [hbel, hst] using h
          rw [if_neg (by simpa using hst), if_neg (by simpa using hst), ih hrest]

theorem scanStringTerminated_open (h : terminated body = false) :
    scanStringTerminated body = (body, []) := by
  induction body with
  | nil => rfl
  | cons b rest ih =>
    rw [terminated, Bool.or_eq_false_iff, Bool.or_eq_false_iff] at h
    obtain ⟨⟨hbel, hst⟩, hrest⟩ := h
    rw [scanStringTerminated, if_neg (by simpa using hbel), if_neg (by simpa using hst), ih hrest]

theorem terminated_append_open {more : Bytes} (h : terminated body = false)
    (hhead : more.head? ≠ some '\\'.toUInt8) (hmore : terminated more = false) :
    terminated (body ++ more) = false := by
  induction body with
  | nil => exact hmore
  | cons b rest ih =>
    rw [terminated, Bool.or_eq_false_iff, Bool.or_eq_false_iff] at h
    obtain ⟨⟨hbel, hst⟩, hrest⟩ := h
    have hnext : (b == esc && (rest ++ more).head? == some '\\'.toUInt8) = false := by
      cases rest with
      | nil => simp [hhead]
      | cons c tail => simpa using hst
    rw [cons_append, terminated, hbel, hnext, ih hrest]
    rfl

variable {kind : UInt8}

theorem isStringKind_iff : isStringKind kind = true ↔ kind = ']'.toUInt8 ∨
    kind = 'P'.toUInt8 ∨ kind = '_'.toUInt8 ∨ kind = '^'.toUInt8 ∨ kind = 'X'.toUInt8 := by
  simp [isStringKind, chars]

theorem ne_csi_of_isStringKind (h : isStringKind kind = true) : kind ≠ '['.toUInt8 := by
  rintro rfl
  cases h

end

section

variable {lab : LabDistance}

variable {rgb : TerminalColor}

theorem classicTruecolor_some {next after : List Bytes}
    (h : classicTruecolor next = some (rgb, after)) :
    ∃ mode r g b, next = mode :: r :: g :: b :: after ∧ parseSingleParam mode = some 2 ∧
      colorOf r g b = some rgb := by
  match next, h with
  | mode :: r :: g :: b :: tail, h =>
    simp only [classicTruecolor, Option.bind_eq_bind, Option.bind_eq_some_iff] at h
    obtain ⟨n, hmode, color, hcolor, h⟩ := h
    by_cases hn : n = 2
    · rw [if_pos hn] at h
      cases h
      exact ⟨mode, r, g, b, rfl, by rw [hmode, hn], hcolor⟩
    · rw [if_neg hn] at h
      cases h

theorem readTruecolor_cases {raw : Bytes} {next after : List Bytes}
    {fg : Bool} (h : readTruecolor raw next = some (rgb, fg, after)) :
    ((parseItuTruecolor raw 38 = some rgb ∨ parseItuTruecolor raw 48 = some rgb) ∧ after = next) ∨
      (raw.contains ':'.toUInt8 = false ∧
        (parseSingleParam raw = some 38 ∨ parseSingleParam raw = some 48) ∧
        classicTruecolor next = some (rgb, after)) := by
  rw [readTruecolor] at h
  rcases hfg : parseItuTruecolor raw 38 with _ | color
  · rw [hfg] at h
    rcases hbg : parseItuTruecolor raw 48 with _ | color
    · simp only [hbg] at h
      right
      split at h
      · rename_i hsel
        rw [Bool.and_eq_true] at hsel
        obtain ⟨found, hfound, heq⟩ := Option.map_eq_some_iff.mp h
        cases heq
        exact ⟨by simpa using hsel.1, by simpa using hsel.2, hfound⟩
      · cases h
    · simp only [hbg] at h
      cases h
      exact .inl ⟨.inr rfl, rfl⟩
  · rw [hfg] at h
    cases h
    exact .inl ⟨.inl rfl, rfl⟩

theorem sgrTurn_some {tier : ColorSupport} {groups rest : List Bytes} {token : Bytes}
    (h : sgrTurn lab tier groups = some (token, rest)) : ∃ raw next, groups = raw :: next ∧
      ((token = raw ∧ rest = next) ∨ ∃ rgb fg, readTruecolor raw next = some (rgb, fg, rest) ∧
          token = emitColorParams lab tier rgb fg) := by
  cases groups with
  | nil => cases h
  | cons raw next =>
    refine ⟨raw, next, rfl, ?_⟩
    rw [sgrTurn] at h
    rcases hread : readTruecolor raw next with _ | ⟨rgb, fg, after⟩
    · rw [hread] at h
      cases h
      exact .inl ⟨rfl, rfl⟩
    · rw [hread] at h
      cases h
      exact .inr ⟨rgb, fg, rfl, rfl⟩

theorem sgrTurn_advances (lab : LabDistance) (tier : ColorSupport) : Advances (sgrTurn lab tier) where
  shorter := by
    intro input token rest ht
    obtain ⟨raw, next, rfl, ⟨-, rfl⟩ | ⟨_, _, hread, -⟩⟩ := sgrTurn_some ht
    · simp
    · rcases readTruecolor_cases hread with ⟨-, rfl⟩ | ⟨-, -, hclassic⟩
      · simp
      · obtain ⟨mode, r, g, b, rfl, -, -⟩ := classicTruecolor_some hclassic
        simp only [length_cons]
        omega
  stops := by
    intro input ht
    cases input with
    | nil => rfl
    | cons raw next =>
      rw [sgrTurn] at ht
      split at ht <;> cases ht
  ends := rfl

theorem csi_parts (body : Bytes) : (∀ b ∈ body, isCsiBody b = true) ∨
      ∃ params final rest, body = params ++ final :: rest ∧ (∀ b ∈ params, isCsiBody b = true) ∧
        isCsiBody final = false := by
  induction body with
  | nil => simp
  | cons b body ih =>
    by_cases hb : isCsiBody b = true
    · rcases ih with hall | ⟨params, final, rest, rfl, hparams, hfinal⟩
      · left
        simpa [hb] using hall
      · refine .inr ⟨b :: params, final, rest, rfl, ?_, hfinal⟩
        simpa [hb] using hparams
    · exact .inr ⟨[], b, body, rfl, by simp, by simpa using hb⟩

/-- What a control sequence that has its final byte adds to the output. -/
def csiOutput (lab : LabDistance) (support : ColorSupport) (params : Bytes) (final : UInt8) :
    Bytes :=
  if final = 'm'.toUInt8 then rewriteSgr lab support params
  else esc :: '['.toUInt8 :: (params ++ [final])

/-- What a turn makes of each kind of sequence: the input, the output and the rest. -/
inductive Turned (lab : LabDistance) (caps : ClientCapabilities) : Bytes → Bytes → Bytes → Prop
  | plain {b : UInt8} (rest : Bytes) (hb : b ≠ esc) : Turned lab caps (b :: rest) [b] rest
  | lone : Turned lab caps [esc] [esc] []
  | broken {body : Bytes} (hbody : ∀ b ∈ body, isCsiBody b = true) :
      Turned lab caps (esc :: '['.toUInt8 :: body) (esc :: '['.toUInt8 :: body) []
  | csi {params : Bytes} {final : UInt8} (rest : Bytes) (hparams : ∀ b ∈ params, isCsiBody b = true)
      (hfinal : isCsiBody final = false) :
      Turned lab caps (esc :: '['.toUInt8 :: (params ++ final :: rest))
        (csiOutput lab caps.colorSupport params final) rest
  | string {kind : UInt8} (body : Bytes) (hkind : isStringKind kind = true) :
      Turned lab caps (esc :: kind :: body)
        (handleString kind (dropsString caps kind) body).1 (scanStringTerminated body).2
  | other {kind : UInt8} (rest : Bytes) (hcsi : kind ≠ '['.toUInt8)
      (hkind : isStringKind kind = false) : Turned lab caps (esc :: kind :: rest) [esc, kind] rest

variable {caps : ClientCapabilities} {input out rest : Bytes}

theorem Turned.turn (h : Turned lab caps input out rest) :
    rewriteTurn lab caps input = some (out, rest) := by
  cases h with
  | plain _ hb => simp [rewriteTurn, hb]
  | lone => rfl
  | broken hbody =>
    change some (handleCsi lab caps.colorSupport _) = _
    rw [handleCsi, dropWhile_eq_nil_iff.mpr hbody]
  | csi _ hparams hfinal =>
    change some (handleCsi lab caps.colorSupport _) = _
    rw [handleCsi, dropWhile_append_of_pos hparams,
      dropWhile_cons_of_neg (by simp [hfinal]), takeWhile_append_of_pos hparams,
      takeWhile_cons_of_neg (by simp [hfinal]), append_nil, csiOutput]
    dsimp only
    split <;> rfl
  | string body hkind => rcases isStringKind_iff.mp hkind with rfl | rfl | rfl | rfl | rfl <;> rfl
  | other _ hcsi hkind =>
    have hne := mt isStringKind_iff.mpr (Bool.eq_false_iff.mp hkind)
    simp only [not_or] at hne
    simp [rewriteTurn, handleEscape, hcsi, hne]

theorem exists_turned (lab : LabDistance) (caps : ClientCapabilities) (hne : input ≠ []) :
    ∃ out rest, Turned lab caps input out rest := by
  match input, hne with
  | b :: tail, _ =>
    by_cases hb : b = esc
    · subst hb
      cases tail with
      | nil => exact ⟨_, _, .lone⟩
      | cons kind body =>
        by_cases hcsi : kind = '['.toUInt8
        · subst hcsi
          rcases csi_parts body with hall | ⟨params, final, rest, rfl, hparams, hfinal⟩
          · exact ⟨_, _, .broken hall⟩
          · exact ⟨_, _, .csi rest hparams hfinal⟩
        · by_cases hs : isStringKind kind = true
          · exact ⟨_, _, .string body hs⟩
          · exact ⟨_, _, .other body hcsi (Bool.eq_false_iff.mpr hs)⟩
    · exact ⟨_, _, .plain tail hb⟩

theorem turned_of_turn (h : rewriteTurn lab caps input = some (out, rest)) :
    Turned lab caps input out rest := by
  have hne : input ≠ [] := by
    rintro rfl
    cases h
  obtain ⟨out', rest', hturned⟩ := exists_turned lab caps hne
  rw [hturned.turn] at h
  cases h
  exact hturned

theorem rewriteTurn_advances (lab : LabDistance) (caps : ClientCapabilities) :
    Advances (rewriteTurn lab caps) where
  shorter := by
    intro input token rest ht
    cases turned_of_turn ht with
    | plain | lone | broken => simp
    | csi | other =>
      simp only [length_append, length_cons]
      omega
    | string body =>
      have hparts := congrArg length (scanStringTerminated_parts body)
      simp only [length_append, length_cons] at hparts ⊢
      omega
  stops := by
    intro input ht
    by_contra hne
    obtain ⟨_, _, hturned⟩ := exists_turned lab caps hne
    rw [hturned.turn] at ht
    cases ht
  ends := rfl

theorem Turned.scan (h : Turned lab caps input out rest) :
    (scan (rewriteTurn lab caps) input).flatten =
      out ++ (scan (rewriteTurn lab caps) rest).flatten := by
  rw [scan_next (rewriteTurn_advances lab caps) h.turn, flatten_cons]

end

section

variable {lab : LabDistance}

def closedSequence : Bytes → Bool
  | b :: rest =>
    if b ≠ esc then true
    else
      match rest with
      | [] => false
      | kind :: body =>
        if kind = '['.toUInt8 then !body.all isCsiBody
        else if isStringKind kind then terminated body
        else true
  | [] => true

theorem rewriteTurn_local (caps : ClientCapabilities) :
    Local (rewriteTurn lab caps) closedSequence := by
  intro input token rest more hclosed ht
  cases turned_of_turn ht with
  | plain _ hb => exact Turned.turn (.plain _ hb)
  | lone => cases hclosed
  | broken hbody => simp [closedSequence, all_eq_true.mpr hbody] at hclosed
  | csi _ hparams hfinal =>
    have hlonger := (.csi (rest ++ more) hparams hfinal : Turned lab caps _ _ _).turn
    simpa using hlonger
  | @string kind body hkind =>
    have hcsi := ne_csi_of_isStringKind hkind
    have hterm : terminated body = true := by simpa [closedSequence, hcsi, hkind] using hclosed
    have hlonger := (.string (body ++ more) hkind : Turned lab caps _ _ _).turn
    rw [handleString, scanStringTerminated_append hterm] at hlonger
    exact hlonger
  | other _ hcsi hkind => exact Turned.turn (.other _ hcsi hkind)

theorem closedSequence_false {s : Bytes} (h : closedSequence s = false) :
    s = [esc] ∨ (∃ params, s = esc :: '['.toUInt8 :: params ∧ ∀ b ∈ params, isCsiBody b = true) ∨
      ∃ kind body, s = esc :: kind :: body ∧ isStringKind kind = true ∧ terminated body = false := by
  have hne : s ≠ [] := by
    rintro rfl
    cases h
  obtain ⟨_, _, hturned⟩ := exists_turned (fun _ _ => 0) .new hne
  cases hturned with
  | lone => exact .inl rfl
  | broken hbody => exact .inr (.inl ⟨_, rfl, hbody⟩)
  | @string kind body hkind =>
    have hcsi := ne_csi_of_isStringKind hkind
    exact .inr (.inr ⟨kind, body, rfl, hkind, by simpa [closedSequence, hcsi, hkind] using h⟩)
  | plain | csi | other => simp_all [closedSequence]

end

section

variable {lab : LabDistance}

theorem writeDecimal_digits (n : Nat) :
    writeDecimal n ≠ [] ∧ ∀ b ∈ writeDecimal n, isAsciiDigit b = true := by
  refine ⟨by simp [writeDecimal, chars, Nat.toDigits_ne_nil], ?_⟩
  intro b hb
  obtain ⟨c, hc, rfl⟩ := mem_map.mp hb
  have hdigit := Nat.isDigit_of_mem_toDigits (by decide) (by decide) hc
  simp only [isDigit, ge_iff_le, Bool.and_eq_true, decide_eq_true_eq,
    UInt32.le_iff_toNat_le] at hdigit
  have hlo : 48 ≤ c.val.toNat := hdigit.1
  have hhi : c.val.toNat ≤ 57 := hdigit.2
  have hbyte : c.toUInt8.toNat = c.val.toNat := by
    rw [toUInt8, UInt32.toNat_toUInt8]
    omega
  simp only [isAsciiDigit, Bool.and_eq_true, decide_eq_true_eq, UInt8.le_iff_toNat_le, hbyte]
  exact ⟨hlo, hhi⟩

theorem writeDecimal_last (n : Nat) : ∃ pre d, writeDecimal n = pre ++ [d] ∧
    isAsciiDigit d = true := by
  obtain ⟨hne, hall⟩ := writeDecimal_digits n
  refine ⟨_, _, (dropLast_append_getLast hne).symm, hall _ (getLast_mem hne)⟩

theorem emitColorParams_last {tier : ColorSupport} {rgb : TerminalColor} {fg : Bool} :
    ∃ pre d, emitColorParams lab tier rgb fg = pre ++ [d] ∧ isAsciiDigit d = true := by
  have hpad : ∀ (front : Bytes) n, ∃ pre d, front ++ writeDecimal n = pre ++ [d] ∧
      isAsciiDigit d = true := by
    intro front n
    obtain ⟨pre, d, heq, hd⟩ := writeDecimal_last n
    exact ⟨front ++ pre, d, by rw [heq, append_assoc], hd⟩
  cases tier with
  | trueColor | indexed256 => exact hpad _ _
  | indexed16 | mono => exact writeDecimal_last _

end

section

variable {lab : LabDistance}

def probe : Bytes := chars ['3', '8', ':', '2', ':', ':', '1', ':', '2', ':']

theorem classicTruecolor_probe {gs after : List Bytes} {rgb : TerminalColor}
    (h : classicTruecolor (gs ++ [probe]) = some (rgb, after)) :
    ∃ rest, after = rest ++ [probe] := by
  obtain ⟨mode, r, g, b, heq, -, hcolor⟩ := classicTruecolor_some h
  rcases eq_nil_or_concat' after with rfl | ⟨rest, last, rfl⟩
  · have hlast : probe = b := by simpa using congrArg getLast? heq
    subst hlast
    have hprobe : parseSingleParam probe = none := by decide
    simp [colorOf, hprobe] at hcolor
  · have hlast : probe = last := by
      have hends : gs ++ [probe] = (mode :: r :: g :: b :: rest) ++ [last] := heq
      simpa using (append_inj' hends rfl).2
    exact ⟨rest, by rw [hlast]⟩

theorem scan_sgr_probe (lab : LabDistance) (tier : ColorSupport) (gs : List Bytes) :
    ∃ tokens, scan (sgrTurn lab tier) (gs ++ [probe]) =
      tokens ++ [emitColorParams lab tier ⟨1, 2, 0⟩ true] := by
  obtain ⟨input, hinput⟩ : ∃ input, gs ++ [probe] = input := ⟨_, rfl⟩
  rw [hinput]
  induction input using (sgrTurn_advances lab tier).induction generalizing gs with
  | nil => simp at hinput
  | next input token rest ht ih =>
    rw [scan_next (sgrTurn_advances lab tier) ht]
    cases gs with
    | nil =>
      subst hinput
      have hitu : parseItuTruecolor probe 38 = some ⟨1, 2, 0⟩ := by decide
      rw [nil_append, sgrTurn, readTruecolor, hitu] at ht
      cases ht
      exact ⟨[], rfl⟩
    | cons raw next =>
      have hrest : ∃ gs', gs' ++ [probe] = rest := by
        subst hinput
        obtain ⟨_, _, heq, hturn⟩ := sgrTurn_some ht
        cases heq
        rcases hturn with ⟨-, rfl⟩ | ⟨_, _, hread, -⟩
        · exact ⟨next, rfl⟩
        · rcases readTruecolor_cases hread with ⟨-, rfl⟩ | ⟨-, -, hclassic⟩
          · exact ⟨next, rfl⟩
          · obtain ⟨gs', rfl⟩ := classicTruecolor_probe hclassic
            exact ⟨gs', rfl⟩
      obtain ⟨gs', hgs'⟩ := hrest
      obtain ⟨tokens, htokens⟩ := ih gs' hgs'
      exact ⟨token :: tokens, by rw [htokens, cons_append]⟩

theorem intercalate_last {sep : Bytes} {tokens : List Bytes} {last : Bytes} :
    ∃ pre, sep.intercalate (tokens ++ [last]) = pre ++ last := by
  induction tokens with
  | nil => exact ⟨[], by simp⟩
  | cons token tokens ih =>
    obtain ⟨pre, hpre⟩ := ih
    refine ⟨token ++ sep ++ pre, ?_⟩
    rw [cons_append, intercalate_cons_of_ne_nil (by simp), hpre, append_assoc,
      append_assoc, append_assoc]

theorem rewriteSgr_probe {tier : ColorSupport} {params : Bytes}
    (h : ∃ gs, params.splitOn ';'.toUInt8 = gs ++ [probe]) :
    ∃ pre d, rewriteSgr lab tier params = pre ++ [d, 'm'.toUInt8] ∧ isAsciiDigit d = true := by
  obtain ⟨gs, hgs⟩ := h
  obtain ⟨tokens, htokens⟩ := scan_sgr_probe lab tier gs
  obtain ⟨front, hfront⟩ := intercalate_last
  obtain ⟨pre, d, hlast, hd⟩ := emitColorParams_last
  refine ⟨chars [ofNat 0x1B, '['] ++ front ++ pre, d, ?_, hd⟩
  rw [rewriteSgr, hgs, htokens, hfront, hlast]
  simp [chars]

theorem probe_ends_otherwise (pre pre' : Bytes) {d : UInt8} (hd : isAsciiDigit d = true) :
    pre ++ [d, 'm'.toUInt8] ≠ pre' ++ probe ++ ['m'.toUInt8] := by
  intro heq
  have hsplit : probe = probe.dropLast ++ [':'.toUInt8] := rfl
  rw [hsplit] at heq
  have hlast := congrArg (fun l => l.reverse[1]?) heq
  simp at hlast
  subst hlast
  cases hd

theorem scan_plain (caps : ClientCapabilities) {bytes : Bytes} (h : esc ∉ bytes) :
    (scan (rewriteTurn lab caps) bytes).flatten = bytes := by
  induction bytes with
  | nil => rfl
  | cons b bytes ih =>
    have hb : b ≠ esc := fun heq => h (by simp [heq])
    rw [(Turned.plain bytes hb).scan, ih fun hmem => h (mem_cons_of_mem b hmem), singleton_append]

end

variable (lab : LabDistance)

def settled (caps : ClientCapabilities) (chunk : Bytes) : Bool :=
  every (rewriteTurn lab caps) closedSequence chunk

def received (caps : ClientCapabilities) (chunks : List Bytes) : Bytes :=
  (chunks.map fun chunk => downsampleForCaps lab chunk caps).flatten

variable {lab} {caps : ClientCapabilities}

theorem downsampleForCaps_passing (h : capsPassThrough caps = true) (bytes : Bytes) :
    downsampleForCaps lab bytes caps = bytes := by
  rw [downsampleForCaps, if_pos h]

theorem downsampleForCaps_scan (h : ¬capsPassThrough caps = true) (bytes : Bytes) :
    downsampleForCaps lab bytes caps = (scan (rewriteTurn lab caps) bytes).flatten := by
  rw [downsampleForCaps, rewriteBytesWithCaps, if_neg h, if_neg h]

theorem downsampleForCaps_append {chunk : Bytes}
    (h : capsPassThrough caps = true ∨ settled lab caps chunk = true) (rest : Bytes) :
    downsampleForCaps lab (chunk ++ rest) caps =
      downsampleForCaps lab chunk caps ++ downsampleForCaps lab rest caps := by
  by_cases hpass : capsPassThrough caps = true
  · simp only [downsampleForCaps_passing hpass]
  · have hsettled := h.resolve_left hpass
    simp only [downsampleForCaps_scan hpass]
    rw [scan_append (rewriteTurn_advances lab caps) (rewriteTurn_local caps) rest hsettled,
      flatten_append]

theorem scan_csi_probe {params : Bytes} (hbody : ∀ b ∈ params, isCsiBody b = true)
    (h : ∃ gs, params.splitOn ';'.toUInt8 = gs ++ [probe]) : ∃ pre d, (scan (rewriteTurn lab caps)
        (esc :: '['.toUInt8 :: (params ++ ['m'.toUInt8]))).flatten = pre ++ [d, 'm'.toUInt8] ∧
      isAsciiDigit d = true := by
  obtain ⟨pre, d, heq, hd⟩ := rewriteSgr_probe h
  refine ⟨pre, d, ?_, hd⟩
  rw [(Turned.csi [] hbody (by decide)).scan, csiOutput, if_pos rfl, heq]
  simp

theorem open_sequence_cut (lab : LabDistance) (caps : ClientCapabilities) {s : Bytes}
    (h : closedSequence s = false) :
    ∃ rest, (scan (rewriteTurn lab caps) (s ++ rest)).flatten ≠
      (scan (rewriteTurn lab caps) s).flatten ++ (scan (rewriteTurn lab caps) rest).flatten := by
  have hprobe : ∀ b ∈ probe, isCsiBody b = true := all_eq_true.1 rfl
  have halone : ∃ gs, probe.splitOn ';'.toUInt8 = gs ++ [probe] := ⟨[], by decide⟩
  rcases closedSequence_false h with rfl | ⟨params, rfl, hparams⟩ | ⟨kind, body, rfl, hkind, hopen⟩
  · refine ⟨'['.toUInt8 :: (probe ++ ['m'.toUInt8]), ?_⟩
    obtain ⟨pre, d, heq, hd⟩ := scan_csi_probe hprobe halone
    have hlone : (scan (rewriteTurn lab caps) [esc]).flatten = [esc] := rfl
    have hrest : esc ∉ '['.toUInt8 :: (probe ++ ['m'.toUInt8]) := by decide
    rw [singleton_append, heq, hlone, scan_plain caps hrest]
    exact probe_ends_otherwise pre [esc, '['.toUInt8] hd
  · refine ⟨';'.toUInt8 :: (probe ++ ['m'.toUInt8]), ?_⟩
    have hall : ∀ b ∈ params ++ ';'.toUInt8 :: probe, isCsiBody b = true := by
      intro b hb
      rcases mem_append.mp hb with hb | hb
      · exact hparams b hb
      · rcases mem_cons.mp hb with rfl | hb
        · decide
        · exact hprobe b hb
    have hsplit : ∃ gs, (params ++ ';'.toUInt8 :: probe).splitOn ';'.toUInt8 = gs ++ [probe] := by
      refine ⟨params.splitOn ';'.toUInt8, ?_⟩
      have hlast : probe.splitOn ';'.toUInt8 = [probe] := by decide
      rw [splitOn_append_cons_self, hlast]
    obtain ⟨pre, d, heq, hd⟩ := scan_csi_probe hall hsplit
    have hwhole : esc :: '['.toUInt8 :: params ++ ';'.toUInt8 :: (probe ++ ['m'.toUInt8]) =
        esc :: '['.toUInt8 :: (params ++ ';'.toUInt8 :: probe ++ ['m'.toUInt8]) := by simp
    have hrest : esc ∉ ';'.toUInt8 :: (probe ++ ['m'.toUInt8]) := by decide
    rw [hwhole, heq, (Turned.broken hparams).scan, scan_plain caps hrest]
    have hleft := probe_ends_otherwise pre (esc :: '['.toUInt8 :: (params ++ [';'.toUInt8])) hd
    simpa using hleft
  · refine ⟨esc :: '['.toUInt8 :: (probe ++ ['m'.toUInt8]), ?_⟩
    obtain ⟨pre, d, heq, hd⟩ := scan_csi_probe hprobe halone
    have hwhole : terminated (body ++ esc :: '['.toUInt8 :: (probe ++ ['m'.toUInt8])) = false :=
      terminated_append_open hopen (by decide) (by decide)
    rw [heq, cons_append, cons_append, (Turned.string _ hkind).scan, handleString,
      scanStringTerminated_open hwhole]
    simp only [scan_nil, flatten_nil, append_nil]
    intro hsame
    by_cases hdrop : dropsString caps kind (body ++ esc :: '['.toUInt8 :: (probe ++ ['m'.toUInt8]))
    · rw [if_pos hdrop] at hsame
      simp at hsame
    · rw [if_neg hdrop, ← append_assoc] at hsame
      refine probe_ends_otherwise _ (esc :: kind :: (body ++ [esc, '['.toUInt8])) hd
        (hsame.symm.trans ?_)
      simp

theorem received_settled {chunks : List Bytes}
    (h : capsPassThrough caps = true ∨ ∀ chunk ∈ chunks.dropLast, settled lab caps chunk = true) :
    received lab caps chunks = downsampleForCaps lab chunks.flatten caps := by
  induction chunks with
  | nil =>
    by_cases hpass : capsPassThrough caps = true
    · rw [flatten_nil, downsampleForCaps_passing hpass]
      rfl
    · rw [flatten_nil, downsampleForCaps_scan hpass]
      rfl
  | cons chunk chunks ih =>
    cases chunks with
    | nil => simp [received]
    | cons next more =>
      rw [dropLast_cons_cons, forall_mem_cons] at h
      have hchunk : capsPassThrough caps = true ∨ settled lab caps chunk = true :=
        h.imp_right And.left
      have hreceived : received lab caps (chunk :: next :: more) =
          downsampleForCaps lab chunk caps ++ received lab caps (next :: more) := rfl
      rw [hreceived, flatten_cons, downsampleForCaps_append hchunk, ih (h.imp_right And.right)]

/-- A chunk can be rewritten apart from whatever follows exactly when it cuts no
sequence, and then so can a whole stream of such chunks. -/
theorem downsample_cuts (lab : LabDistance) (caps : ClientCapabilities) :
    (∀ chunk, (∀ rest, downsampleForCaps lab (chunk ++ rest) caps =
        downsampleForCaps lab chunk caps ++ downsampleForCaps lab rest caps) ↔
      capsPassThrough caps = true ∨ settled lab caps chunk = true) ∧
    ∀ chunks, (capsPassThrough caps = true ∨ ∀ chunk ∈ chunks.dropLast, settled lab caps chunk = true) →
      received lab caps chunks = downsampleForCaps lab chunks.flatten caps := by
  refine ⟨fun chunk => ⟨?_, downsampleForCaps_append⟩, ?_⟩
  · intro hcut
    by_contra hno
    obtain ⟨hpass, hopen⟩ := not_or.mp hno
    obtain ⟨tokens, s, -, hs, hscan⟩ := exists_open (rewriteTurn_advances lab caps)
      (rewriteTurn_local caps) (Bool.eq_false_iff.mpr hopen)
    obtain ⟨rest, hne⟩ := open_sequence_cut lab caps hs
    apply hne
    have hwhole := hcut rest
    have hchunk := hscan []
    rw [append_nil, append_nil] at hchunk
    simp only [downsampleForCaps_scan hpass, hscan rest, hchunk, flatten_append,
      append_assoc] at hwhole
    exact append_cancel_left hwhole
  · intro chunks hsettled
    exact received_settled hsettled

def indexedClient : ClientCapabilities := { ClientCapabilities.new with colorSupport := .indexed256 }

theorem downsample_between_sequences : received (fun _ _ => 0) indexedClient
        [chars [Char.ofNat 0x1B, '[', '3', '8', ':', '2', ':', '9', ':', '9', ':', '9', 'm'],
          chars ['x', Char.ofNat 0x1B]] =
      chars [Char.ofNat 0x1B, '[', '3', '8', ';', '5', ';', '2', '3', '2', 'm', 'x',
        Char.ofNat 0x1B] := by
  have hsettled : ∀ chunk ∈
      [chars [ofNat 0x1B, '[', '3', '8', ':', '2', ':', '9', ':', '9', ':', '9', 'm'],
        chars ['x', ofNat 0x1B]].dropLast,
      settled (fun _ _ => 0) indexedClient chunk = true := by decide
  rw [(downsample_cuts (fun _ _ => 0) indexedClient).2 _ (.inr hsettled)]
  decide

/-- A truecolor selection cut inside its parameters reaches the client as it is. -/
theorem downsample_depends_on_cuts :
    ¬∀ lab caps chunks, received lab caps chunks = downsampleForCaps lab chunks.flatten caps := by
  intro h
  have hcut := h (fun _ _ => 0) indexedClient
    [chars [ofNat 0x1B, '[', '3', '8', ';', '2', ';'],
      chars ['2', '5', '5', ';', '0', ';', '0', 'm']]
  revert hcut
  decide

end Phux
