import Phux.DownsampleColours

/-! How long a rewritten stream is. Only a colour written out again in full can take more
bytes than the selection it was read from. -/

namespace Phux

open ByteReader Scanner List

/-- The bytes of the groups and their separators, with one separator to spare. -/
def groupsLength (groups : List Bytes) : Nat := (groups.map (·.length + 1)).sum

variable (sep : UInt8)

theorem length_joined {groups : List Bytes} (h : groups ≠ []) :
    ([sep].intercalate groups).length + 1 = groupsLength groups := by
  unfold groupsLength
  induction groups with
  | nil => exact absurd rfl h
  | cons group groups ih =>
    by_cases hne : groups = []
    · simp [hne]
    · rw [intercalate_cons_of_ne_nil hne, map_cons, sum_cons, ← ih hne]
      simp only [length_append, length_singleton]
      omega

theorem groupsLength_splitOn (bytes : Bytes) :
    groupsLength (bytes.splitOn sep) = bytes.length + 1 := by
  rw [← length_joined sep (splitOn_ne_nil sep bytes), intercalate_splitOn]

section

variable (lab : LabDistance) {support : ColorSupport} {rgb : TerminalColor} {raw r g b : Bytes}

theorem length_of_parse {n : Nat} (h : parseSingleParam raw = some n) (hn : 9 < n) :
    2 ≤ raw.length := by
  match raw, h with
  | [], h =>
    cases h
    omega
  | [c], h =>
    simp only [parseSingleParam, foldlM_cons, foldlM_nil] at h
    split at h
    · rename_i hdigit
      simp only [isAsciiDigit, Bool.and_eq_true, decide_eq_true_eq, UInt8.le_iff_toNat_le] at hdigit
      have hc : c.toNat ≤ 57 := hdigit.2
      cases h
      omega
    · cases h
  | _ :: _ :: _, _ => simp

theorem length_of_mode (h : parseSingleParam raw = some 2) : 1 ≤ raw.length := by
  rw [Nat.one_le_iff_ne_zero, length_eq_zero_iff.ne]
  rintro rfl
  cases h

theorem nearestXterm256_lt (rgb : TerminalColor) : nearestXterm256 rgb < 256 := by
  have hcube : ∀ c, channelToCubeIndex c ≤ 5 := by
    intro c
    unfold channelToCubeIndex
    split_ifs <;> decide
  have hr := hcube rgb.r
  have hg := hcube rgb.g
  have hb := hcube rgb.b
  simp only [nearestXterm256]
  split_ifs <;> omega

theorem length_writeDecimal {n : Nat} (h : n < 1000) : (writeDecimal n).length ≤ 3 := by
  rw [writeDecimal, chars, length_map]
  exact Nat.toDigits_length 10 n 3 (by decide) h

variable (hsupport : support ≠ .trueColor)

include hsupport

/-- A quantised colour takes no more than its selector, its mode and its components, which may be
empty. -/
theorem length_emit (h : colorOf r g b = some rgb)
    (fg : Bool) : (emitColorParams lab support rgb fg).length ≤
      7 + r.length + g.length + b.length := by
  have hindexed : (emitIndexed16 lab rgb fg).length ≤ 3 := by
    unfold emitIndexed16
    apply length_writeDecimal
    split_ifs <;> omega
  cases support with
  | trueColor => exact absurd rfl hsupport
  | indexed16 | mono =>
    rw [emitColorParams]
    omega
  | indexed256 =>
    have hfront : (emitColorParams lab .indexed256 rgb fg).length =
        5 + (writeDecimal (nearestXterm256 rgb)).length := by
      rw [emitColorParams, length_append]
      cases fg <;> rfl
    rw [hfront]
    by_cases hempty : r.length + g.length + b.length = 0
    · obtain ⟨rfl, rfl, rfl⟩ : r = [] ∧ g = [] ∧ b = [] := by simpa [and_assoc] using hempty
      cases h
      decide
    · have hdigits := length_writeDecimal (Nat.lt_trans (nearestXterm256_lt rgb) (by decide))
      omega

theorem length_selection {next after : List Bytes} {fg : Bool}
    (h : readTruecolor raw next = some (rgb, fg, after)) :
    (emitColorParams lab support rgb fg).length + groupsLength after ≤
      raw.length + groupsLength next := by
  rcases readTruecolor_cases h with ⟨hitu, rfl⟩ | ⟨-, hselector, hclassic⟩
  · obtain ⟨selector, hselector, hitu⟩ : ∃ n, 9 < n ∧ parseItuTruecolor raw n = some rgb := by
      rcases hitu with hitu | hitu
      · exact ⟨38, by decide, hitu⟩
      · exact ⟨48, by decide, hitu⟩
    obtain ⟨-, first, mode, components, hsplit, hfirst, hmode, space, r, g, b, rfl, hcolor⟩ :=
      parseItuTruecolor_some hitu
    have hemit := length_emit lab hsupport hcolor fg
    have hraw := groupsLength_splitOn ':'.toUInt8 raw
    have hlong := length_of_parse hfirst hselector
    have hone := length_of_mode hmode
    simp only [hsplit, groupsLength, map_append, map_cons, map_nil, sum_append,
      sum_cons, sum_nil] at hraw
    omega
  · obtain ⟨mode, r, g, b, rfl, hmode, hcolor⟩ := classicTruecolor_some hclassic
    have hemit := length_emit lab hsupport hcolor fg
    have hlong : 2 ≤ raw.length := by
      rcases hselector with hselector | hselector <;> exact length_of_parse hselector (by decide)
    have hone := length_of_mode hmode
    simp only [groupsLength, map_cons, sum_cons]
    omega

theorem length_rewriteSgr (params : Bytes) :
    (rewriteSgr lab support params).length ≤ params.length + 3 := by
  have hscan : groupsLength (scan (sgrTurn lab support) (params.splitOn ';'.toUInt8)) ≤
      groupsLength (params.splitOn ';'.toUInt8) := by
    refine sum_scan_le (sgrTurn_advances lab support) (fun {groups token rest} ht => ?_) _
    obtain ⟨raw, next, rfl, ⟨rfl, rfl⟩ | ⟨rgb, fg, hread, rfl⟩⟩ := sgrTurn_some ht
    · simp [groupsLength]
    · have hle := length_selection lab hsupport hread
      simp only [groupsLength, map_cons, sum_cons] at hle ⊢
      omega
  have htokens := scan_ne_nil (sgrTurn_advances lab support) (splitOn_ne_nil ';'.toUInt8 params)
  have hjoined := length_joined ';'.toUInt8 htokens
  rw [groupsLength_splitOn] at hscan
  rw [rewriteSgr_eq]
  simp only [rewrittenParams, chars, map_cons, map_nil, length_cons,
    length_append, length_nil] at hjoined ⊢
  omega

end

theorem Turned.length_le {lab : LabDistance} {caps : ClientCapabilities} {input out rest : Bytes}
    (hsupport : caps.colorSupport ≠ .trueColor) (h : Turned lab caps input out rest) :
    out.length + rest.length ≤ input.length := by
  cases h with
  | plain | lone | broken | other =>
    simp only [length_cons, length_nil]
    omega
  | @csi params final _ _ hfinal =>
    have hsgr := length_rewriteSgr lab hsupport params
    rw [csiOutput]
    split_ifs <;> simp only [length_cons, length_append, length_nil] <;> omega
  | @string kind body hkind =>
    have hparts := congrArg length (scanStringTerminated_parts body)
    rw [length_append] at hparts
    rw [handleString]
    split_ifs <;> simp only [length_cons, length_nil] <;> omega

/-- A selection that leaves out its components. -/
def bareSelection : Bytes := chars [Char.ofNat 0x1B, '[', '3', '8', ';', '2', ';', ';', ';', 'm']

end Phux
