import Phux.DownsampleCuts
import Phux.VtParser

/-! The colour selections of a rewritten sequence. Where the rewriter reads every
selection as the terminal does, none is left above the client's tier. -/

namespace Phux

open ByteReader Scanner List
open VtParser (Colour colours colourTurn colourTurn_advances colonColour colourMode modeAfter selects)
open VtParser

variable {raw : Bytes} {next : List Bytes} {rgb : TerminalColor} {colour : Option Colour}

section

variable {sep : UInt8}

theorem mem_splitOn {bytes group : Bytes} (h : group ∈ bytes.splitOn sep) :
    ∀ b ∈ group, b ∈ bytes ∧ b ≠ sep := by
  induction bytes generalizing group with
  | nil =>
    rw [splitOn_nil, mem_singleton] at h
    simp [h]
  | cons c bytes ih =>
    have hmore : ∀ {rest}, rest ∈ bytes.splitOn sep → ∀ b ∈ rest, b ∈ c :: bytes ∧ b ≠ sep :=
      fun hrest b hb => (ih hrest b hb).imp_left (mem_cons_of_mem c)
    rw [splitOn_cons_eq_if_modifyHead] at h
    split at h
    · rcases mem_cons.mp h with rfl | h
      · simp
      · exact hmore h
    · rename_i hc
      cases hrest : bytes.splitOn sep with
      | nil => exact absurd hrest (splitOn_ne_nil sep bytes)
      | cons first rest =>
        rw [hrest, modifyHead_cons] at h
        rw [hrest] at hmore
        rcases mem_cons.mp h with rfl | h
        · intro b hb
          rcases mem_cons.mp hb with rfl | hb
          · exact ⟨mem_cons_self, by simpa using hc⟩
          · exact hmore mem_cons_self b hb
        · exact hmore (mem_cons_of_mem first h)

variable {tokens : List Bytes}

theorem splitOn_joined (h : tokens ≠ []) :
    ([sep].intercalate tokens).splitOn sep = tokens.flatMap (·.splitOn sep) := by
  induction tokens with
  | nil => exact absurd rfl h
  | cons token tokens ih =>
    cases tokens with
    | nil => simp
    | cons next more =>
      rw [intercalate_cons_of_ne_nil (by simp), append_assoc, singleton_append,
        splitOn_append_cons_self, ih (by simp)]
      rfl

theorem mem_intercalate {sep : Bytes} {b : UInt8}
    (h : b ∈ sep.intercalate tokens) : b ∈ sep ∨ ∃ token ∈ tokens, b ∈ token := by
  induction tokens with
  | nil => cases h
  | cons token tokens ih =>
    by_cases hne : tokens = []
    · rw [hne, intercalate_singleton] at h
      exact .inr ⟨token, mem_cons_self, h⟩
    · rw [intercalate_cons_of_ne_nil hne, mem_append, mem_append] at h
      rcases h with (h | h) | h
      · exact .inr ⟨token, mem_cons_self, h⟩
      · exact .inl h
      · rcases ih h with hsep | ⟨other, hother, hb⟩
        · exact .inl hsep
        · exact .inr ⟨other, mem_cons_of_mem token hother, hb⟩

theorem parseSingleParam_eq (raw : Bytes) :
    parseSingleParam raw = (value raw).map (min · 4294967295) := by
  have hgo : ∀ n, raw.foldlM (fun n b =>
      if isAsciiDigit b then some (min (min (n * 10) 4294967295 + (b.toNat - 48)) 4294967295)
      else none) (min n 4294967295) =
      (raw.foldlM (fun n b =>
        if 0x30 ≤ b ∧ b ≤ 0x39 then some (n * 10 + (b.toNat - 48)) else none) n).map
          (min · 4294967295) := by
    induction raw with
    | nil =>
      intro n
      rfl
    | cons b raw ih =>
      intro n
      rw [foldlM_cons, foldlM_cons]
      by_cases hb : 0x30 ≤ b ∧ b ≤ 0x39
      · have hdigit : isAsciiDigit b = true := by simpa [isAsciiDigit] using hb
        have hvalue : min (min (min n 4294967295 * 10) 4294967295 + (b.toNat - 48)) 4294967295 =
            min (n * 10 + (b.toNat - 48)) 4294967295 := by omega
        simp only [hdigit, hb, and_self, if_true, hvalue, Option.bind_eq_bind, Option.bind_some]
        exact ih _
      · have hdigit : isAsciiDigit b = false := by simpa [isAsciiDigit] using hb
        simp [hdigit, hb]
  exact hgo 0

theorem value_of_parse {n : Nat} (h : parseSingleParam raw = some n) (hn : n < 4294967295) :
    value raw = some n := by
  rw [parseSingleParam_eq] at h
  obtain ⟨m, hm, heq⟩ := Option.map_eq_some_iff.mp h
  rw [hm, show m = n by omega]

theorem value_digits {n : Nat} (h : value raw = some n) : ∀ b ∈ raw, isAsciiDigit b = true := by
  have hgo : ∀ m, raw.foldlM (fun n b =>
      if 0x30 ≤ b ∧ b ≤ 0x39 then some (n * 10 + (b.toNat - 48)) else none) m = some n →
      ∀ b ∈ raw, isAsciiDigit b = true := by
    clear h
    induction raw with
    | nil => simp
    | cons b raw ih =>
      intro m h
      rw [foldlM_cons] at h
      by_cases hb : 0x30 ≤ b ∧ b ≤ 0x39
      · rw [if_pos hb] at h
        exact forall_mem_cons.mpr ⟨by simpa [isAsciiDigit] using hb, ih _ h⟩
      · rw [if_neg hb] at h
        cases h
  exact hgo 0 h

end

variable {lab : LabDistance} {support : ColorSupport}

def tierAllows (support : ColorSupport) (colour : Option Colour) : Bool :=
  match support with
  | .trueColor => true
  | .indexed256 => colour != some .direct
  | _ => colour == none

/-- The palette index after a selector and its mode is not itself read as a colour. -/
def indexKept : List Bytes → Bool
  | _ :: index :: rest => (readTruecolor index rest).isNone
  | _ => true

/-- A selection the rewriter reads as the terminal does, within the tier once rewritten. -/
def colourKept (support : ColorSupport) : List Bytes → Bool
  | [] => true
  | raw :: next =>
    match (colourTurn (raw :: next)).bind Prod.fst with
    | some .direct => (readTruecolor raw next).isSome
    | some .indexed =>
      support == .indexed256 && (raw.contains ':'.toUInt8 || indexKept next)
    | none => true

def coloursKept (support : ColorSupport) (params : Bytes) : Bool :=
  support == .trueColor ||
    every colourTurn (colourKept support) (params.splitOn ';'.toUInt8)

def outGroups (lab : LabDistance) (support : ColorSupport) (groups : List Bytes) : List Bytes :=
  (scan (sgrTurn lab support) groups).flatMap (·.splitOn ';'.toUInt8)

theorem outGroups_raw (hread : readTruecolor raw next = none) (hsep : ';'.toUInt8 ∉ raw) :
    outGroups lab support (raw :: next) = raw :: outGroups lab support next := by
  have ht : sgrTurn lab support (raw :: next) = some (raw, next) := by rw [sgrTurn, hread]
  rw [outGroups, scan_next (sgrTurn_advances lab support) ht, flatMap_cons,
    splitOn_eq_singleton hsep, singleton_append, outGroups]

variable {fg : Bool}

theorem outGroups_colour {after : List Bytes}
    (hread : readTruecolor raw next = some (rgb, fg, after)) : outGroups lab support (raw :: next) =
      (emitColorParams lab support rgb fg).splitOn ';'.toUInt8 ++ outGroups lab support after := by
  have ht : sgrTurn lab support (raw :: next) =
      some (emitColorParams lab support rgb fg, after) := by rw [sgrTurn, hread]
  rw [outGroups, scan_next (sgrTurn_advances lab support) ht, flatMap_cons, outGroups]

theorem parseItuTruecolor_some {selector : Nat} (h : parseItuTruecolor raw selector = some rgb) :
    raw.contains ':'.toUInt8 = true ∧ ∃ first mode components,
      raw.splitOn ':'.toUInt8 = first :: mode :: components ∧
      parseSingleParam first = some selector ∧ parseSingleParam mode = some 2 ∧
      ∃ space r g b, components = space ++ [r, g, b] ∧ colorOf r g b = some rgb := by
  rw [parseItuTruecolor] at h
  by_cases hcolon : raw.contains ':'.toUInt8 = true
  · rw [if_pos hcolon] at h
    refine ⟨hcolon, ?_⟩
    split at h
    · rename_i first mode components hsplit
      split at h
      · rename_i hparse
        refine ⟨first, mode, components, hsplit, hparse.1, hparse.2, ?_⟩
        split at h
        · exact ⟨[], _, _, _, rfl, h⟩
        · exact ⟨[_], _, _, _, rfl, h⟩
        · cases h
      · cases h
    · cases h
  · rw [if_neg hcolon] at h
    cases h

theorem selects_of_parse (h : parseSingleParam raw = some 38 ∨ parseSingleParam raw = some 48) :
    selects raw = true := by
  rcases h with h | h
  · rw [selects, value_of_parse h (by decide)]
    decide
  · rw [selects, value_of_parse h (by decide)]
    decide

theorem colourTurn_direct {after : List Bytes}
    (h : readTruecolor raw next = some (rgb, fg, after)) :
    colourTurn (raw :: next) = some (some .direct, after) := by
  rcases readTruecolor_cases h with ⟨hitu, rfl⟩ | ⟨hcolon, hselector, hclassic⟩
  · have hcolour : raw.contains ':'.toUInt8 = true ∧ colonColour raw = some .direct := by
      obtain ⟨selector, hselector, hitu⟩ :
          ∃ n, (n = 38 ∨ n = 48) ∧ parseItuTruecolor raw n = some rgb := by
        rcases hitu with hitu | hitu
        · exact ⟨38, .inl rfl, hitu⟩
        · exact ⟨48, .inr rfl, hitu⟩
      obtain ⟨hcolon, first, mode, components, hsplit, hfirst, hmode, -⟩ := parseItuTruecolor_some hitu
      have hselects : selects first = true := by
        apply selects_of_parse
        rw [hfirst]
        rcases hselector with rfl | rfl
        · exact .inl rfl
        · exact .inr rfl
      refine ⟨hcolon, ?_⟩
      simp only [colonColour, hsplit, hselects, if_true]
      rw [value_of_parse hmode (by decide)]
      rfl
    rw [colourTurn, if_pos hcolour.1, hcolour.2]
  · obtain ⟨mode, r, g, b, rfl, hmode, -⟩ := classicTruecolor_some hclassic
    have hdirect : modeAfter (mode :: r :: g :: b :: after) = some .direct := by
      simp only [modeAfter, head?_cons, Option.bind_some]
      rw [value_of_parse hmode (by decide)]
      rfl
    rw [colourTurn, if_neg (Bool.eq_false_iff.mp hcolon),
      if_pos (selects_of_parse hselector), hdirect]
    rfl

theorem writeDecimal_plain (n : Nat) {b : UInt8} (hb : isAsciiDigit b = false) :
    b ∉ writeDecimal n := by
  intro hmem
  rw [(writeDecimal_digits n).2 b hmem] at hb
  cases hb

theorem emitIndexed16_plain :
    ∃ n, emitIndexed16 lab rgb fg = writeDecimal n ∧ selects (writeDecimal n) = false ∧
      colourMode (value (writeDecimal n)) = none := by
  have htable : ∀ base ∈ [30, 90, 40, 100], ∀ k < 8, selects (writeDecimal (base + k)) = false ∧
      colourMode (value (writeDecimal (base + k))) = none := by decide
  obtain ⟨base, hbase, heq⟩ : ∃ base ∈ [30, 90, 40, 100],
      emitIndexed16 lab rgb fg = writeDecimal (base + nearestXterm16 lab rgb % 8) := by
    unfold emitIndexed16
    cases fg with
    | true =>
      by_cases hidx : nearestXterm16 lab rgb < 8
      · exact ⟨30, by simp, by simp [hidx]⟩
      · exact ⟨90, by simp, by simp [hidx]⟩
    | false =>
      by_cases hidx : nearestXterm16 lab rgb < 8
      · exact ⟨40, by simp, by simp [hidx]⟩
      · exact ⟨100, by simp, by simp [hidx]⟩
  exact ⟨_, heq, htable base hbase _ (Nat.mod_lt _ (by decide))⟩

/-- A quantised colour: the terminal takes its groups as one selection of the tier, or as
a plain attribute. -/
theorem emit_groups (hsupport : support ≠ .trueColor) {tail : List Bytes} : ∃ colour, colourTurn
        ((emitColorParams lab support rgb fg).splitOn ';'.toUInt8 ++ tail) =
      some (colour, tail) ∧ tierAllows support colour = true ∧
      modeAfter ((emitColorParams lab support rgb fg).splitOn ';'.toUInt8 ++ tail) = none := by
  have hplain : ∀ colour fg, ∃ n, emitIndexed16 lab colour fg = writeDecimal n ∧
      colourTurn ((writeDecimal n).splitOn ';'.toUInt8 ++ tail) = some (none, tail) ∧
      modeAfter ((writeDecimal n).splitOn ';'.toUInt8 ++ tail) = none := by
    intro colour fg
    obtain ⟨n, heq, hselects, hmode⟩ := emitIndexed16_plain
    have hcolon : ':'.toUInt8 ∉ writeDecimal n := writeDecimal_plain n (by decide)
    refine ⟨n, heq, ?_, ?_⟩
    · rw [splitOn_eq_singleton (writeDecimal_plain n (by decide)), singleton_append,
        colourTurn, if_neg (by simpa using hcolon), if_neg (by simp [hselects])]
    · rw [splitOn_eq_singleton (writeDecimal_plain n (by decide)), singleton_append]
      exact hmode
  cases support with
  | trueColor => exact absurd rfl hsupport
  | indexed16 | mono =>
    obtain ⟨n, heq, hturn, hmode⟩ := hplain rgb fg
    refine ⟨none, ?_, rfl, ?_⟩
    · rw [emitColorParams, heq, hturn]
    · rw [emitColorParams, heq, hmode]
  | indexed256 =>
    obtain ⟨selector, hselector, heq⟩ : ∃ selector ∈ [chars ['3', '8'], chars ['4', '8']],
        emitColorParams lab .indexed256 rgb fg =
          [';'.toUInt8].intercalate [selector, chars ['5'], writeDecimal (nearestXterm256 rgb)] := by
      cases fg with
      | true => exact ⟨chars ['3', '8'], by simp, by simp [emitColorParams, chars]⟩
      | false => exact ⟨chars ['4', '8'], by simp, by simp [emitColorParams, chars]⟩
    have hfacts : ∀ selector ∈ [chars ['3', '8'], chars ['4', '8']],
        ';'.toUInt8 ∉ selector ∧ selector.contains ':'.toUInt8 = false ∧
        selects selector = true ∧
        colourMode (value selector) = none := by decide
    obtain ⟨hsep, hcolon, hselects, hmode⟩ := hfacts selector hselector
    have hsplit : (emitColorParams lab .indexed256 rgb fg).splitOn ';'.toUInt8 =
        [selector, chars ['5'], writeDecimal (nearestXterm256 rgb)] := by
      have hfive : ';'.toUInt8 ∉ chars ['5'] := by decide
      have hindex : ';'.toUInt8 ∉ writeDecimal (nearestXterm256 rgb) :=
        writeDecimal_plain _ (by decide)
      rw [heq, splitOn_intercalate _ (by simp [hsep, hfive, hindex]) (by simp)]
    refine ⟨some .indexed, ?_, rfl, ?_⟩
    · rw [hsplit, cons_append, colourTurn, if_neg (Bool.eq_false_iff.mp hcolon), if_pos hselects]
      rfl
    · rw [hsplit]
      exact hmode

theorem modeAfter_outGroups (hsupport : support ≠ .trueColor) (hsep : ∀ g ∈ next, ';'.toUInt8 ∉ g)
    (h : modeAfter next = none) : modeAfter (outGroups lab support next) = none := by
  cases next with
  | nil => rfl
  | cons raw next =>
    rcases hread : readTruecolor raw next with _ | ⟨rgb, fg, after⟩
    · rw [outGroups_raw hread (hsep raw mem_cons_self)]
      exact h
    · rw [outGroups_colour hread]
      obtain ⟨-, -, -, hmode⟩ := emit_groups hsupport
      exact hmode

variable {rest : List Bytes}

theorem colourTurn_cases (h : colourTurn (raw :: next) = some (colour, rest)) :
    (raw.contains ':'.toUInt8 = true ∧ colour = colonColour raw ∧ rest = next) ∨
      (raw.contains ':'.toUInt8 = false ∧ selects raw = true ∧
        colour = modeAfter next ∧ rest = next.drop (taken colour)) ∨
      (raw.contains ':'.toUInt8 = false ∧ selects raw = false ∧ colour = none ∧ rest = next) := by
  rw [colourTurn] at h
  by_cases hcolon : raw.contains ':'.toUInt8 = true
  · rw [if_pos hcolon] at h
    cases h
    exact .inl ⟨hcolon, rfl, rfl⟩
  · rw [if_neg hcolon] at h
    by_cases hselects : selects raw = true
    · rw [if_pos hselects] at h
      cases h
      exact .inr (.inl ⟨by simpa using hcolon, hselects, rfl, rfl⟩)
    · rw [if_neg hselects] at h
      cases h
      exact .inr (.inr ⟨by simpa using hcolon, by simpa using hselects, rfl, rfl⟩)

variable {groups : List Bytes}

theorem colourTurn_suffix
    (h : colourTurn groups = some (colour, rest)) : ∀ g ∈ rest, g ∈ groups := by
  cases groups with
  | nil => cases h
  | cons raw next =>
    intro g hg
    apply mem_cons_of_mem
    rcases colourTurn_cases h with ⟨-, -, rfl⟩ | ⟨-, -, -, rfl⟩ | ⟨-, -, -, rfl⟩
    · exact hg
    · exact mem_of_mem_drop hg
    · exact hg

theorem readTruecolor_mode {mode : Bytes} (h : value mode = some 5) :
    readTruecolor mode rest = none := by
  rcases hread : readTruecolor mode rest with _ | ⟨rgb, fg, after⟩
  · rfl
  · have hcolon : ':'.toUInt8 ∉ mode := by
      intro hmem
      cases value_digits h _ hmem
    rcases readTruecolor_cases hread with ⟨hitu, -⟩ | ⟨-, hselector, -⟩
    · rcases hitu with hitu | hitu <;>
        exact absurd (parseItuTruecolor_some hitu).1 (by simpa using hcolon)
    · rcases hselector with hselector | hselector
      · rw [value_of_parse hselector (by decide)] at h
        cases h
      · rw [value_of_parse hselector (by decide)] at h
        cases h

theorem modeAfter_indexed (h : modeAfter next = some .indexed) :
    ∃ mode rest, next = mode :: rest ∧ value mode = some 5 := by
  cases next with
  | nil => cases h
  | cons mode rest =>
    refine ⟨mode, rest, rfl, ?_⟩
    by_contra hfive
    change colourMode (value mode) = _ at h
    rw [colourMode, if_neg hfive] at h
    split at h <;> cases h

theorem colourTurn_outGroups (lab : LabDistance) (hsupport : support ≠ .trueColor)
    (ht : colourTurn (raw :: next) = some (colour, rest))
    (hkept : colourKept support (raw :: next) = true) (hraw : ';'.toUInt8 ∉ raw)
    (hnext : ∀ g ∈ next, ';'.toUInt8 ∉ g) :
    ∃ colour', colourTurn (outGroups lab support (raw :: next)) =
      some (colour', outGroups lab support rest) ∧ tierAllows support colour' = true := by
  rcases hread : readTruecolor raw next with _ | ⟨rgb, fg, after⟩
  · rw [outGroups_raw hread hraw]
    rw [colourKept, ht, Option.bind_some, hread] at hkept
    rcases colour with _ | _ | _
    · refine ⟨none, ?_, by cases support <;> rfl⟩
      rcases colourTurn_cases ht with ⟨hcolon, hcolour, rfl⟩ | ⟨hcolon, hselects, hmode, rfl⟩ |
        ⟨hcolon, hselects, -, rfl⟩
      · rw [colourTurn, if_pos hcolon, ← hcolour]
      · rw [colourTurn, if_neg (Bool.eq_false_iff.mp hcolon), if_pos hselects,
          modeAfter_outGroups hsupport hnext hmode.symm]
        rfl
      · rw [colourTurn, if_neg (Bool.eq_false_iff.mp hcolon),
          if_neg (Bool.eq_false_iff.mp hselects)]
    · cases hkept
    · simp only [Bool.and_eq_true, Bool.or_eq_true, beq_iff_eq] at hkept
      obtain ⟨rfl, hindex⟩ := hkept
      refine ⟨some .indexed, ?_, rfl⟩
      rcases colourTurn_cases ht with ⟨hcolon, hcolour, rfl⟩ | ⟨hcolon, hselects, hmode, rfl⟩ |
        ⟨-, -, hnone, -⟩
      · rw [colourTurn, if_pos hcolon, ← hcolour]
      · obtain ⟨mode, tail, rfl, hfive⟩ := modeAfter_indexed hmode.symm
        have hkeptIndex : indexKept (mode :: tail) = true :=
          hindex.resolve_left (Bool.eq_false_iff.mp hcolon)
        rw [forall_mem_cons] at hnext
        have hafter : ∀ more, modeAfter (mode :: more) = some .indexed := fun _ => hmode.symm
        rw [outGroups_raw (readTruecolor_mode hfive) hnext.1, colourTurn,
          if_neg (Bool.eq_false_iff.mp hcolon), if_pos hselects, hafter]
        cases tail with
        | nil => rfl
        | cons index more =>
          have hindexRead : readTruecolor index more = none := by simpa [indexKept] using hkeptIndex
          rw [outGroups_raw hindexRead (hnext.2 index mem_cons_self)]
          rfl
      · cases hnone
  · have hdirect := colourTurn_direct hread
    rw [ht] at hdirect
    cases hdirect
    obtain ⟨colour', hturn, hallows, -⟩ := emit_groups hsupport
    rw [outGroups_colour hread]
    exact ⟨colour', hturn, hallows⟩

theorem outGroups_within (lab : LabDistance) (hsupport : support ≠ .trueColor)
    (hsep : ∀ g ∈ groups, ';'.toUInt8 ∉ g)
    (h : every colourTurn (colourKept support) groups = true) :
    ∀ colour ∈ scan colourTurn (outGroups lab support groups),
      tierAllows support colour = true := by
  induction groups using colourTurn_advances.induction with
  | nil => simp [outGroups]
  | next input colour rest ht ih =>
    cases input with
    | nil => cases ht
    | cons raw next =>
      rw [every_next colourTurn_advances ht, Bool.and_eq_true] at h
      obtain ⟨hkept, hrest⟩ := h
      have hsuffix : ∀ g ∈ rest, ';'.toUInt8 ∉ g := fun g hg => hsep g (colourTurn_suffix ht g hg)
      rw [forall_mem_cons] at hsep
      have hstep := colourTurn_outGroups lab hsupport ht hkept hsep.1 hsep.2
      obtain ⟨colour', hturn, hallows⟩ := hstep
      rw [scan_next colourTurn_advances hturn]
      intro c hc
      rcases mem_cons.mp hc with rfl | hc
      · exact hallows
      · exact ih hsuffix hrest c hc

theorem emitColorParams_body : ∀ b ∈ emitColorParams lab support rgb fg, isCsiBody b = true := by
  have hdecimal : ∀ n, ∀ b ∈ writeDecimal n, isCsiBody b = true := by
    intro n b hb
    have hdigit := (writeDecimal_digits n).2 b hb
    simp only [isAsciiDigit, Bool.and_eq_true, decide_eq_true_eq] at hdigit
    simp only [isCsiBody, Bool.or_eq_true, Bool.and_eq_true, decide_eq_true_eq]
    exact .inl ⟨hdigit.1, UInt8.le_trans hdigit.2 (by decide)⟩
  have hsep : ∀ b ∈ chars [';'], isCsiBody b = true := all_eq_true.1 rfl
  cases support with
  | indexed16 | mono => exact hdecimal _
  | indexed256 =>
    refine forall_mem_append.mpr ⟨?_, hdecimal _⟩
    cases fg <;> exact all_eq_true.1 rfl
  | trueColor =>
    simp only [emitColorParams, forall_mem_append]
    refine ⟨⟨⟨⟨⟨?_, hdecimal _⟩, hsep⟩, hdecimal _⟩, hsep⟩, hdecimal _⟩
    cases fg <;> exact all_eq_true.1 rfl

variable (support : ColorSupport)

theorem scan_sgr_body (h : ∀ g ∈ groups, ∀ b ∈ g, isCsiBody b = true) :
    ∀ token ∈ scan (sgrTurn lab support) groups, ∀ b ∈ token, isCsiBody b = true := by
  refine forall_scan (P := fun groups => ∀ g ∈ groups, ∀ b ∈ g, isCsiBody b = true)
    (sgrTurn_advances lab support) (fun ht h => ?_) h
  obtain ⟨raw, next, rfl, ⟨rfl, rfl⟩ | ⟨rgb, fg, hread, rfl⟩⟩ := sgrTurn_some ht
  · exact forall_mem_cons.mp h
  · have hafter := colourTurn_suffix (colourTurn_direct hread)
    exact ⟨emitColorParams_body, fun g hg => h g (hafter g hg)⟩

def rewrittenParams (lab : LabDistance) (support : ColorSupport) (params : Bytes) : Bytes :=
  (chars [';']).intercalate (scan (sgrTurn lab support) (params.splitOn ';'.toUInt8))

theorem rewriteSgr_eq (params : Bytes) : rewriteSgr lab support params =
      esc :: '['.toUInt8 :: (rewrittenParams lab support params ++ ['m'.toUInt8]) := rfl

theorem rewrittenParams_body {params : Bytes} (h : ∀ b ∈ params, isCsiBody b = true) :
    ∀ b ∈ rewrittenParams lab support params, isCsiBody b = true := by
  intro b hb
  rcases mem_intercalate hb with hsep | ⟨token, htoken, hb⟩
  · have hall : ∀ b ∈ chars [';'], isCsiBody b = true := all_eq_true.1 rfl
    exact hall b hsep
  · refine scan_sgr_body support ?_ token htoken b hb
    intro g hg c hc
    exact h c (mem_splitOn hg c hc).1

end Phux
