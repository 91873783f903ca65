import Phux.DownsampleColours

/-! What a terminal recognises in the rewritten stream. -/

namespace Phux

open ByteReader Scanner List VtParser Machine
open VtParser (Event State introduced escaped isCancel isSkipped isEscape isParameter isIntermediate
  oscNumber colours colourTurn)

variable {b : UInt8} {string params : Bytes} {kind : UInt8}

section

def permits (caps : ClientCapabilities) : Event → Bool
  | .sgr params => (colours params).all (tierAllows caps.colorSupport)
  | .osc body =>
    (caps.hyperlinks || oscNumber body != chars ['8']) &&
      (caps.imageProtocols.contains .iterm2 || oscNumber body != chars ['1', '3', '3', '7'])
  | .apc body => caps.imageProtocols.contains .kittyGraphics || body.head? != some 'G'.toUInt8
  | .sixel => caps.imageProtocols.contains .sixel

def strayEscape : Bytes → Bool
  | [] => false
  | b :: rest => (b == esc && rest.head?.any (· != '\\'.toUInt8)) || strayEscape rest

def endsPlainly (b : UInt8) : Bool := !isSkipped b && !isEscape b

/-- No control byte that the terminal leaves out follows the number. -/
def plainOsc (caps : ClientCapabilities) (string : Bytes) : Bool :=
  (caps.hyperlinks && caps.imageProtocols.contains .iterm2) ||
    (string.dropWhile isAsciiDigit).head?.all fun b =>
      0x20 ≤ b || b == bel || b == esc || isCancel b

def plainDcs (caps : ClientCapabilities) (string : Bytes) : Bool :=
  caps.imageProtocols.contains .sixel ||
    (string.dropWhile isParameter).head?.all fun b => !isSkipped b

def stringKept (caps : ClientCapabilities) (kind : UInt8) (string : Bytes) : Bool :=
  dropsString caps kind string ||
    (!strayEscape string && (kind != ']'.toUInt8 || plainOsc caps string) &&
      (kind != 'P'.toUInt8 || plainDcs caps string))

def csiKept (support : ColorSupport) (body : Bytes) : Bool :=
  match body.dropWhile isCsiBody with
  | [] => true
  | final :: _ =>
    endsPlainly final &&
      (final != 'm'.toUInt8 || coloursKept support (body.takeWhile isCsiBody))

/-- The rewriter and the terminal agree on the sequence at the front of the input. -/
def sequenceKept (caps : ClientCapabilities) : Bytes → Bool
  | b :: kind :: body =>
    if b ≠ esc then true
    else if kind = '['.toUInt8 then csiKept caps.colorSupport body
    else if isStringKind kind then stringKept caps kind (scanStringTerminated body).1
    else endsPlainly kind
  | _ => true

end

section

def Allowed (caps : ClientCapabilities) (event : Option Event) : Prop :=
  ∀ e ∈ event, permits caps e = true

theorem allowed_none (caps : ClientCapabilities) : Allowed caps none := by simp [Allowed]

variable {caps : ClientCapabilities}

theorem allowed_some {e : Event} (h : permits caps e = true) : Allowed caps (some e) := by
  simpa [Allowed] using h

abbrev Reads (caps : ClientCapabilities) (s : State) (bytes : Bytes) (s' : State) : Prop :=
  Machine.Passes VtParser.step (Allowed caps) s bytes s'

/-- Between two sequences of the rewriter: whatever text follows, nothing is recognised
that the client does not take. -/
def Quiet (caps : ClientCapabilities) : State → Prop
  | .ground | .escapeIntermediate | .dcsBody | .sosPm => True
  | .dcsHeader plain => plain = true → permits caps .sixel = true
  | .osc body => ∀ more, permits caps (.osc (body ++ more)) = true
  | .apc body => ∀ more, permits caps (.apc (body ++ more)) = true
  | _ => False

variable {s : State}

theorem step_cancel (h : isCancel b = true) (s : State) : step s b = (.ground, none) := by
  rw [step, if_pos h]

theorem step_take (hcancel : ¬isCancel b = true) (h : b ≠ esc) (s : State) :
    step s b = take b s := by
  have hesc : ¬isEscape b = true := by simpa [isEscape, esc] using h
  rw [step, if_neg hcancel, if_neg hesc]

theorem oscNumber_eq (body : Bytes) : oscNumber body = body.takeWhile isAsciiDigit := rfl

theorem quiet_step (hs : Quiet caps s) (hb : b ≠ esc) :
    Quiet caps (step s b).1 ∧ Allowed caps (step s b).2 := by
  by_cases hcancel : isCancel b = true
  · rw [step_cancel hcancel]
    exact ⟨trivial, allowed_none caps⟩
  · rw [step_take hcancel hb]
    cases s with
    | escape | csi | stringEscape => cases hs
    | ground | dcsBody | sosPm => exact ⟨trivial, allowed_none caps⟩
    | escapeIntermediate =>
      refine ⟨?_, allowed_none caps⟩
      simp only [VtParser.take]
      split <;> trivial
    | dcsHeader plain =>
      simp only [VtParser.take]
      split
      · exact ⟨hs, allowed_none caps⟩
      · split
        · exact ⟨hs, allowed_none caps⟩
        · split
          · refine ⟨?_, allowed_none caps⟩
            intro h
            cases h
          · refine ⟨trivial, ?_⟩
            split
            · rename_i hq
              exact allowed_some (hs hq.1)
            · exact allowed_none caps
    | osc body =>
      simp only [VtParser.take]
      split
      · exact ⟨trivial, allowed_some (by simpa using hs [])⟩
      · split
        · exact ⟨hs, allowed_none caps⟩
        · refine ⟨?_, allowed_none caps⟩
          intro more
          rw [append_assoc]
          exact hs ([b] ++ more)
    | apc body =>
      refine ⟨?_, allowed_none caps⟩
      intro more
      rw [append_assoc]
      exact hs ([b] ++ more)

variable {event : Option Event} {s' t : State} {bytes : Bytes}

theorem reads_step (hstep : step s b = (t, event)) (hevent : Allowed caps event)
    (h : Reads caps t bytes s') : Reads caps s (b :: bytes) s' := by
  refine .cons ?_ ?_
  · rw [hstep]
    exact hevent
  · rw [hstep]
    exact h

theorem reads_byte (hstep : step s b = (t, event))
    (hevent : Allowed caps event) : Reads caps s [b] t :=
  reads_step hstep hevent passes_nil

variable {p : UInt8 → Bool}

/-- Bytes that a state collects one after another. -/
theorem reads_collected {state : Bytes → State}
    (hstep : ∀ pre b, p b = true → step (state pre) b = (state (pre ++ [b]), none))
    (pre : Bytes) (h : ∀ b ∈ bytes, p b = true) :
    Reads caps (state pre) bytes (state (pre ++ bytes)) := by
  induction bytes generalizing pre with
  | nil =>
    rw [append_nil]
    exact passes_nil
  | cons b bytes ih =>
    rw [forall_mem_cons] at h
    have hrest := ih (pre ++ [b]) h.2
    rw [append_assoc] at hrest
    exact reads_step (hstep pre b h.1) (allowed_none caps) hrest

theorem reads_text (hs : Quiet caps s) (bytes : Bytes) (h : ∀ b ∈ bytes, b ≠ esc) :
    ∃ s', Reads caps s bytes s' ∧ Quiet caps s' :=
  passes_of_invariant (fun _ _ hs hb => quiet_step hs hb) hs h

/-- After an escape: the string it may end is one the client takes. -/
def Entered (caps : ClientCapabilities) (s : State) : Prop :=
  s = .escape ∨ ∃ string, s = .stringEscape string ∧ permits caps string = true

theorem reads_escape (hs : Quiet caps s) : ∃ s', Reads caps s [esc] s' ∧ Entered caps s' := by
  refine ⟨escaped s, reads_byte rfl (allowed_none caps), ?_⟩
  cases s with
  | osc body | apc body => exact .inr ⟨_, rfl, by simpa using hs []⟩
  | _ => exact .inl rfl

theorem reads_introduced (h : Entered caps s')
    (hcancel : ¬isCancel b = true) (hesc : b ≠ esc) (hb : b ≠ '\\'.toUInt8) :
    Reads caps s' [b] (introduced b) := by
  have hstep : step s' b = (introduced b, none) := by
    rw [step_take hcancel hesc]
    rcases h with rfl | ⟨string, rfl, -⟩
    · rfl
    · rw [VtParser.take, if_neg hb]
  exact reads_byte hstep (allowed_none caps)

theorem reads_terminator (h : Entered caps s') : Reads caps s' ['\\'.toUInt8] .ground := by
  rcases h with rfl | ⟨string, rfl, hpermits⟩
  · exact reads_byte rfl (allowed_none caps)
  · exact reads_byte rfl (allowed_some hpermits)

theorem reads_two (hs : Quiet caps s) (hend : endsPlainly kind = true)
    (hcsi : kind ≠ '['.toUInt8) (hstring : isStringKind kind = false) :
    ∃ s', Reads caps s [esc, kind] s' ∧ Quiet caps s' := by
  obtain ⟨s₁, hescape, hentered⟩ := reads_escape hs
  rw [endsPlainly, Bool.and_eq_true, Bool.not_eq_true', Bool.not_eq_true'] at hend
  obtain ⟨hskip, hesc⟩ := hend
  have hne : kind ≠ esc := by simpa [isEscape, esc] using hesc
  by_cases hcancel : isCancel kind = true
  · have hground := reads_byte (step_cancel hcancel s₁) (allowed_none caps)
    exact ⟨.ground, hescape.append hground, trivial⟩
  · by_cases hst : kind = '\\'.toUInt8
    · subst hst
      exact ⟨.ground, hescape.append (reads_terminator hentered), trivial⟩
    · refine ⟨introduced kind, hescape.append (reads_introduced hentered hcancel hne hst), ?_⟩
      have hother := mt isStringKind_iff.mpr (Bool.eq_false_iff.mp hstring)
      simp only [not_or] at hother
      simp only [introduced, hskip, hcsi, hother, or_self, if_false, Bool.false_eq_true]
      split <;> trivial

theorem reads_introducer (hs : Quiet caps s) (h : kind = '['.toUInt8 ∨ isStringKind kind = true) :
    Reads caps s [esc, kind] (introduced kind) := by
  obtain ⟨s₁, hescape, hentered⟩ := reads_escape hs
  refine hescape.append (reads_introduced hentered ?_ ?_ ?_) <;>
    rcases h.imp_right isStringKind_iff.mp with rfl | rfl | rfl | rfl | rfl | rfl <;> decide

def Unended (string : Bytes) : Prop :=
  string.getLast? ≠ some bel ∧ string.getLast? ≠ some '\\'.toUInt8

theorem Unended.append (h : Unended string) (hne : string ≠ []) (front : Bytes) :
    Unended (front ++ string) := by
  rw [Unended, getLast?_append_of_ne_nil front hne]
  exact h

/-- A string is read to a quiet state, unless it breaks off. -/
def Ends (caps : ClientCapabilities) (s : State) (string : Bytes) : Prop :=
  ∃ s', Reads caps s string s' ∧ (Quiet caps s' ∨ Unended string)

theorem reads_string (hs : Quiet caps s) (h : strayEscape string = false) :
    ∃ s', Reads caps s string s' ∧ (Quiet caps s' ∨ string ≠ [] ∧ Unended string) := by
  induction string using twoStepInduction generalizing s with
  | nil => exact ⟨s, passes_nil, .inl hs⟩
  | singleton b =>
    by_cases hb : b = esc
    · subst hb
      obtain ⟨s', hescape, -⟩ := reads_escape hs
      exact ⟨s', hescape, .inr ⟨by simp, by decide, by decide⟩⟩
    · obtain ⟨s', hread, hquiet⟩ := reads_text hs [b] (by simpa using hb)
      exact ⟨s', hread, .inl hquiet⟩
  | cons_cons b c rest ih₁ ih₂ =>
    rw [strayEscape, Bool.or_eq_false_iff] at h
    by_cases hb : b = esc
    · have hc : c = '\\'.toUInt8 := by simpa [hb] using h.1
      obtain ⟨s₁, hescape, hentered⟩ := reads_escape hs
      have hst : Reads caps s [b, c] .ground := by
        rw [hb, hc]
        exact hescape.append (reads_terminator hentered)
      rw [strayEscape, Bool.or_eq_false_iff] at h
      obtain ⟨s', hread, hend⟩ := ih₁ (s := .ground) trivial h.2.2
      exact ⟨s', hst.append hread, hend.imp_right fun hun => ⟨by simp, hun.2.append hun.1 [b, c]⟩⟩
    · obtain ⟨s₁, hfirst, hquiet⟩ := reads_text hs [b] (by simpa using hb)
      obtain ⟨s', hread, hend⟩ := ih₂ c hquiet h.2
      exact ⟨s', hfirst.append hread, hend.imp_right fun hun => ⟨by simp, hun.2.append hun.1 [b]⟩⟩

theorem ends_of_quiet (hs : Quiet caps s) (h : strayEscape string = false) :
    Ends caps s string := by
  obtain ⟨s', hread, hend⟩ := reads_string hs h
  exact ⟨s', hread, hend.imp_right .right⟩

theorem strayEscape_append (front : Bytes) (h : strayEscape (front ++ string) = false) :
    strayEscape string = false := by
  induction front with
  | nil => exact h
  | cons b front ih =>
    rw [cons_append, strayEscape, Bool.or_eq_false_iff] at h
    exact ih h.2

theorem reads_ending (hs : Entered caps (escaped s))
    (h : strayEscape (esc :: string) = false) : Ends caps s (esc :: string) := by
  have hescape : Reads caps s [esc] (escaped s) := reads_byte rfl (allowed_none caps)
  cases string with
  | nil => exact ⟨_, hescape, .inr ⟨by decide, by decide⟩⟩
  | cons c rest =>
    rw [strayEscape, strayEscape, Bool.or_eq_false_iff, Bool.or_eq_false_iff] at h
    have hc : c = '\\'.toUInt8 := by simpa using h.1
    subst hc
    have hst : Reads caps s [esc, '\\'.toUInt8] .ground := hescape.append (reads_terminator hs)
    obtain ⟨s', hread, hend⟩ := reads_string (show Quiet caps .ground from trivial) h.2.2
    exact ⟨s', hst.append hread, hend.imp_right fun hun => hun.2.append hun.1 [esc, _]⟩

theorem reads_quieting
    (hstep : step s b = (t, event)) (hevent : Allowed caps event) (ht : Quiet caps t)
    (h : strayEscape (b :: string) = false) : Ends caps s (b :: string) := by
  have hrest : strayEscape string = false := strayEscape_append [b] h
  obtain ⟨s', hread, hend⟩ := reads_string ht hrest
  exact ⟨s', reads_step hstep hevent hread, hend.imp_right fun hun => hun.2.append hun.1 [b]⟩

theorem reads_cancelled (hb : isCancel b = true) (h : strayEscape (b :: string) = false) :
    Ends caps s (b :: string) :=
  reads_quieting (step_cancel hb s) (allowed_none caps) trivial h

theorem reads_header {s₁ : State}
    (hp : p bel = false ∧ p '\\'.toUInt8 = false) (hfront : Reads caps s (string.takeWhile p) s₁)
    (hnext : ∀ b more, string.dropWhile p = b :: more → p b = false →
      strayEscape (b :: more) = false → Ends caps s₁ (b :: more))
    (h : strayEscape string = false) : Ends caps s string := by
  have hparts : string.takeWhile p ++ string.dropWhile p = string := takeWhile_append_dropWhile
  cases htail : string.dropWhile p with
  | nil =>
    rw [htail, append_nil] at hparts
    rw [hparts] at hfront
    refine ⟨s₁, hfront, .inr ?_⟩
    have hall : ∀ b ∈ string, p b = true := dropWhile_eq_nil_iff.mp htail
    have hlast : ∀ b, string.getLast? = some b → p b = true :=
      fun b hb => hall b (mem_of_getLast? hb)
    refine ⟨fun hb => ?_, fun hb => ?_⟩
    · rw [hlast _ hb] at hp
      cases hp.1
    · rw [hlast _ hb] at hp
      cases hp.2
  | cons b more =>
    rw [htail] at hparts
    have hstray : strayEscape (b :: more) = false := by
      rw [← hparts] at h
      exact strayEscape_append _ h
    have hb : p b = false := by
      have hhead := head?_dropWhile_not p string
      rw [htail] at hhead
      simpa using hhead
    obtain ⟨s', hread, hend⟩ := hnext b more htail hb hstray
    rw [← hparts]
    exact ⟨s', hfront.append hread, hend.imp_right fun hun => hun.append (by simp) _⟩

end

section

variable {caps : ClientCapabilities}

theorem visible_plain (h : 0x20 ≤ b) : ¬isCancel b = true ∧ b ≠ esc ∧ b ≠ bel := by
  refine ⟨?_, ?_, ?_⟩
  · intro hcancel
    rcases (by simpa [isCancel] using hcancel : b = 0x18 ∨ b = 0x1A) with rfl | rfl <;>
      exact absurd h (by decide)
  · rintro rfl
    exact absurd h (by decide)
  · rintro rfl
    exact absurd h (by decide)

theorem step_osc_visible (pre : Bytes) (h : 0x20 ≤ b) :
    VtParser.step (.osc pre) b = (.osc (pre ++ [b]), none) := by
  obtain ⟨hcancel, hesc, hbel⟩ := visible_plain h
  have hnot : b ≠ 0x07 := hbel
  rw [step_take hcancel hesc, VtParser.take, if_neg hnot, if_neg (UInt8.not_lt.mpr h)]

theorem isAsciiDigit_visible (h : isAsciiDigit b = true) : 0x20 ≤ b := by
  rw [isAsciiDigit, Bool.and_eq_true, decide_eq_true_eq] at h
  exact UInt8.le_trans (by decide) h.1

theorem permits_osc_of_kept (hkept : dropsOsc caps string = false) (more : Bytes)
    (h : oscNumber more = string.takeWhile isAsciiDigit) : permits caps (.osc more) = true := by
  simp only [dropsOsc, Bool.or_eq_false_iff, Bool.and_eq_false_iff, Bool.not_eq_false'] at hkept
  rw [permits, h]
  rcases hkept with ⟨h8 | h8, h1337 | h1337⟩ <;> simp [h8, h1337, bne]

theorem reads_osc (hkept : dropsOsc caps string = false) (hplain : plainOsc caps string = true)
    (h : strayEscape string = false) : Ends caps (.osc []) string := by
  by_cases hall : caps.hyperlinks = true ∧ caps.imageProtocols.contains .iterm2 = true
  · have hquiet : Quiet caps (.osc []) := by
      intro more
      simp [permits, hall]
    exact ends_of_quiet hquiet h
  · obtain ⟨digits, hdigits⟩ : ∃ digits, string.takeWhile isAsciiDigit = digits := ⟨_, rfl⟩
    have hall_digits : ∀ b ∈ digits, isAsciiDigit b = true := by
      intro b hb
      rw [← hdigits] at hb
      exact mem_takeWhile_imp hb
    have hnow : permits caps (.osc digits) = true := by
      apply permits_osc_of_kept hkept
      rw [hdigits, oscNumber_eq, takeWhile_eq_self_iff]
      exact hall_digits
    have hfront : Reads caps (.osc []) (string.takeWhile isAsciiDigit) (.osc digits) := by
      rw [hdigits]
      exact reads_collected (fun pre _ h => step_osc_visible pre (isAsciiDigit_visible h)) []
        hall_digits
    refine reads_header (p := isAsciiDigit) (by decide) hfront ?_ h
    intro b more htail hdigit hstray
    have hfirst : 0x20 ≤ b ∨ b = bel ∨ b = esc ∨ isCancel b = true := by
      simpa [plainOsc, htail, hall, or_assoc] using hplain
    rcases hfirst with hvisible | rfl | rfl | hcancel
    · refine reads_quieting (step_osc_visible digits hvisible) (allowed_none caps) ?_ hstray
      intro more
      rw [append_assoc]
      apply permits_osc_of_kept hkept
      rw [hdigits, oscNumber_eq, takeWhile_append_of_pos hall_digits]
      simp [hdigit]
    · exact reads_quieting rfl (allowed_some hnow) trivial hstray
    · exact reads_ending (.inr ⟨_, rfl, hnow⟩) hstray
    · exact reads_cancelled hcancel hstray

theorem step_dcs_parameter (plain : Bool) (h : isParameter b = true) :
    VtParser.step (.dcsHeader plain) b = (.dcsHeader plain, none) := by
  have hvisible : 0x20 ≤ b := by
    rw [isParameter, Bool.and_eq_true, decide_eq_true_eq] at h
    exact UInt8.le_trans (by decide) h.1
  obtain ⟨hcancel, hesc, -⟩ := visible_plain hvisible
  rw [step_take hcancel hesc, VtParser.take, if_pos h, ite_self]

theorem reads_dcs (hkept : dropsDcs caps string = false) (hplain : plainDcs caps string = true)
    (h : strayEscape string = false) : Ends caps (.dcsHeader true) string := by
  by_cases hsixel : caps.imageProtocols.contains .sixel = true
  · have hquiet : Quiet caps (.dcsHeader true) := fun _ => hsixel
    exact ends_of_quiet hquiet h
  · have hfront : Reads caps (.dcsHeader true) (string.takeWhile isParameter) (.dcsHeader true) :=
      reads_collected (fun _ _ => step_dcs_parameter true) [] fun _ => mem_takeWhile_imp
    refine reads_header (p := isParameter) (by decide) hfront ?_ h
    intro b more htail hparam hstray
    have hskip : isSkipped b = false := by simpa [plainDcs, hsixel, htail] using hplain
    have hq : b ≠ 'q'.toUInt8 := by
      have hnot : isSixelDcs string = false := by simpa [dropsDcs, hsixel] using hkept
      have hhead : isSixelDcs string =
          ((string.dropWhile isParameter).head? == some 'q'.toUInt8) := rfl
      rw [hhead, htail] at hnot
      simpa using hnot
    by_cases hesc : b = esc
    · subst hesc
      exact reads_ending (.inl rfl) hstray
    · by_cases hcancel : isCancel b = true
      · exact reads_cancelled hcancel hstray
      · have hstep := step_take hcancel hesc (.dcsHeader true)
        simp only [VtParser.take, hskip, hparam, hq, and_false, if_false, Bool.false_eq_true]
          at hstep
        by_cases hinter : isIntermediate b = true
        · rw [if_pos hinter] at hstep
          refine reads_quieting hstep (allowed_none caps) ?_ hstray
          intro hplain
          cases hplain
        · rw [if_neg hinter] at hstep
          exact reads_quieting hstep (allowed_none caps) trivial hstray

theorem reads_apc (hkept : dropsApc caps string = false) (h : strayEscape string = false) :
    Ends caps (.apc []) string := by
  by_cases hkitty : caps.imageProtocols.contains .kittyGraphics = true
  · have hquiet : Quiet caps (.apc []) := by
      intro more
      simp [permits, hkitty]
    exact ends_of_quiet hquiet h
  · cases string with
    | nil => exact ⟨_, passes_nil, .inr ⟨by simp, by simp⟩⟩
    | cons b more =>
      have hgraphics : b ≠ 'G'.toUInt8 := by
        rintro rfl
        simp [dropsApc, hkitty] at hkept
      by_cases hesc : b = esc
      · subst hesc
        refine reads_ending (.inr ⟨_, rfl, ?_⟩) h
        simp [permits]
      · by_cases hcancel : isCancel b = true
        · exact reads_cancelled hcancel h
        · have hstep : step (.apc []) b = (.apc [b], none) := step_take hcancel hesc _
          refine reads_quieting hstep (allowed_none caps) ?_ h
          intro more
          simp [permits, hgraphics]

end

section

variable {caps : ClientCapabilities}

theorem step_csi_body (pre : Bytes) (h : isCsiBody b = true) :
    VtParser.step (.csi pre) b = (.csi (pre ++ [b]), none) := by
  have hrange : 0x20 ≤ b ∧ b ≤ 0x3F := by
    simp only [isCsiBody, Bool.or_eq_true, Bool.and_eq_true, decide_eq_true_eq] at h
    rcases h with h | h
    · exact ⟨UInt8.le_trans (by decide) h.1, h.2⟩
    · exact ⟨h.1, UInt8.le_trans h.2 (by decide)⟩
  obtain ⟨hcancel, hesc, -⟩ := visible_plain hrange.1
  have hskip : ¬isSkipped b = true := by
    intro hskip
    simp only [isSkipped, Bool.or_eq_true, Bool.and_eq_true, decide_eq_true_eq, beq_iff_eq] at hskip
    rcases hskip with hskip | rfl
    · exact UInt8.not_lt.mpr hrange.1 hskip.1.1
    · exact absurd hrange.2 (by decide)
  have hbody : (isIntermediate b || isParameter b) = true := by
    rw [Bool.or_comm]
    exact h
  rw [step_take hcancel hesc, VtParser.take, if_neg hskip, if_pos hbody]

theorem step_csi_final (params : Bytes) (hbody : isCsiBody b = false) (hend : endsPlainly b = true)
    (hm : b ≠ 'm'.toUInt8) : step (.csi params) b = (.ground, none) := by
  rw [endsPlainly, Bool.and_eq_true, Bool.not_eq_true', Bool.not_eq_true'] at hend
  obtain ⟨hskip, hesc⟩ := hend
  have hne : b ≠ esc := by simpa [isEscape, esc] using hesc
  have hno : (isIntermediate b || isParameter b) = false := by
    rw [Bool.or_comm]
    exact hbody
  by_cases hcancel : isCancel b = true
  · exact step_cancel hcancel _
  · rw [step_take hcancel hne, VtParser.take, if_neg (by simp [hskip]), if_neg (by simp [hno]),
      if_neg hm]

theorem reads_csi {s : State} (hs : Quiet caps s) (h : ∀ b ∈ params, isCsiBody b = true) :
    Reads caps s (esc :: '['.toUInt8 :: params) (.csi params) :=
  Machine.Passes.append (reads_introducer hs (.inl rfl))
    (reads_collected (fun pre _ => step_csi_body pre) [] h)

end

variable {lab : LabDistance} {caps : ClientCapabilities}

theorem permits_rewritten (lab : LabDistance) (h : coloursKept caps.colorSupport params = true) :
    permits caps (.sgr (rewrittenParams lab caps.colorSupport params)) = true := by
  rw [permits, all_eq_true]
  by_cases htrue : caps.colorSupport = .trueColor
  · intro colour _
    rw [htrue]
    rfl
  · have hevery : every colourTurn (colourKept caps.colorSupport)
        (params.splitOn ';'.toUInt8) = true := by
      simpa [coloursKept, htrue] using h
    have htokens : scan (sgrTurn lab caps.colorSupport) (params.splitOn ';'.toUInt8) ≠ [] :=
      scan_ne_nil (sgrTurn_advances lab _) (splitOn_ne_nil _ _)
    have hsplit : (rewrittenParams lab caps.colorSupport params).splitOn ';'.toUInt8 =
        outGroups lab caps.colorSupport (params.splitOn ';'.toUInt8) :=
      splitOn_joined htokens
    rw [colours, hsplit]
    exact outGroups_within lab htrue (fun g hg hmem => (mem_splitOn hg _ hmem).2 rfl) hevery

variable {s : State}

theorem reads_csi_turn (hs : Quiet caps s) {final : UInt8} {rest : Bytes}
    (hparams : ∀ b ∈ params, isCsiBody b = true) (hfinal : isCsiBody final = false)
    (hkept : csiKept caps.colorSupport (params ++ final :: rest) = true) :
    Reads caps s (csiOutput lab caps.colorSupport params final) .ground := by
  rw [csiKept, dropWhile_append_of_pos hparams,
    dropWhile_cons_of_neg (Bool.eq_false_iff.mp hfinal), takeWhile_append_of_pos hparams,
    takeWhile_cons_of_neg (Bool.eq_false_iff.mp hfinal), append_nil] at hkept
  simp only [Bool.and_eq_true, Bool.or_eq_true, bne_iff_ne] at hkept
  obtain ⟨hend, hcolours⟩ := hkept
  by_cases hm : final = 'm'.toUInt8
  · have hpermits := permits_rewritten lab (hcolours.resolve_left (by simp [hm]))
    rw [csiOutput, if_pos hm, rewriteSgr_eq]
    exact (reads_csi hs (rewrittenParams_body _ hparams)).append
      (reads_byte rfl (allowed_some hpermits))
  · rw [csiOutput, if_neg hm]
    have hground := reads_byte (step_csi_final params hfinal hend hm) (allowed_none caps)
    exact (reads_csi hs hparams).append hground

variable {body : Bytes}

theorem scanStringTerminated_unended (h : Unended (scanStringTerminated body).1) :
    (scanStringTerminated body).2 = [] := by
  induction body with
  | nil => rfl
  | cons b rest ih =>
    rw [scanStringTerminated] at h ⊢
    by_cases hbel : b = bel
    · rw [if_pos hbel] at h
      exact absurd (by rw [hbel]; rfl) h.1
    · rw [if_neg hbel] at h ⊢
      by_cases hst : b = esc ∧ rest.head? = some '\\'.toUInt8
      · rw [if_pos hst] at h
        exact absurd rfl h.2
      · rw [if_neg hst] at h ⊢
        apply ih
        cases hstring : (scanStringTerminated rest).1 with
        | nil => exact ⟨by simp, by simp⟩
        | cons c string =>
          rw [hstring] at h
          simpa [Unended] using h

theorem reads_string_turn (hs : Quiet caps s) (hkind : isStringKind kind = true)
    (hkept : stringKept caps kind (scanStringTerminated body).1 = true) :
    ∃ s', Reads caps s (handleString kind (dropsString caps kind) body).1 s' ∧
      (Quiet caps s' ∨ (scanStringTerminated body).2 = []) := by
  obtain ⟨string, hstring⟩ : ∃ string, (scanStringTerminated body).1 = string := ⟨_, rfl⟩
  rw [handleString, hstring]
  rw [hstring] at hkept
  by_cases hdrop : dropsString caps kind string = true
  · rw [if_pos hdrop]
    exact ⟨s, passes_nil, .inl hs⟩
  · rw [if_neg hdrop]
    rw [stringKept, Bool.eq_false_iff.mpr hdrop, Bool.false_or, Bool.and_eq_true, Bool.and_eq_true,
      Bool.not_eq_true'] at hkept
    obtain ⟨⟨hstray, hosc⟩, hdcs⟩ := hkept
    have hbody : Ends caps (introduced kind) string := by
      rcases isStringKind_iff.mp hkind with rfl | rfl | rfl | rfl | rfl
      · exact reads_osc (Bool.eq_false_iff.mpr hdrop) hosc hstray
      · exact reads_dcs (Bool.eq_false_iff.mpr hdrop) hdcs hstray
      · exact reads_apc (Bool.eq_false_iff.mpr hdrop) hstray
      all_goals exact ends_of_quiet (s := .sosPm) trivial hstray
    obtain ⟨s', hread, hend⟩ := hbody
    refine ⟨s', (reads_introducer hs (.inr hkind)).append hread, hend.imp_right fun hun => ?_⟩
    rw [← hstring] at hun
    exact scanStringTerminated_unended hun

theorem reads_turn (hs : Quiet caps s) {input out rest : Bytes}
    (ht : rewriteTurn lab caps input = some (out, rest)) (hkept : sequenceKept caps input = true) :
    ∃ s', Reads caps s out s' ∧ (Quiet caps s' ∨ rest = []) := by
  cases turned_of_turn ht with
  | plain _ hb =>
    obtain ⟨s', hread, hquiet⟩ := reads_text hs [_] (by simpa using hb)
    exact ⟨s', hread, .inl hquiet⟩
  | lone =>
    obtain ⟨s', hread, -⟩ := reads_escape hs
    exact ⟨s', hread, .inr rfl⟩
  | broken hbody => exact ⟨_, reads_csi hs hbody, .inr rfl⟩
  | csi _ hparams hfinal => exact ⟨_, reads_csi_turn hs hparams hfinal hkept, .inl trivial⟩
  | string _ hkind =>
    have hcsi := ne_csi_of_isStringKind hkind
    exact reads_string_turn hs hkind (by simpa [sequenceKept, hcsi, hkind] using hkept)
  | @other kind _ hcsi hkind =>
    have hend : endsPlainly kind = true := by simpa [sequenceKept, hcsi, hkind] using hkept
    obtain ⟨s', hread, hquiet⟩ := reads_two hs hend hcsi hkind
    exact ⟨s', hread, .inl hquiet⟩

theorem reads_rewritten {input : Bytes}
    (h : every (rewriteTurn lab caps) (sequenceKept caps) input = true) (hs : Quiet caps s) :
    ∃ s', Reads caps s (scan (rewriteTurn lab caps) input).flatten s' := by
  induction input using (rewriteTurn_advances lab caps).induction generalizing s with
  | nil => exact ⟨s, passes_nil⟩
  | next input out rest ht ih =>
    rw [every_next (rewriteTurn_advances lab caps) ht, Bool.and_eq_true] at h
    obtain ⟨s₁, hout, hend⟩ := reads_turn hs ht h.1
    rw [scan_next (rewriteTurn_advances lab caps) ht, flatten_cons]
    rcases hend with hquiet | rfl
    · obtain ⟨s', hrest⟩ := ih h.2 hquiet
      exact ⟨s', hout.append hrest⟩
    · exact ⟨s₁, by simpa using hout⟩

/-- The condition under which a rewritten stream keeps to what the client takes: every
sequence is framed alike by the rewriter and the terminal, and every colour selection is one
that the rewriter reads. -/
def filterable (lab : LabDistance) (caps : ClientCapabilities) (input : Bytes) : Bool :=
  capsPassThrough caps || every (rewriteTurn lab caps) (sequenceKept caps) input

theorem permits_passing (h : capsPassThrough caps = true) (e : Event) : permits caps e = true := by
  simp only [capsPassThrough, Bool.and_eq_true, decide_eq_true_eq] at h
  obtain ⟨⟨⟨hcolour, himages⟩, -⟩, hlinks⟩ := h
  have hall : ∀ protocol, ImageProtocolSet.contains .all protocol = true := by
    intro protocol
    cases protocol <;> rfl
  cases e with
  | sgr params =>
    rw [permits, hcolour, all_eq_true]
    exact fun _ _ => rfl
  | osc body => rw [permits, himages, hlinks, hall, Bool.true_or, Bool.true_or, Bool.true_and]
  | apc body => rw [permits, himages, hall, Bool.true_or]
  | sixel => rw [permits, himages, hall]

/-- Nothing a client lacks is left in the rewritten stream of a filterable input. -/
theorem downsample_strips (lab : LabDistance) (caps : ClientCapabilities) (input : Bytes)
    (h : filterable lab caps input = true) :
    ∀ e ∈ VtParser.events (rewriteBytesWithCaps lab input caps), permits caps e = true := by
  by_cases hpass : capsPassThrough caps = true
  · exact fun e _ => permits_passing hpass e
  · have hevery : every (rewriteTurn lab caps) (sequenceKept caps) input = true := by
      simpa [filterable, hpass] using h
    obtain ⟨s', hreads⟩ := reads_rewritten hevery (s := .ground) trivial
    rw [rewriteBytesWithCaps, if_neg hpass]
    intro e he
    obtain ⟨event, hevent, heq⟩ := mem_filterMap.mp he
    exact hreads.2 event hevent e heq

def plainClient : ClientCapabilities :=
  { ClientCapabilities.new with colorSupport := .indexed256, hyperlinks := false }

def linkedText : Bytes :=
  chars [Char.ofNat 0x1B, ']', '8', ';', ';', 'u', Char.ofNat 0x07, 'x', Char.ofNat 0x1B, '[',
    '3', '8', ';', '2', ';', '9', ';', '9', ';', '9', 'm']

theorem linkedText_stripped : filterable (fun _ _ => 0) plainClient linkedText = true ∧
      ∀ e ∈ VtParser.events (rewriteBytesWithCaps (fun _ _ => 0) linkedText plainClient),
        permits plainClient e = true :=
  ⟨by decide, downsample_strips (fun _ _ => 0) plainClient linkedText (by decide)⟩

/-- The rewriter takes the escape that starts a link for text of the title before it. -/
theorem link_inside_title_kept :
    ¬∀ lab caps input, ∀ e ∈ VtParser.events (rewriteBytesWithCaps lab input caps),
      permits caps e = true := by
  intro h
  have hlink := h (fun _ _ => 0) plainClient
    (chars [Char.ofNat 0x1B, ']', '0', ';', 't', Char.ofNat 0x1B, ']', '8', ';', ';', 'u',
      Char.ofNat 0x07])
    (.osc (chars ['8', ';', ';', 'u'])) (by decide)
  revert hlink
  decide

end Phux
 