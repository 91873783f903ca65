import Phux.Machine
import Phux.Scanner

/-! A terminal's parser: one byte a step, and the sequences it recognises. An
escape, a cancel or a substitute byte aborts an unfinished sequence. -/

namespace VtParser

inductive Event where
  | sgr (params : List UInt8)
  | osc (body : List UInt8)
  | apc (body : List UInt8)
  | sixel
deriving DecidableEq

inductive State where
  | ground
  | escape
  | escapeIntermediate
  | csi (params : List UInt8)
  | dcsHeader (plain : Bool)
  | dcsBody
  | osc (body : List UInt8)
  | apc (body : List UInt8)
  | sosPm
  | stringEscape (string : Event)
deriving DecidableEq

def isEscape (b : UInt8) : Bool := b == 0x1B

def isCancel (b : UInt8) : Bool := b == 0x18 || b == 0x1A

/-- Bytes that do not belong to the sequence they stand in: other controls are
executed at once, and deletes ignored. -/
def isSkipped (b : UInt8) : Bool := (b < 0x20 && !isEscape b && !isCancel b) || b == 0x7F

def isIntermediate (b : UInt8) : Bool := 0x20 ≤ b && b ≤ 0x2F

def isParameter (b : UInt8) : Bool := 0x30 ≤ b && b ≤ 0x3F

def introduced (b : UInt8) : State :=
  if isSkipped b then .escape
  else if isIntermediate b then .escapeIntermediate
  else if b = '['.toUInt8 then .csi []
  else if b = ']'.toUInt8 then .osc []
  else if b = 'P'.toUInt8 then .dcsHeader true
  else if b = '_'.toUInt8 then .apc []
  else if b = '^'.toUInt8 ∨ b = 'X'.toUInt8 then .sosPm
  else .ground

/-- An escape ends a string if a backslash follows, and aborts it otherwise. -/
def escaped : State → State
  | .osc body => .stringEscape (.osc body)
  | .apc body => .stringEscape (.apc body)
  | _ => .escape

def take (b : UInt8) : State → State × Option Event
  | .ground => (.ground, none)
  | .escape => (introduced b, none)
  | .escapeIntermediate =>
    (if isSkipped b || isIntermediate b then .escapeIntermediate else .ground, none)
  | .csi params =>
    if isSkipped b then (.csi params, none)
    else if isIntermediate b || isParameter b then (.csi (params ++ [b]), none)
    else (.ground, if b = 'm'.toUInt8 then some (.sgr params) else none)
  | .dcsHeader plain =>
    if isSkipped b then (.dcsHeader plain, none)
    else if isParameter b then (.dcsHeader plain, none)
    else if isIntermediate b then (.dcsHeader false, none)
    else (.dcsBody, if plain = true ∧ b = 'q'.toUInt8 then some .sixel else none)
  | .dcsBody => (.dcsBody, none)
  | .osc body =>
    if b = 0x07 then (.ground, some (.osc body))
    else if b < 0x20 then (.osc body, none)
    else (.osc (body ++ [b]), none)
  | .apc body => (.apc (body ++ [b]), none)
  | .sosPm => (.sosPm, none)
  | .stringEscape string =>
    if b = '\\'.toUInt8 then (.ground, some string) else (introduced b, none)

def step (s : State) (b : UInt8) : State × Option Event :=
  if isCancel b then (.ground, none)
  else if isEscape b then (escaped s, none)
  else take b s

def events (bytes : List UInt8) : List Event :=
  (Machine.outputs step .ground bytes).filterMap id

section

def value (group : List UInt8) : Option Nat :=
  group.foldlM (fun n b => if 0x30 ≤ b ∧ b ≤ 0x39 then some (n * 10 + (b.toNat - 48)) else none) 0

def oscNumber (body : List UInt8) : List UInt8 := body.takeWhile fun b => 0x30 ≤ b && b ≤ 0x39

end

inductive Colour where
  | direct | indexed
deriving DecidableEq

def selects (group : List UInt8) : Bool := [some 38, some 48, some 58].contains (value group)

def colourMode (mode : Option Nat) : Option Colour :=
  if mode = some 2 then some .direct else if mode = some 5 then some .indexed else none

def colonColour (group : List UInt8) : Option Colour :=
  match group.splitOn ':'.toUInt8 with
  | selector :: mode :: _ => if selects selector then colourMode (value mode) else none
  | _ => none

def modeAfter (next : List (List UInt8)) : Option Colour := colourMode (next.head?.bind value)

def taken : Option Colour → Nat
  | some .direct => 4
  | some .indexed => 2
  | none => 0

def colourTurn : Scanner.Turn (List UInt8) (Option Colour)
  | [] => none
  | group :: next =>
    if group.contains ':'.toUInt8 then some (colonColour group, next)
    else if selects group then some (modeAfter next, next.drop (taken (modeAfter next)))
    else some (none, next)

def colours (params : List UInt8) : List (Option Colour) :=
  Scanner.scan colourTurn (params.splitOn ';'.toUInt8)

theorem colourTurn_advances : Scanner.Advances colourTurn where
  shorter := by
    intro input token rest ht
    cases input with
    | nil => cases ht
    | cons group next =>
      rw [colourTurn] at ht
      split at ht
      · cases ht
        simp
      · split at ht
        · cases ht
          rw [List.length_drop, List.length_cons]
          omega
        · cases ht
          simp
  stops := by
    intro input ht
    cases input with
    | nil => rfl
    | cons group next =>
      rw [colourTurn] at ht
      split at ht
      · cases ht
      · split at ht <;> cases ht
  ends := rfl

end VtParser
