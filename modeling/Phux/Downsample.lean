import Phux.FrameKind
import Phux.Scanner

/-! The rewriter of outbound terminal bytes: colours above the client's tier are
quantised, and the sequences it has not advertised are dropped. -/

namespace Phux

open ByteReader

def esc : UInt8 := 0x1B

def bel : UInt8 := 0x07

def chars (text : List Char) : Bytes := text.map Char.toUInt8

inductive ImageProtocol where
  | sixel | kittyGraphics | iterm2
deriving DecidableEq

def ImageProtocol.bit : ImageProtocol → BitVec 8
  | sixel => 0x01#8
  | kittyGraphics => 0x02#8
  | iterm2 => 0x04#8

def ImageProtocolSet.contains (s : ImageProtocolSet) (protocol : ImageProtocol) : Bool :=
  s.bits &&& protocol.bit != 0#8

inductive KeyboardProtocol where
  | kitty | modifyOtherKeys
deriving DecidableEq

def KeyboardProtocol.bit : KeyboardProtocol → BitVec 8
  | kitty => 0x01#8
  | modifyOtherKeys => 0x02#8

def KeyboardProtocolSet.contains (s : KeyboardProtocolSet) (protocol : KeyboardProtocol) : Bool :=
  s.bits &&& protocol.bit != 0#8

def capsPassThrough (caps : ClientCapabilities) : Bool :=
  decide (caps.colorSupport = .trueColor) && decide (caps.imageProtocols = .all) &&
    decide (caps.kbdProtocols = .all) && caps.hyperlinks

section

def channelToCubeIndex (c : UInt8) : Nat :=
  if c < 48 then 0 else if c < 115 then 1 else if c < 155 then 2 else if c < 195 then 3
  else if c < 235 then 4 else 5

def cubeSteps : List Nat := [0x00, 0x5f, 0x87, 0xaf, 0xd7, 0xff]

def absDiff (a b : Nat) : Nat := (a - b) + (b - a)

def rgbDistanceSq (a : TerminalColor) (r g b : Nat) : Nat :=
  let dr := absDiff a.r.toNat r
  let dg := absDiff a.g.toNat g
  let db := absDiff a.b.toNat b
  dr * dr + dg * dg + db * db

def nearestXterm256 (rgb : TerminalColor) : Nat :=
  let cr := channelToCubeIndex rgb.r
  let cg := channelToCubeIndex rgb.g
  let cb := channelToCubeIndex rgb.b
  let cubeIdx := 16 + 36 * cr + 6 * cg + cb
  let cubeD := rgbDistanceSq rgb (cubeSteps.getD cr 0) (cubeSteps.getD cg 0) (cubeSteps.getD cb 0)
  let avg := (rgb.r.toNat + rgb.g.toNat + rgb.b.toNat) / 3
  let grayOffset := if avg < 8 then 0 else min ((avg - 8 + 5) / 10) 23
  let gray := min (8 + min (grayOffset * 10) 255) 255
  if rgbDistanceSq rgb gray gray gray < cubeD then 232 + grayOffset else cubeIdx

def xterm16Palette : List TerminalColor :=
  [⟨0x00, 0x00, 0x00⟩, ⟨0x80, 0x00, 0x00⟩, ⟨0x00, 0x80, 0x00⟩, ⟨0x80, 0x80, 0x00⟩,
   ⟨0x00, 0x00, 0x80⟩, ⟨0x80, 0x00, 0x80⟩, ⟨0x00, 0x80, 0x80⟩, ⟨0xc0, 0xc0, 0xc0⟩,
   ⟨0x80, 0x80, 0x80⟩, ⟨0xff, 0x00, 0x00⟩, ⟨0x00, 0xff, 0x00⟩, ⟨0xff, 0xff, 0x00⟩,
   ⟨0x00, 0x00, 0xff⟩, ⟨0xff, 0x00, 0xff⟩, ⟨0x00, 0xff, 0xff⟩, ⟨0xff, 0xff, 0xff⟩]

/-- The squared distance of two colours in Lab space, as the floating-point code computes it. -/
abbrev LabDistance := TerminalColor → TerminalColor → Rat

/-- The first palette entry at the least distance; no distance is recorded at first. -/
def nearestXterm16 (labDistanceSq : LabDistance) (rgb : TerminalColor) : Nat :=
  (xterm16Palette.zipIdx.foldl (fun best entry =>
    let d := labDistanceSq rgb entry.1
    if best.2.all (d < ·) then (entry.2, some d) else best) (0, none)).1

end

section

def isAsciiDigit (b : UInt8) : Bool := 0x30 ≤ b && b ≤ 0x39

def writeDecimal (n : Nat) : Bytes := chars (Nat.toDigits 10 n)

def clampU8 (n : Nat) : UInt8 := if n > 255 then 255 else n.toUInt8

def parseSingleParam (raw : Bytes) : Option Nat :=
  raw.foldlM (fun n b =>
    if isAsciiDigit b then some (min (min (n * 10) 4294967295 + (b.toNat - 48)) 4294967295)
    else none) 0

def colorOf (r g b : Bytes) : Option TerminalColor := do
  let r ← parseSingleParam r
  let g ← parseSingleParam g
  let b ← parseSingleParam b
  pure ⟨clampU8 r, clampU8 g, clampU8 b⟩

def parseItuTruecolor (raw : Bytes) (selector : Nat) : Option TerminalColor :=
  if raw.contains ':'.toUInt8 then
    match raw.splitOn ':'.toUInt8 with
    | first :: mode :: components =>
      if parseSingleParam first = some selector ∧ parseSingleParam mode = some 2 then
        match components with
        | [r, g, b] => colorOf r g b
        | [_, r, g, b] => colorOf r g b
        | _ => none
      else none
    | _ => none
  else none

def classicTruecolor : List Bytes → Option (TerminalColor × List Bytes)
  | mode :: r :: g :: b :: after => do
    let mode ← parseSingleParam mode
    let rgb ← colorOf r g b
    if mode = 2 then pure (rgb, after) else none
  | _ => none

/-- The truecolor selection that starts at a group: its colour, whether it is the
foreground, and the groups after it. -/
def readTruecolor (raw : Bytes) (next : List Bytes) : Option (TerminalColor × Bool × List Bytes) :=
  match parseItuTruecolor raw 38 with
  | some rgb => some (rgb, true, next)
  | none =>
    match parseItuTruecolor raw 48 with
    | some rgb => some (rgb, false, next)
    | none =>
      if !raw.contains ':'.toUInt8 &&
          (parseSingleParam raw == some 38 || parseSingleParam raw == some 48) then
        (classicTruecolor next).map fun found =>
          (found.1, parseSingleParam raw == some 38, found.2)
      else none

end

variable (lab : LabDistance)

def emitIndexed16 (rgb : TerminalColor) (foreground : Bool) : Bytes :=
  let idx := nearestXterm16 lab rgb
  let base := if foreground then (if idx < 8 then 30 else 90) else if idx < 8 then 40 else 100
  writeDecimal (base + idx % 8)

def emitColorParams (support : ColorSupport) (rgb : TerminalColor) (foreground : Bool) : Bytes :=
  match support with
  | .trueColor =>
    (if foreground then chars ['3', '8', ';', '2', ';'] else chars ['4', '8', ';', '2', ';']) ++
      writeDecimal rgb.r.toNat ++ chars [';'] ++ writeDecimal rgb.g.toNat ++ chars [';'] ++
      writeDecimal rgb.b.toNat
  | .indexed256 =>
    (if foreground then chars ['3', '8', ';', '5', ';'] else chars ['4', '8', ';', '5', ';']) ++
      writeDecimal (nearestXterm256 rgb)
  | .indexed16 => emitIndexed16 lab rgb foreground
  | .mono => emitIndexed16 lab rgb foreground

def sgrTurn (support : ColorSupport) : Scanner.Turn Bytes Bytes
  | [] => none
  | raw :: next =>
    match readTruecolor raw next with
    | some (rgb, foreground, after) => some (emitColorParams lab support rgb foreground, after)
    | none => some (raw, next)

def rewriteSgr (support : ColorSupport) (params : Bytes) : Bytes :=
  chars [Char.ofNat 0x1B, '['] ++
    (chars [';']).intercalate (Scanner.scan (sgrTurn lab support) (params.splitOn ';'.toUInt8)) ++
    chars ['m']

def isCsiBody (b : UInt8) : Bool := (0x30 ≤ b && b ≤ 0x3F) || (0x20 ≤ b && b ≤ 0x2F)

/-- What a control sequence adds to the output and the input after it. -/
def handleCsi (support : ColorSupport) (body : Bytes) : Bytes × Bytes :=
  match body.dropWhile isCsiBody with
  | [] => (esc :: '['.toUInt8 :: body, [])
  | final :: rest =>
    if final = 'm'.toUInt8 then (rewriteSgr lab support (body.takeWhile isCsiBody), rest)
    else (esc :: '['.toUInt8 :: (body.takeWhile isCsiBody ++ [final]), rest)

def scanStringTerminated : Bytes → Bytes × Bytes
  | [] => ([], [])
  | b :: rest =>
    if b = bel then ([b], rest)
    else if b = esc ∧ rest.head? = some '\\'.toUInt8 then ([b, '\\'.toUInt8], rest.tail)
    else (b :: (scanStringTerminated rest).1, (scanStringTerminated rest).2)

def handleString (kind : UInt8) (dropped : Bytes → Bool) (body : Bytes) : Bytes × Bytes :=
  let scanned := scanStringTerminated body
  (if dropped scanned.1 then [] else esc :: kind :: scanned.1, scanned.2)

def dropsOsc (caps : ClientCapabilities) (string : Bytes) : Bool :=
  let code := string.takeWhile isAsciiDigit
  (!caps.hyperlinks && code == chars ['8']) ||
    (!caps.imageProtocols.contains .iterm2 && code == chars ['1', '3', '3', '7'])

def isSixelDcs (body : Bytes) : Bool :=
  (body.dropWhile fun b => 0x30 ≤ b && b ≤ 0x3F).head? == some 'q'.toUInt8

def dropsDcs (caps : ClientCapabilities) (string : Bytes) : Bool :=
  !caps.imageProtocols.contains .sixel && isSixelDcs string

def dropsApc (caps : ClientCapabilities) (string : Bytes) : Bool :=
  if string.head? = some 'G'.toUInt8 then !caps.imageProtocols.contains .kittyGraphics
  else !caps.kbdProtocols.contains .kitty

def handleOsc (caps : ClientCapabilities) : Bytes → Bytes × Bytes :=
  handleString ']'.toUInt8 (dropsOsc caps)

def handleDcs (caps : ClientCapabilities) : Bytes → Bytes × Bytes :=
  handleString 'P'.toUInt8 (dropsDcs caps)

def handleApc (caps : ClientCapabilities) : Bytes → Bytes × Bytes :=
  handleString '_'.toUInt8 (dropsApc caps)

def passthroughStringTerminated (kind : UInt8) : Bytes → Bytes × Bytes :=
  handleString kind fun _ => false

def handleEscape (caps : ClientCapabilities) (kind : UInt8) (body : Bytes) : Bytes × Bytes :=
  if kind = '['.toUInt8 then handleCsi lab caps.colorSupport body
  else if kind = ']'.toUInt8 then handleOsc caps body
  else if kind = 'P'.toUInt8 then handleDcs caps body
  else if kind = '_'.toUInt8 then handleApc caps body
  else if kind = '^'.toUInt8 ∨ kind = 'X'.toUInt8 then passthroughStringTerminated kind body
  else ([esc, kind], body)

def rewriteTurn (caps : ClientCapabilities) : Scanner.Turn UInt8 Bytes
  | [] => none
  | b :: rest =>
    if b ≠ esc then some ([b], rest)
    else
      match rest with
      | [] => some ([esc], [])
      | kind :: body => some (handleEscape lab caps kind body)

def rewriteBytesWithCaps (input : Bytes) (caps : ClientCapabilities) : Bytes :=
  if capsPassThrough caps then input else (Scanner.scan (rewriteTurn lab caps) input).flatten

def downsampleForCaps (bytes : Bytes) (caps : ClientCapabilities) : Bytes :=
  if capsPassThrough caps then bytes else rewriteBytesWithCaps lab bytes caps

end Phux
