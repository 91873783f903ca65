import Phux.Integers

/-! Input atoms forwarded by clients, with their wire discriminants. -/

namespace Phux

open ByteReader

inductive KeyAction where
  | release | press | repeat
deriving DecidableEq

def KeyAction.toU32 : KeyAction → UInt32
  | release => 0
  | press => 1
  | «repeat» => 2

def KeyAction.fromU32 (v : UInt32) : Option KeyAction :=
  if v = 0 then some release else if v = 1 then some press
  else if v = 2 then some «repeat» else none

@[simp] theorem KeyAction.fromU32_toU32 (a : KeyAction) : fromU32 a.toU32 = some a := by
  cases a <;> rfl

def modSetKnown : UInt16 := 0x3ff

structure ModSet where
  bits : UInt16
  known : bits &&& modSetKnown = bits
deriving DecidableEq

def ModSet.fromBitsTruncate (bits : UInt16) : ModSet :=
  ⟨bits &&& modSetKnown, by rw [UInt16.and_assoc, UInt16.and_self]⟩

@[simp] theorem ModSet.fromBitsTruncate_bits (m : ModSet) : fromBitsTruncate m.bits = m := by
  cases m with
  | mk bits known => simp [fromBitsTruncate, known]

/-- W3C key codes; the wire discriminant is the position in this list. -/
inductive PhysicalKey where
  | unidentified | backquote | backslash | bracketLeft | bracketRight | comma | digit0 | digit1
  | digit2 | digit3 | digit4 | digit5 | digit6 | digit7 | digit8 | digit9 | equal | intlBackslash
  | intlRo | intlYen | a | b | c | d | e | f | g | h | i | j | k | l | m | n | o | p | q | r | s
  | t | u | v | w | x | y | z | minus | period | quote | semicolon | slash | altLeft | altRight
  | backspace | capsLock | contextMenu | controlLeft | controlRight | enter | metaLeft | metaRight
  | shiftLeft | shiftRight | space | tab | convert | kanaMode | nonConvert | delete | «end» | help
  | home | insert | pageDown | pageUp | arrowDown | arrowLeft | arrowRight | arrowUp | numLock
  | numpad0 | numpad1 | numpad2 | numpad3 | numpad4 | numpad5 | numpad6 | numpad7 | numpad8
  | numpad9 | numpadAdd | numpadBackspace | numpadClear | numpadClearEntry | numpadComma
  | numpadDecimal | numpadDivide | numpadEnter | numpadEqual | numpadMemoryAdd | numpadMemoryClear
  | numpadMemoryRecall | numpadMemoryStore | numpadMemorySubtract | numpadMultiply
  | numpadParenLeft | numpadParenRight | numpadSubtract | numpadSeparator | numpadUp | numpadDown
  | numpadRight | numpadLeft | numpadBegin | numpadHome | numpadEnd | numpadInsert | numpadDelete
  | numpadPageUp | numpadPageDown | escape | f1 | f2 | f3 | f4 | f5 | f6 | f7 | f8 | f9 | f10
  | f11 | f12 | f13 | f14 | f15 | f16 | f17 | f18 | f19 | f20 | f21 | f22 | f23 | f24 | f25 | «fn»
  | fnLock | printScreen | scrollLock | pause | browserBack | browserFavorites | browserForward
  | browserHome | browserRefresh | browserSearch | browserStop | eject | launchApp1 | launchApp2
  | launchMail | mediaPlayPause | mediaSelect | mediaStop | mediaTrackNext | mediaTrackPrevious
  | power | sleep | audioVolumeDown | audioVolumeMute | audioVolumeUp | wakeUp | copy | cut
  | paste
deriving DecidableEq

def PhysicalKey.toU32 (key : PhysicalKey) : UInt32 := UInt32.ofNat key.ctorIdx

def PhysicalKey.fromU32 (v : UInt32) : Option PhysicalKey :=
  if v.toNat < 176 then some (PhysicalKey.ofNat v.toNat) else none

variable (key : PhysicalKey)

theorem PhysicalKey.ctorIdx_lt : key.ctorIdx < 176 := by cases key <;> decide

@[simp] theorem PhysicalKey.fromU32_toU32 : fromU32 key.toU32 = some key := by
  have h : (UInt32.ofNat key.ctorIdx).toNat = key.ctorIdx := by
    have := key.ctorIdx_lt
    rw [UInt32.toNat_ofNat']
    omega
  simp only [fromU32, toU32, h, key.ctorIdx_lt, if_true]
  rw [ofNat_ctorIdx]

structure KeyEvent where
  action : KeyAction
  key : PhysicalKey
  mods : ModSet
  consumedMods : ModSet
  composing : Bool
  text : Option String
  unshiftedCodepoint : Option UInt32
deriving DecidableEq

inductive MouseAction where
  | press | release | motion
deriving DecidableEq

def MouseAction.toU32 : MouseAction → UInt32
  | press => 0
  | release => 1
  | motion => 2

def MouseAction.fromU32 (v : UInt32) : Option MouseAction :=
  if v = 0 then some press else if v = 1 then some release
  else if v = 2 then some motion else none

@[simp] theorem MouseAction.fromU32_toU32 (a : MouseAction) : fromU32 a.toU32 = some a := by
  cases a <;> rfl

inductive MouseButton where
  | unknown | left | right | middle | four | five | six | seven | eight | nine | ten | eleven
deriving DecidableEq

def MouseButton.toU32 (b : MouseButton) : UInt32 := UInt32.ofNat b.ctorIdx

def MouseButton.fromU32 (v : UInt32) : Option MouseButton :=
  if v.toNat < 12 then some (MouseButton.ofNat v.toNat) else none

@[simp] theorem MouseButton.fromU32_toU32 (b : MouseButton) : fromU32 b.toU32 = some b := by
  cases b <;> rfl

structure F64 where
  bits : UInt64
deriving DecidableEq

structure MouseEvent where
  action : MouseAction
  button : MouseButton
  mods : ModSet
  x : F64
  y : F64
deriving DecidableEq

inductive FocusEvent where
  | gained | lost
deriving DecidableEq

inductive PasteTrust where
  | trusted | untrusted
deriving DecidableEq

structure PasteEvent where
  trust : PasteTrust
  data : Bytes
deriving DecidableEq

inductive InputEvent where
  | key (event : KeyEvent)
  | mouse (event : MouseEvent)
  | focus (event : FocusEvent)
  | paste (event : PasteEvent)
deriving DecidableEq

end Phux
