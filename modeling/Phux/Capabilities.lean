import Phux.Integers

/-! Negotiated capabilities: bit sets that never hold an unknown bit, payload
limits within the protocol bounds, and the synchronization profiles. -/

namespace Phux

structure BitSet (w : Nat) (known : BitVec w) where
  bits : BitVec w
  within : bits &&& known = bits
deriving DecidableEq

namespace BitSet

variable {w : Nat} {known : BitVec w}

def asWire (s : BitSet w known) : BitVec w := s.bits &&& known

def fromWire (bits : BitVec w) : BitSet w known :=
  ⟨bits &&& known, by rw [BitVec.and_assoc, BitVec.and_self]⟩

def isEmpty (s : BitSet w known) : Bool := s.bits == 0#w

@[simp] theorem fromWire_asWire (s : BitSet w known) : fromWire s.asWire = s := by
  cases s with
  | mk bits within => simp [fromWire, asWire, within]

def empty : BitSet w known := ⟨0#w, BitVec.zero_and⟩

def all : BitSet w known := ⟨known, BitVec.and_self⟩

theorem eq_empty_of_isEmpty {s : BitSet w known} (h : s.isEmpty = true) : s = empty := by
  cases s with
  | mk bits within => simpa [isEmpty, empty] using h

end BitSet

inductive ColorSupport where
  | trueColor | indexed256 | indexed16 | mono
deriving DecidableEq

def ColorSupport.asWire : ColorSupport → UInt8
  | trueColor => 0
  | indexed256 => 1
  | indexed16 => 2
  | mono => 3

def ColorSupport.fromWire (tag : UInt8) : Option ColorSupport :=
  if tag = 0 then some trueColor else if tag = 1 then some indexed256
  else if tag = 2 then some indexed16 else if tag = 3 then some mono else none

@[simp] theorem ColorSupport.fromWire_asWire (c : ColorSupport) : fromWire c.asWire = some c := by
  cases c <;> rfl

inductive OutputMode where
  | raw | stateSync
deriving DecidableEq

def OutputMode.asWire : OutputMode → UInt8
  | raw => 0
  | stateSync => 1

inductive Compression where
  | none | deflate
deriving DecidableEq

def Compression.asU8 : Compression → UInt8
  | none => 0
  | deflate => 1

def Compression.fromU8 (tag : UInt8) : Compression := if tag = 1 then deflate else none

@[simp] theorem Compression.fromU8_asU8 (c : Compression) : fromU8 c.asU8 = c := by
  cases c <;> rfl

/-- Offered compression algorithms; unknown bits are kept as received. -/
structure CompressionSet where
  bits : UInt8
deriving DecidableEq

def CompressionSet.new : CompressionSet := ⟨0⟩

def CompressionSet.isEmpty (s : CompressionSet) : Bool := s.bits == 0

def maxBootstrapChunkBytes : UInt32 := 8 * 1024 * 1024

def maxHistoryPageBytes : UInt32 := 8 * 1024 * 1024

def defaultBootstrapChunkBytes : UInt32 := 256 * 1024

def defaultHistoryPageBytes : UInt32 := 1024 * 1024

/-- Negotiated payload bounds; both are positive and within the protocol caps. -/
structure BootstrapLimits where
  maxChunkBytes : UInt32
  maxHistoryPageBytes : UInt32
  chunk_ne : maxChunkBytes ≠ 0
  chunk_le : maxChunkBytes ≤ Phux.maxBootstrapChunkBytes
  page_ne : maxHistoryPageBytes ≠ 0
  page_le : maxHistoryPageBytes ≤ Phux.maxHistoryPageBytes
deriving DecidableEq

namespace BootstrapLimits

def new (chunk page : UInt32) : Option BootstrapLimits :=
  if h : chunk ≠ 0 ∧ chunk ≤ maxBootstrapChunkBytes ∧ page ≠ 0 ∧ page ≤ Phux.maxHistoryPageBytes
  then some ⟨chunk, page, h.1, h.2.1, h.2.2.1, h.2.2.2⟩ else none

@[simp] theorem new_self (l : BootstrapLimits) :
    new l.maxChunkBytes l.maxHistoryPageBytes = some l :=
  dif_pos ⟨l.chunk_ne, l.chunk_le, l.page_ne, l.page_le⟩

instance : Inhabited BootstrapLimits :=
  ⟨⟨defaultBootstrapChunkBytes, defaultHistoryPageBytes, by decide, by decide, by decide, by decide⟩⟩

end BootstrapLimits

/-- Native state, synthesized raw and synthesized state-sync profiles. -/
abbrev BootstrapProfileSet := BitSet 8 0x0e#8

abbrev EngineCodecSet := BitSet 64 0x04#64

abbrev EngineFeatureSet := BitSet 32 0x0f#32

def EngineFeatureSet.supportsNative (s : EngineFeatureSet) : Bool :=
  s.bits &&& 0x0f#32 == 0x0f#32

abbrev ServerFeatureSet := BitSet 32 0x007feff0#32

abbrev ImageProtocolSet := BitSet 8 0x07#8

abbrev KeyboardProtocolSet := BitSet 8 0x03#8

structure LayerSet where
  bits : UInt8
  known : bits &&& 0x07 = bits
  l1 : bits ||| 0x01 = bits
deriving DecidableEq

namespace LayerSet

def new : LayerSet := ⟨0x01, by decide, by decide⟩

def asWire (s : LayerSet) : UInt8 := s.bits ||| 0x01

theorem layer_bits (b : UInt8) : ((b &&& 0x07) ||| 0x01) &&& 0x07 = (b &&& 0x07) ||| 0x01 := by
  apply UInt8.toBitVec_inj.mp
  simp only [UInt8.toBitVec_and, UInt8.toBitVec_or]
  rw [BitVec.and_or_distrib_right, BitVec.and_assoc, BitVec.and_self]
  rfl

def fromWire (byte : UInt8) : LayerSet :=
  ⟨(byte &&& 0x07) ||| 0x01, layer_bits byte, by rw [UInt8.or_assoc, UInt8.or_self]⟩

@[simp] theorem fromWire_asWire (s : LayerSet) : fromWire s.asWire = s := by
  cases s with
  | mk bits known l1 => simp [fromWire, asWire, l1, known]

end LayerSet

inductive EngineCodec where
  | libghosttyCheckpointV2
deriving DecidableEq

def EngineCodec.asWire : EngineCodec → UInt8
  | libghosttyCheckpointV2 => 2

def EngineCodec.fromWire (value : UInt8) : Option EngineCodec :=
  if value = 2 then some libghosttyCheckpointV2 else none

@[simp] theorem EngineCodec.fromWire_asWire (c : EngineCodec) : fromWire c.asWire = some c := by
  cases c; rfl

inductive BootstrapCodec where
  | synthesizedVtV1
  | native (codec : EngineCodec)
  | agentEventsJsonlV1
deriving DecidableEq

inductive BootstrapProfile where
  | nativeState (codec : EngineCodec) (features : EngineFeatureSet)
  | synthesizedVtRaw
  | synthesizedVtStateSync
deriving DecidableEq

inductive BootstrapStreamProfile where
  | nativeState (codec : EngineCodec)
  | synthesizedVtRaw
  | synthesizedVtStateSync
  | agentEventsJsonlV1
deriving DecidableEq

structure BootstrapCapabilities where
  profiles : BootstrapProfileSet
  nativeCodecs : EngineCodecSet
  nativeFeatures : EngineFeatureSet
  limits : BootstrapLimits
deriving DecidableEq

def BootstrapCapabilities.new : BootstrapCapabilities :=
  { profiles := ⟨0x06#8, by decide⟩, nativeCodecs := .empty, nativeFeatures := .empty,
    limits := default }

structure TerminalColor where
  r : UInt8
  g : UInt8
  b : UInt8
deriving DecidableEq

structure TerminalDefaultColors where
  foreground : TerminalColor
  background : TerminalColor
deriving DecidableEq

structure ServerCapabilities where
  layers : LayerSet
  features : ServerFeatureSet
  compression : Compression
deriving DecidableEq

def ServerCapabilities.new : ServerCapabilities :=
  { layers := .new, features := .empty, compression := .none }

end Phux
