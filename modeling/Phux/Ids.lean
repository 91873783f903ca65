import Phux.Integers

/-! Wire identifiers. Stream and bootstrap ids are never zero, and operation
and upload ids are never all zero, so the types carry that. -/

namespace Phux

structure SessionId where
  raw : UInt32
deriving DecidableEq

structure WindowId where
  raw : UInt32
deriving DecidableEq

structure ClientId where
  raw : UInt32
deriving DecidableEq

structure GroupId where
  raw : UInt32
deriving DecidableEq

theorem one_raw_ne : (1 : UInt64) ≠ 0 := by decide

theorem two_raw_ne : (2 : UInt64) ≠ 0 := by decide

structure StreamId where
  raw : UInt64
  nonzero : raw ≠ 0
deriving DecidableEq

def StreamId.new (raw : UInt64) : Option StreamId :=
  if h : raw = 0 then none else some ⟨raw, h⟩

@[simp] theorem StreamId.new_raw (id : StreamId) : new id.raw = some id := by simp [new, id.nonzero]

structure BootstrapId where
  raw : UInt64
  nonzero : raw ≠ 0
deriving DecidableEq

def BootstrapId.new (raw : UInt64) : Option BootstrapId :=
  if h : raw = 0 then none else some ⟨raw, h⟩

@[simp] theorem BootstrapId.new_raw (id : BootstrapId) : new id.raw = some id := by
  simp [new, id.nonzero]

structure InputOperationId where
  bytes : Vector UInt8 16
  nonzero : ∃ b ∈ bytes.toList, b ≠ 0
deriving DecidableEq

def InputOperationId.new (bytes : Vector UInt8 16) : Option InputOperationId :=
  if h : ∃ b ∈ bytes.toList, b ≠ 0 then some ⟨bytes, h⟩ else none

@[simp] theorem InputOperationId.new_bytes (id : InputOperationId) :
    new id.bytes = some id := dif_pos id.nonzero

structure FileUploadId where
  bytes : Vector UInt8 16
  nonzero : ∃ b ∈ bytes.toList, b ≠ 0
deriving DecidableEq

def FileUploadId.new (bytes : Vector UInt8 16) : Option FileUploadId :=
  if h : ∃ b ∈ bytes.toList, b ≠ 0 then some ⟨bytes, h⟩ else none

@[simp] theorem FileUploadId.new_bytes (id : FileUploadId) :
    new id.bytes = some id := dif_pos id.nonzero

structure ServerInstance where
  bytes : Vector UInt8 16
deriving DecidableEq

structure SatelliteHost where
  name : String
deriving DecidableEq

inductive ResourceId where
  | local (id : UInt32)
  | satellite (host : SatelliteHost) (id : UInt32)
deriving DecidableEq

instance : Inhabited ResourceId := ⟨.local 0⟩

inductive ResourceKind where
  | terminal
  | agentSession
  | unknown (tag : UInt8)
deriving DecidableEq

namespace ResourceKind

def asWire : ResourceKind → UInt8
  | terminal => 0
  | agentSession => 1
  | unknown tag => tag

def fromWire (tag : UInt8) : ResourceKind :=
  if tag = 0 then terminal else if tag = 1 then agentSession else unknown tag

def isTerminal : ResourceKind → Bool
  | terminal => true
  | _ => false

def ReallyUnknown : ResourceKind → Prop
  | unknown tag => tag ≠ 0 ∧ tag ≠ 1
  | _ => True

theorem fromWire_asWire {k : ResourceKind} (h : k.ReallyUnknown) : fromWire k.asWire = k := by
  cases k with
  | terminal => rfl
  | agentSession => rfl
  | unknown tag => simp [fromWire, asWire, h.1, h.2]

end ResourceKind

end Phux
