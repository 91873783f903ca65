import Phux.Capabilities
import Phux.HistoryCache

/-! The terminal engine behind a client's replicas. A call into the engine may
fail, and even then it may have changed the replica it was given. -/

namespace Phux

open ByteReader

structure CanonicalGeometry where
  cols : UInt16
  rows : UInt16
deriving DecidableEq

inductive BootstrapProgress where
  | pending | ready | finished
deriving DecidableEq

def BootstrapProgress.isReady : BootstrapProgress → Bool
  | pending => false
  | ready | finished => true

structure HistoryApplyOutcome where
  progress : BootstrapProgress
  retained : Bool
deriving DecidableEq

inductive EngineDamage where
  | full
  | rows (first last : UInt16)
deriving DecidableEq

inductive EngineStatus where
  | bell
  | title (title : String)
deriving DecidableEq

inductive EngineJob where
  | wakeup
deriving DecidableEq

inductive EngineEffect where
  | ptyWrite (bytes : Bytes)
  | damage (damage : EngineDamage)
  | status (status : EngineStatus)
  | job (job : EngineJob)
deriving DecidableEq

inductive DocumentSpace where
  | history | viewport | active
deriving DecidableEq

structure DocumentPoint where
  space : DocumentSpace
  x : UInt16
  y : UInt32
deriving DecidableEq

structure EngineProjectionRow where
  text : String
  softWrapped : Bool
  page : Option HistoryPageId
deriving DecidableEq

structure EngineHistoryProjection where
  width : UInt16
  rows : List EngineProjectionRow
  hasOlder : Bool
deriving DecidableEq

structure EngineDocumentSelection where
  start : DocumentAnchorId
  finish : DocumentAnchorId
  rectangle : Bool
deriving DecidableEq

structure EngineSearchMatch where
  start : DocumentAnchorId
  finish : DocumentAnchorId
deriving DecidableEq

inductive EngineProjectionOrigin where
  | tail
  | anchor (anchor : DocumentAnchorId)
deriving DecidableEq

/-- The engine, presentation and document adapters over replicas `R` with
failures `ε`. Each call returns the replica as it left it. -/
structure EngineAdapter (R ε : Type) where
  startReplica : BootstrapStreamProfile → CanonicalGeometry → Except ε R
  applyBootstrapChunk : R → Bytes → R × List EngineEffect × Except ε BootstrapProgress
  configureHistoryBudget : R → Nat → Nat → R × Except ε Unit
  clearDocumentState : R → R
  historyAnchorTailDistance : R → DocumentAnchorId → Except ε (Option UInt64)
  finishBootstrap : R → R × List EngineEffect × Except ε BootstrapProgress
  applyHistoryPage : R → Bytes → R × List EngineEffect × Except ε HistoryApplyOutcome
  applyOutput : R → Bytes → R × List EngineEffect × Except ε Unit
  clearPresentation : R → R × Except ε Unit
  projectHistory :
    R → UInt16 → EngineProjectionOrigin → Nat → R × Except ε EngineHistoryProjection
  trackDocumentAnchor : R → DocumentPoint → R × Except ε DocumentAnchorId
  releaseDocumentAnchor : R → DocumentAnchorId → R
  documentAnchorPoint : R → DocumentAnchorId → DocumentSpace → Except ε (Option DocumentPoint)
  searchLoaded : R → String → Nat → R × Except ε (List EngineSearchMatch)
  formatSelection : R → EngineDocumentSelection → Except ε (Option String)

def EngineAdapter.recording : EngineAdapter Bytes Unit where
  startReplica := fun _ _ => .ok []
  applyBootstrapChunk := fun bytes payload => (bytes ++ payload, [], .ok .ready)
  configureHistoryBudget := fun bytes _ _ => (bytes, .ok ())
  clearDocumentState := id
  historyAnchorTailDistance := fun _ _ => .ok none
  finishBootstrap := fun bytes => (bytes, [], .ok .finished)
  applyHistoryPage := fun bytes _ => (bytes, [], .ok ⟨.finished, true⟩)
  applyOutput := fun bytes payload => (bytes ++ payload, [], .ok ())
  clearPresentation := fun _ => ([], .ok ())
  projectHistory := fun bytes width _ _ => (bytes, .ok ⟨width, [], false⟩)
  trackDocumentAnchor := fun bytes _ => (bytes, .ok ⟨0⟩)
  releaseDocumentAnchor := fun bytes _ => bytes
  documentAnchorPoint := fun _ _ _ => .ok none
  searchLoaded := fun bytes _ _ => (bytes, .ok [])
  formatSelection := fun _ _ => .ok none

end Phux
