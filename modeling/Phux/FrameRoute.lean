import Phux.FrameKind
import Phux.KernelUpdate

/-! How an attached client turns wire frames into inputs of its session
kernel. -/

namespace Phux

variable {R ε : Type}

def historyUnavailableReason : HistoryTombstoneReason → HistoryUnavailableReason
  | .stale => .stale
  | .pruned => .pruned
  | .reset => .reset
  | .resize => .resize
  | .expired => .expired
  | .released => .released
  | .limit => .limit
  | .codecFailure => .codecFailure

def attachParticipants (snapshot : SessionSnapshot) : List ResourceId :=
  let focusedWindows :=
    (snapshot.windows.filter fun window => window.sessionId = snapshot.focusedSession).map (·.id)
  ((snapshot.resources.filter fun pane => pane.kind.isTerminal).filter fun pane =>
    focusedWindows.contains pane.windowId).map (·.id)

def attachStreamInput : FrameKind → Option KernelInput
  | .attached attachId snapshot _ => some (.attachStarted attachId (attachParticipants snapshot))
  | .attachReady attachId => some (.attachReady attachId)
  | .bootstrapBegin t stream bootstrap profile cols rows baseSeq =>
    some (.bootstrapBegin t ⟨stream, bootstrap⟩ profile ⟨cols, rows⟩ baseSeq)
  | .bootstrapChunk t stream bootstrap chunkSeq payload =>
    some (.bootstrapChunk t ⟨stream, bootstrap⟩ chunkSeq payload)
  | .bootstrapReady t stream bootstrap historyCursor =>
    some (.bootstrapReady t ⟨stream, bootstrap⟩ historyCursor)
  | .bootstrapTombstone t stream bootstrap reason lastValidSeq =>
    some (.tombstone t ⟨stream, bootstrap⟩ ⟨reason, lastValidSeq⟩)
  | _ => none

def contentStreamInput : FrameKind → Option KernelInput
  | .resourceOutput t stream bootstrap seq bytes =>
    some (.resourceOutput t ⟨stream, bootstrap⟩ seq bytes)
  | .resourceClosed t _ _ => some (.resourceClosed t)
  | _ => none

-- the kernel keeps the wire's rejection reasons under the same names
def historyStreamInput : FrameKind → Option KernelInput
  | .historyPage t stream bootstrap pageSeq cursor nextCursor payload rows =>
    some (.historyPage ⟨t, ⟨stream, bootstrap⟩, pageSeq, rows, payload, cursor, nextCursor⟩)
  | .historyTombstone t stream bootstrap cursor reason =>
    some (.historyTombstone t ⟨stream, bootstrap⟩ cursor (historyUnavailableReason reason))
  | .historyRejected t stream bootstrap cursor reason requiredBytes requiredRows =>
    some (.historyRejected t ⟨stream, bootstrap⟩ cursor reason requiredBytes requiredRows)
  | _ => none

/-- The kernel input a frame means, if the kernel models the frame. -/
def kernelInputFor (frame : FrameKind) : Option KernelInput :=
  (attachStreamInput frame).or ((contentStreamInput frame).or (historyStreamInput frame))

namespace SessionKernel

def receive (host : KernelHost R ε) (k : SessionKernel R) (frame : FrameKind) : Outcome R ε :=
  match kernelInputFor frame with
  | none => k.accept []
  | some input => k.update host input

def afterFrame (host : KernelHost R ε) (k : SessionKernel R) (frame : FrameKind) :
    SessionKernel R :=
  (k.receive host frame).kernel

end SessionKernel

end Phux
