import Phux.Fence
import Phux.ReplicaExactness
import Phux.AgentAcceptance
import Phux.Reaping
import Phux.InputOnce
import Phux.LeaseExclusion
import Phux.FrameEvolution
import Phux.UpgradeLineage
import Phux.AgentCompleteness
import Phux.ClientHolds
import Phux.EngineFailure
import Phux.RejectedInputs
import Phux.AttachBarrier
import Phux.HistoryBounds
import Phux.HistoryChain
import Phux.DecodeMemory
import Phux.DownsampleLength
import Phux.DownsampleStrips
import Phux.PumpRetirement
import Phux.Credentials
import Phux.PaneMinimum
import Phux.PredictTrust
import Phux.FrameStream
import Phux.Osc133
import Phux.Varint
import Phux.Selector
