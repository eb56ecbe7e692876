import MiniDrop.Verif.Coverage
import MiniDrop.Verif.Reconcile
import MiniDrop.Verif.CountedOnce
import MiniDrop.Verif.MixedQuery
import MiniDrop.Verif.Placement
import MiniDrop.Verif.Reclaim
import MiniDrop.Verif.SessionAdmission
import MiniDrop.Verif.Timeline
import MiniDrop.Verif.DamagedSnapshot
import MiniDrop.Verif.CancelRelay
import MiniDrop.Verif.TerminalStatus
import MiniDrop.Verif.AcceptedResult
import MiniDrop.Verif.CancelDelivery
import MiniDrop.Verif.StatusLog
import MiniDrop.Verif.Tombstones
import MiniDrop.Verif.Generations
import MiniDrop.Verif.ReadyObjects
import MiniDrop.Verif.LeaseBudget
import MiniDrop.Verif.DigestDelta
import MiniDrop.Verif.PythonSidecar
import MiniDrop.Verif.Isolation
import MiniDrop.Verif.EngineFollows
import MiniDrop.Verif.Schedule
import MiniDrop.Verif.AutoCollection
import MiniDrop.Verif.MemoryProfiles
import MiniDrop.Verif.AttemptThreads
import MiniDrop.Verif.SymbolUploads
import MiniDrop.Verif.RuntimeRefresh
import MiniDrop.Verif.CoreTargets
import MiniDrop.Verif.LatencySlots
import MiniDrop.Verif.SymbolCollector
import MiniDrop.Verif.ResultNotifier
import MiniDrop.Verif.Counters
import MiniDrop.Verif.Composite
import MiniDrop.Verif.Collapsed
import MiniDrop.Verif.ProfileTree
import MiniDrop.Verif.DiskGuard
import MiniDrop.Verif.Base64
