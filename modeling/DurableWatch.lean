import DurableWatch.Config.Loading
import DurableWatch.Rehearsal.Play
import DurableWatch.Proofs.Lookup
import DurableWatch.Proofs.ExactDifference
import DurableWatch.Proofs.ByteOrder
import DurableWatch.Proofs.PathParts
import DurableWatch.Proofs.Ancestry
import DurableWatch.Proofs.PathGrammar
import DurableWatch.Proofs.Runs
import DurableWatch.Proofs.PassEffect
import DurableWatch.Proofs.Routine
import DurableWatch.Proofs.Moves
import DurableWatch.Proofs.Frames
import DurableWatch.Proofs.ChildHistory
import DurableWatch.Proofs.MemoryHost
import DurableWatch.Proofs.MemoryMoves
import DurableWatch.Proofs.MemoryOperations
import DurableWatch.Proofs.MemoryCommands
import DurableWatch.Proofs.Convergence
import DurableWatch.Proofs.Ownership
import DurableWatch.Proofs.Coverage
import DurableWatch.Proofs.LostWatch
import DurableWatch.Proofs.UpToDate
import DurableWatch.Proofs.PlainData
import DurableWatch.Proofs.Upkeep
import DurableWatch.Proofs.Reconnection
import DurableWatch.Proofs.Expiry
import DurableWatch.Proofs.ServiceIntegrity
import DurableWatch.Proofs.ServiceHistory
import DurableWatch.Proofs.ChildListing
import DurableWatch.Proofs.NodeCreation
import DurableWatch.Proofs.WatchAccounts
import DurableWatch.Proofs.Refusals
import DurableWatch.Proofs.Disconnection
import DurableWatch.Proofs.Rollback
import DurableWatch.Proofs.StubbornMarks
import DurableWatch.Proofs.Reentrancy
import DurableWatch.Proofs.DeliveryOrder
import DurableWatch.Proofs.WindingDown
import DurableWatch.Proofs.PlainLife
import DurableWatch.Proofs.RecoveryView
import DurableWatch.Proofs.RecoveryOrder
import DurableWatch.Proofs.StubbornRecovery
import DurableWatch.Proofs.PassOutcome
import DurableWatch.Proofs.InitialDelivery
import DurableWatch.Proofs.Replay
import DurableWatch.Proofs.RecoveryTrials
import DurableWatch.Proofs.RecoveryIsolation
import DurableWatch.Proofs.Departure
import DurableWatch.Proofs.Abandonment
import DurableWatch.Proofs.Finality
import DurableWatch.Proofs.ChildPaths
import DurableWatch.Proofs.ParentChain
import DurableWatch.Proofs.ErrorChains
import DurableWatch.Proofs.SettingLayers
