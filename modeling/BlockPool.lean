import BlockPool.Abort
import BlockPool.Access
import BlockPool.Allocator
import BlockPool.Arena
import BlockPool.Bytes
import BlockPool.Churn
import BlockPool.Config
import BlockPool.Event
import BlockPool.FaultyPool
import BlockPool.Handle
import BlockPool.HandleTable
import BlockPool.Heap
import BlockPool.LinkedList.Basic
import BlockPool.LinkedList.Node
import BlockPool.Metrics
import BlockPool.Pool
import BlockPool.Random.KeyStream
import BlockPool.Random.Uniform
import BlockPool.Registry.Basic
import BlockPool.Registry.Check
import BlockPool.Session.Command
import BlockPool.Session.Reply
import BlockPool.Session.Run
import BlockPool.Shadow.Divergence
import BlockPool.Shadow.Heap
import BlockPool.Text.CodeRange
import BlockPool.Text.Combining
import BlockPool.Text.Hex
import BlockPool.Text.Quoted
import BlockPool.Text.Record
import BlockPool.Text.Unassigned
import BlockPool.Usage
import BlockPool.Violation
import BlockPool.Word
import BlockPool.Workbench
import BlockPool.Workload
import BlockPool.Proofs.Geometry
import BlockPool.Proofs.Validation
import BlockPool.Proofs.DrawnOperations
import BlockPool.Proofs.Spans
import BlockPool.Proofs.Tiling
import BlockPool.Proofs.Chart
import BlockPool.Proofs.FindFit
import BlockPool.Proofs.Relink
import BlockPool.Proofs.Settled
import BlockPool.Proofs.RegistryRefinement
import BlockPool.Proofs.HandleSteps
import BlockPool.Proofs.HandleHistory
import BlockPool.Proofs.ArenaSteps
import BlockPool.Proofs.Places
import BlockPool.Proofs.HeapSteps
import BlockPool.Proofs.HeapRelease
import BlockPool.Proofs.HeapResize
import BlockPool.Proofs.HeapViews
import BlockPool.Proofs.PoolCalls
import BlockPool.Proofs.PoolInvariant
import BlockPool.Proofs.HeapContents
import BlockPool.Proofs.HeapAgreement
import BlockPool.Proofs.PoolMemory
import BlockPool.Proofs.PoolRequests
import BlockPool.Proofs.PoolProgress
import BlockPool.Proofs.CounterBlindness
import BlockPool.Proofs.IssuedHandles
import BlockPool.Proofs.SingleRelease
import BlockPool.Proofs.Refusals
import BlockPool.Proofs.NodeRecord
import BlockPool.Proofs.NodeStore
import BlockPool.Proofs.ListWalk
import BlockPool.Proofs.ListModel
import BlockPool.Proofs.ListUpdates
import BlockPool.Proofs.ListOperations
import BlockPool.Proofs.PoolStore
import BlockPool.Proofs.ClientMemory
import BlockPool.Proofs.SharedPool
import BlockPool.Proofs.FaultyStore
import BlockPool.Proofs.ListAtomicity
import BlockPool.Proofs.PoolViews
import BlockPool.Proofs.CounterBalance
import BlockPool.Proofs.ListRelease
import BlockPool.Proofs.SlotGrowth
import BlockPool.Proofs.HousedPool
import BlockPool.Proofs.ShadowSteps
import BlockPool.Proofs.ShadowAgreement
import BlockPool.Proofs.NodeSlots
import BlockPool.Proofs.TwinHeaps
import BlockPool.Proofs.TwinPools
import BlockPool.Proofs.NodePools
import BlockPool.Proofs.HeaderReserve
import BlockPool.Proofs.LiveAllocations
import BlockPool.Proofs.Relocation
import BlockPool.Proofs.FreeOrder
import BlockPool.Proofs.AllocUndone
import BlockPool.Proofs.LargestRequest
import BlockPool.Proofs.ChainCheck
import BlockPool.Proofs.HandleCheck
import BlockPool.Proofs.HeaderDamage
import BlockPool.Proofs.LockRecovery
import BlockPool.Proofs.ListText
import BlockPool.Proofs.SpoiledReads
import BlockPool.Proofs.UnreadNodes
import BlockPool.Proofs.EmptyLists
import BlockPool.Proofs.ChurnedPool
import BlockPool.Proofs.ShadowRuns
import BlockPool.Proofs.OneMemory
import BlockPool.Proofs.Overlaps
import BlockPool.Proofs.RetiredHandles
import BlockPool.Proofs.Preserved
import BlockPool.Proofs.SlotTurns
import BlockPool.Proofs.SlotReserve
import BlockPool.Proofs.PoolIdentities
import BlockPool.Proofs.HeaderLinks
