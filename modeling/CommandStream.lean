import CommandStream.Command.Encoding
import CommandStream.Proofs.CommandMemory
import CommandStream.Proofs.RoundTrip
import CommandStream.Submission.Queue
import CommandStream.Submission.Rehearsal
import CommandStream.Proofs.AnnouncedSize
import CommandStream.Proofs.Canonicity
import CommandStream.Proofs.HeapPartition
import CommandStream.Proofs.TableLedger
import CommandStream.Proofs.TableRefinement
import CommandStream.Proofs.Pools
import CommandStream.Proofs.SubmissionLog
import CommandStream.Proofs.Chronicle
import CommandStream.Proofs.FenceOrder
import CommandStream.Proofs.RootArguments
import CommandStream.Proofs.RenderPasses
import CommandStream.Proofs.DeviceLoss
import CommandStream.Proofs.StableReplay
import CommandStream.Proofs.IndependentBuffers
import CommandStream.Proofs.PoolConservation
import CommandStream.Proofs.WaitOrder
import CommandStream.Proofs.NativeLimits
import CommandStream.Proofs.DescriptorPlacement
import CommandStream.Proofs.Fragmentation
import CommandStream.Proofs.BarrierCalls
import CommandStream.Proofs.FirstFailure
import CommandStream.Proofs.Locality
import CommandStream.Proofs.DeviceOperations
import CommandStream.Proofs.FirstPipeline
import CommandStream.Proofs.IdleQueues
import CommandStream.Proofs.MemoryDemand
import CommandStream.Proofs.EncodingCalls
import CommandStream.Proofs.DrawRanges
import CommandStream.Proofs.FenceHistory
import CommandStream.Proofs.TableGrowth
import CommandStream.Proofs.RawRecords
