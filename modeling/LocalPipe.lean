import LocalPipe.Main
import LocalPipe.Script.Run
import LocalPipe.Text.Digest
import LocalPipe.Proofs.Traffic
import LocalPipe.Proofs.Ends
import LocalPipe.Proofs.Channels
import LocalPipe.Proofs.Operations
import LocalPipe.Proofs.Agreement
import LocalPipe.Proofs.Receiving
import LocalPipe.Proofs.Sending
import LocalPipe.Proofs.EndViews
import LocalPipe.Proofs.Ticks
import LocalPipe.Proofs.Releases
import LocalPipe.Proofs.OutsideActs
import LocalPipe.Proofs.Serving
import LocalPipe.Proofs.PairRuns
import LocalPipe.Proofs.Setups
import LocalPipe.Proofs.PairStreams
import LocalPipe.Proofs.PairIntegrity
import LocalPipe.Proofs.Fleet
import LocalPipe.Proofs.FleetModes
import LocalPipe.Proofs.RelayReach
import LocalPipe.Proofs.RelayLines
import LocalPipe.Proofs.RelayStreams
import LocalPipe.Proofs.RelayExit
import LocalPipe.Proofs.RelayFlush
import LocalPipe.Proofs.Outsiders
import LocalPipe.Proofs.Hangups
import LocalPipe.Proofs.RelayDelivery
import LocalPipe.Proofs.Uses
import LocalPipe.Proofs.Handles
import LocalPipe.Proofs.LoopVisits
import LocalPipe.Proofs.LoopWaits
import LocalPipe.Proofs.RelayWaits
import LocalPipe.Proofs.Drains
import LocalPipe.Proofs.Assertions
import LocalPipe.Proofs.Outstanding
import LocalPipe.Proofs.Remainders
import LocalPipe.Proofs.ImmediateWrites
import LocalPipe.Proofs.Ledger
import LocalPipe.Proofs.Frames
import LocalPipe.Proofs.MeasuredReads
import LocalPipe.Proofs.Intake
import LocalPipe.Proofs.Backpressure
import LocalPipe.Proofs.RelayStalls
import LocalPipe.Proofs.FileWalks
import LocalPipe.Proofs.HostNames
import LocalPipe.Proofs.Renamings
import LocalPipe.Proofs.SocketNames
import LocalPipe.Proofs.LoopChronicles
import LocalPipe.Proofs.LoopTurns
import LocalPipe.Proofs.SocketWalks
import LocalPipe.Proofs.FailedSetups
import LocalPipe.Proofs.Lifecycles
import LocalPipe.Proofs.StaleSockets
import LocalPipe.Proofs.TurnKeeping
import LocalPipe.Proofs.Quiescence
import LocalPipe.Proofs.ModeKeeping
import LocalPipe.Proofs.ModeAccounts
import LocalPipe.Proofs.ModeReturns
import LocalPipe.Proofs.ServiceMoments
import LocalPipe.Proofs.RelayBounds
import LocalPipe.Proofs.CalmEnds
import LocalPipe.Proofs.LaneExchanges
import LocalPipe.Proofs.Unrecorded
import LocalPipe.Proofs.Exchanges
import LocalPipe.Proofs.Movements
import LocalPipe.Proofs.Answers
import LocalPipe.Proofs.TerminalAnswers
import LocalPipe.Proofs.Arrivals
import LocalPipe.Proofs.BoundedWaits
import LocalPipe.Proofs.Deadlines
import LocalPipe.Proofs.CallCounts
import LocalPipe.Proofs.Invocations
import LocalPipe.Proofs.ReadyHandles
import LocalPipe.Proofs.Ownership
import LocalPipe.Proofs.Households
import LocalPipe.Proofs.Wakeups
import LocalPipe.Proofs.PollIntervals
