import AutoTrade.Operator.Interleaving
import AutoTrade.Runtime.Shutdown
import AutoTrade.Scheduler.Quiescence
import AutoTrade.Scheduler.Exclusion
import AutoTrade.Strategy.EpisodeParity
import AutoTrade.Strategy.NoLookAhead
import AutoTrade.Execution.CashConservation
import AutoTrade.Reconciliation.DriftAccounting
import AutoTrade.Execution.SendFence
import AutoTrade.Db.LeaseAgreement
import AutoTrade.Telegram.PassedOver
import AutoTrade.Telegram.AtMostOnce
import AutoTrade.Reconciliation.SnapshotBinding
import AutoTrade.Strategy.StructureLevels
import AutoTrade.Runtime.LeaseMemory
import AutoTrade.Scheduler.BatchOrders
import AutoTrade.Strategy.Confirmation
import AutoTrade.Execution.SignedDecimals
import AutoTrade.Pilot.AtomicAdvance
import AutoTrade.Reconciliation.BoundedAbsence
import AutoTrade.Execution.RiskCaps
import AutoTrade.Pilot.RecoveryInventory
import AutoTrade.Pilot.FillChronology
import AutoTrade.Pilot.SweepDisposal
import AutoTrade.Execution.SubmissionRecords
import AutoTrade.Telegram.DeliverRecord
import AutoTrade.Telegram.DeliveryKicks
import AutoTrade.Telegram.ReplyText
import AutoTrade.Db.MigrationTokens
import AutoTrade.Performance.HourlyCoverage
import AutoTrade.Strategy.PublicBacktest
import AutoTrade.Execution.ExactArithmetic
import AutoTrade.Performance.StampCodec
import AutoTrade.Pilot.TimestampCodec
