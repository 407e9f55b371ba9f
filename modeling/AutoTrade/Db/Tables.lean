import AutoTrade.Domain.PilotTypes
import AutoTrade.Lib.Table

/-! # The database

The tables the modelled repositories read and write, each as the list of its rows in insertion
order. Unique keys are checked by the statements that insert. -/

namespace AutoTrade.Db.Tables

open Domain.Types Domain.PilotTypes

/-- A row of `strategy_pilot_audit_events`: the record and the instant it is ordered by. -/
structure AuditEventRow where
  record : PositionGuardPilotAuditEventRecord
  createdAtEpochNs : ℤ
  deriving DecidableEq

/-- The columns of `strategy_candidate_states` that the modelled functions read. -/
structure CandidateStateRow where
  deploymentId : String
  stateVersion : ℕ
  deriving DecidableEq

structure Database where
  exchangeAccounts : List String := []
  executionState : List ExecutionStateRecord := []
  executionStateTransitions : List ExecutionStateTransitionRecord := []
  orders : List OrderRecord := []
  orderEvents : List OrderEventRecord := []
  fills : List FillRecord := []
  riskEvents : List RiskEventRecord := []
  recoveryObservations : List OrderSubmissionRecoveryObservationRecord := []
  accountExecutionLeases : List AccountExecutionLeaseRecord := []
  deployments : List PositionGuardPilotDeploymentRecord := []
  candidateStates : List CandidateStateRow := []
  auditEvents : List AuditEventRow := []
  executionBindings : List CandidateExecutionBindingRecord := []
  deriving DecidableEq

end AutoTrade.Db.Tables
