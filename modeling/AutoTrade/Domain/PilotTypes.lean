import AutoTrade.Domain.Types
import AutoTrade.Lib.Result
import AutoTrade.Lib.Text
import Mathlib.Data.Int.Notation

/-! # The records of the candidate pilot

The records of `src/domain/pilot-types.ts`. Fields whose type has a single value (the pilot, market,
policy and version texts) carry no information and are left out. `requireNonEmpty` is the check of
`pilot-interfaces.ts` that the writers of these records share. -/

namespace AutoTrade.Domain.PilotTypes

open Lib.Text Lib.Result Domain.Types

inductive PositionGuardPilotPhase
  | disabled
  | pendingFlat
  | active
  | pausedFault
  | draining
  deriving DecidableEq

def PositionGuardPilotPhase.text : PositionGuardPilotPhase → String
  | disabled => "DISABLED"
  | pendingFlat => "PENDING_FLAT"
  | active => "ACTIVE"
  | pausedFault => "PAUSED_FAULT"
  | draining => "DRAINING"

structure PositionGuardPilotDeploymentRecord where
  id : String
  exchangeAccountId : String
  phase : PositionGuardPilotPhase
  activationAt : Option String
  activationEpochNs : Option ℤ
  createdAt : String
  updatedAt : String
  deriving DecidableEq

inductive PositionGuardPilotAuditEventType
  | deploymentCreated
  | stateAdvanced
  | phaseTransition
  | faultPaused
  | rollbackStarted
  | rollbackCompleted
  deriving DecidableEq

structure PositionGuardPilotAuditEventRecord where
  id : String
  deploymentId : String
  eventType : PositionGuardPilotAuditEventType
  fromPhase : Option PositionGuardPilotPhase
  toPhase : Option PositionGuardPilotPhase
  stateVersion : ℕ
  payloadJson : String
  createdAt : String
  deriving DecidableEq

structure CandidateExecutionBindingRecord where
  id : String
  deploymentId : String
  strategyDecisionId : String
  orderId : String
  exchangeAccountId : String
  activationAt : String
  activationEpochNs : ℤ
  executionMode : ExecutionMode
  ordType : Types.OrderType
  action : StrategyDecisionAction
  side : OrderSide
  intendedQuantity : Option String
  intendedNotionalKrw : Option String
  boundPrice : Option String
  boundVolume : Option String
  boundTimeInForce : Option TimeInForce
  boundSmpType : Option UpbitSelfMatchPrevention
  orderMaterialHash : String
  createdAt : String
  deriving DecidableEq

/-- `CandidatePilotRecoveryFaultReason` stays a text: it is stored and compared only. -/
structure PauseCandidatePilotForRecoveryFaultInput where
  deploymentId : String
  exchangeAccountId : String
  faultId : String
  reasonCode : String
  provenanceJson : String
  occurredAt : String

/-- `requireNonEmpty` of `pilot-interfaces.ts`. -/
def requireNonEmpty (value label : String) : Except String Unit :=
  throwIf (isBlank value = true) (label ++ " must be a non-empty string.")

theorem requireNonEmpty_eq_ok {value label : String} {u : Unit} :
    requireNonEmpty value label = .ok u ↔ isBlank value = false := by
  simp [requireNonEmpty]

inductive CandidateIntentFaultStage
  | duplicate
  | derivation
  | persistence
  | finalRevalidation
  deriving DecidableEq

def CandidateIntentFaultStage.text : CandidateIntentFaultStage → String
  | duplicate => "DUPLICATE"
  | derivation => "DERIVATION"
  | persistence => "PERSISTENCE"
  | finalRevalidation => "FINAL_REVALIDATION"

end AutoTrade.Domain.PilotTypes
