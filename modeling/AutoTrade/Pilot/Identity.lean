import AutoTrade.Domain.PilotTypes
import AutoTrade.Domain.Timestamp

/-! # The identity of the recovered deployment

`verifyDeploymentIdentity` of `position-guard-pilot-recovery.ts`, which every READY verification has
passed, and the faults that the verifiers of recovery throw. -/

namespace AutoTrade.Pilot.Identity

open Lib.Result Domain.PilotTypes Domain.Timestamp

/-- `RecoveryFault`: an error with the reason that is recorded. -/
structure RecoveryFault where
  reasonCode : String
  message : String
  deriving DecidableEq

/-- `parseTimestamp(value, label, reasonCode)`. -/
def parseTimestamp (value label reasonCode : String) : Except RecoveryFault ℤ :=
  (parsePositionGuardCandidateTimestamp value label).mapError fun message => ⟨reasonCode, message⟩

/-- The activation of the deployment, if it has one. -/
def verifyActivationIdentity (deployment : PositionGuardPilotDeploymentRecord)
    (createdAt updatedAt nowEpochNanoseconds : ℤ) : Except RecoveryFault Unit :=
  match deployment.activationAt, deployment.activationEpochNs with
  | none, none => .ok ()
  | some activationAt, some recorded => do
    let activation ← parseTimestamp activationAt "deployment activationAt" "IDENTITY_MISMATCH"
    throwIf (activation ≠ recorded ∨ activation < createdAt ∨ updatedAt < activation ∨
        nowEpochNanoseconds < activation)
      ⟨"IDENTITY_MISMATCH", "Candidate deployment activation chronology is invalid."⟩
  | _, _ => .error ⟨"IDENTITY_MISMATCH", "Candidate deployment activation identity is incomplete."⟩

def verifyDeploymentIdentity (deployment : PositionGuardPilotDeploymentRecord)
    (resolvedDeploymentId exchangeAccountId : String) (nowEpochNanoseconds : ℤ) :
    Except RecoveryFault Unit := do
  throwIf (deployment.id ≠ resolvedDeploymentId ∨
      deployment.exchangeAccountId ≠ exchangeAccountId)
    ⟨"IDENTITY_MISMATCH", "Persisted candidate deployment identity does not match policy."⟩
  let createdAt ← parseTimestamp deployment.createdAt "deployment createdAt" "IDENTITY_MISMATCH"
  let updatedAt ← parseTimestamp deployment.updatedAt "deployment updatedAt" "IDENTITY_MISMATCH"
  throwIf (updatedAt < createdAt ∨ nowEpochNanoseconds < createdAt ∨ nowEpochNanoseconds < updatedAt)
    ⟨"IDENTITY_MISMATCH", "Candidate deployment chronology is invalid."⟩
  verifyActivationIdentity deployment createdAt updatedAt nowEpochNanoseconds

theorem parseTimestamp_bind_eq_ok {α : Type} {value label reasonCode : String}
    {f : ℤ → Except RecoveryFault α} {a : α} :
    (parseTimestamp value label reasonCode >>= f) = .ok a ↔
      IsCandidateTimestamp value ∧ f (instant value) = .ok a := by
  unfold parseTimestamp
  by_cases h : IsCandidateTimestamp value
  · rw [parseCandidate_of_is h]
    simp [Except.mapError, bind, Except.bind, h]
  · rw [parseCandidate_of_not h]
    simp [Except.mapError, bind, Except.bind, h]

/-- **The activation of a verified deployment lies between its creation and its last update.** -/
theorem activation_le_updatedAt {deployment : PositionGuardPilotDeploymentRecord}
    {resolvedDeploymentId exchangeAccountId activationAt : String} {now activationEpochNs : ℤ}
    (h : verifyDeploymentIdentity deployment resolvedDeploymentId exchangeAccountId now = .ok ())
    (hat : deployment.activationAt = some activationAt)
    (hepoch : deployment.activationEpochNs = some activationEpochNs) :
    instant deployment.createdAt ≤ instant activationAt ∧
      instant activationAt ≤ instant deployment.updatedAt := by
  simp only [verifyDeploymentIdentity, then_eq_ok, parseTimestamp_bind_eq_ok,
    verifyActivationIdentity, hat, hepoch, throwIf_eq_ok, not_or, Int.not_lt] at h
  obtain ⟨-, -, -, -, -, -, hcreated, hupdated, -⟩ := h
  exact ⟨hcreated, hupdated⟩

end AutoTrade.Pilot.Identity
