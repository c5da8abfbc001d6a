/-
Semester boundaries and the durable metadata of reset and restore operations.
-/
import BuddyWeb.Lib.Outcome
import BuddyWeb.Lib.Table
import BuddyWeb.Semester.Cohort

namespace BuddyWeb

/-- The retention of a backup in microseconds: 30 days. -/
def semesterBackupRetention : Nat := 30 * 24 * 60 * 60 * 1000000

/-- The deadline from reset completion. -/
def semesterBackupExpiresAt (resetCompletedAt : Nat) : Nat :=
  resetCompletedAt + semesterBackupRetention

inductive SemesterStatus
  | current
  | closed
  deriving DecidableEq, Repr

inductive SemesterOperationType
  | reset
  | restore
  deriving DecidableEq, Repr

inductive SemesterOperationState
  | requested
  | running
  | succeeded
  | failed
  deriving DecidableEq, Repr

inductive SemesterBackupState
  | creating
  | ready
  | restoreBlockedNewData
  | expired
  | failed
  deriving DecidableEq, Repr

/-- The codes of failed operations and backups. -/
inductive FailureCode
  | databaseBackupFailed
  | avatarBackupFailed
  | backupVerificationFailed
  | resetPreparationFailed
  | restoreBlockedNewData
  | restoreBackupExpired
  deriving DecidableEq, Repr

/-- The errors of the semester workflows, by their exception class. -/
inductive SemesterError
  | stateTransition
  | management
  | managementConflict
  | databaseBackup
  | databaseBackupValidation
  | databaseBackupBusy
  | databaseBackupAlreadyAttached
  | avatarBackup
  | avatarBackupValidation
  | avatarBackupBusy
  | avatarBackupAlreadyAttached
  | verificationBusy
  | verificationState
  | verificationPackage
  | expiry
  | resetAuthorization
  | resetState
  | resetSnapshot
  | resetStorage
  | resetBusy
  | resetPrecondition
  | restoreAuthorization
  | restoreState
  | restorePackage
  | restoreStorage
  | restoreBusy
  | integrity
  deriving DecidableEq, Repr

/-- Row counts by table. -/
abbrev RowCounts : Type := List (CohortTable × Nat)

/-- An object of one backup in private storage. -/
inductive BackupObject
  | databaseArtifact (backupId : Nat)
  | databaseManifest (backupId : Nat)
  | avatarManifest (backupId : Nat)
  | avatarBinary (backupId photoId : Nat) (mimeType : ImageMimeType)
  deriving DecidableEq, Repr

structure Semester where
  id : Nat
  status : SemesterStatus
  startedAt : Nat
  closedAt : Option Nat
  resetOperationId : Option Nat
  studentAccountsCreated : Nat
  firstStudentCreatedAt : Option Nat
  deriving DecidableEq, Repr

/-- What a finished operation keeps for its replays. -/
inductive ResultSummary
  | none
  | reset (closedSemesterId newSemesterId : Nat) (deleted : RowCounts)
      (avatarObjectsProcessed : Nat)
  | restore (sourceSemesterId : Nat) (restored : RowCounts) (avatarObjectsRestored : Nat)
  deriving DecidableEq, Repr

structure SemesterOperation where
  id : Nat
  operationType : SemesterOperationType
  state : SemesterOperationState
  semesterId : Nat
  adminActorId : Nat
  backupId : Option Nat
  requestedAt : Nat
  startedAt : Option Nat
  completedAt : Option Nat
  affectedCounts : RowCounts
  resultSummary : ResultSummary
  failureCode : Option FailureCode
  deriving DecidableEq, Repr

structure SemesterBackup where
  id : Nat
  sourceSemesterId : Nat
  sourceBoundaryAt : Nat
  createdByOperationId : Nat
  state : SemesterBackupState
  databaseManifestLocation : Option BackupObject
  databaseManifestChecksum : Option String
  databaseRowCounts : RowCounts
  avatarManifestLocation : Option BackupObject
  avatarManifestChecksum : Option String
  avatarObjectCount : Nat
  verifiedAt : Option Nat
  expiresAt : Option Nat
  restoredAt : Option Nat
  restoredByAdminId : Option Nat
  restoreOperationId : Option Nat
  failureCode : Option FailureCode
  deriving DecidableEq, Repr

instance : Keyed Semester := ⟨Semester.id⟩

instance : Keyed SemesterOperation := ⟨SemesterOperation.id⟩

instance : Keyed SemesterBackup := ⟨SemesterBackup.id⟩

namespace SemesterOperation

/-- Complete a running operation successfully. -/
def succeed (operation : SemesterOperation) (at_ : Nat) (resultSummary : ResultSummary) :
    Except SemesterError SemesterOperation :=
  if operation.state ≠ .running then .error .stateTransition
  else .ok { operation with
    completedAt := some at_, resultSummary, failureCode := none, state := .succeeded }

/-- Fail a requested preflight or a running operation. -/
def fail (operation : SemesterOperation) (at_ : Nat) (failureCode : FailureCode) :
    Except SemesterError SemesterOperation :=
  if operation.state ≠ .requested ∧ operation.state ≠ .running then .error .stateTransition
  else .ok { operation with
    completedAt := some at_, failureCode := some failureCode, state := .failed }

theorem succeed_eq_ok_iff {operation after : SemesterOperation} {at_ : Nat}
    {resultSummary : ResultSummary} :
    operation.succeed at_ resultSummary = .ok after ↔
      operation.state = .running ∧ after = { operation with
        completedAt := some at_, resultSummary, failureCode := none, state := .succeeded } := by
  unfold succeed
  split <;> simp_all [eq_comm]

theorem fail_eq_ok_iff {operation after : SemesterOperation} {at_ : Nat}
    {code : FailureCode} :
    operation.fail at_ code = .ok after ↔
      (operation.state = .running ∨ operation.state = .requested) ∧ after = { operation with
        completedAt := some at_, failureCode := some code, state := .failed } := by
  unfold fail
  split
  · rename_i hstate
    simp [hstate.1, hstate.2]
  · rename_i hstate
    have hopen : operation.state = .running ∨ operation.state = .requested := by
      by_contra hnot
      push Not at hnot
      exact hstate ⟨hnot.2, hnot.1⟩
    exact ⟨fun h => ⟨hopen, (Except.ok.inj h).symm⟩, fun h => h.2 ▸ rfl⟩

end SemesterOperation

namespace SemesterBackup

/-- The durable state edges. -/
def allowedTransitions : SemesterBackupState → List SemesterBackupState
  | .creating => [.ready, .failed]
  | .ready => [.restoreBlockedNewData, .expired]
  | .restoreBlockedNewData => [.expired]
  | .expired => []
  | .failed => []

def transitionTo (backup : SemesterBackup) (state : SemesterBackupState) :
    Except SemesterError SemesterBackup :=
  if state ∉ allowedTransitions backup.state then .error .stateTransition
  else .ok { backup with state }

theorem transitionTo_eq_ok_iff {backup after : SemesterBackup} {state : SemesterBackupState} :
    backup.transitionTo state = .ok after ↔
      state ∈ allowedTransitions backup.state ∧ after = { backup with state } := by
  unfold transitionTo
  split <;> simp_all [eq_comm]

theorem blocked_mem_allowedTransitions_iff {state : SemesterBackupState} :
    SemesterBackupState.restoreBlockedNewData ∈ allowedTransitions state ↔ state = .ready := by
  cases state <;> decide

theorem expired_mem_allowedTransitions_iff {state : SemesterBackupState} :
    SemesterBackupState.expired ∈ allowedTransitions state ↔
      state = .ready ∨ state = .restoreBlockedNewData := by
  cases state <;> decide

/-- The inclusive expiry boundary, applied without waiting for physical cleanup. -/
def effectiveState (backup : SemesterBackup) (now : Nat) :
    Except SemesterError SemesterBackupState :=
  match backup.state with
  | .ready | .restoreBlockedNewData =>
      match backup.expiresAt with
      | none => .error .verificationState
      | some expiresAt => .ok (if now ≥ expiresAt then .expired else backup.state)
  | state => .ok state

/-- A backup is effectively READY while it is READY and its deadline is ahead. -/
theorem effectiveState_eq_ready_iff {backup : SemesterBackup} {now : Nat} :
    backup.effectiveState now = .ok .ready ↔
      backup.state = .ready ∧ ∃ deadline, backup.expiresAt = some deadline ∧ now < deadline := by
  unfold effectiveState
  cases backup.state with
  | creating | expired | failed => simp
  | ready => cases backup.expiresAt <;> simp
  | restoreBlockedNewData =>
      cases backup.expiresAt with
      | none => simp
      | some deadline => by_cases hpast : deadline ≤ now <;> simp [hpast]

end SemesterBackup

end BuddyWeb
