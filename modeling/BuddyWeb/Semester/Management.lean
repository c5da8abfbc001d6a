/-
Preparation of a reset or a restore: one RUNNING operation at a time, reused by
its own administrator.
-/
import BuddyWeb.Semester.BackupVerification

namespace BuddyWeb

namespace Database

def currentSemester? (db : Database) : Option Semester :=
  db.semesters.select? fun semester => semester.status == .current

def runningOperation? (db : Database) : Option SemesterOperation :=
  db.operations.select? fun operation => operation.state == .running

/-- The SUCCEEDED reset which completed last. -/
def latestSucceededReset? (db : Database) : Option SemesterOperation :=
  ((db.operations.rows.filter fun operation =>
      operation.operationType == .reset && operation.state == .succeeded).insertionSort
    fun first second => second.completedAt.getD 0 ≤ first.completedAt.getD 0).head?

end Database

/-- Students were created in the semester. -/
def Semester.HasNewStudents (semester : Semester) : Prop :=
  semester.studentAccountsCreated > 0 ∨ semester.firstStudentCreatedAt ≠ none

instance (semester : Semester) : Decidable semester.HasNewStudents := by
  unfold Semester.HasNewStudents
  infer_instance

/-- The acting account exists and is an administrator. -/
def requireManagementAdmin (db : Database) (actorId : Nat) : Except SemesterError UserRow := do
  let actor ← require (db.data.users.find? fun user => user.id == actorId) .management
  ensure (actor.role = .admin) .management
  return actor

/-- A running reset which its administrator prepares again. -/
def IsReusableReset (running : SemesterOperation) (current : Semester) (actorId : Nat) : Prop :=
  running.operationType = .reset ∧ running.semesterId = current.id ∧
    running.adminActorId = actorId

instance (running : SemesterOperation) (current : Semester) (actorId : Nat) :
    Decidable (IsReusableReset running current actorId) := by
  unfold IsReusableReset
  infer_instance

/-- A running restore which its administrator prepares again. -/
def IsReusableRestore (running : SemesterOperation) (actorId : Nat) : Prop :=
  running.operationType = .restore ∧ running.adminActorId = actorId

instance (running : SemesterOperation) (actorId : Nat) :
    Decidable (IsReusableRestore running actorId) := by
  unfold IsReusableRestore
  infer_instance

/-- The RUNNING operation which a preparation adds. -/
def runningOperation (id : Nat) (operationType : SemesterOperationType)
    (semesterId adminActorId backupId now : Nat) : SemesterOperation where
  id := id
  operationType := operationType
  state := .running
  semesterId := semesterId
  adminActorId := adminActorId
  backupId := some backupId
  requestedAt := now
  startedAt := some now
  completedAt := none
  affectedCounts := []
  resultSummary := .none
  failureCode := none

/-- The CREATING backup which the preparation of a reset adds. -/
def creatingBackup (id : Nat) (source : Semester) (operationId : Nat) : SemesterBackup where
  id := id
  sourceSemesterId := source.id
  sourceBoundaryAt := source.startedAt
  createdByOperationId := operationId
  state := .creating
  databaseManifestLocation := none
  databaseManifestChecksum := none
  databaseRowCounts := []
  avatarManifestLocation := none
  avatarManifestChecksum := none
  avatarObjectCount := 0
  verifiedAt := none
  expiresAt := none
  restoredAt := none
  restoredByAdminId := none
  restoreOperationId := none
  failureCode := none

section Preparation

variable (db : Database) (now actorId newOperationId : Nat)

/-- `_prepare_reset_metadata`. -/
def prepareResetMetadata (newBackupId : Nat) :
    Except SemesterError (Database × (Nat × Nat)) := do
  let actor ← requireManagementAdmin db actorId
  let current ← require db.currentSemester? .managementConflict
  ensure (current.resetOperationId = none) .managementConflict
  match db.runningOperation? with
  | some running =>
      ensure (IsReusableReset running current actor.id) .managementConflict
      let backupId ← require running.backupId .managementConflict
      return (db, (running.id, backupId))
  | none =>
      let operations ← require (db.operations.insert?
        (runningOperation newOperationId .reset current.id actor.id newBackupId now))
        .managementConflict
      let backups ← require (db.backups.insert?
        (creatingBackup newBackupId current newOperationId)) .managementConflict
      return ({ db with operations, backups }, (newOperationId, newBackupId))

/-- The retained backup which a restore may use. -/
def RestorableBackup (backup : SemesterBackup) (current : Semester) : Prop :=
  backup.effectiveState now = .ok .ready ∧ backup.restoredAt = none ∧ ¬ current.HasNewStudents

instance (backup : SemesterBackup) (current : Semester) :
    Decidable (RestorableBackup now backup current) := by
  unfold RestorableBackup
  infer_instance

def prepareSemesterRestore : Except SemesterError (Database × (Nat × Nat)) := do
  let actor ← requireManagementAdmin db actorId
  let current ← require db.currentSemester? .managementConflict
  match db.runningOperation? with
  | some running =>
      ensure (IsReusableRestore running actor.id) .managementConflict
      let backupId ← require running.backupId .managementConflict
      return (db, (running.id, backupId))
  | none =>
      let reset ← require db.latestSucceededReset? .managementConflict
      let backup ← require (reset.backupId.bind db.backups.get?) .managementConflict
      ensure (RestorableBackup now backup current) .managementConflict
      let operations ← require (db.operations.insert?
        (runningOperation newOperationId .restore reset.semesterId actor.id backup.id now))
        .managementConflict
      return ({ db with operations }, (newOperationId, backup.id))

end Preparation

section Inversion

variable {db after : Database} {now actorId newOperationId newBackupId : Nat}
  {prepared : Nat × Nat} {actor : UserRow}

theorem requireManagementAdmin_eq_ok_iff :
    requireManagementAdmin db actorId = .ok actor ↔
      (db.data.users.find? fun user => user.id == actorId) = some actor ∧
        actor.role = .admin := by
  simp only [requireManagementAdmin, except_bind_eq_ok_iff, require_eq_ok_iff, ensure_eq_ok_iff,
    except_pure_eq_ok_iff, exists_const]
  constructor
  · rintro ⟨found, hfind, hrole, rfl⟩
    exact ⟨hfind, hrole⟩
  · rintro ⟨hfind, hrole⟩
    exact ⟨actor, hfind, hrole, rfl⟩

/-- A preparation of a reset reuses the running reset or adds one. -/
theorem prepareResetMetadata_spec
    (h : prepareResetMetadata db now actorId newOperationId newBackupId =
      .ok (after, prepared)) :
    ∃ actor current, requireManagementAdmin db actorId = .ok actor ∧
      db.currentSemester? = some current ∧ current.resetOperationId = none ∧
      ((∃ running, db.runningOperation? = some running ∧
          IsReusableReset running current actor.id ∧ after = db) ∨
        (db.runningOperation? = none ∧ ∃ operations backups,
          db.operations.insert? (runningOperation newOperationId .reset current.id actor.id
            newBackupId now) = some operations ∧
          db.backups.insert? (creatingBackup newBackupId current newOperationId) =
            some backups ∧
          after = { db with operations, backups })) := by
  simp only [prepareResetMetadata, except_bind_eq_ok_iff, require_eq_ok_iff, ensure_eq_ok_iff,
    exists_const] at h
  obtain ⟨actor, hactor, current, hcurrent, hopen, h⟩ := h
  refine ⟨actor, current, hactor, hcurrent, hopen, ?_⟩
  split at h
  · rename_i running hrunning
    simp only [except_bind_eq_ok_iff, require_eq_ok_iff, ensure_eq_ok_iff,
      except_pure_eq_ok_iff, Prod.mk.injEq, exists_const] at h
    obtain ⟨hreusable, _, _, rfl, _⟩ := h
    exact Or.inl ⟨running, hrunning, hreusable, rfl⟩
  · rename_i hnone
    simp only [except_bind_eq_ok_iff, require_eq_ok_iff, except_pure_eq_ok_iff,
      Prod.mk.injEq] at h
    obtain ⟨operations, hoperations, backups, hbackups, rfl, _⟩ := h
    exact Or.inr ⟨hnone, operations, backups, hoperations, hbackups, rfl⟩

/-- A preparation of a restore reuses the running restore or adds one. -/
theorem prepareSemesterRestore_spec
    (h : prepareSemesterRestore db now actorId newOperationId = .ok (after, prepared)) :
    ∃ actor current, requireManagementAdmin db actorId = .ok actor ∧
      db.currentSemester? = some current ∧
      ((∃ running, db.runningOperation? = some running ∧
          IsReusableRestore running actor.id ∧ after = db) ∨
        (db.runningOperation? = none ∧ ∃ reset backup operations,
          db.latestSucceededReset? = some reset ∧
          reset.backupId.bind db.backups.get? = some backup ∧
          RestorableBackup now backup current ∧
          db.operations.insert? (runningOperation newOperationId .restore reset.semesterId
            actor.id backup.id now) = some operations ∧
          after = { db with operations })) := by
  simp only [prepareSemesterRestore, except_bind_eq_ok_iff, require_eq_ok_iff] at h
  obtain ⟨actor, hactor, current, hcurrent, h⟩ := h
  refine ⟨actor, current, hactor, hcurrent, ?_⟩
  split at h
  · rename_i running hrunning
    simp only [except_bind_eq_ok_iff, require_eq_ok_iff, ensure_eq_ok_iff,
      except_pure_eq_ok_iff, Prod.mk.injEq, exists_const] at h
    obtain ⟨hreusable, _, _, rfl, _⟩ := h
    exact Or.inl ⟨running, hrunning, hreusable, rfl⟩
  · rename_i hnone
    simp only [except_bind_eq_ok_iff, require_eq_ok_iff, ensure_eq_ok_iff,
      except_pure_eq_ok_iff, Prod.mk.injEq, exists_const] at h
    obtain ⟨reset, hreset, backup, hbackup, hrestorable, operations, hoperations, rfl, _⟩ := h
    exact Or.inr ⟨hnone, reset, backup, operations, hreset, hbackup, hrestorable, hoperations,
      rfl⟩

theorem latestSucceededReset?_spec {reset : SemesterOperation}
    (h : db.latestSucceededReset? = some reset) :
    reset ∈ db.operations.rows ∧ reset.operationType = .reset ∧ reset.state = .succeeded := by
  have hmem := List.mem_of_mem_head? h
  rw [List.mem_insertionSort, List.mem_filter] at hmem
  simpa [and_assoc] using hmem

end Inversion

/-- The handler of `prepare_semester_reset`: the running operation fails. -/
def failResetPreparation (db : Database) (operationId now : Nat) : Database :=
  match db.operations.get? operationId with
  | none => db
  | some operation =>
      match operation.fail now .resetPreparationFailed with
      | .ok failed => if operation.state = .running then
          { db with operations := db.operations.put failed } else db
      | .error _ => db

theorem failResetPreparation_backups (db : Database) (operationId now : Nat) :
    (failResetPreparation db operationId now).backups = db.backups := by
  unfold failResetPreparation
  split
  · rfl
  · split
    · split <;> rfl
    · rfl

end BuddyWeb
