/-
`execute_semester_restore`: the locked context, the gate which ends a blocked or
expired restore, and the transaction which brings the cohort back.
-/
import BuddyWeb.Semester.Management

namespace BuddyWeb

def semesterRestoreAuditAction : String := "semester.restore_execute"

def semesterRestoreConfirmationPhrase (backupId : Nat) : String :=
  "RESTORE " ++ toString backupId

def semesterRestoreAlembicHead : String := "0022_public_event_visibility_default"

def semesterRestoreCompatibleManifestHeads : List String :=
  ["0019_semester_reset_execution", "0020_semester_restore_execution",
    semesterRestoreAlembicHead]

/-- `_is_restore_identity_valid`. -/
def IsRestoreIdentityValid (operation : SemesterOperation) (backup : SemesterBackup)
    (source : Semester) (reset : SemesterOperation) (adminId : Nat) : Prop :=
  operation.operationType = .restore ∧ operation.state = .running ∧
    operation.adminActorId = adminId ∧ operation.semesterId = source.id ∧
    operation.backupId = some backup.id ∧ source.status = .closed ∧
    source.resetOperationId = some reset.id ∧ backup.sourceSemesterId = source.id ∧
    backup.sourceBoundaryAt = source.startedAt ∧ backup.createdByOperationId = reset.id ∧
    reset.operationType = .reset ∧ reset.state = .succeeded ∧ reset.semesterId = source.id ∧
    reset.backupId = some backup.id ∧ backup.state = .ready ∧ backup.verifiedAt ≠ none ∧
    backup.expiresAt ≠ none ∧ backup.failureCode = none ∧
    backup.databaseManifestLocation ≠ none ∧ backup.databaseManifestChecksum ≠ none ∧
    backup.avatarManifestLocation ≠ none ∧ backup.avatarManifestChecksum ≠ none ∧
    backup.restoredAt = none ∧ backup.restoredByAdminId = none ∧
    backup.restoreOperationId = none

instance (operation : SemesterOperation) (backup : SemesterBackup) (source : Semester)
    (reset : SemesterOperation) (adminId : Nat) :
    Decidable (IsRestoreIdentityValid operation backup source reset adminId) := by
  unfold IsRestoreIdentityValid
  infer_instance

/-- The metadata of a completed restore, as a replay expects it. -/
def IsCompletedRestore (operation : SemesterOperation) (backup : SemesterBackup)
    (source : Semester) (adminId : Nat) : Prop :=
  operation.operationType = .restore ∧ operation.adminActorId = adminId ∧
    operation.semesterId = source.id ∧ backup.restoredByAdminId = some adminId ∧
    backup.restoreOperationId = some operation.id ∧ backup.restoredAt ≠ none ∧
    (backup.state = .ready ∨ backup.state = .expired)

instance (operation : SemesterOperation) (backup : SemesterBackup) (source : Semester)
    (adminId : Nat) : Decidable (IsCompletedRestore operation backup source adminId) := by
  unfold IsCompletedRestore
  infer_instance

/-- What `_locked_context` returns: the rows and whether this is a replay. -/
structure RestoreContext where
  actor : UserRow
  operation : SemesterOperation
  backup : SemesterBackup
  source : Semester
  current : Semester
  reset : SemesterOperation
  replay : Bool

section Gate

variable (env : SemesterEnvironment) (db : Database) (now : Nat)

/-- `_locked_context`. -/
def lockedRestoreContext (request : ExecutionRequest) :
    Except SemesterError RestoreContext := do
  let actor ← requireActiveAdmin env db request.adminId request.currentPassword
    .restoreAuthorization
  let operation ← require (db.operations.get? request.operationId) .restoreState
  let backup ← require (db.backups.get? request.backupId) .restoreState
  ensure (operation.backupId = some backup.id) .restoreState
  let current ← require db.currentSemester? .restoreState
  let source ← require (db.semesters.get? operation.semesterId) .restoreState
  let reset ← require (db.operations.get? backup.createdByOperationId) .restoreState
  ensure (request.confirmationPhrase = semesterRestoreConfirmationPhrase backup.id)
    .restoreAuthorization
  if operation.state = .succeeded then
    ensure (IsCompletedRestore operation backup source actor.id) .restoreState
    return ⟨actor, operation, backup, source, current, reset, true⟩
  ensure (IsRestoreIdentityValid operation backup source reset actor.id) .restoreState
  return ⟨actor, operation, backup, source, current, reset, false⟩

/-- The decisions of the gate. -/
inductive RestoreGate
  | replay
  | blocked
  | expired
  | ready
  deriving DecidableEq, Repr

/-- `_apply_locked_gate`. -/
def applyLockedGate (context : RestoreContext) (auditId : Nat) :
    Except SemesterError (Database × RestoreGate) := do
  if context.replay = true then
    return (db, .replay)
  if context.current.HasNewStudents then
    let backup ← context.backup.transitionTo .restoreBlockedNewData
    let operation ← context.operation.fail now .restoreBlockedNewData
    return ({ db with
      backups := db.backups.put backup, operations := db.operations.put operation
      data := recordAuditLog db.data auditId context.actor.id semesterRestoreAuditAction },
      .blocked)
  let effectiveState ← context.backup.effectiveState now
  if effectiveState ≠ .ready then
    let backup ← context.backup.transitionTo .expired
    let operation ← context.operation.fail now .restoreBackupExpired
    return ({ db with
      backups := db.backups.put backup, operations := db.operations.put operation }, .expired)
  return (db, .ready)

/-- The gate transaction of `execute_semester_restore`. -/
def semesterRestoreGate (request : ExecutionRequest) (auditId : Nat) :
    Except SemesterError (Database × RestoreGate) := do
  let context ← lockedRestoreContext env db request
  applyLockedGate db now context auditId

end Gate

/-- A package as one execution has loaded it. -/
structure RestorePackage where
  database : DatabaseManifest
  artifact : CohortRows
  avatars : AvatarManifest
  contents : List ImageContent

/-- `_load_restore_package`. -/
def loadRestorePackage (checksums : Checksums) (backup : SemesterBackup)
    (stored : StoredPackage) : Except SemesterError RestorePackage := do
  let databaseChecksum ← require backup.databaseManifestChecksum .restoreState
  let avatarChecksum ← require backup.avatarManifestChecksum .restoreState
  let (database, artifact) ← loadDatabaseBackupFromStorage checksums stored backup.id
    databaseChecksum
  let (avatars, contents) ← loadAvatarBackupFromStorage checksums stored backup.id avatarChecksum
  validateSemesterBackupManifests backup database avatars
  return ⟨database, artifact, avatars, contents⟩

section Target

variable (env : SemesterEnvironment) (db : Database)

/-- The identifiers which a target check finds again. -/
def SharedReferencesPresent (references : SharedReferences) : Prop :=
  (∀ id ∈ references.sourceSemesterIds, ∃ semester ∈ db.semesters.rows, semester.id = id) ∧
    (∀ id ∈ references.adminUserIds, ∃ user ∈ db.data.users, user.role = .admin ∧ user.id = id) ∧
    (∀ id ∈ references.interestIds, id ∈ db.data.interests) ∧
    (∀ code ∈ references.languageCodes, code ∈ db.data.languages) ∧
    (∀ id ∈ references.activityIds, id ∈ db.data.activities) ∧
    ∀ id ∈ references.eventIds, ∃ event ∈ db.data.events, event.id = id

instance (references : SharedReferences) : Decidable (SharedReferencesPresent db references) := by
  unfold SharedReferencesPresent
  infer_instance

/-- `_validate_restore_target` with the heads which the caller accepts. -/
def validateRestoreTarget (manifest : DatabaseManifest) (acceptedManifestHeads : List String)
    (requiredTargetHead : String) : Except SemesterError Unit := do
  ensure (env.adapter.serverMajor = manifest.compatibility.requiredTargetPostgresqlMajor)
    .databaseBackupValidation
  ensure (db.alembicHead = requiredTargetHead ∧
    manifest.compatibility.requiredAlembicHead ∈ acceptedManifestHeads) .databaseBackupValidation
  ensure (∀ user ∈ db.data.users, user.role ≠ .user) .databaseBackupValidation
  ensure (SharedReferencesPresent db manifest.sharedReferences) .databaseBackupValidation

/-- The rows of an artifact next to those of the database. -/
def Dataset.insertRows (data : Dataset) (artifact : CohortRows) : Dataset :=
  data.withRows fun table => artifact table ++ data.rows table

/-- `restore_into_transaction`: validated rows, inserted and counted again. -/
def restoreIntoTransaction (package : RestorePackage) (checksum : String) :
    Except SemesterError (Database × DatabaseManifest) := do
  let manifest ← validateDatabaseBackupPackage env.checksums package.database package.artifact
    package.database.backupId checksum
  validateRestoreTarget env db manifest semesterRestoreCompatibleManifestHeads
    semesterRestoreAlembicHead
  let restored := { db with data := db.data.insertRows package.artifact }
  ensure restored.Integrity .databaseBackup
  ensure (∀ table ∈ manifest.tables, (restored.data.selectedRows
      (restored.data.snapshotPredicate manifest.sourceSemesterId) table.tableName).length =
        table.rowCount) .databaseBackupValidation
  return (restored, manifest)

end Target

/-- One object of `restore_avatar_backup_idempotently`: created, or there already with
the same bytes. -/
def restoreAvatar (checksums : Checksums) (images : ImageStore) (objectKey : Nat)
    (content : ImageContent) : Except SemesterError ImageStore :=
  match images objectKey with
  | none => .ok (Function.update images objectKey (some content))
  | some existing => do
      ensure (checksums.image existing = checksums.image content) .avatarBackup
      return images

def restoreAvatarBackupIdempotently (checksums : Checksums) (images : ImageStore)
    (package : RestorePackage) : Except SemesterError ImageStore :=
  (package.avatars.objects.zip package.contents).foldlM
    (fun images (item, content) =>
      restoreAvatar checksums images item.reference.objectKey content) images

/-- The backup after its restore. -/
def restoredBackup (backup : SemesterBackup) (operationId adminId now : Nat) : SemesterBackup :=
  { backup with
    restoredAt := some now, restoredByAdminId := some adminId
    restoreOperationId := some operationId }

/-- The second transaction of `execute_semester_restore`. -/
def semesterRestoreFinal (env : SemesterEnvironment) (db : Database) (now : Nat)
    (images : ImageStore) (package : RestorePackage) (request : ExecutionRequest)
    (auditId : Nat) : Except SemesterError (Database × ImageStore × RestoreGate) := do
  let context ← lockedRestoreContext env db request
  let (after, gate) ← applyLockedGate db now context auditId
  if gate ≠ .ready then
    return (after, images, gate)
  let checksum ← require context.backup.databaseManifestChecksum .restoreState
  let avatarChecksum ← require context.backup.avatarManifestChecksum .restoreState
  validateSemesterBackupManifests context.backup package.database package.avatars
  let _ ← validateAvatarBackupManifest env.checksums package.avatars package.avatars.backupId
    avatarChecksum
  let images ← restoreAvatarBackupIdempotently env.checksums images package
  let (restored, manifest) ← restoreIntoTransaction env db package checksum
  ensure (manifest.rowCounts.lookup .profilePhotos = some package.avatars.objectCount)
    .restorePackage
  let summary := ResultSummary.restore context.source.id manifest.rowCounts
    package.avatars.objectCount
  let operation ← { context.operation with affectedCounts := manifest.rowCounts }.succeed now
    summary
  return ({ restored with
    backups := restored.backups.put
      (restoredBackup context.backup context.operation.id context.actor.id now)
    operations := restored.operations.put operation
    data := recordAuditLog restored.data auditId context.actor.id semesterRestoreAuditAction },
    images, .ready)

section Inversion

variable {env : SemesterEnvironment} {db after : Database} {now auditId : Nat}
  {request : ExecutionRequest} {context : RestoreContext} {gate : RestoreGate}

/-- What the locked context has established. -/
theorem lockedRestoreContext_eq_ok_iff :
    lockedRestoreContext env db request = .ok context ↔
      requireActiveAdmin env db request.adminId request.currentPassword
          .restoreAuthorization = .ok context.actor ∧
        db.operations.get? request.operationId = some context.operation ∧
        db.backups.get? request.backupId = some context.backup ∧
        context.operation.backupId = some context.backup.id ∧
        db.currentSemester? = some context.current ∧
        db.semesters.get? context.operation.semesterId = some context.source ∧
        db.operations.get? context.backup.createdByOperationId = some context.reset ∧
        request.confirmationPhrase = semesterRestoreConfirmationPhrase context.backup.id ∧
        (if context.replay = true then
          context.operation.state = .succeeded ∧
            IsCompletedRestore context.operation context.backup context.source
              context.actor.id
        else
          context.operation.state ≠ .succeeded ∧
            IsRestoreIdentityValid context.operation context.backup context.source
              context.reset context.actor.id) := by
  rcases context with ⟨actor, operation, backup, source, current, reset, replay⟩
  simp only [lockedRestoreContext, except_bind_eq_ok_iff, require_eq_ok_iff, ensure_eq_ok_iff,
    exists_const]
  constructor
  · rintro ⟨admin, hadmin, found, hoperation, kept, hbackup, hlink, now, hcurrent, from_,
      hsource, creator, hreset, hphrase, h⟩
    split at h
    · rename_i hstate
      simp only [except_bind_eq_ok_iff, ensure_eq_ok_iff, except_pure_eq_ok_iff,
        exists_const, RestoreContext.mk.injEq] at h
      obtain ⟨hcompleted, rfl, rfl, rfl, rfl, rfl, rfl, rfl⟩ := h
      exact ⟨hadmin, hoperation, hbackup, hlink, hcurrent, hsource, hreset, hphrase,
        by simp [hstate, hcompleted]⟩
    · rename_i hstate
      simp only [except_bind_eq_ok_iff, ensure_eq_ok_iff, except_pure_eq_ok_iff,
        exists_const, RestoreContext.mk.injEq] at h
      obtain ⟨hvalid, rfl, rfl, rfl, rfl, rfl, rfl, rfl⟩ := h
      exact ⟨hadmin, hoperation, hbackup, hlink, hcurrent, hsource, hreset, hphrase,
        by simp [hstate, hvalid]⟩
  · rintro ⟨hadmin, hoperation, hbackup, hlink, hcurrent, hsource, hreset, hphrase, hkind⟩
    refine ⟨actor, hadmin, operation, hoperation, backup, hbackup, hlink, current, hcurrent,
      source, hsource, reset, hreset, hphrase, ?_⟩
    cases replay with
    | true =>
        simp only [↓reduceIte] at hkind
        rw [if_pos hkind.1, ensure_of_true _ hkind.2]
        rfl
    | false =>
        simp only [Bool.false_eq_true, ↓reduceIte] at hkind
        rw [if_neg hkind.1, ensure_of_true _ hkind.2]
        rfl

/-- What the gate commits. -/
inductive GateCommit (db : Database) (now auditId : Nat) (context : RestoreContext) :
    Database → RestoreGate → Prop
  | replay (hreplay : context.replay = true) : GateCommit db now auditId context db .replay
  | blocked (hreplay : context.replay = false) (hstudents : context.current.HasNewStudents)
      (hready : context.backup.state = .ready)
      (hrunning : context.operation.state = .running ∨
        context.operation.state = .requested) :
      GateCommit db now auditId context { db with
        backups := db.backups.put { context.backup with state := .restoreBlockedNewData }
        operations := db.operations.put { context.operation with
          completedAt := some now, failureCode := some .restoreBlockedNewData
          state := .failed }
        data := recordAuditLog db.data auditId context.actor.id
          semesterRestoreAuditAction } .blocked
  | expired (effectiveState : SemesterBackupState) (hreplay : context.replay = false)
      (hstudents : ¬ context.current.HasNewStudents)
      (heffective : context.backup.effectiveState now = .ok effectiveState)
      (hnotReady : effectiveState ≠ .ready)
      (hedge : context.backup.state = .ready ∨
        context.backup.state = .restoreBlockedNewData)
      (hrunning : context.operation.state = .running ∨
        context.operation.state = .requested) :
      GateCommit db now auditId context { db with
        backups := db.backups.put { context.backup with state := .expired }
        operations := db.operations.put { context.operation with
          completedAt := some now, failureCode := some .restoreBackupExpired
          state := .failed } } .expired
  | ready (hreplay : context.replay = false) (hstudents : ¬ context.current.HasNewStudents)
      (heffective : context.backup.effectiveState now = .ok .ready) :
      GateCommit db now auditId context db .ready

theorem GateCommit.of_ready (h : GateCommit db now auditId context after .ready) :
    after = db ∧ context.replay = false ∧ ¬ context.current.HasNewStudents ∧
      context.backup.effectiveState now = .ok .ready := by
  cases h with
  | ready hreplay hstudents heffective => exact ⟨rfl, hreplay, hstudents, heffective⟩

theorem applyLockedGate_eq_ok_iff :
    applyLockedGate db now context auditId = .ok (after, gate) ↔
      GateCommit db now auditId context after gate := by
  constructor
  · intro h
    unfold applyLockedGate at h
    split at h
    · rename_i hreplay
      obtain ⟨rfl, rfl⟩ := Prod.mk.inj (except_pure_eq_ok_iff.mp h)
      exact .replay hreplay
    rename_i hreplay
    split at h
    · rename_i hstudents
      simp only [except_bind_eq_ok_iff, except_pure_eq_ok_iff, Prod.mk.injEq,
        SemesterBackup.transitionTo_eq_ok_iff,
        SemesterOperation.fail_eq_ok_iff, SemesterBackup.blocked_mem_allowedTransitions_iff] at h
      obtain ⟨_, ⟨hready, rfl⟩, _, ⟨hrunning, rfl⟩, rfl, rfl⟩ := h
      exact .blocked (by simpa using hreplay) hstudents hready hrunning
    rename_i hstudents
    simp only [except_bind_eq_ok_iff] at h
    obtain ⟨effectiveState, heffective, h⟩ := h
    split at h
    · rename_i hnotReady
      simp only [except_bind_eq_ok_iff, except_pure_eq_ok_iff, Prod.mk.injEq,
        SemesterBackup.transitionTo_eq_ok_iff,
        SemesterOperation.fail_eq_ok_iff, SemesterBackup.expired_mem_allowedTransitions_iff] at h
      obtain ⟨_, ⟨hedge, rfl⟩, _, ⟨hrunning, rfl⟩, rfl, rfl⟩ := h
      exact .expired effectiveState (by simpa using hreplay) hstudents heffective hnotReady
        hedge hrunning
    · rename_i hready
      obtain ⟨rfl, rfl⟩ := Prod.mk.inj (except_pure_eq_ok_iff.mp h)
      have hstate : effectiveState = .ready := by simpa using hready
      exact .ready (by simpa using hreplay) hstudents (hstate ▸ heffective)
  · intro h
    cases h with
    | replay hreplay => simp [applyLockedGate, hreplay, pure, Except.pure]
    | blocked hreplay hstudents hready hrunning =>
        simp only [applyLockedGate, hreplay, Bool.false_eq_true, if_false, if_pos hstudents,
          except_bind_eq_ok_iff, except_pure_eq_ok_iff,
          SemesterBackup.transitionTo_eq_ok_iff,
          SemesterOperation.fail_eq_ok_iff, SemesterBackup.blocked_mem_allowedTransitions_iff]
        exact ⟨_, ⟨hready, rfl⟩, _, ⟨hrunning, rfl⟩, rfl⟩
    | expired effectiveState hreplay hstudents heffective hnotReady hedge hrunning =>
        simp only [applyLockedGate, hreplay, Bool.false_eq_true, if_false, if_neg hstudents,
          except_bind_eq_ok_iff]
        refine ⟨effectiveState, heffective, ?_⟩
        rw [if_pos hnotReady]
        simp only [except_bind_eq_ok_iff, except_pure_eq_ok_iff,
          SemesterBackup.transitionTo_eq_ok_iff,
          SemesterOperation.fail_eq_ok_iff, SemesterBackup.expired_mem_allowedTransitions_iff]
        exact ⟨_, ⟨hedge, rfl⟩, _, ⟨hrunning, rfl⟩, rfl⟩
    | ready hreplay hstudents heffective =>
        simp only [applyLockedGate, hreplay, Bool.false_eq_true, if_false, if_neg hstudents,
          except_bind_eq_ok_iff]
        exact ⟨.ready, heffective, by simp [pure, Except.pure]⟩

theorem semesterRestoreGate_eq_ok_iff :
    semesterRestoreGate env db now request auditId = .ok (after, gate) ↔
      ∃ context, lockedRestoreContext env db request = .ok context ∧
        GateCommit db now auditId context after gate := by
  simp only [semesterRestoreGate, except_bind_eq_ok_iff, applyLockedGate_eq_ok_iff]

theorem restoreIntoTransaction_spec {package : RestorePackage} {checksum : String}
    {manifest : DatabaseManifest}
    (h : restoreIntoTransaction env db package checksum = .ok (after, manifest)) :
    after = { db with data := db.data.insertRows package.artifact } ∧ after.Integrity ∧
      manifest = package.database ∧
      validateRestoreTarget env db manifest semesterRestoreCompatibleManifestHeads
        semesterRestoreAlembicHead = .ok () := by
  simp only [restoreIntoTransaction, except_bind_eq_ok_iff, ensure_eq_ok_iff,
    except_pure_eq_ok_iff, exists_const, Prod.mk.injEq] at h
  obtain ⟨valid, hvalid, _, htarget, hintegrity, _, rfl, rfl⟩ := h
  obtain ⟨hmanifest, _⟩ := validateDatabaseBackupPackage_eq_ok_iff.mp hvalid
  obtain ⟨rfl, _⟩ := validateDatabaseBackupManifest_eq_ok_iff.mp hmanifest
  exact ⟨rfl, hintegrity, rfl, htarget⟩

/-- The second transaction commits its gate, or the whole restore. -/
theorem semesterRestoreFinal_spec {images restoredImages : ImageStore}
    {package : RestorePackage}
    (h : semesterRestoreFinal env db now images package request auditId =
      .ok (after, restoredImages, gate)) :
    ∃ context, lockedRestoreContext env db request = .ok context ∧
      (GateCommit db now auditId context after gate ∧ gate ≠ .ready ∨
        gate = .ready ∧ context.replay = false ∧ ¬ context.current.HasNewStudents ∧
        context.backup.effectiveState now = .ok .ready ∧
        ∃ counts summary, { db with data := db.data.insertRows package.artifact }.Integrity ∧
          validateRestoreTarget env db package.database semesterRestoreCompatibleManifestHeads
            semesterRestoreAlembicHead = .ok () ∧
          context.operation.state = .running ∧
          after = { db with
            backups := db.backups.put
              (restoredBackup context.backup context.operation.id context.actor.id now)
            operations := db.operations.put { context.operation with
              affectedCounts := counts, completedAt := some now, resultSummary := summary
              failureCode := none, state := .succeeded }
            data := recordAuditLog (db.data.insertRows package.artifact) auditId
              context.actor.id semesterRestoreAuditAction }) := by
  simp only [semesterRestoreFinal, except_bind_eq_ok_iff] at h
  obtain ⟨context, hcontext, ⟨gated, decision⟩, happlied, h⟩ := h
  have hgate := applyLockedGate_eq_ok_iff.mp happlied
  refine ⟨context, hcontext, ?_⟩
  simp only at h
  split at h
  · rename_i hdecision
    simp only [except_pure_eq_ok_iff, Prod.mk.injEq] at h
    obtain ⟨rfl, rfl, rfl⟩ := h
    exact Or.inl ⟨hgate, hdecision⟩
  · rename_i hdecision
    have hready : decision = .ready := by simpa using hdecision
    subst hready
    obtain ⟨rfl, hreplay, hstudents, heffective⟩ := hgate.of_ready
    simp only [except_bind_eq_ok_iff, except_pure_eq_ok_iff, ensure_eq_ok_iff, Prod.mk.injEq,
      SemesterOperation.succeed_eq_ok_iff, exists_const] at h
    obtain ⟨_, _, _, _, _, _, _, _, _, _, ⟨restored, manifest⟩, hrestore, _, _,
      ⟨hrunning, rfl⟩, rfl, rfl, rfl⟩ := h
    obtain ⟨rfl, hintegrity, rfl, htarget⟩ := restoreIntoTransaction_spec hrestore
    exact Or.inr ⟨rfl, hreplay, hstudents, heffective, _, _, hintegrity, htarget, hrunning, rfl⟩

end Inversion

end BuddyWeb
