/-
`execute_semester_reset` up to its commit: the locked context, the verified
manifests, the comparison with a fresh snapshot, the deletion of the avatars and
of the cohort, and the audit entry.
-/
import BuddyWeb.Semester.ResetFunction

namespace BuddyWeb

/-- The deployed code and its password hashing. -/
structure SemesterEnvironment where
  adapter : BackupAdapter
  verifyPassword : String → String → Bool

namespace SemesterEnvironment

abbrev checksums (env : SemesterEnvironment) : Checksums := env.adapter.checksums

end SemesterEnvironment

/-- The arguments of one reset or restore execution. -/
structure ExecutionRequest where
  operationId : Nat
  backupId : Nat
  adminId : Nat
  currentPassword : String
  confirmationPhrase : String
  deriving DecidableEq, Repr

def semesterResetConfirmationPhrase (semesterId : Nat) : String :=
  "RESET " ++ toString semesterId

/-- The step-up check of the acting administrator, shared by reset and restore. -/
def requireActiveAdmin (env : SemesterEnvironment) (db : Database) (adminId : Nat)
    (currentPassword : String) (error : SemesterError) : Except SemesterError UserRow := do
  let actor ← require (db.data.users.find? fun user => user.id == adminId) error
  ensure (actor.role = .admin ∧ actor.isActive = true ∧ actor.deletedAt = none) error
  ensure (env.verifyPassword currentPassword actor.passwordHash = true) error
  return actor

/-- `_is_reset_execution_eligible`: the complete pre-delete gate. -/
def IsResetExecutionEligible (operation : SemesterOperation) (backup : SemesterBackup)
    (semester : Semester) (adminId : Nat) : Prop :=
  operation.operationType = .reset ∧ operation.state = .running ∧
    operation.adminActorId = adminId ∧ operation.semesterId = semester.id ∧
    operation.backupId = some backup.id ∧ semester.status = .current ∧
    semester.resetOperationId = none ∧ backup.createdByOperationId = operation.id ∧
    backup.sourceSemesterId = semester.id ∧ backup.sourceBoundaryAt = semester.startedAt ∧
    backup.state = .creating ∧ backup.verifiedAt ≠ none ∧ backup.expiresAt = none ∧
    backup.failureCode = none ∧ backup.databaseManifestLocation ≠ none ∧
    backup.databaseManifestChecksum ≠ none ∧ backup.avatarManifestLocation ≠ none ∧
    backup.avatarManifestChecksum ≠ none

instance (operation : SemesterOperation) (backup : SemesterBackup) (semester : Semester)
    (adminId : Nat) :
    Decidable (IsResetExecutionEligible operation backup semester adminId) := by
  unfold IsResetExecutionEligible
  infer_instance

/-- The metadata of a completed reset, as a replay expects it. -/
def IsCompletedReset (operation : SemesterOperation) (backup : SemesterBackup)
    (semester : Semester) (adminId : Nat) : Prop :=
  operation.operationType = .reset ∧ operation.adminActorId = adminId ∧
    operation.backupId = some backup.id ∧ semester.status = .closed ∧
    semester.resetOperationId = some operation.id ∧
    (backup.state = .creating ∨ backup.state = .ready)

instance (operation : SemesterOperation) (backup : SemesterBackup) (semester : Semester)
    (adminId : Nat) : Decidable (IsCompletedReset operation backup semester adminId) := by
  unfold IsCompletedReset
  infer_instance

/-- What `_locked_reset_context` returns: the rows and whether this is a replay. -/
structure ResetContext where
  actor : UserRow
  operation : SemesterOperation
  backup : SemesterBackup
  semester : Semester
  replay : Bool

def lockedResetContext (env : SemesterEnvironment) (db : Database)
    (request : ExecutionRequest) : Except SemesterError ResetContext := do
  let actor ← requireActiveAdmin env db request.adminId request.currentPassword
    .resetAuthorization
  let operation ← require (db.operations.get? request.operationId) .resetState
  let backup ← require (db.backups.get? request.backupId) .resetState
  let semester ← require (db.semesters.get? operation.semesterId) .resetAuthorization
  ensure (request.confirmationPhrase = semesterResetConfirmationPhrase semester.id)
    .resetAuthorization
  if operation.state = .succeeded then
    ensure (IsCompletedReset operation backup semester actor.id) .resetState
    return ⟨actor, operation, backup, semester, true⟩
  ensure (IsResetExecutionEligible operation backup semester actor.id) .resetState
  return ⟨actor, operation, backup, semester, false⟩

/-- The manifests of a verified backup, read again from storage. -/
def loadVerifiedManifests (env : SemesterEnvironment) (backup : SemesterBackup)
    (stored : StoredPackage) : Except SemesterError (DatabaseManifest × AvatarManifest) := do
  let databaseChecksum ← require backup.databaseManifestChecksum .resetState
  let avatarChecksum ← require backup.avatarManifestChecksum .resetState
  let database ← require stored.databaseManifest .resetSnapshot
  let avatars ← require stored.avatarManifest .resetSnapshot
  let database ← validateDatabaseBackupManifest env.checksums database backup.id
    databaseChecksum
  let avatars ← validateAvatarBackupManifest env.checksums avatars backup.id avatarChecksum
  validateSemesterBackupManifests backup database avatars
  return (database, avatars)

/-- The image objects of the application by their key. -/
abbrev ImageStore : Type := Nat → Option ImageContent

/-- The avatars of a manifest are gone; a missing one counts as deleted. -/
def deleteManagedAvatars (images : ImageStore) (objectKeys : List Nat) : ImageStore :=
  fun key => if key ∈ objectKeys then none else images key

/-- An audit entry of an administrator. -/
def recordAuditLog (data : Dataset) (auditId adminId : Nat) (action : String) : Dataset :=
  { data with
    auditLogs := { id := auditId, userIds := [adminId], rest := action } :: data.auditLogs }

/-- An audit entry names an administrator, whom no workflow deletes. -/
theorem recordAuditLog_integrity {data : Dataset} (hintegrity : data.Integrity)
    {actor : UserRow} (hactor : actor ∈ data.users) (hrole : actor.role = .admin)
    (auditId : Nat) (action : String) :
    (recordAuditLog data auditId actor.id action).Integrity where
  user_keys := hintegrity.user_keys
  foreign_keys := hintegrity.foreign_keys
  role_semester := hintegrity.role_semester
  match_semester := hintegrity.match_semester
  match_profiles := hintegrity.match_profiles
  match_invitation := hintegrity.match_invitation
  conversation_semester := hintegrity.conversation_semester
  message_sender := hintegrity.message_sender
  invitation_semester := hintegrity.invitation_semester
  retained_users := fun user huser hrestricted => by
    by_cases hsame : user.id = actor.id
    · rwa [List.inj_on_of_nodup_map hintegrity.user_keys huser hactor hsame]
    · refine hintegrity.retained_users user huser ?_
      simpa [recordAuditLog, Dataset.restrictedUserIds, List.mem_flatMap, hsame] using
        hrestricted

def semesterResetAuditAction : String := "semester.reset_execute"

/-- The values which the database chooses while a reset runs. -/
structure ResetClock where
  now : Nat
  newSemesterId : Nat
  auditId : Nat
  deriving DecidableEq, Repr

/-- The comparison of the backup with a fresh export. -/
def checkCurrentSnapshot (env : SemesterEnvironment) (db : Database) (clock : ResetClock)
    (backup : SemesterBackup) (semester : Semester) (database : DatabaseManifest) :
    Except SemesterError PUnit :=
  validateCurrentSnapshot database
    (env.adapter.export db.data db.alembicHead clock.now backup.id semester.id
      semester.startedAt .privateVerification).1

/-- What the transaction of a reset execution commits. -/
structure ResetCommit where
  database : Database
  summary : ResultSummary
  replay : Bool

/-- Where a reset transaction may fail for a reason outside its own checks. -/
inductive ResetStage
  | barrier
  | manifests
  | export
  | avatars
  | sql
  | audit
  | commit
  deriving DecidableEq, Repr

/-- The transaction of `execute_semester_reset`, with a failure at one stage. -/
def executeSemesterReset (env : SemesterEnvironment) (db : Database) (stored : StoredPackage)
    (request : ExecutionRequest) (clock : ResetClock) (fault : Option ResetStage) :
    Except SemesterError ResetCommit := do
  ensure (fault ≠ some .barrier) .resetBusy
  let context ← lockedResetContext env db request
  if context.replay = true then
    ensure (fault ≠ some .commit) .integrity
    return ⟨db, context.operation.resultSummary, true⟩
  ensure (fault ≠ some .manifests) .resetSnapshot
  let (database, avatars) ← loadVerifiedManifests env context.backup stored
  ensure (fault ≠ some .export) .databaseBackup
  checkCurrentSnapshot env db clock context.backup context.semester database
  ensure (fault ≠ some .avatars) .resetStorage
  ensure (fault ≠ some .sql) .integrity
  let (after, summary) ← executeSemesterResetSql db context.operation.id context.backup.id
    context.actor.id avatars.objects.length clock.now clock.newSemesterId
  ensure (fault ≠ some .audit) .integrity
  ensure (fault ≠ some .commit) .integrity
  return ⟨{ after with
    data := recordAuditLog after.data clock.auditId context.actor.id semesterResetAuditAction },
    summary, false⟩

/-- A transaction which fails leaves the database as it was. -/
def Database.afterReset (db : Database) : Except SemesterError ResetCommit → Database
  | .ok committed => committed.database
  | .error _ => db

section Inversion

variable {env : SemesterEnvironment} {db : Database} {request : ExecutionRequest}

/-- What a successful step-up check has established. -/
theorem requireActiveAdmin_eq_ok_iff {adminId : Nat} {password : String}
    {error : SemesterError} {actor : UserRow} :
    requireActiveAdmin env db adminId password error = .ok actor ↔
      (db.data.users.find? fun user => user.id == adminId) = some actor ∧
        (actor.role = .admin ∧ actor.isActive = true ∧ actor.deletedAt = none) ∧
        env.verifyPassword password actor.passwordHash = true := by
  simp only [requireActiveAdmin, except_bind_eq_ok_iff, require_eq_ok_iff, ensure_eq_ok_iff,
    except_pure_eq_ok_iff, exists_const]
  constructor
  · rintro ⟨found, hfind, hadmin, hpassword, rfl⟩
    exact ⟨hfind, hadmin, hpassword⟩
  · rintro ⟨hfind, hadmin, hpassword⟩
    exact ⟨actor, hfind, hadmin, hpassword, rfl⟩

/-- What the locked context has established. -/
theorem lockedResetContext_eq_ok_iff {context : ResetContext} :
    lockedResetContext env db request = .ok context ↔
      requireActiveAdmin env db request.adminId request.currentPassword
          .resetAuthorization = .ok context.actor ∧
        db.operations.get? request.operationId = some context.operation ∧
        db.backups.get? request.backupId = some context.backup ∧
        db.semesters.get? context.operation.semesterId = some context.semester ∧
        request.confirmationPhrase = semesterResetConfirmationPhrase context.semester.id ∧
        (if context.replay = true then
          context.operation.state = .succeeded ∧
            IsCompletedReset context.operation context.backup context.semester context.actor.id
        else
          context.operation.state ≠ .succeeded ∧
            IsResetExecutionEligible context.operation context.backup context.semester
              context.actor.id) := by
  rcases context with ⟨actor, operation, backup, semester, replay⟩
  simp only [lockedResetContext, except_bind_eq_ok_iff, require_eq_ok_iff, ensure_eq_ok_iff,
    exists_const]
  constructor
  · rintro ⟨admin, hadmin, found, hoperation, kept, hbackup, source, hsemester, hphrase, h⟩
    split at h
    · rename_i hstate
      simp only [except_bind_eq_ok_iff, ensure_eq_ok_iff, except_pure_eq_ok_iff,
        exists_const, ResetContext.mk.injEq] at h
      obtain ⟨hcompleted, rfl, rfl, rfl, rfl, rfl⟩ := h
      exact ⟨hadmin, hoperation, hbackup, hsemester, hphrase, by simp [hstate, hcompleted]⟩
    · rename_i hstate
      simp only [except_bind_eq_ok_iff, ensure_eq_ok_iff, except_pure_eq_ok_iff,
        exists_const, ResetContext.mk.injEq] at h
      obtain ⟨heligible, rfl, rfl, rfl, rfl, rfl⟩ := h
      exact ⟨hadmin, hoperation, hbackup, hsemester, hphrase, by simp [hstate, heligible]⟩
  · rintro ⟨hadmin, hoperation, hbackup, hsemester, hphrase, hkind⟩
    refine ⟨actor, hadmin, operation, hoperation, backup, hbackup, semester, hsemester,
      hphrase, ?_⟩
    cases replay with
    | true =>
        simp only [↓reduceIte] at hkind
        rw [if_pos hkind.1, ensure_of_true _ hkind.2]
        rfl
    | false =>
        simp only [Bool.false_eq_true, ↓reduceIte] at hkind
        rw [if_neg hkind.1, ensure_of_true _ hkind.2]
        rfl

/-- What loading the verified manifests has established. -/
theorem loadVerifiedManifests_eq_ok_iff {backup : SemesterBackup} {stored : StoredPackage}
    {database : DatabaseManifest} {avatars : AvatarManifest} :
    loadVerifiedManifests env backup stored = .ok (database, avatars) ↔
      (∃ checksum, backup.databaseManifestChecksum = some checksum ∧
        stored.databaseManifest = some database ∧
        validateDatabaseBackupManifest env.checksums database backup.id checksum =
          .ok database) ∧
      (∃ checksum, backup.avatarManifestChecksum = some checksum ∧
        stored.avatarManifest = some avatars ∧
        validateAvatarBackupManifest env.checksums avatars backup.id checksum =
          .ok avatars) ∧
      PackageLinked backup database avatars := by
  simp only [loadVerifiedManifests, validateSemesterBackupManifests, except_bind_eq_ok_iff,
    require_eq_ok_iff, ensure_eq_ok_iff, except_pure_eq_ok_iff, exists_const, Prod.mk.injEq,
    validateDatabaseBackupManifest_eq_ok_iff, validateAvatarBackupManifest_eq_ok_iff]
  constructor
  · rintro ⟨databaseChecksum, hdatabase, avatarChecksum, havatars, storedDatabase,
      hstoredDatabase, storedAvatars, hstoredAvatars, _, ⟨rfl, hvalidDatabase⟩, _,
      ⟨rfl, hvalidAvatars⟩, hlinked, rfl, rfl⟩
    exact ⟨⟨databaseChecksum, hdatabase, hstoredDatabase, trivial, hvalidDatabase⟩,
      ⟨avatarChecksum, havatars, hstoredAvatars, trivial, hvalidAvatars⟩, hlinked⟩
  · rintro ⟨⟨databaseChecksum, hdatabase, hstoredDatabase, _, hvalidDatabase⟩,
      ⟨avatarChecksum, havatars, hstoredAvatars, _, hvalidAvatars⟩, hlinked⟩
    exact ⟨databaseChecksum, hdatabase, avatarChecksum, havatars, database,
      hstoredDatabase, avatars, hstoredAvatars, database, ⟨rfl, hvalidDatabase⟩, avatars,
      ⟨rfl, hvalidAvatars⟩, hlinked, rfl, rfl⟩

end Inversion

end BuddyWeb
