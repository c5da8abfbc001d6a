/-
Verification of a complete backup, and the expiry of one whose retention has
elapsed: exact artifact cleanup first, the state afterwards.
-/
import BuddyWeb.Semester.BackupCreation

namespace BuddyWeb

/-- The result of one verification. -/
structure SemesterBackupVerificationReport where
  backupId : Nat
  persistedState : SemesterBackupState
  effectiveState : SemesterBackupState
  verifiedAt : Option Nat
  expiresAt : Option Nat
  databaseRows : Nat
  avatarObjects : Nat
  newlyVerified : Bool
  newlyReady : Bool
  deriving DecidableEq, Repr

/-- `_report`. -/
def verificationReport (backup : SemesterBackup) (now : Nat) (newlyVerified newlyReady : Bool) :
    Except SemesterError SemesterBackupVerificationReport := do
  let effectiveState ← backup.effectiveState now
  return { backupId := backup.id, persistedState := backup.state, effectiveState
           verifiedAt := backup.verifiedAt, expiresAt := backup.expiresAt
           databaseRows := (backup.databaseRowCounts.map (·.2)).sum
           avatarObjects := backup.avatarObjectCount, newlyVerified, newlyReady }

/-- The creating operation allows verification. -/
def IsVerificationEligible (operation : SemesterOperation) (backup : SemesterBackup) : Prop :=
  operation.operationType = .reset ∧ operation.semesterId = backup.sourceSemesterId ∧
    (operation.state = .running ∨ operation.state = .succeeded) ∧
    (operation.backupId = none ∨ operation.backupId = some backup.id) ∧
    (operation.state = .succeeded → operation.backupId = some backup.id)

instance (operation : SemesterOperation) (backup : SemesterBackup) :
    Decidable (IsVerificationEligible operation backup) := by
  unfold IsVerificationEligible
  infer_instance

/-- `_assert_database_compatibility`: the live server and migration head. -/
def DatabaseCompatible (env : SemesterEnvironment) (db : Database)
    (manifest : DatabaseManifest) : Prop :=
  env.adapter.serverMajor = manifest.compatibility.requiredTargetPostgresqlMajor ∧
    db.alembicHead = manifest.compatibility.requiredAlembicHead

instance (env : SemesterEnvironment) (db : Database) (manifest : DatabaseManifest) :
    Decidable (DatabaseCompatible env db manifest) := by
  unfold DatabaseCompatible
  infer_instance

/-- Both stored packages load, belong together and fit the database. -/
def verifyPackages (env : SemesterEnvironment) (db : Database) (backup : SemesterBackup)
    (stored : StoredPackage) : Except SemesterError Unit := do
  let (databaseChecksum, avatarChecksum) ← requireAttachedPackage backup
  let (database, _) ← loadDatabaseBackupFromStorage env.checksums stored backup.id
    databaseChecksum
  let (avatars, _) ← loadAvatarBackupFromStorage env.checksums stored backup.id avatarChecksum
  validateSemesterBackupManifests backup database avatars
  ensure (DatabaseCompatible env db database) .verificationPackage

/-- The backup after its packages were accepted: READY once its reset succeeded. -/
def finalizeVerification (backup : SemesterBackup) (operation : SemesterOperation) (now : Nat) :
    Except SemesterError SemesterBackup := do
  let backup := { backup with verifiedAt := backup.verifiedAt.or (some now) }
  if operation.state = .succeeded then
    let completedAt ← require operation.completedAt .verificationState
    let expiresAt := semesterBackupExpiresAt completedAt
    ensure (now < expiresAt) .verificationPackage
    { backup with expiresAt := some expiresAt }.transitionTo .ready
  else
    return backup

/-- `verify_semester_backup` up to its commit.  `fault` stands for a read of the
database, the clock or the storage which fails. -/
def verifySemesterBackup (env : SemesterEnvironment) (db : Database) (now : Nat) (busy : Bool)
    (stored : StoredPackage) (backupId : Nat) (fault : Bool) :
    Except SemesterError (Database × SemesterBackupVerificationReport) := do
  ensure (busy = false) .verificationBusy
  ensure (fault = false) .verificationPackage
  let backup ← require (db.backups.get? backupId) .verificationState
  if backup.state = .ready ∨ backup.state = .restoreBlockedNewData ∨ backup.state = .expired then
    let report ← verificationReport backup now false false
    return (db, report)
  ensure (backup.state ≠ .failed) .verificationState
  let _ ← requireAttachedPackage backup
  let operation ← require (db.operations.get? backup.createdByOperationId) .verificationState
  ensure (IsVerificationEligible operation backup) .verificationState
  verifyPackages env db backup stored
  let verified ← finalizeVerification backup operation now
  let operations := if operation.backupId = none then
    db.operations.put { operation with backupId := some backup.id } else db.operations
  let report ← verificationReport verified now backup.verifiedAt.isNone
    (operation.state = .succeeded)
  return ({ db with backups := db.backups.put verified, operations }, report)

section Inversion

variable {env : SemesterEnvironment} {db after : Database} {now : Nat} {busy fault : Bool}
  {stored : StoredPackage} {backupId : Nat} {report : SemesterBackupVerificationReport}
  {backup verified : SemesterBackup} {operation : SemesterOperation}

/-- A backup whose reset is still running only gets its verification time. -/
theorem finalizeVerification_of_running (hstate : operation.state ≠ .succeeded) :
    finalizeVerification backup operation now =
      .ok { backup with verifiedAt := backup.verifiedAt.or (some now) } := by
  simp [finalizeVerification, hstate, pure, Except.pure]

/-- A backup whose reset has succeeded becomes READY before its deadline. -/
theorem finalizeVerification_eq_ok_iff (hstate : operation.state = .succeeded) :
    finalizeVerification backup operation now = .ok verified ↔
      ∃ completedAt, operation.completedAt = some completedAt ∧
        now < semesterBackupExpiresAt completedAt ∧ backup.state = .creating ∧
        verified = { backup with
          verifiedAt := backup.verifiedAt.or (some now)
          expiresAt := some (semesterBackupExpiresAt completedAt), state := .ready } := by
  have hedge : SemesterBackupState.ready ∈ SemesterBackup.allowedTransitions backup.state ↔
      backup.state = .creating := by
    cases backup.state <;> decide
  simp only [finalizeVerification, if_pos hstate, except_bind_eq_ok_iff, require_eq_ok_iff,
    ensure_eq_ok_iff, SemesterBackup.transitionTo_eq_ok_iff, exists_const]
  constructor
  · rintro ⟨completedAt, hcompleted, hdeadline, hcreating, rfl⟩
    exact ⟨completedAt, hcompleted, hdeadline, hedge.mp hcreating, rfl⟩
  · rintro ⟨completedAt, hcompleted, hdeadline, hcreating, rfl⟩
    exact ⟨completedAt, hcompleted, hdeadline, hedge.mpr hcreating, rfl⟩

/-- The commit of a verification: it only reports on a finalized backup, and accepts
both packages of a CREATING one. -/
theorem verifySemesterBackup_spec
    (h : verifySemesterBackup env db now busy stored backupId fault = .ok (after, report)) :
    busy = false ∧ ∃ backup, db.backups.get? backupId = some backup ∧
      (after = db ∧ backup.state ≠ .creating ∨
        ∃ operation verified, backup.state = .creating ∧
          db.operations.get? backup.createdByOperationId = some operation ∧
          IsVerificationEligible operation backup ∧
          verifyPackages env db backup stored = .ok () ∧
          finalizeVerification backup operation now = .ok verified ∧
          after = { db with
            backups := db.backups.put verified
            operations := if operation.backupId = none then
              db.operations.put { operation with backupId := some backup.id }
            else db.operations }) := by
  simp only [verifySemesterBackup, except_bind_eq_ok_iff, require_eq_ok_iff, ensure_eq_ok_iff,
    exists_const] at h
  obtain ⟨hbusy, _, backup, hbackup, h⟩ := h
  refine ⟨hbusy, backup, hbackup, ?_⟩
  split at h
  · rename_i hfinal
    simp only [except_bind_eq_ok_iff, except_pure_eq_ok_iff, Prod.mk.injEq] at h
    obtain ⟨_, _, rfl, _⟩ := h
    exact Or.inl ⟨rfl, by rcases hfinal with hstate | hstate | hstate <;> simp [hstate]⟩
  · rename_i hopen
    simp only [except_bind_eq_ok_iff, require_eq_ok_iff, ensure_eq_ok_iff,
      except_pure_eq_ok_iff, Prod.mk.injEq, exists_const] at h
    obtain ⟨hfailed, _, _, operation, hoperation, heligible, _, hpackages, verified, hverified,
      _, _, rfl, _⟩ := h
    refine Or.inr ⟨operation, verified, ?_, hoperation, heligible, hpackages, hverified, rfl⟩
    cases hstate : backup.state <;> simp_all

/-- A CREATING backup with packages which load, belong together and fit is verified. -/
theorem verifySemesterBackup_eq_ok (hbackup : db.backups.get? backupId = some backup)
    (hcreating : backup.state = .creating)
    (hoperation : db.operations.get? backup.createdByOperationId = some operation)
    (heligible : IsVerificationEligible operation backup)
    (hpackages : verifyPackages env db backup stored = .ok ())
    (hverified : finalizeVerification backup operation now = .ok verified)
    (hexpires : verified.state = .ready → verified.expiresAt ≠ none) :
    ∃ report, verifySemesterBackup env db now false stored backupId false =
      .ok ({ db with
        backups := db.backups.put verified
        operations := if operation.backupId = none then
          db.operations.put { operation with backupId := some backup.id }
        else db.operations }, report) := by
  have hattached : ∃ checksums, requireAttachedPackage backup = .ok checksums := by
    simp only [verifyPackages, except_bind_eq_ok_iff] at hpackages
    obtain ⟨checksums, hchecksums, _⟩ := hpackages
    exact ⟨checksums, hchecksums⟩
  obtain ⟨checksums, hchecksums⟩ := hattached
  have hstate : verified.state = .creating ∨ verified.state = .ready := by
    by_cases hsucceeded : operation.state = .succeeded
    · obtain ⟨_, _, _, _, rfl⟩ := (finalizeVerification_eq_ok_iff hsucceeded).mp hverified
      exact Or.inr rfl
    · rw [finalizeVerification_of_running hsucceeded] at hverified
      obtain rfl := Except.ok.inj hverified
      exact Or.inl hcreating
  have hreport : ∃ report, verificationReport verified now backup.verifiedAt.isNone
      (operation.state = .succeeded) = .ok report := by
    rcases hstate with hcreatingStill | hready
    · simp [verificationReport, SemesterBackup.effectiveState, hcreatingStill]
    · obtain ⟨deadline, hdeadline⟩ := Option.ne_none_iff_exists'.mp (hexpires hready)
      simp [verificationReport, SemesterBackup.effectiveState, hready, hdeadline]
  obtain ⟨report, hreport⟩ := hreport
  refine ⟨report, ?_⟩
  simp only [verifySemesterBackup, except_bind_eq_ok_iff, require_eq_ok_iff, ensure_eq_ok_iff,
    exists_const]
  refine ⟨trivial, trivial, backup, hbackup, ?_⟩
  rw [if_neg (by simp [hcreating])]
  simp only [except_bind_eq_ok_iff, require_eq_ok_iff, ensure_eq_ok_iff,
    except_pure_eq_ok_iff, exists_const]
  exact ⟨by simp [hcreating], checksums, hchecksums, operation, hoperation, heligible,
    _, hpackages, verified, hverified, report, hreport, rfl⟩

/-- What accepting both packages has established. -/
theorem verifyPackages_eq_ok_iff {result : Unit} :
    verifyPackages env db backup stored = .ok result ↔
      ∃ databaseChecksum avatarChecksum database artifact avatars contents,
        requireAttachedPackage backup = .ok (databaseChecksum, avatarChecksum) ∧
        loadDatabaseBackupFromStorage env.checksums stored backup.id databaseChecksum =
          .ok (database, artifact) ∧
        loadAvatarBackupFromStorage env.checksums stored backup.id avatarChecksum =
          .ok (avatars, contents) ∧
        PackageLinked backup database avatars ∧ DatabaseCompatible env db database := by
  simp only [verifyPackages, validateSemesterBackupManifests, except_bind_eq_ok_iff,
    ensure_eq_ok_iff, exists_const, Prod.exists]
  constructor
  · rintro ⟨databaseChecksum, avatarChecksum, hattached, database, artifact, hdatabase, avatars,
      contents, havatars, hlinked, hfits⟩
    exact ⟨databaseChecksum, avatarChecksum, database, artifact, avatars, contents, hattached,
      hdatabase, havatars, hlinked, hfits⟩
  · rintro ⟨databaseChecksum, avatarChecksum, database, artifact, avatars, contents, hattached,
      hdatabase, havatars, hlinked, hfits⟩
    exact ⟨databaseChecksum, avatarChecksum, hattached, database, artifact, hdatabase, avatars,
      contents, havatars, hlinked, hfits⟩

end Inversion

/-- `mark_semester_backup_failed`. -/
def markSemesterBackupFailed (db : Database) (backupId : Nat) (failureCode : FailureCode) :
    Database :=
  match db.backups.get? backupId with
  | none => db
  | some backup =>
      if backup.state = .creating then
        { db with backups :=
            db.backups.put { backup with failureCode := some failureCode, state := .failed } }
      else db

section Expiry

/-- The backups whose retention has elapsed, in the order of the batch. -/
def dueBackups (db : Database) (now : Nat) (skipped : List Nat) : List SemesterBackup :=
  (db.backups.rows.filter fun backup =>
      (backup.state == .ready || backup.state == .restoreBlockedNewData) &&
        backup.expiresAt.any (· ≤ now) && !skipped.contains backup.id).insertionSort
    fun first second => first.expiresAt.getD 0 < second.expiresAt.getD 0 ∨
      first.expiresAt.getD 0 = second.expiresAt.getD 0 ∧ first.id ≤ second.id

/-- The next backup of an expiry batch.  It skips the rows which are locked or whose
cleanup failed earlier in the batch. -/
def selectExpiredBackup (db : Database) (now : Nat) (skipped : List Nat) :
    Option SemesterBackup :=
  (dueBackups db now skipped).head?

/-- A selected backup is finalized and its deadline has passed. -/
theorem selectExpiredBackup_spec {db : Database} {now : Nat} {skipped : List Nat}
    {backup : SemesterBackup} (h : selectExpiredBackup db now skipped = some backup) :
    backup ∈ db.backups.rows ∧
      (backup.state = .ready ∨ backup.state = .restoreBlockedNewData) ∧
      ∃ deadline, backup.expiresAt = some deadline ∧ deadline ≤ now := by
  have hmem := List.mem_of_mem_head? h
  rw [dueBackups, List.mem_insertionSort, List.mem_filter] at hmem
  obtain ⟨hrow, hdue⟩ := hmem
  simp only [Bool.and_eq_true, Bool.or_eq_true, beq_iff_eq, Option.any_eq_true,
    decide_eq_true_eq] at hdue
  exact ⟨hrow, hdue.1.1, hdue.1.2⟩

/-- `_validate_partial_cleanup_manifests`: the manifests which are left identify the
package, and name its avatars. -/
def PartialCleanupValid (backup : SemesterBackup) (database : Option DatabaseManifest)
    (avatars : Option AvatarManifest) : Prop :=
  backup.databaseManifestLocation = some (.databaseManifest backup.id) ∧
    backup.avatarManifestLocation = some (.avatarManifest backup.id) ∧
    match database, avatars with
    | some database, some avatars => PackageLinked backup database avatars
    | some database, none =>
        database.artifactLocation = .stored (.databaseArtifact backup.id) ∧
          database.backupId = backup.id ∧ database.sourceSemesterId = backup.sourceSemesterId ∧
          database.sourceBoundaryAt = backup.sourceBoundaryAt ∧
          database.rowCounts = backup.databaseRowCounts ∧
          database.avatarReferences.length = backup.avatarObjectCount
    | none, some avatars =>
        avatars.backupId = backup.id ∧ avatars.sourceSemesterId = backup.sourceSemesterId ∧
          avatars.sourceBoundaryAt = backup.sourceBoundaryAt ∧
          some avatars.databaseManifestChecksum = backup.databaseManifestChecksum ∧
          avatars.objectCount = backup.avatarObjectCount
    | none, none => True

instance (backup : SemesterBackup) (database : Option DatabaseManifest)
    (avatars : Option AvatarManifest) :
    Decidable (PartialCleanupValid backup database avatars) := by
  unfold PartialCleanupValid
  cases database <;> cases avatars <;> infer_instance

def avatarBinaryRefs (backupId : Nat) (references : List AvatarReference) : List BackupObject :=
  references.map fun reference =>
    .avatarBinary backupId reference.photoId reference.mimeType

/-- The avatar objects which the manifests name. -/
def cleanupAvatarRefs (backupId : Nat) (database : Option DatabaseManifest)
    (avatars : Option AvatarManifest) : List BackupObject :=
  match database, avatars with
  | some database, _ => avatarBinaryRefs backupId database.avatarReferences
  | none, some avatars => avatarBinaryRefs backupId (avatars.objects.map (·.reference))
  | none, none => []

/-- `_cleanup_expired_backup_artifacts`: the objects it deletes, in order. -/
def cleanupExpiredBackupArtifacts (checksums : Checksums) (backup : SemesterBackup)
    (stored : StoredPackage) : Except SemesterError (List BackupObject) := do
  let (databaseChecksum, avatarChecksum) ← requireAttachedPackage backup
  let database ← stored.databaseManifest.mapM fun manifest =>
    validateDatabaseBackupManifest checksums manifest backup.id databaseChecksum
  let avatars ← stored.avatarManifest.mapM fun manifest =>
    validateAvatarBackupManifest checksums manifest backup.id avatarChecksum
  ensure (PartialCleanupValid backup database avatars) .expiry
  return cleanupAvatarRefs backup.id database avatars ++
    [.databaseArtifact backup.id, .databaseManifest backup.id, .avatarManifest backup.id]

/-- Delete one object of a package; a missing one counts as deleted. -/
def StoredPackage.delete (stored : StoredPackage) : BackupObject → StoredPackage
  | .databaseArtifact _ => { stored with databaseArtifact := none }
  | .databaseManifest _ => { stored with databaseManifest := none }
  | .avatarManifest _ => { stored with avatarManifest := none }
  | .avatarBinary _ photoId mimeType =>
      { stored with avatarBinaries :=
          stored.avatarBinaries.filter fun entry => entry.1 != (photoId, mimeType) }

def StoredPackage.deleteAll (stored : StoredPackage) (objects : List BackupObject) :
    StoredPackage :=
  objects.foldl StoredPackage.delete stored

/-- The key of an avatar binary. -/
def BackupObject.binaryKey : BackupObject → Option (Nat × ImageMimeType)
  | .avatarBinary _ photoId mimeType => some (photoId, mimeType)
  | _ => none

section Deletion

variable {stored : StoredPackage} {objects : List BackupObject}

theorem deleteAll_databaseArtifact_eq_some_iff {rows : CohortRows} :
    (stored.deleteAll objects).databaseArtifact = some rows ↔
      stored.databaseArtifact = some rows ∧ ∀ id, .databaseArtifact id ∉ objects := by
  induction objects generalizing stored with
  | nil => simp [StoredPackage.deleteAll]
  | cons object rest ih =>
      have hstep : stored.deleteAll (object :: rest) = (stored.delete object).deleteAll rest := rfl
      rw [hstep, ih]
      cases object with
      | databaseArtifact id =>
          exact iff_of_false (by simp [StoredPackage.delete]) fun hkept =>
            hkept.2 id List.mem_cons_self
      | databaseManifest id | avatarManifest id | avatarBinary id photoId mimeType =>
          simp [StoredPackage.delete]

theorem deleteAll_databaseManifest_eq_some_iff {manifest : DatabaseManifest} :
    (stored.deleteAll objects).databaseManifest = some manifest ↔
      stored.databaseManifest = some manifest ∧ ∀ id, .databaseManifest id ∉ objects := by
  induction objects generalizing stored with
  | nil => simp [StoredPackage.deleteAll]
  | cons object rest ih =>
      have hstep : stored.deleteAll (object :: rest) = (stored.delete object).deleteAll rest := rfl
      rw [hstep, ih]
      cases object with
      | databaseManifest id =>
          exact iff_of_false (by simp [StoredPackage.delete]) fun hkept =>
            hkept.2 id List.mem_cons_self
      | databaseArtifact id | avatarManifest id | avatarBinary id photoId mimeType =>
          simp [StoredPackage.delete]

theorem deleteAll_avatarManifest_eq_some_iff {manifest : AvatarManifest} :
    (stored.deleteAll objects).avatarManifest = some manifest ↔
      stored.avatarManifest = some manifest ∧ ∀ id, .avatarManifest id ∉ objects := by
  induction objects generalizing stored with
  | nil => simp [StoredPackage.deleteAll]
  | cons object rest ih =>
      have hstep : stored.deleteAll (object :: rest) = (stored.delete object).deleteAll rest := rfl
      rw [hstep, ih]
      cases object with
      | avatarManifest id =>
          exact iff_of_false (by simp [StoredPackage.delete]) fun hkept =>
            hkept.2 id List.mem_cons_self
      | databaseArtifact id | databaseManifest id | avatarBinary id photoId mimeType =>
          simp [StoredPackage.delete]

theorem mem_deleteAll_avatarBinaries_iff {entry : (Nat × ImageMimeType) × ImageContent} :
    entry ∈ (stored.deleteAll objects).avatarBinaries ↔
      entry ∈ stored.avatarBinaries ∧ ∀ object ∈ objects, object.binaryKey ≠ some entry.1 := by
  induction objects generalizing stored with
  | nil => simp [StoredPackage.deleteAll]
  | cons object rest ih =>
      have hstep : stored.deleteAll (object :: rest) = (stored.delete object).deleteAll rest := rfl
      rw [hstep, ih, List.forall_mem_cons, ← and_assoc]
      refine and_congr_left fun _ => ?_
      cases object with
      | avatarBinary id photoId mimeType =>
          simp only [StoredPackage.delete, List.mem_filter, BackupObject.binaryKey, bne_iff_ne,
            ne_eq, Option.some.injEq]
          exact and_congr_right fun _ => not_congr eq_comm
      | databaseArtifact id | databaseManifest id | avatarManifest id =>
          simp [StoredPackage.delete, BackupObject.binaryKey]

/-- A cleanup deletes the named avatars first and the manifests last. -/
theorem cleanupExpiredBackupArtifacts_spec {checksums : Checksums} {backup : SemesterBackup}
    (h : cleanupExpiredBackupArtifacts checksums backup stored = .ok objects) :
    objects = cleanupAvatarRefs backup.id stored.databaseManifest stored.avatarManifest ++
      [.databaseArtifact backup.id, .databaseManifest backup.id,
        .avatarManifest backup.id] := by
  simp only [cleanupExpiredBackupArtifacts, except_bind_eq_ok_iff, ensure_eq_ok_iff,
    except_pure_eq_ok_iff, exists_const] at h
  obtain ⟨_, _, database, hdatabase, avatars, havatars, _, rfl⟩ := h
  have hsameDatabase : database = stored.databaseManifest := by
    cases hstored : stored.databaseManifest with
    | none =>
        rw [hstored] at hdatabase
        simpa [pure, Except.pure, eq_comm] using hdatabase
    | some manifest =>
        rw [hstored] at hdatabase
        simp only [Option.mapM_some, except_functor_map_eq_ok_iff,
          validateDatabaseBackupManifest_eq_ok_iff] at hdatabase
        obtain ⟨_, ⟨rfl, _⟩, rfl⟩ := hdatabase
        rfl
  have hsameAvatars : avatars = stored.avatarManifest := by
    cases hstored : stored.avatarManifest with
    | none =>
        rw [hstored] at havatars
        simpa [pure, Except.pure, eq_comm] using havatars
    | some manifest =>
        rw [hstored] at havatars
        simp only [Option.mapM_some, except_functor_map_eq_ok_iff,
          validateAvatarBackupManifest_eq_ok_iff] at havatars
        obtain ⟨_, ⟨rfl, _⟩, rfl⟩ := havatars
        rfl
  rw [hsameDatabase, hsameAvatars]

end Deletion

end Expiry

end BuddyWeb
