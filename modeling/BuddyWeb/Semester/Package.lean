/-
The manifests of one backup, its objects in private storage, and the checks
which every reader of a stored package makes.
-/
import Mathlib.Algebra.GroupWithZero.Nat
import BuddyWeb.Semester.Records

namespace BuddyWeb

/-- One table of a database artifact. -/
structure TableManifest where
  tableName : CohortTable
  columns : List String
  rowCount : Nat
  sha256 : String
  deriving DecidableEq, Repr

/-- The shared rows to which the backed up rows refer. -/
structure SharedReferences where
  sourceSemesterIds : List Nat
  adminUserIds : List Nat
  interestIds : List Nat
  languageCodes : List String
  activityIds : List Nat
  eventIds : List Nat
  deriving DecidableEq, Repr

/-- The identity of an avatar row inside the database snapshot. -/
structure AvatarReference where
  photoId : Nat
  profileId : Nat
  ownerUserId : Nat
  objectKey : Nat
  mimeType : ImageMimeType
  byteSize : Nat
  width : Nat
  height : Nat
  deriving DecidableEq, Repr

structure BackupCompatibility where
  sourcePostgresqlMajor : Nat
  requiredTargetPostgresqlMajor : Nat
  requiredAlembicHead : String
  producerVersion : String
  deriving DecidableEq, Repr

/-- Where a manifest says that its artifact is: the export of a reset check never
leaves the private workspace. -/
inductive ArtifactLocation
  | stored (object : BackupObject)
  | privateVerification
  deriving DecidableEq, Repr

structure DatabaseManifest where
  backupId : Nat
  sourceSemesterId : Nat
  sourceBoundaryAt : Nat
  createdAt : Nat
  artifactLocation : ArtifactLocation
  artifactSha256 : String
  tables : List TableManifest
  sharedReferences : SharedReferences
  avatarReferences : List AvatarReference
  compatibility : BackupCompatibility
  deriving DecidableEq, Repr

/-- One avatar of a package: its row identity and the checksum of its bytes. -/
structure AvatarObjectManifest where
  reference : AvatarReference
  sha256 : String
  deriving DecidableEq, Repr

structure AvatarManifest where
  backupId : Nat
  sourceSemesterId : Nat
  sourceBoundaryAt : Nat
  createdAt : Nat
  databaseManifestChecksum : String
  objectCount : Nat
  totalBytes : Nat
  objects : List AvatarObjectManifest
  deriving DecidableEq, Repr

/-- The bytes of a stored image, as far as checks compare them. -/
abbrev ImageContent : Type := List UInt8

/-- SHA-256 of the serialised contents. -/
structure Checksums where
  table : (table : CohortTable) → List (CohortRow table) → String
  artifact : CohortRows → String
  databaseManifest : DatabaseManifest → String
  avatarManifest : AvatarManifest → String
  image : ImageContent → String

/-- The objects of one backup in private storage. -/
structure StoredPackage where
  databaseArtifact : Option CohortRows
  databaseManifest : Option DatabaseManifest
  avatarManifest : Option AvatarManifest
  avatarBinaries : List ((Nat × ImageMimeType) × ImageContent)

def StoredPackage.empty : StoredPackage := ⟨none, none, none, []⟩

/-- No object of the backup is left. -/
def StoredPackage.IsEmpty (stored : StoredPackage) : Prop :=
  stored.databaseArtifact = none ∧ stored.databaseManifest = none ∧
    stored.avatarManifest = none ∧ stored.avatarBinaries = []

def StoredPackage.binary? (stored : StoredPackage) (photoId : Nat)
    (mimeType : ImageMimeType) : Option ImageContent :=
  (stored.avatarBinaries.find? fun entry => entry.1 == (photoId, mimeType)).map (·.2)

namespace DatabaseManifest

def rowCounts (manifest : DatabaseManifest) : RowCounts :=
  manifest.tables.map fun table => (table.tableName, table.rowCount)

/-- The validators of the manifest model. -/
def validateContract (manifest : DatabaseManifest) : Bool :=
  manifest.tables.map (·.tableName) == CohortTable.backupTables &&
    manifest.sharedReferences.sourceSemesterIds == [manifest.sourceSemesterId] &&
    decide ((manifest.avatarReferences.map (·.photoId)).Nodup) &&
    decide ((manifest.avatarReferences.map (·.objectKey)).Nodup) &&
    decide ((manifest.avatarReferences.map (·.photoId)).Pairwise (· ≤ ·)) &&
    manifest.rowCounts.lookup .profilePhotos == some manifest.avatarReferences.length &&
    manifest.compatibility.requiredTargetPostgresqlMajor ==
      manifest.compatibility.sourcePostgresqlMajor

end DatabaseManifest

namespace AvatarManifest

/-- The validators of the manifest model. -/
def validateContract (manifest : AvatarManifest) : Bool :=
  manifest.objectCount == manifest.objects.length &&
    manifest.totalBytes == (manifest.objects.map (·.reference.byteSize)).sum &&
    decide ((manifest.objects.map (·.reference.photoId)).Pairwise (· ≤ ·)) &&
    decide ((manifest.objects.map (·.reference.photoId)).Nodup) &&
    decide ((manifest.objects.map (·.reference.objectKey)).Nodup)

end AvatarManifest

section Validation

variable (checksums : Checksums)

/-- Validate the independently stored manifest before avatar linkage. -/
def validateDatabaseBackupManifest (manifest : DatabaseManifest) (expectedBackupId : Nat)
    (expectedChecksum : String) : Except SemesterError DatabaseManifest := do
  ensure (checksums.databaseManifest manifest = expectedChecksum) .databaseBackupValidation
  ensure (manifest.validateContract = true) .databaseBackupValidation
  ensure (manifest.backupId = expectedBackupId) .databaseBackupValidation
  return manifest

/-- Validate manifest, outer checksum, members and per-table checksums. -/
def validateDatabaseBackupPackage (manifest : DatabaseManifest) (artifact : CohortRows)
    (expectedBackupId : Nat) (expectedChecksum : String) :
    Except SemesterError DatabaseManifest := do
  let manifest ← validateDatabaseBackupManifest checksums manifest expectedBackupId
    expectedChecksum
  ensure (checksums.artifact artifact = manifest.artifactSha256) .databaseBackupValidation
  ensure (∀ table ∈ manifest.tables,
    checksums.table table.tableName (artifact table.tableName) = table.sha256)
    .databaseBackupValidation
  return manifest

def loadDatabaseBackupFromStorage (stored : StoredPackage) (backupId : Nat)
    (manifestChecksum : String) : Except SemesterError (DatabaseManifest × CohortRows) := do
  let artifact ← require stored.databaseArtifact .databaseBackup
  let manifest ← require stored.databaseManifest .databaseBackup
  let manifest ← validateDatabaseBackupPackage checksums manifest artifact backupId
    manifestChecksum
  return (manifest, artifact)

def validateAvatarBackupManifest (manifest : AvatarManifest) (expectedBackupId : Nat)
    (expectedChecksum : String) : Except SemesterError AvatarManifest := do
  ensure (checksums.avatarManifest manifest = expectedChecksum) .avatarBackupValidation
  ensure (manifest.validateContract = true) .avatarBackupValidation
  ensure (manifest.backupId = expectedBackupId) .avatarBackupValidation
  return manifest

/-- One stored avatar has the size and checksum of its manifest entry. -/
def validateAvatarObject (stored : StoredPackage) (item : AvatarObjectManifest) :
    Except SemesterError ImageContent := do
  let content ← require (stored.binary? item.reference.photoId item.reference.mimeType)
    .avatarBackup
  ensure (checksums.image content = item.sha256) .avatarBackupValidation
  ensure (content.length = item.reference.byteSize) .avatarBackupValidation
  return content

def loadAvatarBackupFromStorage (stored : StoredPackage) (backupId : Nat)
    (manifestChecksum : String) : Except SemesterError (AvatarManifest × List ImageContent) := do
  let manifest ← require stored.avatarManifest .avatarBackup
  let manifest ← validateAvatarBackupManifest checksums manifest backupId manifestChecksum
  let contents ← manifest.objects.mapM (validateAvatarObject checksums stored)
  return (manifest, contents)

variable {checksums}

theorem validateDatabaseBackupManifest_eq_ok_iff {manifest valid : DatabaseManifest}
    {backupId : Nat} {checksum : String} :
    validateDatabaseBackupManifest checksums manifest backupId checksum = .ok valid ↔
      valid = manifest ∧ checksums.databaseManifest manifest = checksum ∧
        manifest.validateContract = true ∧ manifest.backupId = backupId := by
  simp only [validateDatabaseBackupManifest, except_bind_eq_ok_iff, ensure_eq_ok_iff,
    except_pure_eq_ok_iff, exists_const]
  constructor
  · rintro ⟨hchecksum, hcontract, hid, rfl⟩
    exact ⟨rfl, hchecksum, hcontract, hid⟩
  · rintro ⟨rfl, hchecksum, hcontract, hid⟩
    exact ⟨hchecksum, hcontract, hid, rfl⟩

theorem validateAvatarBackupManifest_eq_ok_iff {manifest valid : AvatarManifest}
    {backupId : Nat} {checksum : String} :
    validateAvatarBackupManifest checksums manifest backupId checksum = .ok valid ↔
      valid = manifest ∧ checksums.avatarManifest manifest = checksum ∧
        manifest.validateContract = true ∧ manifest.backupId = backupId := by
  simp only [validateAvatarBackupManifest, except_bind_eq_ok_iff, ensure_eq_ok_iff,
    except_pure_eq_ok_iff, exists_const]
  constructor
  · rintro ⟨hchecksum, hcontract, hid, rfl⟩
    exact ⟨rfl, hchecksum, hcontract, hid⟩
  · rintro ⟨rfl, hchecksum, hcontract, hid⟩
    exact ⟨hchecksum, hcontract, hid, rfl⟩

theorem validateDatabaseBackupPackage_eq_ok_iff {manifest valid : DatabaseManifest}
    {artifact : CohortRows} {backupId : Nat} {checksum : String} :
    validateDatabaseBackupPackage checksums manifest artifact backupId checksum = .ok valid ↔
      validateDatabaseBackupManifest checksums manifest backupId checksum = .ok valid ∧
        checksums.artifact artifact = valid.artifactSha256 ∧
        ∀ table ∈ valid.tables,
          checksums.table table.tableName (artifact table.tableName) = table.sha256 := by
  simp only [validateDatabaseBackupPackage, except_bind_eq_ok_iff, ensure_eq_ok_iff,
    except_pure_eq_ok_iff, exists_const]
  constructor
  · rintro ⟨found, hmanifest, hartifact, htables, rfl⟩
    exact ⟨hmanifest, hartifact, htables⟩
  · rintro ⟨hmanifest, hartifact, htables⟩
    exact ⟨valid, hmanifest, hartifact, htables, rfl⟩

/-- A package which loads is stored and valid. -/
theorem loadDatabaseBackupFromStorage_eq_ok_iff {stored : StoredPackage} {backupId : Nat}
    {checksum : String} {manifest : DatabaseManifest} {artifact : CohortRows} :
    loadDatabaseBackupFromStorage checksums stored backupId checksum =
        .ok (manifest, artifact) ↔
      stored.databaseArtifact = some artifact ∧ stored.databaseManifest = some manifest ∧
        validateDatabaseBackupPackage checksums manifest artifact backupId checksum =
          .ok manifest := by
  simp only [loadDatabaseBackupFromStorage, except_bind_eq_ok_iff, require_eq_ok_iff,
    except_pure_eq_ok_iff, Prod.mk.injEq]
  constructor
  · rintro ⟨found, hartifact, storedManifest, hmanifest, valid, hvalid, rfl, rfl⟩
    obtain ⟨rfl, _⟩ := validateDatabaseBackupManifest_eq_ok_iff.mp
      (validateDatabaseBackupPackage_eq_ok_iff.mp hvalid).1
    exact ⟨hartifact, hmanifest, hvalid⟩
  · rintro ⟨hartifact, hmanifest, hvalid⟩
    exact ⟨artifact, hartifact, manifest, hmanifest, manifest, hvalid, rfl, rfl⟩

/-- An avatar package which loads has a stored and valid manifest, and each of its
objects is stored. -/
theorem loadAvatarBackupFromStorage_eq_ok_iff {stored : StoredPackage} {backupId : Nat}
    {checksum : String} {manifest : AvatarManifest} {contents : List ImageContent} :
    loadAvatarBackupFromStorage checksums stored backupId checksum =
        .ok (manifest, contents) ↔
      stored.avatarManifest = some manifest ∧
        validateAvatarBackupManifest checksums manifest backupId checksum = .ok manifest ∧
        manifest.objects.mapM (validateAvatarObject checksums stored) = .ok contents := by
  simp only [loadAvatarBackupFromStorage, except_bind_eq_ok_iff, require_eq_ok_iff,
    except_pure_eq_ok_iff, Prod.mk.injEq]
  constructor
  · rintro ⟨storedManifest, hmanifest, valid, hvalid, found, hcontents, rfl, rfl⟩
    obtain ⟨rfl, _⟩ := validateAvatarBackupManifest_eq_ok_iff.mp hvalid
    exact ⟨hmanifest, hvalid, hcontents⟩
  · rintro ⟨hmanifest, hvalid, hcontents⟩
    exact ⟨manifest, hmanifest, manifest, hvalid, contents, hcontents, rfl, rfl⟩

end Validation

/-- The exact metadata, scope and artifact identity of both packages. -/
def PackageLinked (backup : SemesterBackup) (database : DatabaseManifest)
    (avatars : AvatarManifest) : Prop :=
  database.backupId = backup.id ∧ avatars.backupId = backup.id ∧
    database.sourceSemesterId = backup.sourceSemesterId ∧
    avatars.sourceSemesterId = backup.sourceSemesterId ∧
    database.sourceBoundaryAt = backup.sourceBoundaryAt ∧
    avatars.sourceBoundaryAt = backup.sourceBoundaryAt ∧
    database.artifactLocation = .stored (.databaseArtifact backup.id) ∧
    backup.databaseManifestLocation = some (.databaseManifest backup.id) ∧
    backup.avatarManifestLocation = some (.avatarManifest backup.id) ∧
    some avatars.databaseManifestChecksum = backup.databaseManifestChecksum ∧
    database.rowCounts = backup.databaseRowCounts ∧
    avatars.objectCount = backup.avatarObjectCount ∧
    database.rowCounts.lookup .profilePhotos = some backup.avatarObjectCount ∧
    database.avatarReferences = avatars.objects.map (·.reference)

instance (backup : SemesterBackup) (database : DatabaseManifest) (avatars : AvatarManifest) :
    Decidable (PackageLinked backup database avatars) := by
  unfold PackageLinked
  infer_instance

def validateSemesterBackupManifests (backup : SemesterBackup) (database : DatabaseManifest)
    (avatars : AvatarManifest) : Except SemesterError PUnit :=
  ensure (PackageLinked backup database avatars) .verificationPackage

/-- The checksums of a complete package. -/
def requireAttachedPackage (backup : SemesterBackup) : Except SemesterError (String × String) :=
  match backup.databaseManifestLocation, backup.databaseManifestChecksum,
      backup.avatarManifestLocation, backup.avatarManifestChecksum with
  | some _, some database, some _, some avatars =>
      if backup.databaseRowCounts = [] then .error .verificationPackage
      else .ok (database, avatars)
  | _, _, _, _ => .error .verificationPackage

end BuddyWeb
