/-
The two packages of a backup, from their export to their attachment.

A creation holds the advisory lock of its backup from the checks before the
export until the upload is attached or has failed.
-/
import BuddyWeb.Semester.ResetExecution

namespace BuddyWeb

/-- `assert_pre_delete_backup_eligibility`. -/
def PreDeleteEligible (db : Database) (backup : SemesterBackup) : Prop :=
  ∃ operation ∈ db.operations.rows, operation.id = backup.createdByOperationId ∧
    operation.operationType = .reset ∧ operation.state = .running ∧
    operation.semesterId = backup.sourceSemesterId ∧
    ∃ semester ∈ db.semesters.rows, semester.id = operation.semesterId ∧
      semester.status = .current ∧ semester.startedAt = backup.sourceBoundaryAt

instance (db : Database) (backup : SemesterBackup) : Decidable (PreDeleteEligible db backup) := by
  unfold PreDeleteEligible
  infer_instance

/-- What a creation uploads. -/
inductive PackageContent
  | database (manifest : DatabaseManifest) (rows : CohortRows)
  | avatars (manifest : AvatarManifest) (binaries : List ((Nat × ImageMimeType) × ImageContent))

/-- The attachment fields of the database package are set. -/
def SemesterBackup.DatabaseAttached (backup : SemesterBackup) : Prop :=
  backup.databaseManifestLocation ≠ none ∧ backup.databaseManifestChecksum ≠ none ∧
    backup.databaseRowCounts ≠ []

/-- None of the attachment fields of the database package is set. -/
def SemesterBackup.DatabaseUnattached (backup : SemesterBackup) : Prop :=
  backup.databaseManifestLocation = none ∧ backup.databaseManifestChecksum = none ∧
    backup.databaseRowCounts = []

/-- None of the attachment fields of the avatar package is set. -/
def SemesterBackup.AvatarsUnattached (backup : SemesterBackup) : Prop :=
  backup.avatarManifestLocation = none ∧ backup.avatarManifestChecksum = none ∧
    backup.avatarObjectCount = 0

instance (backup : SemesterBackup) : Decidable backup.DatabaseAttached := by
  unfold SemesterBackup.DatabaseAttached
  infer_instance

instance (backup : SemesterBackup) : Decidable backup.DatabaseUnattached := by
  unfold SemesterBackup.DatabaseUnattached
  infer_instance

instance (backup : SemesterBackup) : Decidable backup.AvatarsUnattached := by
  unfold SemesterBackup.AvatarsUnattached
  infer_instance

section Export

variable (env : SemesterEnvironment) (db : Database) (now : Nat) (busy : Bool)

/-- `create_semester_database_backup` up to its upload. -/
def exportDatabaseBackup (backupId : Nat) : Except SemesterError PackageContent := do
  ensure (busy = false) .databaseBackupBusy
  let backup ← require (db.backups.get? backupId) .databaseBackup
  ensure (backup.state = .creating) .databaseBackup
  ensure (¬ backup.DatabaseAttached) .databaseBackupAlreadyAttached
  ensure backup.DatabaseUnattached .databaseBackup
  ensure (PreDeleteEligible db backup) .databaseBackup
  let (manifest, rows) := env.adapter.export db.data db.alembicHead now backup.id
    backup.sourceSemesterId backup.sourceBoundaryAt (.stored (.databaseArtifact backup.id))
  let manifest ← validateDatabaseBackupPackage env.checksums manifest rows backup.id
    (env.checksums.databaseManifest manifest)
  return .database manifest rows

/-- One avatar of the export: the bytes which its row describes. -/
def exportAvatar (checksums : Checksums) (images : ImageStore) (reference : AvatarReference) :
    Except SemesterError (AvatarObjectManifest × ImageContent) := do
  let content ← require (images reference.objectKey) .avatarBackup
  ensure (content.length = reference.byteSize) .avatarBackup
  return ({ reference, sha256 := checksums.image content }, content)

/-- `create_semester_avatar_backup` up to its upload. -/
def exportAvatarBackup (images : ImageStore) (stored : StoredPackage) (backupId : Nat) :
    Except SemesterError PackageContent := do
  ensure (busy = false) .avatarBackupBusy
  let backup ← require (db.backups.get? backupId) .databaseBackup
  ensure (backup.state = .creating) .avatarBackup
  ensure (backup.avatarManifestLocation = none ∨ backup.avatarManifestChecksum = none)
    .avatarBackupAlreadyAttached
  ensure backup.AvatarsUnattached .avatarBackup
  ensure backup.DatabaseAttached .avatarBackup
  ensure (PreDeleteEligible db backup) .databaseBackup
  let databaseChecksum ← require backup.databaseManifestChecksum .avatarBackup
  let database ← require stored.databaseManifest .databaseBackup
  let database ← validateDatabaseBackupManifest env.checksums database backupId databaseChecksum
  ensure (database.sourceSemesterId = backup.sourceSemesterId ∧
    database.sourceBoundaryAt = backup.sourceBoundaryAt ∧
    database.rowCounts.lookup .profilePhotos = some database.avatarReferences.length)
    .avatarBackup
  let exported ← database.avatarReferences.mapM (exportAvatar env.checksums images)
  let objects := exported.map (·.1)
  let manifest : AvatarManifest :=
    { backupId, sourceSemesterId := backup.sourceSemesterId
      sourceBoundaryAt := backup.sourceBoundaryAt, createdAt := now
      databaseManifestChecksum := databaseChecksum, objectCount := objects.length
      totalBytes := (objects.map (·.reference.byteSize)).sum, objects }
  let manifest ← validateAvatarBackupManifest env.checksums manifest backupId
    (env.checksums.avatarManifest manifest)
  return .avatars manifest (exported.map fun (item, content) =>
    ((item.reference.photoId, item.reference.mimeType), content))

section Inversion

variable {env db now busy} {backupId : Nat} {content : PackageContent}

/-- A database package is the export of the current rows for an open backup. -/
theorem exportDatabaseBackup_spec
    (h : exportDatabaseBackup env db now busy backupId = .ok content) :
    busy = false ∧ ∃ backup, db.backups.get? backupId = some backup ∧
      backup.state = .creating ∧ backup.DatabaseUnattached ∧ PreDeleteEligible db backup ∧
      ∃ manifest rows, env.adapter.export db.data db.alembicHead now backup.id
          backup.sourceSemesterId backup.sourceBoundaryAt
          (.stored (.databaseArtifact backup.id)) = (manifest, rows) ∧
        content = .database manifest rows := by
  simp only [exportDatabaseBackup, except_bind_eq_ok_iff, require_eq_ok_iff, ensure_eq_ok_iff,
    except_pure_eq_ok_iff, exists_const] at h
  obtain ⟨hbusy, backup, hbackup, hcreating, _, hopen, heligible, valid, hvalid, rfl⟩ := h
  obtain ⟨hmanifest, _⟩ := validateDatabaseBackupPackage_eq_ok_iff.mp hvalid
  obtain ⟨rfl, _⟩ := validateDatabaseBackupManifest_eq_ok_iff.mp hmanifest
  exact ⟨hbusy, backup, hbackup, hcreating, hopen, heligible, _, _, rfl, rfl⟩

/-- An avatar package has one object for each avatar of the stored database manifest. -/
theorem exportAvatarBackup_spec {images : ImageStore} {stored : StoredPackage}
    (h : exportAvatarBackup env db now busy images stored backupId = .ok content) :
    busy = false ∧ ∃ backup, db.backups.get? backupId = some backup ∧
      backup.state = .creating ∧ backup.AvatarsUnattached ∧
      ∃ database manifest binaries, stored.databaseManifest = some database ∧
        content = .avatars manifest binaries ∧
        ∀ entry ∈ binaries, ∃ reference ∈ database.avatarReferences,
          entry.1 = (reference.photoId, reference.mimeType) := by
  simp only [exportAvatarBackup, except_bind_eq_ok_iff, require_eq_ok_iff, ensure_eq_ok_iff,
    except_pure_eq_ok_iff, exists_const] at h
  obtain ⟨hbusy, backup, hbackup, hcreating, _, hopen, _, _, _, _, database, hstored, found,
    hvalid, _, exported, hexported, _, _, rfl⟩ := h
  obtain ⟨rfl, _⟩ := validateDatabaseBackupManifest_eq_ok_iff.mp hvalid
  refine ⟨hbusy, backup, hbackup, hcreating, hopen, found, _, _, hstored, rfl, ?_⟩
  intro entry hentry
  obtain ⟨⟨item, bytes⟩, hitem, rfl⟩ := List.mem_map.mp hentry
  obtain ⟨reference, hreference, hexport⟩ := exists_of_mem_mapM hexported hitem
  simp only [exportAvatar, except_bind_eq_ok_iff, require_eq_ok_iff, ensure_eq_ok_iff,
    except_pure_eq_ok_iff, exists_const, Prod.mk.injEq] at hexport
  obtain ⟨_, _, _, rfl, _⟩ := hexport
  exact ⟨reference, hreference, rfl⟩

end Inversion

end Export

/-- The object is stored when its slot was free and it was kept. -/
def fillSlot {α : Type} (slot : Option α) (kept : Bool) (value : α) : Option α :=
  slot.or (if kept then some value else none)

namespace StoredPackage

/-- The slots of a package in private storage, which uploads never overwrite. -/
def Free (stored : StoredPackage) : PackageContent → Prop
  | .database _ _ => stored.databaseArtifact = none ∧ stored.databaseManifest = none
  | .avatars _ binaries => stored.avatarManifest = none ∧
      ∀ entry ∈ binaries, stored.binary? entry.1.1 entry.1.2 = none

instance (stored : StoredPackage) (content : PackageContent) : Decidable (stored.Free content) := by
  cases content <;> unfold Free <;> infer_instance

/-- The package with those uploaded objects which are still there. -/
def upload (stored : StoredPackage) (backupId : Nat) (kept : BackupObject → Bool) :
    PackageContent → StoredPackage
  | .database manifest rows =>
      { stored with
        databaseArtifact :=
          fillSlot stored.databaseArtifact (kept (.databaseArtifact backupId)) rows
        databaseManifest :=
          fillSlot stored.databaseManifest (kept (.databaseManifest backupId)) manifest }
  | .avatars manifest binaries =>
      { stored with
        avatarManifest := fillSlot stored.avatarManifest (kept (.avatarManifest backupId)) manifest
        avatarBinaries := stored.avatarBinaries ++ binaries.filter fun entry =>
          kept (.avatarBinary backupId entry.1.1 entry.1.2) &&
            (stored.binary? entry.1.1 entry.1.2).isNone }

end StoredPackage

section Attachment

variable (checksums : Checksums)

/-- The rest of both creations: upload, download again, lock the backup and attach
the package. -/
def attachBackupPackage (backup : SemesterBackup) (stored : StoredPackage) :
    PackageContent → Except SemesterError (SemesterBackup × StoredPackage)
  | .database manifest rows => do
      ensure (stored.Free (.database manifest rows)) .databaseBackup
      let stored := stored.upload backup.id (fun _ => true) (.database manifest rows)
      let checksum := checksums.databaseManifest manifest
      let (remote, _) ← loadDatabaseBackupFromStorage checksums stored backup.id checksum
      ensure (backup.state = .creating ∧ backup.databaseManifestLocation = none) .databaseBackup
      return ({ backup with
        databaseManifestLocation := some (.databaseManifest backup.id)
        databaseManifestChecksum := some checksum
        databaseRowCounts := remote.rowCounts }, stored)
  | .avatars manifest binaries => do
      ensure (stored.Free (.avatars manifest binaries)) .avatarBackup
      let stored := stored.upload backup.id (fun _ => true) (.avatars manifest binaries)
      let checksum := checksums.avatarManifest manifest
      let (remote, _) ← loadAvatarBackupFromStorage checksums stored backup.id checksum
      ensure (backup.state = .creating ∧ backup.AvatarsUnattached) .avatarBackup
      return ({ backup with
        avatarManifestLocation := some (.avatarManifest backup.id)
        avatarManifestChecksum := some checksum
        avatarObjectCount := remote.objectCount }, stored)

variable {checksums}

/-- What an attachment changes in the row of the backup. -/
inductive Attaches (checksums : Checksums) (backup : SemesterBackup) :
    PackageContent → SemesterBackup → Prop
  | database {manifest : DatabaseManifest} {rows : CohortRows}
      (hopen : backup.databaseManifestLocation = none) :
      Attaches checksums backup (.database manifest rows) { backup with
        databaseManifestLocation := some (.databaseManifest backup.id)
        databaseManifestChecksum := some (checksums.databaseManifest manifest)
        databaseRowCounts := manifest.rowCounts }
  | avatars {manifest : AvatarManifest}
      {binaries : List ((Nat × ImageMimeType) × ImageContent)}
      (hopen : backup.AvatarsUnattached) :
      Attaches checksums backup (.avatars manifest binaries) { backup with
        avatarManifestLocation := some (.avatarManifest backup.id)
        avatarManifestChecksum := some (checksums.avatarManifest manifest)
        avatarObjectCount := manifest.objectCount }

theorem Attaches.unchanged {backup attached : SemesterBackup} {content : PackageContent}
    (h : Attaches checksums backup content attached) :
    attached.id = backup.id ∧ attached.state = backup.state ∧
      attached.verifiedAt = backup.verifiedAt := by
  cases h <;> exact ⟨rfl, rfl, rfl⟩

/-- An attachment filled free slots of a CREATING backup with a package which loads. -/
theorem attachBackupPackage_spec {backup attached : SemesterBackup}
    {stored after : StoredPackage} {content : PackageContent}
    (h : attachBackupPackage checksums backup stored content = .ok (attached, after)) :
    backup.state = .creating ∧ stored.Free content ∧
      after = stored.upload backup.id (fun _ => true) content ∧
      Attaches checksums backup content attached := by
  cases content with
  | database manifest rows =>
      simp only [attachBackupPackage, loadDatabaseBackupFromStorage, except_bind_eq_ok_iff,
        require_eq_ok_iff, ensure_eq_ok_iff, except_pure_eq_ok_iff, exists_const,
        Prod.mk.injEq] at h
      obtain ⟨hfree, ⟨remote, artifact⟩, ⟨_, _, loaded, hloaded, valid, hvalid, rfl, rfl⟩,
        ⟨hstate, hopen⟩, rfl, rfl⟩ := h
      have hslot : loaded = manifest := by
        simpa [StoredPackage.upload, fillSlot, hfree.2, eq_comm] using hloaded
      obtain ⟨hmanifest, _⟩ := validateDatabaseBackupPackage_eq_ok_iff.mp hvalid
      obtain ⟨rfl, _⟩ := validateDatabaseBackupManifest_eq_ok_iff.mp hmanifest
      subst hslot
      exact ⟨hstate, hfree, rfl, .database hopen⟩
  | avatars manifest binaries =>
      simp only [attachBackupPackage, loadAvatarBackupFromStorage, except_bind_eq_ok_iff,
        require_eq_ok_iff, ensure_eq_ok_iff, except_pure_eq_ok_iff, exists_const,
        Prod.mk.injEq] at h
      obtain ⟨hfree, ⟨remote, contents⟩, ⟨loaded, hloaded, valid, hvalid, _, _, rfl, _⟩,
        ⟨hstate, hopen⟩, rfl, rfl⟩ := h
      have hslot : loaded = manifest := by
        simpa [StoredPackage.upload, fillSlot, hfree.1, eq_comm] using hloaded
      obtain ⟨rfl, _⟩ := validateAvatarBackupManifest_eq_ok_iff.mp hvalid
      subst hslot
      exact ⟨hstate, hfree, rfl, .avatars hopen⟩

end Attachment

end BuddyWeb
