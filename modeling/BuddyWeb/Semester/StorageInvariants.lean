/-
What every step keeps of private storage: unused slots are empty, uploads wait for
a backup which has no such package yet, avatar binaries are named by the stored
database manifest, and a verified package stays complete.
-/
import BuddyWeb.Semester.LifecycleSteps

namespace BuddyWeb

/-- The manifest names the avatar binary. -/
def DatabaseManifest.Names (manifest : DatabaseManifest) (key : Nat × ImageMimeType) : Prop :=
  ∃ reference ∈ manifest.avatarReferences, key = (reference.photoId, reference.mimeType)

/-- Both packages load with the checksums of the backup and belong together. -/
def PackageComplete (checksums : Checksums) (backup : SemesterBackup) (stored : StoredPackage) :
    Prop :=
  ∃ databaseChecksum avatarChecksum database artifact avatars contents,
    requireAttachedPackage backup = .ok (databaseChecksum, avatarChecksum) ∧
      loadDatabaseBackupFromStorage checksums stored backup.id databaseChecksum =
        .ok (database, artifact) ∧
      loadAvatarBackupFromStorage checksums stored backup.id avatarChecksum =
        .ok (avatars, contents) ∧
      PackageLinked backup database avatars

/-- The backup has no package of this kind yet. -/
def SemesterBackup.Open (backup : SemesterBackup) : PackageContent → Prop
  | .database _ _ => backup.databaseManifestLocation = none
  | .avatars _ _ => backup.avatarManifestLocation = none

/-- The rows of a database package are rows of students. -/
def PackageContent.Students : PackageContent → Prop
  | .database _ rows => StudentRows rows
  | .avatars _ _ => True

/-- The binaries of an avatar package are named by the stored database manifest. -/
def PackageContent.NamedIn (stored : StoredPackage) : PackageContent → Prop
  | .database _ _ => True
  | .avatars _ binaries => ∃ manifest, stored.databaseManifest = some manifest ∧
      ∀ entry ∈ binaries, manifest.Names entry.1

section Named

variable (stored : StoredPackage) (id : Nat)
  (hnamed : ∀ entry ∈ stored.avatarBinaries, ∃ manifest,
    stored.databaseManifest = some manifest ∧ manifest.Names entry.1)
include hnamed

theorem StoredPackage.mem_cleanupAvatarRefs_of_named
    {entry : (Nat × ImageMimeType) × ImageContent} (hentry : entry ∈ stored.avatarBinaries) :
    ∃ object ∈ cleanupAvatarRefs id stored.databaseManifest stored.avatarManifest,
      object.binaryKey = some entry.1 := by
  obtain ⟨manifest, hmanifest, reference, hreference, hkey⟩ := hnamed entry hentry
  rw [hmanifest]
  exact ⟨.avatarBinary id reference.photoId reference.mimeType,
    List.mem_map.mpr ⟨reference, hreference, rfl⟩, by simp [BackupObject.binaryKey, hkey]⟩

theorem StoredPackage.isEmpty_of_named {objects : List BackupObject}
    (hobjects : objects = cleanupAvatarRefs id stored.databaseManifest stored.avatarManifest ++
      [.databaseArtifact id, .databaseManifest id, .avatarManifest id]) :
    (stored.deleteAll objects).IsEmpty := by
  refine ⟨?_, ?_, ?_, ?_⟩
  · refine Option.eq_none_iff_forall_ne_some.mpr fun rows hrows => ?_
    exact (deleteAll_databaseArtifact_eq_some_iff.mp hrows).2 id (by simp [hobjects])
  · refine Option.eq_none_iff_forall_ne_some.mpr fun manifest hmanifest => ?_
    exact (deleteAll_databaseManifest_eq_some_iff.mp hmanifest).2 id (by simp [hobjects])
  · refine Option.eq_none_iff_forall_ne_some.mpr fun manifest hmanifest => ?_
    exact (deleteAll_avatarManifest_eq_some_iff.mp hmanifest).2 id (by simp [hobjects])
  · refine List.eq_nil_iff_forall_not_mem.mpr fun entry hentry => ?_
    obtain ⟨hstored, hkept⟩ := mem_deleteAll_avatarBinaries_iff.mp hentry
    obtain ⟨object, hobject, hkey⟩ := stored.mem_cleanupAvatarRefs_of_named id hnamed hstored
    exact hkept object (by rw [hobjects]; exact List.mem_append_left _ hobject) hkey

end Named

/-- The storage of one backup with the creation which holds its lock. -/
structure StorageCell (checksums : Checksums) (backup : Option SemesterBackup)
    (stored : StoredPackage) (creation : Option BackupCreation) : Prop where
  unused : backup = none → stored.IsEmpty ∧ creation = none
  students : ∀ rows ∈ stored.databaseArtifact, StudentRows rows
  uploads : ∀ upload ∈ creation, upload.content.Students ∧ upload.content.NamedIn stored ∧
    ∀ row ∈ backup, row.Open upload.content
  named : ∀ entry ∈ stored.avatarBinaries, ∃ manifest, stored.databaseManifest = some manifest ∧
    manifest.Names entry.1
  artifact : ∀ row ∈ backup, row.state = .ready ∨ row.state = .restoreBlockedNewData →
    stored.databaseManifest = none → stored.databaseArtifact = none
  verified : ∀ row ∈ backup, row.state = .creating → row.verifiedAt ≠ none →
    PackageComplete checksums row stored

namespace StorageCell

variable {checksums : Checksums} {backup changed : SemesterBackup} {stored : StoredPackage}
  {creation : Option BackupCreation}

/-- A new version of the backup row next to unchanged storage. -/
theorem changeRow (h : StorageCell checksums (some backup) stored creation)
    (hopen : ∀ content, backup.Open content → changed.Open content)
    (hartifact : changed.state = .ready ∨ changed.state = .restoreBlockedNewData →
      stored.databaseManifest = none → stored.databaseArtifact = none)
    (hverified : changed.state = .creating → changed.verifiedAt ≠ none →
      PackageComplete checksums changed stored) :
    StorageCell checksums (some changed) stored creation where
  unused := by simp
  students := h.students
  uploads upload hupload := by
    obtain ⟨hstudents, hnamed, hrow⟩ := h.uploads upload hupload
    refine ⟨hstudents, hnamed, fun row hmem => ?_⟩
    obtain rfl := Option.mem_some.mp hmem
    exact hopen _ (hrow backup rfl)
  named := h.named
  artifact row hmem := by
    obtain rfl := Option.mem_some.mp hmem
    exact hartifact
  verified row hmem := by
    obtain rfl := Option.mem_some.mp hmem
    exact hverified

/-- A backup with both packages has no creation waiting. -/
theorem creation_eq_none (h : StorageCell checksums (some backup) stored creation)
    (hattached : backup.IsAttached) : creation = none := by
  cases creation with
  | none => rfl
  | some upload =>
      have hopen := (h.uploads upload rfl).2.2 backup rfl
      cases hcontent : upload.content with
      | database manifest rows =>
          rw [hcontent] at hopen
          exact absurd hopen hattached.1
      | avatars manifest binaries =>
          rw [hcontent] at hopen
          exact absurd hopen hattached.2.2.1

/-- The creation ends and its uploads stay where their slots were free. -/
theorem endCreation {upload : BackupCreation} (kept : BackupObject → Bool)
    (h : StorageCell checksums (some backup) stored (some upload))
    (hchanged : changed.state = .creating ∨ changed.state = .failed)
    (hunverified : changed.state = .creating → changed.verifiedAt = none) :
    StorageCell checksums (some changed) (stored.upload backup.id kept upload.content) none := by
  obtain ⟨hstudents, hnamed, _⟩ := h.uploads upload rfl
  refine ⟨by simp, ?_, by simp, ?_, ?_, ?_⟩
  · cases hcontent : upload.content with
    | avatars manifest binaries => exact h.students
    | database manifest rows =>
        rw [hcontent] at hstudents
        intro found hfound
        simp only [StoredPackage.upload, fillSlot, Option.mem_def, Option.or_eq_some_iff] at hfound
        rcases hfound with hold | ⟨_, hnew⟩
        · exact h.students found hold
        · split at hnew
          · obtain rfl := Option.some.inj hnew
            exact hstudents
          · simp at hnew
  · cases hcontent : upload.content with
    | database manifest rows =>
        intro entry hentry
        obtain ⟨named, hmanifest, hnames⟩ := h.named entry hentry
        exact ⟨named, by simp [StoredPackage.upload, fillSlot, hmanifest], hnames⟩
    | avatars manifest binaries =>
        rw [hcontent] at hnamed
        intro entry hentry
        simp only [StoredPackage.upload, List.mem_append, List.mem_filter] at hentry
        rcases hentry with hold | ⟨hnew, _⟩
        · exact h.named entry hold
        · obtain ⟨named, hmanifest, hnames⟩ := hnamed
          exact ⟨named, hmanifest, hnames entry hnew⟩
  · intro row hmem hstate
    obtain rfl := Option.mem_some.mp hmem
    rcases hchanged with hcreating | hfailed <;> rcases hstate with hready | hblocked <;>
      simp_all
  · intro row hmem hcreating hdone
    obtain rfl := Option.mem_some.mp hmem
    exact absurd (hunverified hcreating) hdone

section Cleanup

variable {objects : List BackupObject} (id : Nat)

/-- The avatar binaries which a cleanup deletes are all that are stored. -/
theorem mem_cleanupAvatarRefs {row : Option SemesterBackup}
    (h : StorageCell checksums row stored creation)
    {entry : (Nat × ImageMimeType) × ImageContent} (hentry : entry ∈ stored.avatarBinaries) :
    ∃ object ∈ cleanupAvatarRefs id stored.databaseManifest stored.avatarManifest,
      object.binaryKey = some entry.1 :=
  stored.mem_cleanupAvatarRefs_of_named id h.named hentry

theorem binaryKey_of_mem_cleanupAvatarRefs {database : Option DatabaseManifest}
    {avatars : Option AvatarManifest} {object : BackupObject}
    (hobject : object ∈ cleanupAvatarRefs id database avatars) : object.binaryKey ≠ none := by
  unfold cleanupAvatarRefs at hobject
  split at hobject
  · obtain ⟨_, _, rfl⟩ := List.mem_map.mp hobject
    simp [BackupObject.binaryKey]
  · obtain ⟨_, _, rfl⟩ := List.mem_map.mp hobject
    simp [BackupObject.binaryKey]
  · simp at hobject

/-- A cleanup which stops after some objects leaves named binaries, and no artifact
without its manifest. -/
theorem interruptCleanup (h : StorageCell checksums (some backup) stored none)
    (hstate : backup.state = .ready ∨ backup.state = .restoreBlockedNewData)
    (hobjects : objects = cleanupAvatarRefs id stored.databaseManifest stored.avatarManifest ++
      [.databaseArtifact id, .databaseManifest id, .avatarManifest id]) (deletions : Nat) :
    StorageCell checksums (some backup) (stored.deleteAll (objects.take deletions)) none := by
  have htake : ∀ deleted, BackupObject.databaseManifest deleted ∈ objects.take deletions →
      (∀ object ∈ cleanupAvatarRefs id stored.databaseManifest stored.avatarManifest,
        object ∈ objects.take deletions) ∧
      BackupObject.databaseArtifact id ∈ objects.take deletions := by
    intro deleted hdeleted
    rw [hobjects, List.take_append] at hdeleted ⊢
    rcases List.mem_append.mp hdeleted with hrefs | hrest
    · exact absurd rfl (binaryKey_of_mem_cleanupAvatarRefs id (List.mem_of_mem_take hrefs))
    generalize hcount : deletions - (cleanupAvatarRefs id stored.databaseManifest
      stored.avatarManifest).length = count at hrest
    match count, hrest with
    | 0, hrest => simp at hrest
    | 1, hrest => simp at hrest
    | count + 2, _ =>
        rw [List.take_of_length_le (by omega)]
        exact ⟨fun object hobject => List.mem_append_left _ hobject, by simp⟩
  refine ⟨by simp, ?_, by simp, ?_, ?_, ?_⟩
  · intro rows hrows
    exact h.students rows (deleteAll_databaseArtifact_eq_some_iff.mp hrows).1
  · intro entry hentry
    obtain ⟨hstored, hkept⟩ := mem_deleteAll_avatarBinaries_iff.mp hentry
    obtain ⟨manifest, hmanifest, hnames⟩ := h.named entry hstored
    refine ⟨manifest, deleteAll_databaseManifest_eq_some_iff.mpr ⟨hmanifest, ?_⟩, hnames⟩
    intro deleted hdeleted
    obtain ⟨object, hobject, hkey⟩ := h.mem_cleanupAvatarRefs id hstored
    exact hkept object ((htake deleted hdeleted).1 object hobject) hkey
  · intro row hmem _ hnone
    cases hartifact : (stored.deleteAll (objects.take deletions)).databaseArtifact with
    | none => rfl
    | some rows =>
        obtain ⟨hrows, hkept⟩ := deleteAll_databaseArtifact_eq_some_iff.mp hartifact
        cases hmanifest : stored.databaseManifest with
        | none => exact absurd (h.artifact backup rfl hstate hmanifest) (by simp [hrows])
        | some manifest =>
            by_cases hdeleted : ∃ deleted,
                BackupObject.databaseManifest deleted ∈ objects.take deletions
            · obtain ⟨deleted, hdeleted⟩ := hdeleted
              exact absurd (htake deleted hdeleted).2 (hkept id)
            · have hstill := deleteAll_databaseManifest_eq_some_iff.mpr
                ⟨hmanifest, fun deleted hmem => hdeleted ⟨deleted, hmem⟩⟩
              exact absurd hnone (by simp [hstill])
  · intro row hmem hcreating
    obtain rfl := Option.mem_some.mp hmem
    rcases hstate with hready | hblocked <;> simp_all

/-- A complete cleanup leaves nothing. -/
theorem isEmpty_of_cleanup {row : Option SemesterBackup}
    (h : StorageCell checksums row stored creation)
    (hobjects : objects = cleanupAvatarRefs id stored.databaseManifest stored.avatarManifest ++
      [.databaseArtifact id, .databaseManifest id, .avatarManifest id]) :
    (stored.deleteAll objects).IsEmpty :=
  stored.isEmpty_of_named id h.named hobjects

end Cleanup

end StorageCell

/-- The storage of every backup, and the packages which unfinished restores hold. -/
structure StorageInvariant (checksums : Checksums) (w : World) : Prop where
  cells : ∀ id, StorageCell checksums (w.db.backups.get? id) (w.packages id) (w.creating id)
  restoring : ∀ attempt ∈ w.restoring, StudentRows attempt.package.artifact

namespace StorageInvariant

variable {env : SemesterEnvironment} {checksums : Checksums} {w after : World}

theorem of_initial (hinitial : w.Initial) : StorageInvariant checksums w where
  cells id := by
    have hnone : w.db.backups.get? id = none := by simp [Table.get?, hinitial.backups]
    rw [hnone, hinitial.packages, hinitial.creating]
    exact ⟨fun _ => ⟨⟨rfl, rfl, rfl, rfl⟩, rfl⟩, by simp [StoredPackage.empty], by simp,
      by simp [StoredPackage.empty], by simp, by simp⟩
  restoring := by simp [hinitial.restoring]

/-- Only the storage and the row of one backup change. -/
theorem update (h : StorageInvariant checksums w) (id : Nat)
    (hother : ∀ other, other ≠ id →
      after.db.backups.get? other = w.db.backups.get? other ∧
        after.packages other = w.packages other ∧ after.creating other = w.creating other)
    (hcell : StorageCell checksums (after.db.backups.get? id) (after.packages id)
      (after.creating id))
    (hrestoring : after.restoring = w.restoring) : StorageInvariant checksums after where
  cells other := by
    by_cases hsame : other = id
    · subst hsame
      exact hcell
    · obtain ⟨hrow, hpackage, hcreation⟩ := hother other hsame
      rw [hrow, hpackage, hcreation]
      exact h.cells other
  restoring := by rw [hrestoring]; exact h.restoring

/-- Neither storage nor a backup row changes. -/
theorem frame (h : StorageInvariant checksums w) (hbackups : after.db.backups = w.db.backups)
    (hpackages : after.packages = w.packages) (hcreating : after.creating = w.creating)
    (hrestoring : after.restoring = w.restoring) : StorageInvariant checksums after where
  cells id := by rw [hbackups, hpackages, hcreating]; exact h.cells id
  restoring := by rw [hrestoring]; exact h.restoring

/-- The row of one backup changes and its storage does not. -/
theorem putBackup (h : StorageInvariant checksums w) {db : Database}
    {backup changed : SemesterBackup} (hget : w.db.backups.get? backup.id = some backup)
    (hbackups : db.backups = w.db.backups.put changed) (hid : changed.id = backup.id)
    (hcell : StorageCell checksums (some backup) (w.packages backup.id)
        (w.creating backup.id) →
      StorageCell checksums (some changed) (w.packages backup.id) (w.creating backup.id)) :
    StorageInvariant checksums { w with db } := by
  refine h.update backup.id (fun other hne => ⟨?_, rfl, rfl⟩) ?_ rfl
  · rw [hbackups]
    refine Table.get?_put_of_ne ?_
    rw [show Keyed.key changed = changed.id from rfl, hid]
    exact hne
  · have hput : db.backups.get? backup.id = some changed := by
      rw [hbackups, ← hid]
      exact Table.put_get?_self (Table.get?_mem hget) hid
    rw [hput]
    exact hcell (hget ▸ h.cells backup.id)

end StorageInvariant

end BuddyWeb
