/-
`process_expired_semester_backup_batch` over a storage whose calls may fail: what is left of a
package after any number of interrupted cleanups, and what a later run makes of it.
-/
import BuddyWeb.Semester.ExpiryCleanup

namespace BuddyWeb

def BackupObject.backupId : BackupObject → Nat
  | .databaseArtifact backupId => backupId
  | .databaseManifest backupId => backupId
  | .avatarManifest backupId => backupId
  | .avatarBinary backupId _ _ => backupId

/-- The calls of one round which raise.  A delete which raises may have removed its object
all the same; a process which dies is a round which raises and no round after it. -/
structure CleanupFaults where
  reads : BackupObject → Bool
  deletions : BackupObject → Option Bool
  commit : Bool

/-- A delete which was issued, and the backup whose cleanup issued it. -/
structure DeleteCall where
  cleanedId : Nat
  object : BackupObject
  raised : Bool
  deriving DecidableEq, Repr

/-- Private storage and the deletes which it was sent, the oldest first. -/
structure CleanupSession where
  packages : Nat → StoredPackage
  calls : List DeleteCall

namespace CleanupSession

def removeObject (packages : Nat → StoredPackage) (object : BackupObject) :
    Nat → StoredPackage :=
  Function.update packages object.backupId ((packages object.backupId).delete object)

variable (faults : CleanupFaults) (cleanedId : Nat)

/-- A missing object counts as deleted. -/
def delete (session : CleanupSession) (object : BackupObject) :
    Except SemesterError Unit × CleanupSession :=
  match faults.deletions object with
  | none => (.ok (), ⟨removeObject session.packages object,
      session.calls ++ [⟨cleanedId, object, false⟩]⟩)
  | some removed => (.error .databaseBackup,
      ⟨if removed then removeObject session.packages object else session.packages,
        session.calls ++ [⟨cleanedId, object, true⟩]⟩)

/-- The deletes in their order, up to the first which raises. -/
def deleteEach (session : CleanupSession) :
    List BackupObject → Except SemesterError Unit × CleanupSession
  | [] => (.ok (), session)
  | object :: rest =>
      match session.delete faults cleanedId object with
      | (.error error, session) => (.error error, session)
      | (.ok (), session) => session.deleteEach rest

end CleanupSession

/-- `_cleanup_expired_backup_artifacts`: both manifests are read and checked before the first
delete. -/
def cleanupExpiredBackup (checksums : Checksums) (faults : CleanupFaults)
    (session : CleanupSession) (backup : SemesterBackup) :
    Except SemesterError Unit × CleanupSession :=
  if faults.reads (.databaseManifest backup.id) || faults.reads (.avatarManifest backup.id) then
    (.error .databaseBackup, session)
  else
    match cleanupExpiredBackupArtifacts checksums backup (session.packages backup.id) with
    | .error error => (.error error, session)
    | .ok objects => session.deleteEach faults backup.id objects

/-- One round of the batch: its clock, the rows which others lock, and its faults. -/
structure ExpiryRound where
  now : Nat
  locked : List Nat
  faults : CleanupFaults

structure SemesterBackupExpiryReport where
  selected : Nat
  expired : Nat
  cleaned : Nat
  failed : Nat
  deriving DecidableEq, Repr

structure ExpiryBatch where
  db : Database
  session : CleanupSession
  failedIds : List Nat
  report : SemesterBackupExpiryReport

def ExpiryBatch.start (db : Database) (packages : Nat → StoredPackage) : ExpiryBatch :=
  ⟨db, ⟨packages, []⟩, [], ⟨0, 0, 0, 0⟩⟩

/-- The transaction of one round ends with the new state of the backup or leaves its row. -/
def expireSelected (round : ExpiryRound) (backup : SemesterBackup)
    (outcome : Except SemesterError Unit) : Except SemesterError SemesterBackup := do
  let _ ← outcome
  let expired ← backup.transitionTo .expired
  ensure (round.faults.commit = false) .integrity
  return expired

def expiryRound (checksums : Checksums) (batch : ExpiryBatch) (round : ExpiryRound) :
    Option ExpiryBatch :=
  match selectExpiredBackup batch.db round.now (batch.failedIds ++ round.locked) with
  | none => none
  | some backup =>
      let (outcome, session) := cleanupExpiredBackup checksums round.faults batch.session backup
      match expireSelected round backup outcome with
      | .ok expired => some { batch with
          db := { batch.db with backups := batch.db.backups.put expired }
          session := session
          report := { batch.report with
            selected := batch.report.selected + 1
            expired := batch.report.expired + 1
            cleaned := batch.report.cleaned + 1 } }
      | .error _ => some { batch with
          session := session
          failedIds := backup.id :: batch.failedIds
          report := { batch.report with
            selected := batch.report.selected + 1
            failed := batch.report.failed + 1 } }

/-- `process_expired_semester_backup_batch`, with as many rounds as the batch size allows; it
ends early when no backup is due. -/
def processExpiredSemesterBackupBatch (checksums : Checksums) (batch : ExpiryBatch) :
    List ExpiryRound → ExpiryBatch
  | [] => batch
  | round :: rest =>
      match expiryRound checksums batch round with
      | none => batch
      | some batch => processExpiredSemesterBackupBatch checksums batch rest

section Objects

variable {stored : StoredPackage} {first second : List BackupObject}

theorem deleteAll_append :
    stored.deleteAll (first ++ second) = (stored.deleteAll first).deleteAll second :=
  List.foldl_append

theorem delete_avatarBinaries (object : BackupObject) :
    (stored.delete object).avatarBinaries =
      stored.avatarBinaries.filter fun entry => object.binaryKey != some entry.1 := by
  cases object with
  | avatarBinary id photoId mimeType =>
      apply List.filter_congr
      intro entry _
      rw [Bool.eq_iff_iff, bne_iff_ne, bne_iff_ne, BackupObject.binaryKey, Ne, Ne,
        Option.some_inj, eq_comm]
  | databaseArtifact id | databaseManifest id | avatarManifest id =>
      exact (List.filter_eq_self.mpr fun _ _ => rfl).symm

theorem deleteAll_avatarBinaries :
    (stored.deleteAll first).avatarBinaries =
      stored.avatarBinaries.filter fun entry =>
        first.all fun object => object.binaryKey != some entry.1 := by
  induction first generalizing stored with
  | nil => simp [StoredPackage.deleteAll]
  | cons object rest ih =>
      have hstep : stored.deleteAll (object :: rest) = (stored.delete object).deleteAll rest := rfl
      rw [hstep, ih, delete_avatarBinaries, List.filter_filter]
      apply List.filter_congr
      intro entry _
      rw [List.all_cons, Bool.and_comm]

/-- The order of deletes, and how often each is made, do not matter. -/
theorem deleteAll_congr (h : ∀ object, object ∈ first ↔ object ∈ second) :
    stored.deleteAll first = stored.deleteAll second := by
  have hartifact : (stored.deleteAll first).databaseArtifact =
      (stored.deleteAll second).databaseArtifact := by
    apply Option.ext
    intro rows
    simp only [deleteAll_databaseArtifact_eq_some_iff, h]
  have hdatabase : (stored.deleteAll first).databaseManifest =
      (stored.deleteAll second).databaseManifest := by
    apply Option.ext
    intro manifest
    simp only [deleteAll_databaseManifest_eq_some_iff, h]
  have havatars : (stored.deleteAll first).avatarManifest =
      (stored.deleteAll second).avatarManifest := by
    apply Option.ext
    intro manifest
    simp only [deleteAll_avatarManifest_eq_some_iff, h]
  have hbinaries : (stored.deleteAll first).avatarBinaries =
      (stored.deleteAll second).avatarBinaries := by
    rw [deleteAll_avatarBinaries, deleteAll_avatarBinaries]
    apply List.filter_congr
    intro entry _
    rw [Bool.eq_iff_iff, List.all_eq_true, List.all_eq_true]
    simp only [h]
  cases hfirst : stored.deleteAll first
  cases hsecond : stored.deleteAll second
  simp_all only

end Objects

/-- The objects of a package, in the order in which a cleanup deletes them. -/
def cleanupOrder (backup : SemesterBackup) (whole : StoredPackage) : List BackupObject :=
  cleanupAvatarRefs backup.id whole.databaseManifest whole.avatarManifest ++
    [.databaseArtifact backup.id, .databaseManifest backup.id, .avatarManifest backup.id]

/-- The package of a backup with both manifests, and no binary which they do not name. -/
structure WholePackage (checksums : Checksums) (backup : SemesterBackup)
    (stored : StoredPackage) : Prop where
  manifests : ∃ databaseChecksum avatarChecksum database avatars,
    requireAttachedPackage backup = .ok (databaseChecksum, avatarChecksum) ∧
      stored.databaseManifest = some database ∧
      validateDatabaseBackupManifest checksums database backup.id databaseChecksum =
        .ok database ∧
      stored.avatarManifest = some avatars ∧
      validateAvatarBackupManifest checksums avatars backup.id avatarChecksum = .ok avatars ∧
      PackageLinked backup database avatars
  named : ∀ entry ∈ stored.avatarBinaries, ∃ manifest,
    stored.databaseManifest = some manifest ∧ manifest.Names entry.1

/-- Of a whole package, some first deletes of its cleanup have been made. -/
def PartlyDeleted (checksums : Checksums) (backup : SemesterBackup) (stored : StoredPackage) :
    Prop :=
  ∃ whole count, WholePackage checksums backup whole ∧
    stored = whole.deleteAll ((cleanupOrder backup whole).take count)

def SemesterBackup.Finalized (backup : SemesterBackup) : Prop :=
  backup.state = .ready ∨ backup.state = .restoreBlockedNewData

/-- Every backup which a batch may select has a package with some first deletes made. -/
def FinalizedPackages (checksums : Checksums) (db : Database)
    (packages : Nat → StoredPackage) : Prop :=
  ∀ backup ∈ db.backups.rows, backup.Finalized →
    PartlyDeleted checksums backup (packages backup.id)

section Partial

variable {checksums : Checksums} {backup : SemesterBackup} {whole stored : StoredPackage}
  {databaseChecksum avatarChecksum : String}

/-- The manifests which are left decide on the objects which a cleanup deletes. -/
theorem cleanupExpiredBackupArtifacts_of_valid
    (hattached : requireAttachedPackage backup = .ok (databaseChecksum, avatarChecksum))
    (hdatabase : ∀ manifest ∈ stored.databaseManifest,
      validateDatabaseBackupManifest checksums manifest backup.id databaseChecksum = .ok manifest)
    (havatars : ∀ manifest ∈ stored.avatarManifest,
      validateAvatarBackupManifest checksums manifest backup.id avatarChecksum = .ok manifest)
    (hvalid : PartialCleanupValid backup stored.databaseManifest stored.avatarManifest) :
    cleanupExpiredBackupArtifacts checksums backup stored = .ok (cleanupOrder backup stored) := by
  have hdatabaseRead : (stored.databaseManifest.mapM fun manifest =>
      validateDatabaseBackupManifest checksums manifest backup.id databaseChecksum) =
        .ok stored.databaseManifest := by
    cases hstored : stored.databaseManifest with
    | none => rfl
    | some manifest =>
        rw [Option.mapM_some, hdatabase manifest hstored]
        rfl
  have havatarsRead : (stored.avatarManifest.mapM fun manifest =>
      validateAvatarBackupManifest checksums manifest backup.id avatarChecksum) =
        .ok stored.avatarManifest := by
    cases hstored : stored.avatarManifest with
    | none => rfl
    | some manifest =>
        rw [Option.mapM_some, havatars manifest hstored]
        rfl
  simp only [cleanupExpiredBackupArtifacts, except_bind_eq_ok_iff, ensure_eq_ok_iff,
    except_pure_eq_ok_iff, exists_const]
  exact ⟨(databaseChecksum, avatarChecksum), hattached, _, hdatabaseRead, _, havatarsRead,
    hvalid, rfl⟩

theorem deleteAll_databaseManifest (objects : List BackupObject)
    (hkept : ∀ id, .databaseManifest id ∉ objects) :
    (stored.deleteAll objects).databaseManifest = stored.databaseManifest := by
  apply Option.ext
  intro manifest
  rw [deleteAll_databaseManifest_eq_some_iff]
  exact and_iff_left hkept

theorem deleteAll_avatarManifest (objects : List BackupObject)
    (hkept : ∀ id, .avatarManifest id ∉ objects) :
    (stored.deleteAll objects).avatarManifest = stored.avatarManifest := by
  apply Option.ext
  intro manifest
  rw [deleteAll_avatarManifest_eq_some_iff]
  exact and_iff_left hkept

theorem deleteAll_databaseManifest_eq_none {objects : List BackupObject} {id : Nat}
    (hdeleted : .databaseManifest id ∈ objects) :
    (stored.deleteAll objects).databaseManifest = none :=
  Option.eq_none_iff_forall_ne_some.mpr fun _ hmanifest =>
    (deleteAll_databaseManifest_eq_some_iff.mp hmanifest).2 id hdeleted

/-- The database manifest goes after everything but the avatar manifest. -/
theorem take_cleanupOrder_cases (backup : SemesterBackup) (whole : StoredPackage) (count : Nat) :
    ((∀ id, .databaseManifest id ∉ (cleanupOrder backup whole).take count) ∧
        ∀ id, .avatarManifest id ∉ (cleanupOrder backup whole).take count) ∨
      ((.databaseManifest backup.id ∈ (cleanupOrder backup whole).take count) ∧
        ∀ id, .avatarManifest id ∉ (cleanupOrder backup whole).take count) ∨
      (cleanupOrder backup whole).take count = cleanupOrder backup whole := by
  have hrefs : ∀ {object rest}, object.binaryKey = none →
      (object ∈ (cleanupAvatarRefs backup.id whole.databaseManifest whole.avatarManifest).take
        count ++ rest ↔ object ∈ rest) := by
    intro object rest hkey
    rw [List.mem_append]
    refine or_iff_right fun hmem => ?_
    exact StorageCell.binaryKey_of_mem_cleanupAvatarRefs backup.id (List.mem_of_mem_take hmem) hkey
  rw [cleanupOrder, List.take_append]
  generalize hlength : count - (cleanupAvatarRefs backup.id whole.databaseManifest
    whole.avatarManifest).length = later
  match later with
  | 0 | 1 =>
      left
      constructor <;> intro id <;> rw [hrefs rfl] <;> simp
  | 2 =>
      right
      left
      constructor
      · rw [hrefs rfl]
        simp
      · intro id
        rw [hrefs rfl]
        simp
  | later + 3 =>
      right
      right
      rw [List.take_of_length_le (by omega), List.take_of_length_le (by simp)]

/-- While a manifest is left, it names the same objects in the same order, so the deletes of
a cleanup lead along the order. -/
theorem WholePackage.goesOn (hwhole : WholePackage checksums backup whole) {count : Nat}
    (hstored : stored = whole.deleteAll ((cleanupOrder backup whole).take count)) :
    (stored.deleteAll (cleanupOrder backup whole)).IsEmpty ∧ ∀ made,
      PartlyDeleted checksums backup
        (stored.deleteAll ((cleanupOrder backup whole).take made)) := by
  refine ⟨?_, fun made => ⟨whole, max count made, hwhole, ?_⟩⟩
  · have hrest : whole.deleteAll ((cleanupOrder backup whole).take count ++
        cleanupOrder backup whole) = whole.deleteAll (cleanupOrder backup whole) := by
      apply deleteAll_congr
      intro object
      rw [List.mem_append]
      exact or_iff_right_of_imp List.mem_of_mem_take
    rw [hstored, ← deleteAll_append, hrest]
    exact whole.isEmpty_of_named backup.id hwhole.named rfl
  · rw [hstored, ← deleteAll_append]
    apply deleteAll_congr
    intro object
    rw [List.mem_append]
    rcases le_total count made with hle | hle
    · rw [max_eq_right hle]
      exact or_iff_right_of_imp fun hmem => List.take_subset_take_left _ hle hmem
    · rw [max_eq_left hle]
      exact or_iff_left_of_imp fun hmem => List.take_subset_take_left _ hle hmem

/-- After the whole order a cleanup deletes again what is gone. -/
theorem deleteAll_take_of_deleted
    (hstored : stored = whole.deleteAll (cleanupOrder backup whole))
    (hdatabase : stored.databaseManifest = none) (havatars : stored.avatarManifest = none)
    (made : Nat) : stored.deleteAll ((cleanupOrder backup stored).take made) = stored := by
  rw [hstored, ← deleteAll_append]
  apply deleteAll_congr
  intro object
  rw [List.mem_append]
  refine or_iff_left_of_imp fun hmem => ?_
  have hrest := List.mem_of_mem_take hmem
  rw [← hstored, cleanupOrder, hdatabase, havatars] at hrest
  exact List.mem_append_right _ hrest

/-- A cleanup can go on with what is left: its deletes lead along the same order. -/
theorem PartlyDeleted.cleanup (h : PartlyDeleted checksums backup stored) :
    ∃ objects, cleanupExpiredBackupArtifacts checksums backup stored = .ok objects ∧
      (stored.deleteAll objects).IsEmpty ∧
      ∀ made, PartlyDeleted checksums backup (stored.deleteAll (objects.take made)) := by
  obtain ⟨whole, count, hwhole, hstored⟩ := h
  obtain ⟨databaseChecksum, avatarChecksum, database, avatars, hattached, hdatabase,
    hdatabaseValid, havatars, havatarsValid, hlinked⟩ := hwhole.manifests
  obtain ⟨hdatabaseId, havatarsId, hdatabaseSource, havatarsSource, hdatabaseBoundary,
    havatarsBoundary, hartifact, hdatabaseLocation, havatarLocation, hchecksum, hcounts, hobjects,
    hphotos, hreferences⟩ := id hlinked
  rcases take_cleanupOrder_cases backup whole count with ⟨hdatabaseKept, havatarsKept⟩ |
    ⟨hdatabaseDeleted, havatarsKept⟩ | hall
  · have hleft : stored.databaseManifest = some database ∧
        stored.avatarManifest = some avatars := by
      rw [hstored, deleteAll_databaseManifest _ hdatabaseKept,
        deleteAll_avatarManifest _ havatarsKept]
      exact ⟨hdatabase, havatars⟩
    refine ⟨cleanupOrder backup whole, ?_, hwhole.goesOn hstored⟩
    rw [cleanupExpiredBackupArtifacts_of_valid hattached]
    · rw [cleanupOrder, cleanupOrder, hleft.1, hleft.2, hdatabase, havatars]
    · rw [hleft.1]
      rintro _ ⟨⟩
      exact hdatabaseValid
    · rw [hleft.2]
      rintro _ ⟨⟩
      exact havatarsValid
    · rw [hleft.1, hleft.2]
      exact ⟨hdatabaseLocation, havatarLocation, hlinked⟩
  · have hleft : stored.databaseManifest = none ∧ stored.avatarManifest = some avatars := by
      rw [hstored, deleteAll_databaseManifest_eq_none hdatabaseDeleted,
        deleteAll_avatarManifest _ havatarsKept]
      exact ⟨rfl, havatars⟩
    refine ⟨cleanupOrder backup whole, ?_, hwhole.goesOn hstored⟩
    rw [cleanupExpiredBackupArtifacts_of_valid hattached]
    · rw [cleanupOrder, cleanupOrder, hleft.1, hleft.2, hdatabase, havatars, cleanupAvatarRefs,
        cleanupAvatarRefs, hreferences]
    · rw [hleft.1]
      rintro _ ⟨⟩
    · rw [hleft.2]
      rintro _ ⟨⟩
      exact havatarsValid
    · rw [hleft.1, hleft.2]
      exact ⟨hdatabaseLocation, havatarLocation, havatarsId, havatarsSource, havatarsBoundary,
        hchecksum, hobjects⟩
  · rw [hall] at hstored
    have hempty : stored.IsEmpty := by
      rw [hstored]
      exact whole.isEmpty_of_named backup.id hwhole.named rfl
    have hdatabaseLeft := hempty.2.1
    have havatarsLeft := hempty.2.2.1
    have hnothing := deleteAll_take_of_deleted hstored hdatabaseLeft havatarsLeft
    refine ⟨cleanupOrder backup stored, ?_, ?_, fun made => ⟨whole, count, hwhole, ?_⟩⟩
    · apply cleanupExpiredBackupArtifacts_of_valid hattached
      · rw [hdatabaseLeft]
        rintro _ ⟨⟩
      · rw [havatarsLeft]
        rintro _ ⟨⟩
      · rw [hdatabaseLeft, havatarsLeft]
        exact ⟨hdatabaseLocation, havatarLocation, trivial⟩
    · have hlast := hnothing (cleanupOrder backup stored).length
      rw [List.take_length] at hlast
      rw [hlast]
      exact hempty
    · rw [hnothing, hall, hstored]

end Partial

section Session

variable {checksums : Checksums} {faults : CleanupFaults} {session : CleanupSession}
  {backup : SemesterBackup}

theorem update_deleteAll_deleteAll (packages : Nat → StoredPackage) (id : Nat)
    (first second : List BackupObject) :
    Function.update (Function.update packages id ((packages id).deleteAll first)) id
        ((Function.update packages id ((packages id).deleteAll first) id).deleteAll second) =
      Function.update packages id ((packages id).deleteAll (first ++ second)) := by
  rw [Function.update_idem, Function.update_self, deleteAll_append]

/-- What a cleanup has done when it ends: some first deletes of its objects, and all of them
when it did not raise. -/
structure CleanupEffect (cleanedId : Nat) (objects : List BackupObject)
    (outcome : Except SemesterError Unit) (before after : CleanupSession) (count : Nat)
    (made : List DeleteCall) : Prop where
  packages : after.packages = Function.update before.packages cleanedId
    ((before.packages cleanedId).deleteAll (objects.take count))
  calls : after.calls = before.calls ++ made
  count_le : count ≤ made.length
  own : ∀ call ∈ made, call.cleanedId = cleanedId ∧ call.object ∈ objects
  complete : outcome = .ok () → objects.length ≤ count
  quiet : outcome = .ok () → ∀ call ∈ made, call.raised = false

theorem CleanupEffect.none (cleanedId : Nat) (objects : List BackupObject)
    (error : SemesterError) (session : CleanupSession) :
    CleanupEffect cleanedId objects (.error error) session session 0 [] where
  packages := by simp [StoredPackage.deleteAll]
  calls := by simp
  count_le := by simp
  own := by simp
  complete := by simp
  quiet := by simp

theorem deleteEach_effect {cleanedId : Nat} (objects : List BackupObject)
    (hown : ∀ object ∈ objects, object.backupId = cleanedId) (session : CleanupSession) :
    ∃ count made, CleanupEffect cleanedId objects
      (session.deleteEach faults cleanedId objects).1 session
      (session.deleteEach faults cleanedId objects).2 count made := by
  induction objects generalizing session with
  | nil =>
      refine ⟨0, [], ?_, ?_, le_rfl, by simp, by simp, by simp⟩
      · simp [StoredPackage.deleteAll, CleanupSession.deleteEach]
      · simp [CleanupSession.deleteEach]
  | cons object rest ih =>
      have hobject : object.backupId = cleanedId := hown object List.mem_cons_self
      have hremove : CleanupSession.removeObject session.packages object =
          Function.update session.packages cleanedId
            ((session.packages cleanedId).deleteAll [object]) := by
        rw [CleanupSession.removeObject, hobject]
        rfl
      rw [CleanupSession.deleteEach, CleanupSession.delete]
      cases hdeletion : faults.deletions object with
      | some removed =>
          cases removed with
          | false => exact ⟨0, [⟨cleanedId, object, true⟩], by simp [StoredPackage.deleteAll],
              rfl, by simp, by simp, by simp, by simp⟩
          | true => exact ⟨1, [⟨cleanedId, object, true⟩], by simp [hremove], rfl, by simp,
              by simp, by simp, by simp⟩
      | none =>
          obtain ⟨count, made, hrest⟩ :=
            ih (fun other hother => hown other (List.mem_cons_of_mem _ hother))
              ⟨CleanupSession.removeObject session.packages object,
                session.calls ++ [⟨cleanedId, object, false⟩]⟩
          refine ⟨count + 1, ⟨cleanedId, object, false⟩ :: made, ?_, ?_, ?_, ?_, ?_, ?_⟩
          · have hpackages := hrest.packages
            dsimp only at hpackages ⊢
            rw [hpackages, hremove, update_deleteAll_deleteAll]
            rfl
          · have hcalls := hrest.calls
            dsimp only at hcalls ⊢
            rw [hcalls, List.append_assoc]
            rfl
          · exact Nat.succ_le_succ hrest.count_le
          · intro call hcall
            rcases List.mem_cons.mp hcall with rfl | hlater
            · exact ⟨rfl, List.mem_cons_self⟩
            · obtain ⟨hid, hmem⟩ := hrest.own call hlater
              exact ⟨hid, List.mem_cons_of_mem _ hmem⟩
          · exact fun hok => Nat.succ_le_succ (hrest.complete hok)
          · exact fun hok => List.forall_mem_cons.mpr ⟨rfl, hrest.quiet hok⟩

theorem deleteEach_of_working {cleanedId : Nat} (objects : List BackupObject)
    (hworking : ∀ object ∈ objects, faults.deletions object = none) (session : CleanupSession) :
    (session.deleteEach faults cleanedId objects).1 = .ok () := by
  induction objects generalizing session with
  | nil => rfl
  | cons object rest ih =>
      rw [CleanupSession.deleteEach, CleanupSession.delete, hworking object List.mem_cons_self]
      exact ih (fun other hother => hworking other (List.mem_cons_of_mem _ hother)) _

theorem cleanupOrder_backupId {stored : StoredPackage} {object : BackupObject}
    (hobject : object ∈ cleanupOrder backup stored) : object.backupId = backup.id := by
  rcases List.mem_append.mp hobject with hrefs | hrest
  · have hbinaries : ∀ {references : List AvatarReference},
        object ∈ avatarBinaryRefs backup.id references → object.backupId = backup.id := by
      intro references hmem
      obtain ⟨_, _, rfl⟩ := List.mem_map.mp hmem
      rfl
    unfold cleanupAvatarRefs at hrefs
    split at hrefs
    · exact hbinaries hrefs
    · exact hbinaries hrefs
    · simp at hrefs
  · simp only [List.mem_cons, List.not_mem_nil, or_false] at hrest
    rcases hrest with rfl | rfl | rfl <;> rfl

/-- A cleanup deletes objects of its own package only. -/
theorem cleanupExpiredBackup_effect (checksums : Checksums) (faults : CleanupFaults)
    (session : CleanupSession) (backup : SemesterBackup) :
    ∃ count made, CleanupEffect backup.id (cleanupOrder backup (session.packages backup.id))
      (cleanupExpiredBackup checksums faults session backup).1 session
      (cleanupExpiredBackup checksums faults session backup).2 count made := by
  unfold cleanupExpiredBackup
  split
  · exact ⟨0, [], .none _ _ _ _⟩
  · cases hobjects : cleanupExpiredBackupArtifacts checksums backup
      (session.packages backup.id) with
    | error error => exact ⟨0, [], .none _ _ _ _⟩
    | ok objects =>
        obtain rfl := cleanupExpiredBackupArtifacts_spec hobjects
        exact deleteEach_effect _ (fun object hobject => cleanupOrder_backupId hobject) session

/-- No call raises. -/
structure CleanupFaults.Working (faults : CleanupFaults) : Prop where
  reads : ∀ object, faults.reads object = false
  deletions : ∀ object, faults.deletions object = none
  commit : faults.commit = false

theorem cleanupExpiredBackup_of_working (hworking : faults.Working)
    (hpartly : PartlyDeleted checksums backup (session.packages backup.id)) :
    (cleanupExpiredBackup checksums faults session backup).1 = .ok () := by
  obtain ⟨objects, hobjects, _⟩ := hpartly.cleanup
  rw [cleanupExpiredBackup, hworking.reads, hworking.reads, hobjects]
  exact deleteEach_of_working objects (fun object _ => hworking.deletions object) session

end Session

/-- The order of a batch. -/
def SemesterBackup.ExpiresBefore (first second : SemesterBackup) : Prop :=
  first.expiresAt.getD 0 < second.expiresAt.getD 0 ∨
    first.expiresAt.getD 0 = second.expiresAt.getD 0 ∧ first.id < second.id

instance (first second : SemesterBackup) : Decidable (first.ExpiresBefore second) := by
  unfold SemesterBackup.ExpiresBefore
  infer_instance

instance (backup : SemesterBackup) : Decidable backup.Finalized := by
  unfold SemesterBackup.Finalized
  infer_instance

/-- The backups which a batch may have to take before this one. -/
def earlierBackups (db : Database) (backup : SemesterBackup) : List SemesterBackup :=
  db.backups.rows.filter fun other => other.Finalized ∧ other.ExpiresBefore backup

section Selection

variable {db : Database} {now : Nat} {skipped : List Nat} {backup first : SemesterBackup}

theorem mem_dueBackups_iff : backup ∈ dueBackups db now skipped ↔
    backup ∈ db.backups.rows ∧ backup.Finalized ∧
      (∃ deadline, backup.expiresAt = some deadline ∧ deadline ≤ now) ∧
      backup.id ∉ skipped := by
  rw [dueBackups, List.mem_insertionSort, List.mem_filter]
  simp [SemesterBackup.Finalized, Option.any_eq_true, and_assoc]

/-- A selected backup is due, and no due backup comes before it. -/
theorem selectExpiredBackup_first (hselect : selectExpiredBackup db now skipped = some first)
    (hdue : backup ∈ dueBackups db now skipped) :
    first = backup ∨ first.ExpiresBefore backup := by
  have hmem := List.mem_of_mem_head? hselect
  unfold selectExpiredBackup at hselect
  unfold dueBackups at hselect hdue hmem
  generalize hrows : (db.backups.rows.filter fun backup =>
    (backup.state == .ready || backup.state == .restoreBlockedNewData) &&
      backup.expiresAt.any (· ≤ now) && !skipped.contains backup.id) = rows at hselect hdue hmem
  have : Std.Total fun first second : SemesterBackup =>
      first.expiresAt.getD 0 < second.expiresAt.getD 0 ∨
        first.expiresAt.getD 0 = second.expiresAt.getD 0 ∧ first.id ≤ second.id :=
    ⟨fun _ _ => by omega⟩
  have : IsTrans SemesterBackup fun first second =>
      first.expiresAt.getD 0 < second.expiresAt.getD 0 ∨
        first.expiresAt.getD 0 = second.expiresAt.getD 0 ∧ first.id ≤ second.id :=
    ⟨fun _ _ _ _ _ => by omega⟩
  have hsorted := List.pairwise_insertionSort (fun first second : SemesterBackup =>
    first.expiresAt.getD 0 < second.expiresAt.getD 0 ∨
      first.expiresAt.getD 0 = second.expiresAt.getD 0 ∧ first.id ≤ second.id) rows
  obtain ⟨rest, hlist⟩ := List.head?_eq_some_iff.mp hselect
  rw [hlist] at hsorted
  have hdueRow : backup ∈ rows := (List.mem_insertionSort _).mp hdue
  have hfirstRow : first ∈ rows := (List.mem_insertionSort _).mp hmem
  rw [hlist] at hdue
  rcases List.mem_cons.mp hdue with rfl | hlater
  · exact Or.inl rfl
  have hle := List.rel_of_pairwise_cons hsorted hlater
  by_cases hsame : first.id = backup.id
  · left
    have hbackup := (List.mem_filter.mp (hrows ▸ hdueRow)).1
    exact Table.eq_of_key (List.mem_filter.mp (hrows ▸ hfirstRow)).1 hbackup hsame
  · right
    unfold SemesterBackup.ExpiresBefore
    omega

theorem selectExpiredBackup_due (hselect : selectExpiredBackup db now skipped = some first) :
    first ∈ dueBackups db now skipped :=
  List.mem_of_mem_head? hselect

theorem exists_selectExpiredBackup (hdue : backup ∈ dueBackups db now skipped) :
    ∃ first, selectExpiredBackup db now skipped = some first := by
  cases hselect : selectExpiredBackup db now skipped with
  | some first => exact ⟨first, rfl⟩
  | none =>
      rw [selectExpiredBackup, List.head?_eq_none_iff] at hselect
      rw [hselect] at hdue
      cases hdue

end Selection

section Rounds

variable {checksums : Checksums} {batch after : ExpiryBatch} {round : ExpiryRound}
  {backup : SemesterBackup}

def SemesterBackup.expire (backup : SemesterBackup) : SemesterBackup :=
  { backup with state := .expired }

@[simp]
theorem SemesterBackup.expire_id : backup.expire.id = backup.id := rfl

@[simp]
theorem SemesterBackup.expire_state : backup.expire.state = .expired := rfl

theorem SemesterBackup.Finalized.state_ne (h : backup.Finalized) : backup.state ≠ .expired := by
  rcases h with h | h <;> simp [h]

theorem expireSelected_eq_ok_iff {outcome : Except SemesterError Unit}
    {expired : SemesterBackup} (hfinalized : backup.Finalized) :
    expireSelected round backup outcome = .ok expired ↔
      outcome = .ok () ∧ round.faults.commit = false ∧ expired = backup.expire := by
  have hedge : SemesterBackupState.expired ∈ SemesterBackup.allowedTransitions backup.state := by
    rcases hfinalized with h | h <;> rw [h] <;> decide
  simp only [expireSelected, except_bind_eq_ok_iff, SemesterBackup.transitionTo_eq_ok_iff,
    ensure_eq_ok_iff, except_pure_eq_ok_iff, exists_const]
  constructor
  · rintro ⟨_, houtcome, _, ⟨_, rfl⟩, hcommit, rfl⟩
    exact ⟨houtcome, hcommit, rfl⟩
  · rintro ⟨houtcome, hcommit, rfl⟩
    exact ⟨(), houtcome, _, ⟨hedge, rfl⟩, hcommit, rfl⟩

/-- A round cleans up the backup which it selected, and either expires it or leaves all rows
and does not select it again. -/
structure RoundEffect (checksums : Checksums) (batch : ExpiryBatch) (round : ExpiryRound)
    (backup : SemesterBackup) (after : ExpiryBatch) : Prop where
  due : backup ∈ dueBackups batch.db round.now (batch.failedIds ++ round.locked)
  outcome : ∃ outcome count made, CleanupEffect backup.id
      (cleanupOrder backup (batch.session.packages backup.id)) outcome batch.session
      after.session count made ∧
    (outcome = .ok () ∧ after.failedIds = batch.failedIds ∧
        after.db = { batch.db with backups := batch.db.backups.put backup.expire } ∨
      after.failedIds = backup.id :: batch.failedIds ∧ after.db = batch.db)

theorem expiryRound_effect (hround : expiryRound checksums batch round = some after) :
    ∃ backup, selectExpiredBackup batch.db round.now (batch.failedIds ++ round.locked) =
        some backup ∧ RoundEffect checksums batch round backup after := by
  unfold expiryRound at hround
  cases hselect : selectExpiredBackup batch.db round.now (batch.failedIds ++ round.locked) with
  | none => simp [hselect] at hround
  | some backup =>
      rw [hselect] at hround
      have hdue := selectExpiredBackup_due hselect
      obtain ⟨count, made, heffect⟩ :=
        cleanupExpiredBackup_effect checksums round.faults batch.session backup
      refine ⟨backup, rfl, hdue,
        (cleanupExpiredBackup checksums round.faults batch.session backup).1, count, made, ?_⟩
      dsimp only at hround
      split at hround
      · rename_i hexpired
        obtain rfl := Option.some.inj hround
        obtain ⟨houtcome, _, rfl⟩ :=
          (expireSelected_eq_ok_iff (mem_dueBackups_iff.mp hdue).2.1).mp hexpired
        exact ⟨heffect, Or.inl ⟨houtcome, rfl, rfl⟩⟩
      · obtain rfl := Option.some.inj hround
        exact ⟨heffect, Or.inr ⟨rfl, rfl⟩⟩

/-- Over a working storage a round expires the backup which it selected. -/
theorem expiryRound_of_working (hworking : round.faults.Working)
    (hpackages : FinalizedPackages checksums batch.db batch.session.packages)
    (hselect : selectExpiredBackup batch.db round.now (batch.failedIds ++ round.locked) =
      some backup) :
    ∃ after, expiryRound checksums batch round = some after ∧
      after.failedIds = batch.failedIds ∧
      after.db = { batch.db with backups := batch.db.backups.put backup.expire } := by
  obtain ⟨hmem, hfinalized, _⟩ := mem_dueBackups_iff.mp (selectExpiredBackup_due hselect)
  have houtcome := cleanupExpiredBackup_of_working hworking (hpackages backup hmem hfinalized)
  have hexpired : expireSelected round backup
      (cleanupExpiredBackup checksums round.faults batch.session backup).1 =
        .ok backup.expire :=
    (expireSelected_eq_ok_iff hfinalized).mpr ⟨houtcome, hworking.commit, rfl⟩
  unfold expiryRound
  rw [hselect]
  dsimp only
  rw [hexpired]
  exact ⟨_, rfl, rfl, rfl⟩

namespace RoundEffect

variable (h : RoundEffect checksums batch round backup after)
include h

theorem mem : backup ∈ batch.db.backups.rows :=
  (mem_dueBackups_iff.mp h.due).1

theorem finalized : backup.Finalized :=
  (mem_dueBackups_iff.mp h.due).2.1

theorem packages_of_ne {id : Nat} (hne : id ≠ backup.id) :
    after.session.packages id = batch.session.packages id := by
  obtain ⟨_, _, _, heffect, _⟩ := h.outcome
  rw [heffect.packages, Function.update_of_ne hne]

/-- The package of the selected backup stays partly deleted. -/
theorem partlyDeleted (hpackages : FinalizedPackages checksums batch.db batch.session.packages) :
    PartlyDeleted checksums backup (after.session.packages backup.id) := by
  obtain ⟨_, count, _, heffect, _⟩ := h.outcome
  obtain ⟨objects, hobjects, _, hpartly⟩ := (hpackages backup h.mem h.finalized).cleanup
  obtain rfl := cleanupExpiredBackupArtifacts_spec hobjects
  rw [heffect.packages, Function.update_self]
  exact hpartly count

theorem finalizedPackages
    (hpackages : FinalizedPackages checksums batch.db batch.session.packages) :
    FinalizedPackages checksums after.db after.session.packages := by
  have hold : ∀ other ∈ batch.db.backups.rows, other.Finalized →
      PartlyDeleted checksums other (after.session.packages other.id) := by
    intro other hother hfinalized
    by_cases hsame : other.id = backup.id
    · obtain rfl := Table.eq_of_key hother h.mem hsame
      exact h.partlyDeleted hpackages
    · rw [h.packages_of_ne hsame]
      exact hpackages other hother hfinalized
  intro other hother hfinalized
  obtain ⟨_, _, _, _, ⟨_, _, hdb⟩ | ⟨_, hdb⟩⟩ := h.outcome
  · rw [hdb] at hother
    rcases Table.mem_put_cases SemesterBackup.expire_id hother with rfl | ⟨hmem, _⟩
    · exact absurd rfl hfinalized.state_ne
    · exact hold other hmem hfinalized
  · exact hold other (hdb ▸ hother) hfinalized

end RoundEffect

/-- A delete of a run belongs to a backup which the run found due, and to its package. -/
def IsDueCall (rounds : List ExpiryRound) (start : ExpiryBatch) (call : DeleteCall) : Prop :=
  call.object.backupId = call.cleanedId ∧
    ∃ round ∈ rounds, ∃ backup ∈ dueBackups start.db round.now (start.failedIds ++ round.locked),
      backup.id = call.cleanedId

/-- A row at the end of a run: as before, or expired with nothing of its package left and no
delete which raised. -/
def IsRunRow (start after : ExpiryBatch) (made : List DeleteCall) (backup : SemesterBackup) :
    Prop :=
  backup ∈ after.db.backups.rows ∨
    (backup.Finalized ∧ backup.id ∉ start.failedIds ∧ backup.expire ∈ after.db.backups.rows ∧
      (after.session.packages backup.id).IsEmpty ∧
      ∀ call ∈ made, call.cleanedId = backup.id → call.raised = false)

/-- What a run of the batch can do, whatever raises. -/
structure BatchEffect (checksums : Checksums) (rounds : List ExpiryRound)
    (start after : ExpiryBatch) : Prop where
  finalized : FinalizedPackages checksums after.db after.session.packages
  calls : ∃ made, after.session.calls = start.session.calls ++ made ∧
    (∀ call ∈ made, IsDueCall rounds start call) ∧
    (∀ id, (∀ call ∈ made, call.cleanedId ≠ id) →
      after.session.packages id = start.session.packages id) ∧
    ∀ backup ∈ start.db.backups.rows, IsRunRow start after made backup

namespace RoundEffect

variable {rounds : List ExpiryRound} {final : ExpiryBatch}

/-- What is due after a round was due before, and is another backup. -/
theorem due_of_after (h : RoundEffect checksums batch round backup after)
    {later : ExpiryRound} {other : SemesterBackup}
    (hdue : other ∈ dueBackups after.db later.now (after.failedIds ++ later.locked)) :
    other ∈ dueBackups batch.db later.now (batch.failedIds ++ later.locked) ∧
      other.id ≠ backup.id := by
  obtain ⟨hmem, hfinalized, hdeadline, hskipped⟩ := mem_dueBackups_iff.mp hdue
  obtain ⟨_, _, _, _, ⟨_, hfailed, hdb⟩ | ⟨hfailed, hdb⟩⟩ := h.outcome
  · rw [hfailed] at hskipped
    rw [hdb] at hmem
    rcases Table.mem_put_cases SemesterBackup.expire_id hmem with rfl | ⟨hold, hne⟩
    · exact absurd rfl hfinalized.state_ne
    · exact ⟨mem_dueBackups_iff.mpr ⟨hold, hfinalized, hdeadline, hskipped⟩,
        fun hsame => hne (Table.eq_of_key hold h.mem hsame)⟩
  · rw [hfailed, List.cons_append, List.mem_cons, not_or] at hskipped
    rw [hdb] at hmem
    exact ⟨mem_dueBackups_iff.mpr ⟨hmem, hfinalized, hdeadline, hskipped.2⟩, hskipped.1⟩

/-- An expired backup has nothing of its package left. -/
theorem isEmpty (h : RoundEffect checksums batch round backup after)
    (hpackages : FinalizedPackages checksums batch.db batch.session.packages)
    {count : Nat} {made : List DeleteCall}
    (heffect : CleanupEffect backup.id (cleanupOrder backup (batch.session.packages backup.id))
      (.ok ()) batch.session after.session count made) :
    (after.session.packages backup.id).IsEmpty := by
  obtain ⟨objects, hobjects, hempty, _⟩ := (hpackages backup h.mem h.finalized).cleanup
  obtain rfl := cleanupExpiredBackupArtifacts_spec hobjects
  rw [heffect.packages, Function.update_self, List.take_of_length_le (heffect.complete rfl)]
  exact hempty

/-- A round, and then the rest of the run. -/
theorem cons (h : RoundEffect checksums batch round backup after)
    (hpackages : FinalizedPackages checksums batch.db batch.session.packages)
    (hrest : BatchEffect checksums rounds after final) :
    BatchEffect checksums (round :: rounds) batch final := by
  obtain ⟨hfinal, made, hmade, hdueCalls, huntouched, hrows⟩ := hrest
  obtain ⟨outcome, count, first, heffect, hcases⟩ := h.outcome
  have hlaterCalls : ∀ call ∈ made, call.cleanedId ≠ backup.id := by
    intro call hcall
    obtain ⟨_, later, _, other, hother, hid⟩ := hdueCalls call hcall
    rw [← hid]
    exact (h.due_of_after hother).2
  have hlaterPackage : final.session.packages backup.id = after.session.packages backup.id :=
    huntouched backup.id hlaterCalls
  refine ⟨hfinal, first ++ made, ?_, ?_, ?_, ?_⟩
  · rw [hmade, heffect.calls, List.append_assoc]
  · intro call hcall
    rcases List.mem_append.mp hcall with hcall | hcall
    · obtain ⟨hid, hobject⟩ := heffect.own call hcall
      exact ⟨(cleanupOrder_backupId hobject).trans hid.symm, round, List.mem_cons_self, backup,
        h.due, hid.symm⟩
    · obtain ⟨hown, later, hlater, other, hother, hid⟩ := hdueCalls call hcall
      exact ⟨hown, later, List.mem_cons_of_mem _ hlater, other, (h.due_of_after hother).1, hid⟩
  · intro id hnone
    rw [huntouched id fun call hcall => hnone call (List.mem_append_right _ hcall)]
    by_cases hsame : id = backup.id
    · -- The round cleaned up this backup without a single delete.
      have hnothing : first = [] := List.eq_nil_iff_forall_not_mem.mpr fun call hcall =>
        hnone call (List.mem_append_left _ hcall) ((heffect.own call hcall).1.trans hsame.symm)
      have hcount : count = 0 := by simpa [hnothing] using heffect.count_le
      rw [heffect.packages, hcount, hsame, Function.update_self]
      rfl
    · exact h.packages_of_ne hsame
  · intro other hother
    by_cases hsame : other.id = backup.id
    · obtain rfl := Table.eq_of_key hother h.mem hsame
      rcases hcases with ⟨rfl, hfailed, hdb⟩ | ⟨hfailed, hdb⟩
      · right
        have hexpired : other.expire ∈ after.db.backups.rows := by
          rw [hdb]
          exact Table.mem_put_self h.mem SemesterBackup.expire_id
        have hkept : other.expire ∈ final.db.backups.rows := by
          rcases hrows _ hexpired with hkept | ⟨hfinalized, _⟩
          · exact hkept
          · exact absurd rfl hfinalized.state_ne
        refine ⟨h.finalized, ?_, hkept, ?_, ?_⟩
        · have hskipped := (mem_dueBackups_iff.mp h.due).2.2.2
          exact fun hmem => hskipped (List.mem_append_left _ hmem)
        · rw [hlaterPackage]
          exact h.isEmpty hpackages heffect
        · intro call hcall hid
          rcases List.mem_append.mp hcall with hcall | hcall
          · exact heffect.quiet rfl call hcall
          · exact absurd hid (hlaterCalls call hcall)
      · left
        rcases hrows other (hdb ▸ hother) with hkept | ⟨_, hnot, _⟩
        · exact hkept
        · exact absurd (hfailed ▸ List.mem_cons_self) hnot
    · have hmid : other ∈ after.db.backups.rows := by
        rcases hcases with ⟨_, _, hdb⟩ | ⟨_, hdb⟩
        · rw [hdb]
          exact Table.mem_put_of_ne hother hsame
        · exact hdb ▸ hother
      rcases hrows other hmid with hkept | ⟨hfinalized, hnot, hexpired, hempty, hquiet⟩
      · exact Or.inl hkept
      · right
        refine ⟨hfinalized, ?_, hexpired, hempty, ?_⟩
        · rcases hcases with ⟨_, hfailed, _⟩ | ⟨hfailed, _⟩
          · exact hfailed ▸ hnot
          · exact fun hmem => hnot (hfailed ▸ List.mem_cons_of_mem _ hmem)
        · intro call hcall hid
          rcases List.mem_append.mp hcall with hcall | hcall
          · exact absurd (hid.symm.trans (heffect.own call hcall).1) hsame
          · exact hquiet call hcall hid

end RoundEffect

theorem BatchEffect.refl (rounds : List ExpiryRound) (batch : ExpiryBatch)
    (hpackages : FinalizedPackages checksums batch.db batch.session.packages) :
    BatchEffect checksums rounds batch batch :=
  ⟨hpackages, [], by simp, by simp, fun _ _ => rfl, fun _ hmem => Or.inl hmem⟩

/-- Whatever raises in a run, and wherever it ends. -/
theorem processExpiredSemesterBackupBatch_effect (rounds : List ExpiryRound)
    (batch : ExpiryBatch)
    (hpackages : FinalizedPackages checksums batch.db batch.session.packages) :
    BatchEffect checksums rounds batch
      (processExpiredSemesterBackupBatch checksums batch rounds) := by
  induction rounds generalizing batch with
  | nil => exact .refl [] batch hpackages
  | cons round rest ih =>
      rw [processExpiredSemesterBackupBatch]
      cases hround : expiryRound checksums batch round with
      | none => exact .refl _ batch hpackages
      | some after =>
          obtain ⟨backup, _, heffect⟩ := expiryRound_effect hround
          exact heffect.cons hpackages (ih after (heffect.finalizedPackages hpackages))

/-- A round which expires an earlier backup leaves fewer of them. -/
theorem length_earlierBackups_lt {first : SemesterBackup} (hmem : first ∈ batch.db.backups.rows)
    (hfinalized : first.Finalized) (hbefore : first.ExpiresBefore backup)
    (hdb : after.db = { batch.db with backups := batch.db.backups.put first.expire }) :
    (earlierBackups after.db backup).length < (earlierBackups batch.db backup).length := by
  have hrows : after.db.backups.rows = batch.db.backups.rows.map fun old =>
      if old.id = first.id then first.expire else old := by
    rw [hdb]
    rfl
  have hfewer : ∀ old : SemesterBackup,
      decide ((if old.id = first.id then first.expire else old).Finalized ∧
          (if old.id = first.id then first.expire else old).ExpiresBefore backup) =
        (decide (old.id ≠ first.id) && decide (old.Finalized ∧ old.ExpiresBefore backup)) := by
    intro old
    by_cases hsame : old.id = first.id
    · simp [hsame, SemesterBackup.Finalized]
    · simp [hsame]
  rw [earlierBackups, hrows, List.filter_map, List.length_map, earlierBackups]
  have hfilter : batch.db.backups.rows.filter ((fun other : SemesterBackup =>
        decide (other.Finalized ∧ other.ExpiresBefore backup)) ∘ fun old =>
          if old.id = first.id then first.expire else old) =
      (batch.db.backups.rows.filter fun other =>
        decide (other.Finalized ∧ other.ExpiresBefore backup)).filter
          fun old => decide (old.id ≠ first.id) := by
    rw [List.filter_filter]
    apply List.filter_congr
    intro old _
    exact hfewer old
  rw [hfilter, List.length_filter_lt_length_iff_exists]
  exact ⟨first, List.mem_filter.mpr ⟨hmem, decide_eq_true ⟨hfinalized, hbefore⟩⟩, by simp⟩

/-- A due backup is expired by a run over a working storage which has enough rounds. -/
theorem processExpiredSemesterBackupBatch_expires (rounds : List ExpiryRound)
    (batch : ExpiryBatch) (backup : SemesterBackup)
    (hpackages : FinalizedPackages checksums batch.db batch.session.packages)
    (hfailed : batch.failedIds = [])
    (hworking : ∀ round ∈ rounds, round.faults.Working ∧
      backup ∈ dueBackups batch.db round.now round.locked)
    (hrounds : (earlierBackups batch.db backup).length < rounds.length) :
    backup.expire ∈
      (processExpiredSemesterBackupBatch checksums batch rounds).db.backups.rows := by
  induction rounds generalizing batch with
  | nil => simp at hrounds
  | cons round rest ih =>
      obtain ⟨hround, hdue⟩ := hworking round List.mem_cons_self
      have hskipped : batch.failedIds ++ round.locked = round.locked := by rw [hfailed]; rfl
      obtain ⟨first, hselect⟩ := exists_selectExpiredBackup hdue
      rw [← hskipped] at hselect
      obtain ⟨after, hafter, hafterFailed, hdb⟩ := expiryRound_of_working hround hpackages hselect
      obtain ⟨selected, hselected, heffect⟩ := expiryRound_effect hafter
      obtain rfl := Option.some.inj (hselect.symm.trans hselected)
      have hafterPackages := heffect.finalizedPackages hpackages
      rw [processExpiredSemesterBackupBatch, hafter]
      rcases selectExpiredBackup_first (hskipped ▸ hselect) hdue with rfl | hbefore
      · have hexpired : first.expire ∈ after.db.backups.rows := by
          rw [hdb]
          exact Table.mem_put_self heffect.mem SemesterBackup.expire_id
        obtain ⟨_, _, _, _, _, hrows⟩ :=
          processExpiredSemesterBackupBatch_effect rest after hafterPackages
        rcases hrows _ hexpired with hkept | ⟨hfinalized, _⟩
        · exact hkept
        · exact absurd rfl hfinalized.state_ne
      · have hother : backup.id ≠ first.id := by
          intro hsame
          have hrow := (mem_dueBackups_iff.mp hdue).1
          obtain rfl := Table.eq_of_key hrow heffect.mem hsame
          unfold SemesterBackup.ExpiresBefore at hbefore
          omega
        have hstill : ∀ later ∈ rest, later.faults.Working ∧
            backup ∈ dueBackups after.db later.now later.locked := by
          intro later hlater
          obtain ⟨hlaterWorking, hlaterDue⟩ := hworking later (List.mem_cons_of_mem _ hlater)
          obtain ⟨hmem, hdueRest⟩ := mem_dueBackups_iff.mp hlaterDue
          refine ⟨hlaterWorking, mem_dueBackups_iff.mpr ⟨?_, hdueRest⟩⟩
          rw [hdb]
          exact Table.mem_put_of_ne hmem hother
        have hfewer := length_earlierBackups_lt heffect.mem heffect.finalized hbefore hdb
        rw [List.length_cons] at hrounds
        exact ih after hafterPackages (hafterFailed.trans hfailed) hstill (by omega)

end Rounds

/-- Private storage of a world keeps the packages of finalized backups up to first deletes. -/
def KeepsFinalizedPackages (env : SemesterEnvironment) (w : World) : Prop :=
  FinalizedPackages env.checksums w.db w.packages

namespace KeepsFinalizedPackages

variable {env : SemesterEnvironment} {w after : World}

theorem frame (h : KeepsFinalizedPackages env w) (hbackups : after.db.backups = w.db.backups)
    (hpackages : after.packages = w.packages) : KeepsFinalizedPackages env after := by
  intro backup hmem hfinalized
  rw [hpackages]
  exact h backup (hbackups ▸ hmem) hfinalized

/-- A new version of one backup. -/
theorem putBackup (h : KeepsFinalizedPackages env w) {backup changed : SemesterBackup}
    (hmem : backup ∈ w.db.backups.rows) (hbackups : after.db.backups = w.db.backups.put changed)
    (hpackages : ∀ id, id ≠ backup.id → after.packages id = w.packages id)
    (hid : changed.id = backup.id)
    (hchanged : changed.Finalized →
      PartlyDeleted env.checksums changed (after.packages backup.id)) :
    KeepsFinalizedPackages env after := by
  intro other hother hfinalized
  rw [hbackups] at hother
  rcases Table.mem_put_cases hid hother with rfl | ⟨hold, hne⟩
  · rw [hid]
    exact hchanged hfinalized
  · rw [hpackages other.id fun hsame => hne (Table.eq_of_key hold hmem hsame)]
    exact h other hold hfinalized

/-- Storage of a backup which is not finalized. -/
theorem setPackage (h : KeepsFinalizedPackages env w) {backup : SemesterBackup}
    (hmem : backup ∈ w.db.backups.rows) (hopen : ¬ backup.Finalized)
    (hbackups : after.db.backups = w.db.backups)
    (hpackages : ∀ id, id ≠ backup.id → after.packages id = w.packages id) :
    KeepsFinalizedPackages env after := by
  intro other hother hfinalized
  rw [hbackups] at hother
  rw [hpackages other.id fun hsame => hopen (Table.eq_of_key hother hmem hsame ▸ hfinalized)]
  exact h other hother hfinalized

theorem abandonCreation (h : KeepsFinalizedPackages env w) (hinvariant : WorldInvariant env w)
    {backupId : Nat} {creation : BackupCreation} (kept : BackupObject → Bool)
    (hcreation : w.creating backupId = some creation) :
    KeepsFinalizedPackages env (w.abandonCreation backupId creation kept) := by
  cases hbackup : w.db.backups.get? backupId with
  | none =>
      have hunused := ((hinvariant.storage.cells backupId).unused hbackup).2
      exact absurd hunused (by simp [hcreation])
  | some backup =>
      obtain rfl : backup.id = backupId := Table.get?_key hbackup
      obtain ⟨hstate, _⟩ :=
        hinvariant.storage.open_of_creation hinvariant.lifecycle hbackup hcreation
      have hopen : ¬ backup.Finalized := by
        rcases hstate with hstate | hstate <;> simp [SemesterBackup.Finalized, hstate]
      exact h.setPackage (Table.get?_mem hbackup) hopen rfl fun id hne =>
        Function.update_of_ne hne _ _

/-- A gate leaves the package of its backup. -/
theorem gateCommit (h : KeepsFinalizedPackages env w) {now auditId : Nat}
    {request : ExecutionRequest} {context : RestoreContext} {gate : RestoreGate} {db : Database}
    (hcontext : lockedRestoreContext env w.db request = .ok context)
    (hgate : GateCommit w.db now auditId context db gate)
    (hbackups : after.db.backups = db.backups) (hpackages : after.packages = w.packages) :
    KeepsFinalizedPackages env after := by
  obtain ⟨_, _, hbackup, _⟩ := lockedRestoreContext_eq_ok_iff.mp hcontext
  have hmem := Table.get?_mem hbackup
  cases hgate with
  | replay | ready => exact h.frame hbackups hpackages
  | blocked _ _ hready _ =>
      apply h.putBackup hmem hbackups (fun id _ => congrFun hpackages id) rfl
      intro _
      rw [hpackages]
      obtain ⟨whole, count, hwhole, hstored⟩ := h context.backup hmem (Or.inl hready)
      exact ⟨whole, count, ⟨hwhole.manifests, hwhole.named⟩, hstored⟩
  | expired =>
      apply h.putBackup hmem hbackups (fun id _ => congrFun hpackages id) rfl
      intro hfinalized
      exact absurd rfl hfinalized.state_ne

/-- The packages which a verification accepts are whole. -/
theorem wholePackage_of_verify {backup : SemesterBackup} (hinvariant : WorldInvariant env w)
    (hverify : verifyPackages env w.db backup (w.packages backup.id) = .ok ()) :
    WholePackage env.checksums backup (w.packages backup.id) where
  manifests := by
    obtain ⟨databaseChecksum, avatarChecksum, database, _, avatars, _, hattached, hdatabase,
      havatars, hlinked, _⟩ := verifyPackages_eq_ok_iff.mp hverify
    obtain ⟨_, hstored, hpackage⟩ := loadDatabaseBackupFromStorage_eq_ok_iff.mp hdatabase
    obtain ⟨hstoredAvatars, hvalid, _⟩ := loadAvatarBackupFromStorage_eq_ok_iff.mp havatars
    exact ⟨databaseChecksum, avatarChecksum, database, avatars, hattached, hstored,
      (validateDatabaseBackupPackage_eq_ok_iff.mp hpackage).1, hstoredAvatars, hvalid, hlinked⟩
  named := (hinvariant.storage.cells backup.id).named

theorem step (h : KeepsFinalizedPackages env w) (hinvariant : WorldInvariant env w)
    {label : Label} (hstep : Step env w label after) : KeepsFinalizedPackages env after := by
  cases hstep with
  | tick | cohortWrite | migrate | interruptExport | rejectCreation | rejectVerification
  | skipFailure | interruptReset | startCreation | loadRestore | interruptRestore =>
      exact h.frame rfl rfl
  | prepareReset hprepare =>
      obtain ⟨_, current, _, _, _, ⟨_, _, _, rfl⟩ | ⟨_, _, backups, _, hbackups, rfl⟩⟩ :=
        prepareResetMetadata_spec hprepare
      · exact h
      intro backup hmem hfinalized
      have hrows := (Table.insert?_eq_some_iff.mp hbackups).2
      rcases List.mem_cons.mp (hrows ▸ hmem) with rfl | hold
      · simp [SemesterBackup.Finalized, creatingBackup] at hfinalized
      · exact h backup hold hfinalized
  | @attachCreation backupId _ creation backup attached stored hcreation hbackup hattach =>
      obtain ⟨hcreating, _, _, hattaches⟩ := attachBackupPackage_spec hattach
      obtain ⟨hid, hstate, _⟩ := hattaches.unchanged
      obtain rfl : backup.id = backupId := Table.get?_key hbackup
      apply h.putBackup (Table.get?_mem hbackup) rfl
        (fun id hne => Function.update_of_ne hne _ _) hid
      intro hfinalized
      simp [SemesterBackup.Finalized, hstate, hcreating] at hfinalized
  | refuseAttachment hcreation => exact h.abandonCreation hinvariant _ hcreation
  | interruptCreation hcreation => exact h.abandonCreation hinvariant _ hcreation
  | verify _ hverify =>
      obtain ⟨_, backup, hbackup, ⟨rfl, _⟩ | ⟨operation, verified, hcreating, _, _, hpackages,
        hverified, rfl⟩⟩ := verifySemesterBackup_spec hverify
      · exact h
      obtain hid : backup.id = _ := Table.get?_key hbackup
      subst hid
      have hwhole := wholePackage_of_verify hinvariant hpackages
      by_cases hsucceeded : operation.state = .succeeded
      · obtain ⟨_, _, _, _, rfl⟩ := (finalizeVerification_eq_ok_iff hsucceeded).mp hverified
        exact h.putBackup (Table.get?_mem hbackup) rfl (fun _ _ => rfl) rfl fun _ =>
          ⟨w.packages backup.id, 0, ⟨hwhole.manifests, hwhole.named⟩, rfl⟩
      · rw [finalizeVerification_of_running hsucceeded] at hverified
        obtain rfl := Except.ok.inj hverified
        refine h.putBackup (Table.get?_mem hbackup) rfl (fun _ _ => rfl) rfl fun hfinalized => ?_
        simp [SemesterBackup.Finalized, hcreating] at hfinalized
  | @recordFailure pending _ =>
      cases pending with
      | backup backupId code _ =>
          simp only [PendingFailure.record, markSemesterBackupFailed]
          split
          · exact h.frame rfl rfl
          · rename_i backup hbackup
            split
            · refine h.putBackup (Table.get?_mem hbackup) rfl (fun _ _ => rfl) rfl
                fun hfinalized => ?_
              simp [SemesterBackup.Finalized] at hfinalized
            · exact h.frame rfl rfl
      | preparation operationId =>
          exact h.frame (failResetPreparation_backups w.db operationId w.now) rfl
  | executeReset hreset =>
      exact h.frame (executeSemesterReset_backups hinvariant.lifecycle.integrity.data hreset) rfl
  | prepareRestore hprepare =>
      obtain ⟨_, _, _, _, ⟨_, _, _, rfl⟩ | ⟨_, _, _, _, _, _, _, _, rfl⟩⟩ :=
        prepareSemesterRestore_spec hprepare <;> exact h.frame rfl rfl
  | restoreGate hgate =>
      obtain ⟨context, hcontext, hcommit⟩ := semesterRestoreGate_eq_ok_iff.mp hgate
      exact h.gateCommit hcontext hcommit rfl rfl
  | finishRestore hattempt hfinal =>
      obtain ⟨context, hcontext, ⟨hcommit, _⟩ | ⟨_, _, _, heffective, _, _, _, _, _, rfl⟩⟩ :=
        semesterRestoreFinal_spec hfinal
      · exact h.gateCommit hcontext hcommit rfl rfl
      · obtain ⟨_, _, hbackup, _⟩ := lockedRestoreContext_eq_ok_iff.mp hcontext
        have hready := (SemesterBackup.effectiveState_eq_ready_iff.mp heffective).1
        obtain ⟨whole, count, hwhole, hstored⟩ :=
          h context.backup (Table.get?_mem hbackup) (Or.inl hready)
        exact h.putBackup (Table.get?_mem hbackup) rfl (fun _ _ => rfl) rfl fun _ =>
          ⟨whole, count, ⟨hwhole.manifests, hwhole.named⟩, hstored⟩
  | @expireBackup _ backup expired objects hselect _ hexpired =>
      obtain ⟨hmem, _⟩ := selectExpiredBackup_spec hselect
      obtain ⟨_, rfl⟩ := SemesterBackup.transitionTo_eq_ok_iff.mp hexpired
      refine h.putBackup hmem ?_ (fun id hne => Function.update_of_ne hne _ _)
        backup.expire_id fun hfinalized => ?_
      · rfl
      · simp [SemesterBackup.Finalized] at hfinalized
  | @interruptExpiry _ deletions backup objects hselect hcleanup =>
      obtain ⟨hmem, hstate, _⟩ := selectExpiredBackup_spec hselect
      obtain ⟨found, hfound, _, hpartly⟩ := (h backup hmem hstate).cleanup
      obtain rfl := Except.ok.inj (hcleanup.symm.trans hfound)
      intro other hother hfinalized
      by_cases hsame : other.id = backup.id
      · obtain rfl := Table.eq_of_key hother hmem hsame
        simp only [World.setPackage, Function.update_self]
        exact hpartly deletions
      · simp only [World.setPackage, Function.update_of_ne hsame]
        exact h other hother hfinalized

end KeepsFinalizedPackages

/-- In every run the package of a finalized backup is whole up to first deletes. -/
theorem lifecycle_keepsFinalizedPackages {env : SemesterEnvironment}
    {allowed : World → Label → Prop} {w : World} (hreach : Lifecycle env allowed w) :
    KeepsFinalizedPackages env w :=
  Lifecycle.invariant (KeepsFinalizedPackages env)
    (fun _ hinitial => by
      simp [KeepsFinalizedPackages, FinalizedPackages, hinitial.backups])
    (fun _ _ _ hinvariant h _ hstep => h.step hinvariant hstep) hreach

/-- A round is a step of the system: the expiry of a backup, or an interrupted cleanup. -/
theorem expiryRound_step {env : SemesterEnvironment} {w : World} {batch after : ExpiryBatch}
    {round : ExpiryRound} (hkeeps : KeepsFinalizedPackages env w) (hdb : batch.db = w.db)
    (hpackages : batch.session.packages = w.packages) (hnow : round.now = w.now)
    (hround : expiryRound env.checksums batch round = some after) :
    ∃ label next, Step env w label next ∧ next.db = after.db ∧
      next.packages = after.session.packages := by
  obtain ⟨backup, hselect, heffect⟩ := expiryRound_effect hround
  obtain ⟨outcome, count, made, hcleanup, hcases⟩ := heffect.outcome
  rw [hdb, hnow] at hselect
  obtain ⟨hmem, hfinalized, _⟩ := selectExpiredBackup_spec hselect
  obtain ⟨objects, hobjects, _⟩ := (hkeeps backup hmem hfinalized).cleanup
  have horder : cleanupOrder backup (batch.session.packages backup.id) = objects := by
    rw [hpackages]
    exact (cleanupExpiredBackupArtifacts_spec hobjects).symm
  have hafter := hcleanup.packages
  rw [horder, hpackages] at hafter
  rcases hcases with ⟨rfl, _, hafterDb⟩ | ⟨_, hafterDb⟩
  · have hexpired : backup.transitionTo .expired = .ok backup.expire := by
      refine SemesterBackup.transitionTo_eq_ok_iff.mpr ⟨?_, rfl⟩
      rcases hfinalized with hstate | hstate <;> rw [hstate] <;> decide
    refine ⟨_, _, .expireBackup hselect hobjects hexpired, ?_, ?_⟩
    · rw [hafterDb, hdb]
      rfl
    · have hcount := hcleanup.complete rfl
      rw [horder] at hcount
      rw [hafter, List.take_of_length_le hcount]
      rfl
  · refine ⟨.interruptExpiry _ count, _, .interruptExpiry hselect hobjects, ?_, ?_⟩
    · rw [hafterDb, hdb]
      rfl
    · rw [hafter]
      rfl

/-- A run marks a backup EXPIRED only when no delete for it raised and nothing of its package
is left, and over a working storage it does so for every due backup to which its rounds come. -/
theorem expired_cleanup_crash_safe {checksums : Checksums} {db : Database}
    {packages : Nat → StoredPackage} (hpackages : FinalizedPackages checksums db packages)
    (rounds : List ExpiryRound) :
    let start := ExpiryBatch.start db packages
    let run := processExpiredSemesterBackupBatch checksums start rounds
    FinalizedPackages checksums run.db run.session.packages ∧
      (∀ call ∈ run.session.calls, call.object.backupId = call.cleanedId ∧
        ∃ round ∈ rounds, ∃ backup ∈ dueBackups db round.now round.locked,
          backup.id = call.cleanedId) ∧
      (∀ id, (∀ call ∈ run.session.calls, call.object.backupId ≠ id) →
        run.session.packages id = packages id) ∧
      (∀ backup ∈ db.backups.rows, backup ∈ run.db.backups.rows ∨
        backup.Finalized ∧ backup.expire ∈ run.db.backups.rows ∧
          (run.session.packages backup.id).IsEmpty ∧
          ∀ call ∈ run.session.calls, call.cleanedId = backup.id → call.raised = false) ∧
      (∀ call ∈ run.session.calls, call.raised = true →
        ∀ backup ∈ db.backups.rows, backup.id = call.cleanedId →
          backup ∈ run.db.backups.rows) ∧
      ∀ backup, (∀ round ∈ rounds, round.faults.Working ∧
          backup ∈ dueBackups db round.now round.locked) →
        (earlierBackups db backup).length < rounds.length →
        backup.expire ∈ run.db.backups.rows ∧ (run.session.packages backup.id).IsEmpty := by
  intro start run
  obtain ⟨hfinal, made, hmade, hdue, huntouched, hrows⟩ :=
    processExpiredSemesterBackupBatch_effect rounds start hpackages
  obtain rfl : made = run.session.calls := hmade.symm
  have hrow : ∀ backup ∈ db.backups.rows, backup ∈ run.db.backups.rows ∨
      backup.Finalized ∧ backup.expire ∈ run.db.backups.rows ∧
        (run.session.packages backup.id).IsEmpty ∧
        ∀ call ∈ run.session.calls, call.cleanedId = backup.id → call.raised = false := by
    intro backup hmem
    rcases hrows backup hmem with hkept | ⟨hfinalized, _, hexpired, hempty, hquiet⟩
    · exact Or.inl hkept
    · exact Or.inr ⟨hfinalized, hexpired, hempty, hquiet⟩
  refine ⟨hfinal, fun call hcall => hdue call hcall, ?_, hrow, ?_, ?_⟩
  · intro id hnone
    refine huntouched id fun call hcall => ?_
    rw [← (hdue call hcall).1]
    exact hnone call hcall
  · intro call hcall hraised backup hmem hid
    rcases hrow backup hmem with hkept | ⟨_, _, _, hquiet⟩
    · exact hkept
    · exact absurd hraised (by simp [hquiet call hcall hid.symm])
  · intro backup hworking hrounds
    have hexpired := processExpiredSemesterBackupBatch_expires rounds start backup hpackages rfl
      hworking hrounds
    refine ⟨hexpired, ?_⟩
    cases rounds with
    | nil => simp at hrounds
    | cons round rest =>
        obtain ⟨hmem, hfinalized, _⟩ :=
          mem_dueBackups_iff.mp (hworking round List.mem_cons_self).2
        rcases hrow backup hmem with hkept | ⟨_, _, hempty, _⟩
        · have hsame := Table.eq_of_key hkept hexpired (by rfl)
          exact absurd (hsame ▸ rfl) hfinalized.state_ne
        · exact hempty

namespace ExpiryBatchWitness

open LifecycleWitness
open ResetExactWitness (env)

def working : CleanupFaults := ⟨fun _ => false, fun _ => none, false⟩

/-- The attempt before died with the avatar manifest alone; one round ends the cleanup. -/
theorem expired_cleanup_crash_safe_retry : ∃ w, Lifecycle env AnyStep w ∧
    ∃ backup ∈ w.db.backups.rows, (w.packages backup.id).databaseManifest = none ∧
      (w.packages backup.id).avatarManifest.isSome = true ∧
      let run := processExpiredSemesterBackupBatch env.checksums (.start w.db w.packages)
        [⟨w.now, [], working⟩]
      backup.expire ∈ run.db.backups.rows ∧ (run.session.packages backup.id).IsEmpty := by
  obtain ⟨w, _, hreach, hdue⟩ := Lifecycle.exists_of_run
    (resetLabels ++ [.tick semesterBackupRetention, .interruptExpiry [] 3])
    (fun w => decide (∃ backup ∈ w.db.backups.rows,
      (w.packages backup.id).databaseManifest = none ∧
        (w.packages backup.id).avatarManifest.isSome = true ∧
        backup ∈ dueBackups w.db w.now [] ∧ (earlierBackups w.db backup).length < 1))
    (start_reached AnyStep) (by decide +kernel)
  obtain ⟨backup, hmem, hdatabase, havatars, hdue, hearlier⟩ := of_decide_eq_true hdue
  refine ⟨w, hreach, backup, hmem, hdatabase, havatars, ?_⟩
  refine (expired_cleanup_crash_safe (lifecycle_keepsFinalizedPackages hreach)
    [⟨w.now, [], working⟩]).2.2.2.2.2 backup ?_ hearlier
  intro round hround
  obtain rfl := List.mem_singleton.mp hround
  exact ⟨⟨fun _ => rfl, fun _ => rfl, rfl⟩, hdue⟩

end ExpiryBatchWitness

end BuddyWeb
