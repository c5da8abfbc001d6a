/-
The snapshot of one cohort: the predicates by which a backup selects rows and
the manifest of what they select.
-/
import Mathlib.Data.Char
import Mathlib.Data.List.Lex
import BuddyWeb.Semester.Package
import Mathlib.Data.List.Sort

namespace BuddyWeb

namespace Dataset

variable (data : Dataset) (semesterId : Nat)

/-- `_SNAPSHOT_TABLES`: the students of the semester. -/
def snapshotUser (userId : Nat) : Bool :=
  data.users.any fun user =>
    user.id == userId && (user.role == .user && user.semesterId == some semesterId)

/-- `_SNAPSHOT_PROFILES`. -/
def snapshotProfile (profileId : Nat) : Bool :=
  data.studentProfiles.any fun profile =>
    profile.id == profileId && data.snapshotUser semesterId profile.userId

/-- `_SNAPSHOT_MATCHES`. -/
def snapshotMatch (matchId : Nat) : Bool :=
  data.buddyMatches.any fun buddyMatch => buddyMatch.id == matchId &&
    (buddyMatch.semesterId == semesterId &&
      data.snapshotUser semesterId buddyMatch.participantOneUserId &&
      data.snapshotUser semesterId buddyMatch.participantTwoUserId)

/-- `_SNAPSHOT_CONVERSATIONS`. -/
def snapshotConversation (conversationId : Nat) : Bool :=
  data.buddyConversations.any fun conversation => conversation.id == conversationId &&
    (conversation.semesterId == semesterId &&
      data.snapshotMatch semesterId conversation.matchId)

/-- The predicate of each `BackupTableSpec`. -/
def snapshotPredicate : Selection CohortRow
  | .users, row => row.role == .user && row.semesterId == some semesterId
  | .emailVerificationTokens, row => data.snapshotUser semesterId row.userId
  | .refreshSessions, row => data.snapshotUser semesterId row.userId
  | .studentProfiles, row => data.snapshotUser semesterId row.userId
  | .profilePhotos, row => data.snapshotProfile semesterId row.profileId
  | .profileInterests, row => data.snapshotProfile semesterId row.profileId
  | .profileLanguages, row => data.snapshotProfile semesterId row.profileId
  | .profileActivities, row => data.snapshotProfile semesterId row.profileId
  | .profileCustomPreferences, row => data.snapshotProfile semesterId row.profileId
  | .eventRegistrations, row => data.snapshotUser semesterId row.userId
  | .matchingInvitations, row =>
      data.snapshotUser semesterId row.senderId &&
        data.snapshotUser semesterId row.recipientId
  | .buddyMatches, row =>
      row.semesterId == semesterId &&
        data.snapshotUser semesterId row.participantOneUserId &&
        data.snapshotUser semesterId row.participantTwoUserId
  | .buddyConversations, row =>
      row.semesterId == semesterId && data.snapshotMatch semesterId row.matchId
  | .buddyMessages, row =>
      data.snapshotConversation semesterId row.conversationId &&
        data.snapshotUser semesterId row.senderId
  | .transactionalOutbox, row =>
      row.recipientUserId.any fun userId => data.snapshotUser semesterId userId

/-- The rows which a predicate selects in one table. -/
def selectedRows (selection : Selection CohortRow) (table : CohortTable) :
    List (CohortRow table) :=
  (data.rows table).filter (selection table)

end Dataset

/-- The primary key of a row, by which an export orders it. -/
def orderKey : (table : CohortTable) → CohortRow table → List Nat
  | .users, row => [row.id]
  | .emailVerificationTokens, row => [row.id]
  | .refreshSessions, row => [row.id]
  | .studentProfiles, row => [row.id]
  | .profilePhotos, row => [row.id]
  | .profileInterests, row => [row.profileId, row.itemId]
  | .profileLanguages, row => row.profileId :: row.languageCode.toList.map Char.toNat
  | .profileActivities, row => [row.profileId, row.itemId]
  | .profileCustomPreferences, row => [row.id]
  | .eventRegistrations, row => [row.id]
  | .matchingInvitations, row => [row.id]
  | .buddyMatches, row => [row.id]
  | .buddyConversations, row => [row.id]
  | .buddyMessages, row => [row.id]
  | .transactionalOutbox, row => [row.id]

/-- The values of a query, without repetitions and in order. -/
def distinctSorted {α : Type} [DecidableEq α] (le : α → α → Prop) [DecidableRel le]
    (values : List α) : List α :=
  values.dedup.insertionSort le

/-- The deployment which exports a snapshot: its checksums, the columns of its
mapped tables, the PostgreSQL server and the producer. -/
structure BackupAdapter where
  checksums : Checksums
  columns : CohortTable → List String
  serverMajor : Nat
  producerVersion : String

namespace Dataset

variable (data : Dataset) (semesterId : Nat)

/-- `COPY (SELECT ... WHERE predicate ORDER BY primary key)` for each table. -/
def copyFromQuery : CohortRows := fun table =>
  (data.selectedRows (data.snapshotPredicate semesterId) table).insertionSort
    fun first second => orderKey table first ≤ orderKey table second

def sharedReferences : SharedReferences where
  sourceSemesterIds := [semesterId]
  adminUserIds := distinctSorted (· ≤ ·)
    ((data.users.filter fun user => user.role == .admin).map (·.id))
  interestIds := distinctSorted (· ≤ ·)
    ((data.selectedRows (data.snapshotPredicate semesterId) .profileInterests).map (·.itemId))
  languageCodes := distinctSorted (fun first second => first.toList ≤ second.toList)
    ((data.selectedRows (data.snapshotPredicate semesterId) .profileLanguages).map
      (·.languageCode))
  activityIds := distinctSorted (· ≤ ·)
    ((data.selectedRows (data.snapshotPredicate semesterId) .profileActivities).map (·.itemId))
  eventIds := distinctSorted (· ≤ ·)
    ((data.selectedRows (data.snapshotPredicate semesterId) .eventRegistrations).map (·.eventId))

/-- The photos of the cohort, joined with their profiles and owners. -/
def avatarReferences : List AvatarReference :=
  ((data.rows .profilePhotos).flatMap fun (photo : PhotoRow) =>
    (data.studentProfiles.filter fun profile => profile.id == photo.profileId).flatMap
      fun profile =>
        (data.users.filter fun owner => owner.id == profile.userId &&
            (owner.role == .user && owner.semesterId == some semesterId)).map fun _ =>
          { photoId := photo.id, profileId := photo.profileId,
            ownerUserId := profile.userId, objectKey := photo.objectKey,
            mimeType := photo.mimeType, byteSize := photo.byteSize,
            width := photo.width, height := photo.height }).insertionSort
    fun first second => first.photoId ≤ second.photoId

end Dataset

/-- Rows of students only. -/
def StudentRows (rows : CohortRows) : Prop :=
  ∀ user ∈ (rows .users : List UserRow), user.role = .user

theorem copyFromQuery_students (data : Dataset) (semesterId : Nat) :
    StudentRows (data.copyFromQuery semesterId) := by
  intro user huser
  rw [Dataset.copyFromQuery, List.mem_insertionSort, Dataset.selectedRows,
    List.mem_filter] at huser
  have hselected := huser.2
  simp only [Dataset.snapshotPredicate, Bool.and_eq_true, beq_iff_eq] at hselected
  exact hselected.1

/-- The manifest which `PostgresBinaryCopyBackupAdapter.export` writes, with the
copied rows. -/
def BackupAdapter.export (adapter : BackupAdapter) (data : Dataset) (alembicHead : String)
    (createdAt backupId sourceSemesterId sourceBoundaryAt : Nat)
    (artifactLocation : ArtifactLocation) : DatabaseManifest × CohortRows :=
  let rows := data.copyFromQuery sourceSemesterId
  ({ backupId, sourceSemesterId, sourceBoundaryAt, createdAt, artifactLocation
     artifactSha256 := adapter.checksums.artifact rows
     tables := CohortTable.backupTables.map fun table =>
       { tableName := table, columns := adapter.columns table
         rowCount :=
           (data.selectedRows (data.snapshotPredicate sourceSemesterId) table).length
         sha256 := adapter.checksums.table table (rows table) }
     sharedReferences := data.sharedReferences sourceSemesterId
     avatarReferences := data.avatarReferences sourceSemesterId
     compatibility :=
       { sourcePostgresqlMajor := adapter.serverMajor
         requiredTargetPostgresqlMajor := adapter.serverMajor
         requiredAlembicHead := alembicHead
         producerVersion := adapter.producerVersion } }, rows)

/-- The two manifests describe the same snapshot: `_validate_current_snapshot`. -/
def SameSnapshot (backedUp current : DatabaseManifest) : Prop :=
  backedUp.backupId = current.backupId ∧
    backedUp.sourceSemesterId = current.sourceSemesterId ∧
    backedUp.sourceBoundaryAt = current.sourceBoundaryAt ∧
    backedUp.tables = current.tables ∧
    backedUp.sharedReferences = current.sharedReferences ∧
    backedUp.avatarReferences = current.avatarReferences ∧
    backedUp.compatibility = current.compatibility

instance (backedUp current : DatabaseManifest) : Decidable (SameSnapshot backedUp current) := by
  unfold SameSnapshot
  infer_instance

def validateCurrentSnapshot (backedUp current : DatabaseManifest) :
    Except SemesterError PUnit :=
  ensure (SameSnapshot backedUp current) .resetSnapshot

end BuddyWeb
