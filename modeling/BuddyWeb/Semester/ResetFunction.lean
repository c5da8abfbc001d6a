/-
The database function `app_private.execute_semester_reset`: its guards, its
counts, its deletions in order and the new boundary.
-/
import BuddyWeb.Semester.Snapshot

namespace BuddyWeb

/-- The database of the application. -/
structure Database where
  data : Dataset
  semesters : Table Semester
  operations : Table SemesterOperation
  backups : Table SemesterBackup
  alembicHead : String

/-- What the constraints between the student data and the semesters keep true. -/
structure Database.Integrity (db : Database) : Prop where
  data : db.data.Integrity
  user_semesters : ∀ user ∈ db.data.users, ∀ semesterId ∈ user.semesterId,
    ∃ semester ∈ db.semesters.rows, semester.id = semesterId

instance (db : Database) : Decidable db.Integrity :=
  decidable_of_iff
    (db.data.Integrity ∧ ∀ user ∈ db.data.users, ∀ semesterId ∈ user.semesterId,
      ∃ semester ∈ db.semesters.rows, semester.id = semesterId)
    ⟨fun ⟨data, users⟩ => ⟨data, users⟩, fun h => ⟨h.data, h.user_semesters⟩⟩

namespace Dataset

variable (data : Dataset) (semesterId : Nat)

/-- The students whom a reset deletes. -/
def resetUser (userId : Nat) : Bool :=
  data.users.any fun user =>
    user.id == userId && (user.role == .user && user.semesterId == some semesterId)

/-- The profiles of those students, selected by a join. -/
def resetProfile (profileId : Nat) : Bool :=
  data.studentProfiles.any fun profile =>
    data.users.any fun owner => owner.id == profile.userId &&
      (owner.role == .user && owner.semesterId == some semesterId && profile.id == profileId)

def resetConversation (conversationId : Nat) : Bool :=
  data.buddyConversations.any fun conversation =>
    conversation.id == conversationId && conversation.semesterId == semesterId

/-- The predicate by which a reset counts and deletes the rows of each table. -/
def resetPredicate : Selection CohortRow
  | .users, row => row.role == .user && row.semesterId == some semesterId
  | .emailVerificationTokens, row => data.resetUser semesterId row.userId
  | .refreshSessions, row => data.resetUser semesterId row.userId
  | .studentProfiles, row => data.resetUser semesterId row.userId
  | .profilePhotos, row => data.resetProfile semesterId row.profileId
  | .profileInterests, row => data.resetProfile semesterId row.profileId
  | .profileLanguages, row => data.resetProfile semesterId row.profileId
  | .profileActivities, row => data.resetProfile semesterId row.profileId
  | .profileCustomPreferences, row => data.resetProfile semesterId row.profileId
  | .eventRegistrations, row => data.resetUser semesterId row.userId
  | .matchingInvitations, row =>
      data.resetUser semesterId row.senderId || data.resetUser semesterId row.recipientId
  | .buddyMatches, row => row.semesterId == semesterId
  | .buddyConversations, row => row.semesterId == semesterId
  | .buddyMessages, row => data.resetConversation semesterId row.conversationId
  | .transactionalOutbox, row =>
      row.recipientUserId.any fun userId => data.resetUser semesterId userId

/-- The number of rows which a reset finds in one table. -/
def affectedCount (table : CohortTable) : Nat :=
  (data.selectedRows (data.resetPredicate semesterId) table).length

def affectedCounts : RowCounts :=
  CohortTable.backupTables.map fun table => (table, data.affectedCount semesterId table)

end Dataset

/-- The `DELETE` statements of a reset, by their table. -/
def resetDeleteOrder : List CohortTable :=
  [.buddyMessages, .buddyConversations, .buddyMatches, .matchingInvitations,
    .transactionalOutbox, .eventRegistrations, .profileInterests, .profileLanguages,
    .profileActivities, .profileCustomPreferences, .profilePhotos, .studentProfiles,
    .emailVerificationTokens, .refreshSessions, .users]

/-- One `DELETE` with the check of its row count.  Retained rows restrict the
deletion of the accounts they refer to. -/
def deleteTable (semesterId : Nat) (affected : CohortTable → Nat) (data : Dataset)
    (table : CohortTable) : Except SemesterError Dataset := do
  let selected := data.resetPredicate semesterId
  ensure (table = .users → ∀ user ∈ data.selectedRows selected .users,
    user.id ∉ data.restrictedUserIds) .integrity
  ensure ((data.selectedRows selected table).length = affected table) .resetPrecondition
  return data.withRows
    (cohortKeys.deleteFrom CohortTable.backupTables.length data.rows table selected)

def deleteCohort (data : Dataset) (semesterId : Nat) : Except SemesterError Dataset :=
  resetDeleteOrder.foldlM (deleteTable semesterId (data.affectedCount semesterId)) data

/-- The precondition of the deletion. -/
def ResetPrecondition (operation : SemesterOperation) (backup : SemesterBackup)
    (semester : Semester) (adminId avatarObjectsProcessed : Nat) : Prop :=
  operation.operationType = .reset ∧ operation.state = .running ∧
    operation.adminActorId = adminId ∧ operation.backupId = some backup.id ∧
    semester.status = .current ∧ semester.resetOperationId = none ∧
    backup.createdByOperationId = operation.id ∧ backup.sourceSemesterId = semester.id ∧
    backup.sourceBoundaryAt = semester.startedAt ∧ backup.state = .creating ∧
    backup.verifiedAt ≠ none ∧ backup.expiresAt = none ∧ backup.failureCode = none ∧
    backup.databaseManifestLocation ≠ none ∧ backup.databaseManifestChecksum ≠ none ∧
    backup.avatarManifestLocation ≠ none ∧ backup.avatarManifestChecksum ≠ none ∧
    avatarObjectsProcessed = backup.avatarObjectCount

instance (operation : SemesterOperation) (backup : SemesterBackup) (semester : Semester)
    (adminId avatarObjectsProcessed : Nat) :
    Decidable (ResetPrecondition operation backup semester adminId avatarObjectsProcessed) := by
  unfold ResetPrecondition
  infer_instance

/-- The source semester after its reset. -/
def closedSemester (operation : SemesterOperation) (semester : Semester) (now : Nat) : Semester :=
  { semester with
    status := .closed, closedAt := some now, resetOperationId := some operation.id }

/-- The semester which a reset opens. -/
def nextSemester (newSemesterId now : Nat) : Semester where
  id := newSemesterId
  status := .current
  startedAt := now
  closedAt := none
  resetOperationId := none
  studentAccountsCreated := 0
  firstStudentCreatedAt := none

/-- The operation after its reset. -/
def succeededReset (operation : SemesterOperation) (affected : RowCounts)
    (summary : ResultSummary) (now : Nat) : SemesterOperation :=
  { operation with
    state := .succeeded, completedAt := some now, affectedCounts := affected
    resultSummary := summary, failureCode := none }

/-- The closed boundary, the new one and the finished operation. -/
def closeSemester (db : Database) (operation : SemesterOperation) (semester : Semester)
    (data : Dataset) (affected : RowCounts) (avatarObjectsProcessed now newSemesterId : Nat) :
    Except SemesterError (Database × ResultSummary) := do
  let semesters := db.semesters.put (closedSemester operation semester now)
  -- uq_semesters_current
  ensure (∀ other ∈ semesters.rows, other.status ≠ .current) .integrity
  let semesters ← require (semesters.insert? (nextSemester newSemesterId now)) .integrity
  let summary := ResultSummary.reset semester.id newSemesterId affected avatarObjectsProcessed
  let operations := db.operations.put (succeededReset operation affected summary now)
  return ({ db with data, semesters, operations }, summary)

def executeSemesterResetSql (db : Database)
    (operationId backupId adminId avatarObjectsProcessed now newSemesterId : Nat) :
    Except SemesterError (Database × ResultSummary) := do
  let operation ← require (db.operations.get? operationId) .resetPrecondition
  let backup ← require (db.backups.get? backupId) .resetPrecondition
  let semester ← require (db.semesters.get? operation.semesterId) .resetPrecondition
  if operation.state = .succeeded then
    ensure (operation.operationType = .reset ∧ operation.backupId = some backup.id ∧
      semester.status = .closed ∧ semester.resetOperationId = some operation.id)
      .resetPrecondition
    return (db, operation.resultSummary)
  ensure (∃ actor ∈ db.data.users, actor.id = adminId ∧ actor.role = .admin ∧
    actor.isActive = true ∧ actor.deletedAt = none) .resetAuthorization
  ensure (ResetPrecondition operation backup semester adminId avatarObjectsProcessed)
    .resetPrecondition
  let affected := db.data.affectedCounts semester.id
  ensure (∀ entry ∈ affected, backup.databaseRowCounts.lookup entry.1 = some entry.2)
    .resetPrecondition
  let data ← deleteCohort db.data semester.id
  ensure ((∀ user ∈ data.users,
        (user.role == .user && user.semesterId == some semester.id) = false) ∧
      (∀ buddyMatch ∈ data.buddyMatches, buddyMatch.semesterId ≠ semester.id) ∧
      ∀ conversation ∈ data.buddyConversations, conversation.semesterId ≠ semester.id)
    .resetPrecondition
  closeSemester db operation semester data affected avatarObjectsProcessed now newSemesterId

end BuddyWeb
