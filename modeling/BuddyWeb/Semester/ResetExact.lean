/-
A committed reset removes exactly the rows of its verified database package and
touches nothing else; a reset which fails changes nothing.
-/
import BuddyWeb.Semester.ResetDeletion
import BuddyWeb.Semester.ResetExecution

namespace BuddyWeb

section Predicates

variable {data : Dataset} {semesterId : Nat}

theorem snapshotUser_eq_resetUser (userId : Nat) :
    data.snapshotUser semesterId userId = data.resetUser semesterId userId := rfl

theorem snapshotProfile_eq_resetProfile (profileId : Nat) :
    data.snapshotProfile semesterId profileId = data.resetProfile semesterId profileId := by
  rw [Bool.eq_iff_iff, resetProfile_eq_true_iff]
  simp [Dataset.snapshotProfile, snapshotUser_eq_resetUser]

/-- The account to which a row refers, which foreign keys provide. -/
theorem exists_referenced_user (hintegrity : data.Integrity) {table : CohortTable}
    {row : CohortRow table} (hrow : row ∈ data.rows table) {userId : Nat}
    (htarget : (CohortTable.users, userId) ∈ cohortKeys.references table row) :
    ∃ user ∈ data.users, user.id = userId := by
  obtain ⟨user, huser, hkey⟩ := hintegrity.foreign_keys table row hrow _ htarget
  exact ⟨user, huser, Option.some.inj hkey⟩

/-- Both participants of a match belong to the cohort of its semester. -/
theorem resetUser_of_match (hintegrity : data.Integrity) {buddyMatch : MatchRow}
    (hmatch : buddyMatch ∈ data.buddyMatches) {userId : Nat}
    (hparticipant : userId = buddyMatch.participantOneUserId ∨
      userId = buddyMatch.participantTwoUserId) :
    data.resetUser buddyMatch.semesterId userId = true := by
  have htarget : (CohortTable.users, userId) ∈
      cohortKeys.references .buddyMatches buddyMatch := by
    rcases hparticipant with rfl | rfl <;>
      simp [ForeignKeys.references, cohortKeys, cascadeParents]
  obtain ⟨user, huser, hid⟩ := exists_referenced_user hintegrity hmatch htarget
  have hsemester := hintegrity.match_semester buddyMatch hmatch user huser (by rwa [hid])
  have hrole := (hintegrity.role_semester user huser).mpr (by simp [hsemester])
  exact resetUser_eq_true_iff.mpr ⟨user, huser, hid, hrole, hsemester⟩

/-- The two ends of an invitation belong to one cohort. -/
theorem resetUser_invitation_iff (hintegrity : data.Integrity) {invitation : InvitationRow}
    (hinvitation : invitation ∈ data.matchingInvitations) :
    data.resetUser semesterId invitation.senderId = true ↔
      data.resetUser semesterId invitation.recipientId = true := by
  have hends : ∀ userId, userId = invitation.senderId ∨ userId = invitation.recipientId →
      ∃ user ∈ data.users, user.id = userId := by
    rintro userId (rfl | rfl) <;>
      exact exists_referenced_user hintegrity hinvitation
        (by simp [ForeignKeys.references, cohortKeys, cascadeParents])
  obtain ⟨sender, hsender, hsenderId⟩ := hends _ (Or.inl rfl)
  obtain ⟨recipient, hrecipient, hrecipientId⟩ := hends _ (Or.inr rfl)
  obtain ⟨hsome, hsame⟩ := hintegrity.invitation_semester invitation hinvitation
    sender hsender hsenderId recipient hrecipient hrecipientId
  have hunique : ∀ {first second : UserRow}, first ∈ data.users → second ∈ data.users →
      first.id = second.id → first = second := fun hfirst hsecond hid =>
    List.inj_on_of_nodup_map hintegrity.user_keys hfirst hsecond hid
  simp only [resetUser_eq_true_iff]
  constructor
  · rintro ⟨user, huser, hid, _, hsemester⟩
    obtain rfl := hunique huser hsender (hid.trans hsenderId.symm)
    refine ⟨recipient, hrecipient, hrecipientId, ?_, hsame ▸ hsemester⟩
    exact (hintegrity.role_semester recipient hrecipient).mpr (hsame ▸ hsome)
  · rintro ⟨user, huser, hid, _, hsemester⟩
    obtain rfl := hunique huser hrecipient (hid.trans hrecipientId.symm)
    refine ⟨sender, hsender, hsenderId, ?_, hsame.trans hsemester⟩
    exact (hintegrity.role_semester sender hsender).mpr hsome

theorem snapshotMatch_of_conversation (hintegrity : data.Integrity)
    {conversation : ConversationRow} (hconversation : conversation ∈ data.buddyConversations)
    (hsemester : conversation.semesterId = semesterId) :
    data.snapshotMatch semesterId conversation.matchId = true := by
  obtain ⟨buddyMatch, hmatch, hid⟩ := exists_match_of_conversation hintegrity hconversation
  have hstamped := hintegrity.conversation_semester conversation hconversation buddyMatch
    hmatch hid
  obtain rfl : buddyMatch.semesterId = semesterId := hstamped.symm.trans hsemester
  simp only [Dataset.snapshotMatch, List.any_eq_true, Bool.and_eq_true, beq_iff_eq]
  exact ⟨buddyMatch, hmatch, hid, ⟨rfl, resetUser_of_match hintegrity hmatch (Or.inl rfl)⟩,
    resetUser_of_match hintegrity hmatch (Or.inr rfl)⟩

/-- On the rows of the database the snapshot and the reset select the same. -/
theorem snapshotPredicate_eq_resetPredicate (hintegrity : data.Integrity)
    (table : CohortTable) {row : CohortRow table} (hrow : row ∈ data.rows table) :
    data.snapshotPredicate semesterId table row =
      data.resetPredicate semesterId table row := by
  cases table with
  | users | emailVerificationTokens | refreshSessions | studentProfiles | eventRegistrations
  | transactionalOutbox => rfl
  | profilePhotos | profileInterests | profileLanguages | profileActivities
  | profileCustomPreferences => exact snapshotProfile_eq_resetProfile _
  | matchingInvitations =>
      have hends : data.resetUser semesterId row.senderId = true ↔
          data.resetUser semesterId row.recipientId = true :=
        resetUser_invitation_iff hintegrity hrow
      simp only [Dataset.snapshotPredicate, Dataset.resetPredicate, snapshotUser_eq_resetUser]
      rw [Bool.eq_iff_iff, Bool.and_eq_true, Bool.or_eq_true, hends, and_self, or_self]
  | buddyMatches =>
      simp only [Dataset.snapshotPredicate, Dataset.resetPredicate, snapshotUser_eq_resetUser]
      rw [Bool.eq_iff_iff]
      simp only [Bool.and_eq_true, beq_iff_eq]
      refine ⟨fun h => h.1.1, fun h => ?_⟩
      subst h
      exact ⟨⟨rfl, resetUser_of_match hintegrity hrow (Or.inl rfl)⟩,
        resetUser_of_match hintegrity hrow (Or.inr rfl)⟩
  | buddyConversations =>
      simp only [Dataset.snapshotPredicate, Dataset.resetPredicate]
      rw [Bool.eq_iff_iff]
      simp only [Bool.and_eq_true, beq_iff_eq]
      exact ⟨fun h => h.1, fun h => ⟨h, snapshotMatch_of_conversation hintegrity hrow h⟩⟩
  | buddyMessages =>
      simp only [Dataset.snapshotPredicate, Dataset.resetPredicate, snapshotUser_eq_resetUser]
      rw [Bool.eq_iff_iff, resetConversation_eq_true_iff]
      simp only [Dataset.snapshotConversation, Bool.and_eq_true, List.any_eq_true, beq_iff_eq]
      constructor
      · rintro ⟨⟨conversation, hmem, hid, hsemester, _⟩, _⟩
        exact ⟨conversation, hmem, hid, hsemester⟩
      · rintro ⟨conversation, hmem, hid, hsemester⟩
        refine ⟨⟨conversation, hmem, hid, hsemester,
          snapshotMatch_of_conversation hintegrity hmem hsemester⟩, ?_⟩
        obtain ⟨buddyMatch, hmatch, hmatchId⟩ := exists_match_of_conversation hintegrity hmem
        have hstamped := hintegrity.conversation_semester conversation hmem buddyMatch hmatch
          hmatchId
        obtain rfl : buddyMatch.semesterId = semesterId := hstamped.symm.trans hsemester
        exact resetUser_of_match hintegrity hmatch (hintegrity.message_sender row hrow
          conversation hmem hid buddyMatch hmatch hmatchId)

/-- The rows of the snapshot are the rows which a reset deletes. -/
theorem mem_copyFromQuery_iff (hintegrity : data.Integrity) {table : CohortTable}
    {row : CohortRow table} :
    row ∈ data.copyFromQuery semesterId table ↔
      row ∈ data.rows table ∧ data.resetPredicate semesterId table row = true := by
  rw [Dataset.copyFromQuery, List.mem_insertionSort, Dataset.selectedRows, List.mem_filter]
  constructor
  · rintro ⟨hrow, hselected⟩
    exact ⟨hrow, by rwa [← snapshotPredicate_eq_resetPredicate hintegrity table hrow]⟩
  · rintro ⟨hrow, hselected⟩
    exact ⟨hrow, by rwa [snapshotPredicate_eq_resetPredicate hintegrity table hrow]⟩

end Predicates

section Function

variable {db after : Database} {summary : ResultSummary} {operation : SemesterOperation}
  {semester : Semester}

theorem closeSemester_eq_ok_iff {data : Dataset} {affected : RowCounts}
    {avatars now newSemesterId : Nat} :
    closeSemester db operation semester data affected avatars now newSemesterId =
        .ok (after, summary) ↔
      (∀ other ∈ (db.semesters.put (closedSemester operation semester now)).rows,
        other.status ≠ .current) ∧
      ∃ semesters, (db.semesters.put (closedSemester operation semester now)).insert?
          (nextSemester newSemesterId now) = some semesters ∧
        summary = .reset semester.id newSemesterId affected avatars ∧
        after = { db with data, semesters
                          operations := db.operations.put
                            (succeededReset operation affected summary now) } := by
  simp only [closeSemester, except_bind_eq_ok_iff, require_eq_ok_iff, ensure_eq_ok_iff,
    except_pure_eq_ok_iff, Prod.mk.injEq, exists_const]
  constructor
  · rintro ⟨hcurrent, semesters, hinsert, rfl, rfl⟩
    exact ⟨hcurrent, semesters, hinsert, rfl, rfl⟩
  · rintro ⟨hcurrent, semesters, hinsert, rfl, rfl⟩
    exact ⟨hcurrent, semesters, hinsert, rfl, rfl⟩

/-- After the deletions nothing of the cohort is left. -/
theorem withoutCohort_verified {data : Dataset} {semesterId : Nat} :
    (∀ user ∈ (data.withoutCohort semesterId).users,
        (user.role == .user && user.semesterId == some semesterId) = false) ∧
      (∀ buddyMatch ∈ (data.withoutCohort semesterId).buddyMatches,
        buddyMatch.semesterId ≠ semesterId) ∧
      ∀ conversation ∈ (data.withoutCohort semesterId).buddyConversations,
        conversation.semesterId ≠ semesterId := by
  refine ⟨fun user huser => ?_, fun buddyMatch hmatch => ?_, fun conversation hmem => ?_⟩
  · exact (mem_withoutCohort_iff.mp huser).2
  · simpa [Dataset.resetPredicate] using (mem_withoutCohort_iff.mp hmatch).2
  · simpa [Dataset.resetPredicate] using (mem_withoutCohort_iff.mp hmem).2

/-- What the function does for an operation which has not succeeded: it closes the
semester without the cohort, when its guards hold. -/
theorem executeSemesterResetSql_eq_ok_iff {backup : SemesterBackup}
    {adminId avatars now newSemesterId : Nat} (hintegrity : db.data.Integrity)
    (hoperation : db.operations.get? operation.id = some operation)
    (hbackup : db.backups.get? backup.id = some backup)
    (hsemester : db.semesters.get? operation.semesterId = some semester)
    (hstate : operation.state ≠ .succeeded) :
    executeSemesterResetSql db operation.id backup.id adminId avatars now newSemesterId =
        .ok (after, summary) ↔
      (∃ actor ∈ db.data.users, actor.id = adminId ∧ actor.role = .admin ∧
        actor.isActive = true ∧ actor.deletedAt = none) ∧
      ResetPrecondition operation backup semester adminId avatars ∧
      (∀ entry ∈ db.data.affectedCounts semester.id,
        backup.databaseRowCounts.lookup entry.1 = some entry.2) ∧
      closeSemester db operation semester (db.data.withoutCohort semester.id)
        (db.data.affectedCounts semester.id) avatars now newSemesterId =
          .ok (after, summary) := by
  simp only [executeSemesterResetSql, except_bind_eq_ok_iff, require_eq_ok_iff, hoperation,
    hbackup, hsemester, Option.some.injEq, exists_eq_left', hstate, ↓reduceIte,
    ensure_eq_ok_iff, deleteCohort_eq_ok hintegrity, Except.ok.injEq, exists_const]
  constructor
  · rintro ⟨hactor, hprecondition, hcounts, _, hclose⟩
    exact ⟨hactor, hprecondition, hcounts, hclose⟩
  · rintro ⟨hactor, hprecondition, hcounts, hclose⟩
    exact ⟨hactor, hprecondition, hcounts, withoutCohort_verified, hclose⟩

end Function

/-- What a committed reset does to the database: it removes exactly the rows of the
package and opens one empty semester. -/
structure RemovesPackage (db after : Database) (package : CohortRows)
    (operation : SemesterOperation) (semester : Semester) (adminId : Nat)
    (clock : ResetClock) : Prop where
  removed : ∀ table row, row ∈ db.data.rows table ∧ row ∉ after.data.rows table ↔
    row ∈ package table
  kept : ∀ table, (after.data.rows table).Sublist (db.data.rows table)
  admins : ∀ user ∈ db.data.users, user.role = .admin → user ∈ after.data.users
  other_students : ∀ user ∈ db.data.users, user.semesterId ≠ some semester.id →
    user ∈ after.data.users
  catalogs : after.data.interests = db.data.interests ∧
    after.data.languages = db.data.languages ∧ after.data.activities = db.data.activities
  events : after.data.events = db.data.events ∧ after.data.eventMedia = db.data.eventMedia ∧
    after.data.recaps = db.data.recaps
  audit : after.data.auditLogs =
    { id := clock.auditId, userIds := [adminId], rest := semesterResetAuditAction } ::
      db.data.auditLogs
  backups : after.backups = db.backups
  operations : ∀ other ∈ db.operations.rows, other.id ≠ operation.id →
    other ∈ after.operations.rows
  closed : closedSemester operation semester clock.now ∈ after.semesters.rows
  other_semesters : ∀ other ∈ db.semesters.rows, other.id ≠ semester.id →
    other ∈ after.semesters.rows
  current : ∀ other, other ∈ after.semesters.rows ∧ other.status = .current ↔
    other = nextSemester clock.newSemesterId clock.now
  empty : ∀ user ∈ after.data.users, user.semesterId ≠ some clock.newSemesterId

/-- A package which verification accepts for a backup of the database. -/
def VerifiedPackage (env : SemesterEnvironment) (backup : SemesterBackup)
    (manifest : DatabaseManifest) (rows : CohortRows) : Prop :=
  ∃ checksum, backup.databaseManifestChecksum = some checksum ∧
    validateDatabaseBackupPackage env.checksums manifest rows backup.id checksum = .ok manifest

/-- The checksums tell the verified package apart from what is stored and what is
exported when the reset runs. -/
structure ChecksumsDistinguish (checksums : Checksums) (manifest : DatabaseManifest)
    (rows : CohortRows) (stored : StoredPackage) (current : CohortRows) : Prop where
  manifests : ∀ other, stored.databaseManifest = some other →
    checksums.databaseManifest other = checksums.databaseManifest manifest → other = manifest
  tables : ∀ table, checksums.table table (rows table) = checksums.table table (current table) →
    rows table = current table

section Execution

variable {env : SemesterEnvironment} {db : Database} {stored : StoredPackage}
  {request : ExecutionRequest} {clock : ResetClock} {fault : Option ResetStage}

/-- What a committed execution which is no replay has done. -/
theorem executeSemesterReset_spec {committed : ResetCommit}
    (h : executeSemesterReset env db stored request clock fault = .ok committed) :
    ∃ context, lockedResetContext env db request = .ok context ∧
      committed.replay = context.replay ∧
      if context.replay = true then
        committed.database = db ∧ committed.summary = context.operation.resultSummary
      else
        ∃ database avatars after,
          loadVerifiedManifests env context.backup stored = .ok (database, avatars) ∧
          SameSnapshot database (env.adapter.export db.data db.alembicHead clock.now
            context.backup.id context.semester.id context.semester.startedAt
            .privateVerification).1 ∧
          executeSemesterResetSql db context.operation.id context.backup.id context.actor.id
            avatars.objects.length clock.now clock.newSemesterId =
              .ok (after, committed.summary) ∧
          committed.database = { after with
            data := recordAuditLog after.data clock.auditId context.actor.id
              semesterResetAuditAction } := by
  simp only [executeSemesterReset, except_bind_eq_ok_iff, ensure_eq_ok_iff] at h
  obtain ⟨_, _, context, hcontext, h⟩ := h
  refine ⟨context, hcontext, ?_⟩
  split at h
  · rename_i hreplay
    simp only [except_bind_eq_ok_iff, ensure_eq_ok_iff, except_pure_eq_ok_iff,
      exists_const] at h
    obtain ⟨_, rfl⟩ := h
    simp [hreplay]
  · rename_i hreplay
    simp only [checkCurrentSnapshot, validateCurrentSnapshot, except_bind_eq_ok_iff,
      ensure_eq_ok_iff, except_pure_eq_ok_iff, exists_const] at h
    obtain ⟨_, ⟨database, avatars⟩, hload, _, hsame, _, _, ⟨after, summary⟩, hsql, _, _, rfl⟩ := h
    exact ⟨by simp [hreplay], by
      simp only [hreplay, Bool.false_eq_true, ↓reduceIte]
      exact ⟨database, avatars, after, hload, hsame, hsql, rfl⟩⟩

/-- A reset leaves the backups alone. -/
theorem executeSemesterReset_backups {committed : ResetCommit} (hintegrity : db.data.Integrity)
    (h : executeSemesterReset env db stored request clock fault = .ok committed) :
    committed.database.backups = db.backups := by
  obtain ⟨context, hcontext, _, hkind⟩ := executeSemesterReset_spec h
  split at hkind
  · rw [hkind.1]
  · rename_i hreplay
    obtain ⟨_, _, _, _, _, hsql, hcommitted⟩ := hkind
    obtain ⟨_, hoperation, hbackup, hsemester, _, heligible⟩ :=
      lockedResetContext_eq_ok_iff.mp hcontext
    simp only [hreplay, Bool.false_eq_true, ↓reduceIte] at heligible
    obtain ⟨_, _, _, hclose⟩ := (executeSemesterResetSql_eq_ok_iff hintegrity
      (Table.get?_self hoperation) (Table.get?_self hbackup) hsemester heligible.1).mp hsql
    obtain ⟨_, _, _, _, rfl⟩ := closeSemester_eq_ok_iff.mp hclose
    rw [hcommitted]

/-- Each table of a valid package has one manifest entry with the checksum of its
rows. -/
theorem exists_tableManifest {manifest : DatabaseManifest} {rows : CohortRows}
    {backupId : Nat} {checksum : String}
    (h : validateDatabaseBackupPackage env.checksums manifest rows backupId checksum =
      .ok manifest) (table : CohortTable) :
    ∃ entry ∈ manifest.tables, entry.tableName = table ∧
      env.checksums.table table (rows table) = entry.sha256 := by
  obtain ⟨hmanifest, _, htables⟩ := validateDatabaseBackupPackage_eq_ok_iff.mp h
  obtain ⟨_, _, hcontract, _⟩ := validateDatabaseBackupManifest_eq_ok_iff.mp hmanifest
  simp only [DatabaseManifest.validateContract, Bool.and_eq_true, beq_iff_eq] at hcontract
  have hnames := hcontract.1.1.1.1.1.1
  obtain ⟨entry, hentry, hname⟩ : ∃ entry ∈ manifest.tables, entry.tableName = table := by
    have hmem := CohortTable.mem_backupTables table
    rw [← hnames] at hmem
    simpa using hmem
  refine ⟨entry, hentry, hname, ?_⟩
  subst hname
  exact htables entry hentry

/-- A verified package which describes the current snapshot holds its rows. -/
theorem package_rows_eq {manifest : DatabaseManifest} {rows : CohortRows} {backupId : Nat}
    {checksum : String} {createdAt semesterId boundaryAt : Nat} {location : ArtifactLocation}
    (hvalid : validateDatabaseBackupPackage env.checksums manifest rows backupId checksum =
      .ok manifest)
    (hsame : SameSnapshot manifest (env.adapter.export db.data db.alembicHead createdAt
      backupId semesterId boundaryAt location).1)
    (htables : ∀ table, env.checksums.table table (rows table) =
        env.checksums.table table (db.data.copyFromQuery semesterId table) →
      rows table = db.data.copyFromQuery semesterId table) :
    rows = db.data.copyFromQuery semesterId := by
  funext table
  obtain ⟨entry, hentry, hname, hsha⟩ := exists_tableManifest hvalid table
  rw [hsame.2.2.2.1] at hentry
  obtain ⟨other, _, rfl⟩ := List.mem_map.mp hentry
  obtain rfl : other = table := hname
  exact htables other hsha

/-- A committed reset removes exactly its package. -/
theorem removesPackage_of_sql {operation : SemesterOperation} {semester : Semester}
    {backup : SemesterBackup} {after : Database} {summary : ResultSummary}
    {adminId avatars : Nat} {rows : CohortRows} (hintegrity : db.Integrity)
    (hoperation : db.operations.get? operation.id = some operation)
    (hbackup : db.backups.get? backup.id = some backup)
    (hsemester : db.semesters.get? operation.semesterId = some semester)
    (hstate : operation.state ≠ .succeeded)
    (hrows : rows = db.data.copyFromQuery semester.id)
    (hsql : executeSemesterResetSql db operation.id backup.id adminId avatars clock.now
      clock.newSemesterId = .ok (after, summary)) :
    RemovesPackage db { after with
      data := recordAuditLog after.data clock.auditId adminId semesterResetAuditAction }
      rows operation semester adminId clock := by
  obtain ⟨_, _, _, hclose⟩ := (executeSemesterResetSql_eq_ok_iff hintegrity.data hoperation
    hbackup hsemester hstate).mp hsql
  obtain ⟨hcurrent, semesters, hinsert, rfl, rfl⟩ := closeSemester_eq_ok_iff.mp hclose
  obtain ⟨hfresh, hsemesters⟩ := Table.insert?_eq_some_iff.mp hinsert
  have hmemSemesters : ∀ other, other ∈ semesters.rows ↔
      other = nextSemester clock.newSemesterId clock.now ∨
        other ∈ (db.semesters.put (closedSemester operation semester clock.now)).rows := by
    intro other
    rw [hsemesters, List.mem_cons]
  refine ⟨?_, ?_, ?_, ?_, ⟨rfl, rfl, rfl⟩, ⟨rfl, rfl, rfl⟩, rfl, rfl, ?_, ?_, ?_, ?_, ?_⟩
  · intro table row
    subst hrows
    rw [mem_copyFromQuery_iff hintegrity.data]
    simp only [recordAuditLog, mem_withoutCohort_iff, not_and, Bool.not_eq_false]
    constructor
    · rintro ⟨hrow, hremoved⟩
      exact ⟨hrow, hremoved hrow⟩
    · rintro ⟨hrow, hselected⟩
      exact ⟨hrow, fun _ => hselected⟩
  · intro table
    exact List.filter_sublist
  · intro user huser hadmin
    exact mem_withoutCohort_iff.mpr ⟨huser, by simp [Dataset.resetPredicate, hadmin]⟩
  · intro user huser hother
    exact mem_withoutCohort_iff.mpr ⟨huser, by simp [Dataset.resetPredicate, hother]⟩
  · intro other hother hid
    exact Table.mem_put_iff.mpr (Or.inr ⟨hother, hid⟩)
  · have hclosed : closedSemester operation semester clock.now ∈
        (db.semesters.put (closedSemester operation semester clock.now)).rows :=
      Table.mem_put_iff.mpr (Or.inl ⟨rfl, semester, Table.get?_mem hsemester, rfl⟩)
    exact (hmemSemesters _).mpr (Or.inr hclosed)
  · intro other hother hid
    exact (hmemSemesters _).mpr (Or.inr (Table.mem_put_iff.mpr (Or.inr ⟨hother, hid⟩)))
  · intro other
    constructor
    · rintro ⟨hmem, hstatus⟩
      rcases (hmemSemesters other).mp hmem with rfl | hold
      · rfl
      · exact absurd hstatus (hcurrent other hold)
    · rintro rfl
      exact ⟨(hmemSemesters _).mpr (Or.inl rfl), rfl⟩
  · intro user huser hnew
    have hmem := (mem_withoutCohort_iff.mp huser).1
    obtain ⟨old, hold, hid⟩ := hintegrity.user_semesters user hmem _ hnew
    by_cases hsource : old.id = semester.id
    · exact hfresh (closedSemester operation semester clock.now)
        (Table.mem_put_iff.mpr (Or.inl ⟨rfl, semester, Table.get?_mem hsemester, rfl⟩))
        (hsource.symm.trans hid)
    · exact hfresh old (Table.mem_put_iff.mpr (Or.inr ⟨hold, hsource⟩)) hid

end Execution

/-- An execution removes exactly the rows of the verified package of its backup when
it commits, and nothing when it fails or replays. -/
theorem executeSemesterReset_exact (env : SemesterEnvironment) (db : Database)
    (stored : StoredPackage) (request : ExecutionRequest) (clock : ResetClock)
    (fault : Option ResetStage) (backup : SemesterBackup) (manifest : DatabaseManifest)
    (rows : CohortRows) (hintegrity : db.Integrity)
    (hbackup : db.backups.get? request.backupId = some backup)
    (hverified : VerifiedPackage env backup manifest rows)
    (hsha : ChecksumsDistinguish env.checksums manifest rows stored
      (db.data.copyFromQuery backup.sourceSemesterId)) :
    (∀ error, executeSemesterReset env db stored request clock fault = .error error →
      db.afterReset (executeSemesterReset env db stored request clock fault) = db) ∧
    ∀ committed, executeSemesterReset env db stored request clock fault = .ok committed →
      if committed.replay = true then committed.database = db
      else ∃ operation semester,
        db.operations.get? request.operationId = some operation ∧
        db.semesters.get? backup.sourceSemesterId = some semester ∧
        RemovesPackage db committed.database rows operation semester request.adminId clock := by
  refine ⟨fun error herror => by rw [herror]; rfl, fun committed hcommitted => ?_⟩
  obtain ⟨context, hcontext, hreplay, hdone⟩ := executeSemesterReset_spec hcommitted
  rw [hreplay]
  by_cases hkind : context.replay = true
  · rw [if_pos hkind] at hdone ⊢
    exact hdone.1
  rw [if_neg hkind] at hdone ⊢
  obtain ⟨database, avatars, after, hload, hsame, hsql, hafter⟩ := hdone
  obtain ⟨hactor, hoperation, hcontextBackup, hsemester, _, hgate⟩ :=
    lockedResetContext_eq_ok_iff.mp hcontext
  rw [if_neg hkind] at hgate
  obtain ⟨hstate, heligible⟩ := hgate
  obtain rfl : backup = context.backup := Option.some.inj (hbackup.symm.trans hcontextBackup)
  obtain ⟨_, _, _, hsource, _, _, _, _, hsourceSemester, _⟩ := heligible
  obtain ⟨hfind, _⟩ := requireActiveAdmin_eq_ok_iff.mp hactor
  have hactorId : context.actor.id = request.adminId := by simpa using List.find?_some hfind
  -- The stored manifest is the verified one, and it describes the current rows.
  obtain ⟨⟨checksum, hchecksum, hstored, hvalid⟩, _, _⟩ :=
    loadVerifiedManifests_eq_ok_iff.mp hload
  obtain ⟨verifiedChecksum, hverifiedChecksum, hpackage⟩ := hverified
  obtain rfl : checksum = verifiedChecksum :=
    Option.some.inj (hchecksum.symm.trans hverifiedChecksum)
  have hdigest := (validateDatabaseBackupManifest_eq_ok_iff.mp hvalid).2.1
  have hpackageDigest := (validateDatabaseBackupManifest_eq_ok_iff.mp
    (validateDatabaseBackupPackage_eq_ok_iff.mp hpackage).1).2.1
  obtain rfl : database = manifest :=
    hsha.manifests database hstored (hdigest.trans hpackageDigest.symm)
  have hrows := package_rows_eq hpackage hsame (by rw [← hsourceSemester]; exact hsha.tables)
  refine ⟨context.operation, context.semester, hoperation, ?_, ?_⟩
  · rw [hsourceSemester, ← hsource]
    exact hsemester
  · rw [hafter, ← hactorId]
    exact removesPackage_of_sql hintegrity (Table.get?_self hoperation)
      (Table.get?_self hbackup) hsemester hstate hrows hsql

namespace ResetExactWitness

/-- Checksums which tell contents apart by table and size. -/
def checksums : Checksums where
  table table rows := table.tableName ++ toString rows.length
  artifact rows := toString (CohortTable.backupTables.map fun table => (rows table).length).sum
  databaseManifest manifest := "database" ++ toString manifest.backupId
  avatarManifest manifest := "avatars" ++ toString manifest.backupId
  image content := toString content.length

def env : SemesterEnvironment where
  adapter := { checksums, columns := fun table => [table.tableName], serverMajor := 17,
               producerVersion := "0" }
  verifyPassword password hash := password == hash

def account (id : Nat) (role : UserRole) (semesterId : Option Nat) : UserRow where
  id := id
  role := role
  isActive := true
  deletedAt := none
  emailVerifiedAt := some 0
  semesterId := semesterId
  passwordHash := "secret"
  rest := ""

/-- An administrator and two matched students who exchanged a message. -/
def data : Dataset where
  rows
    | .users => [account 1 .admin none, account 2 .user (some 7), account 3 .user (some 7)]
    | .studentProfiles => [⟨20, 2, ""⟩, ⟨30, 3, ""⟩]
    | .profilePhotos => [⟨40, 20, 41, .png, 1, 1, 1⟩]
    | .profileInterests => [⟨30, 50⟩]
    | .matchingInvitations => [⟨60, 2, 3, ""⟩]
    | .buddyMatches => [⟨70, 7, 2, 3, 20, 30, 60, ""⟩]
    | .buddyConversations => [⟨80, 70, 7, ""⟩]
    | .buddyMessages => [⟨90, 80, 3, ""⟩]
    | .transactionalOutbox => [⟨100, some 2, ""⟩, ⟨101, none, ""⟩]
    | _ => []
  interests := [50]
  languages := []
  activities := []
  events := [⟨110, [1, 1], ""⟩]
  eventMedia := []
  recaps := []
  auditLogs := []

def semester : Semester := ⟨7, .current, 100, none, none, 2, some 101⟩

theorem semester_keys : ([semester].map Keyed.key).Nodup := by
  simp

def manifest : DatabaseManifest :=
  (env.adapter.export data "head" 110 9 7 100 (.stored (.databaseArtifact 9))).1

def avatars : AvatarManifest where
  backupId := 9
  sourceSemesterId := 7
  sourceBoundaryAt := 100
  createdAt := 111
  databaseManifestChecksum := "database9"
  objectCount := 1
  totalBytes := 1
  objects := [⟨⟨40, 20, 2, 41, .png, 1, 1, 1⟩, "1"⟩]

def operation : SemesterOperation :=
  ⟨8, .reset, .running, 7, 1, some 9, 105, some 105, none, [], .none, none⟩

def backup : SemesterBackup :=
  { id := 9, sourceSemesterId := 7, sourceBoundaryAt := 100, createdByOperationId := 8
    state := .creating, databaseManifestLocation := some (.databaseManifest 9)
    databaseManifestChecksum := some "database9", databaseRowCounts := manifest.rowCounts
    avatarManifestLocation := some (.avatarManifest 9)
    avatarManifestChecksum := some "avatars9", avatarObjectCount := 1
    verifiedAt := some 120, expiresAt := none, restoredAt := none
    restoredByAdminId := none, restoreOperationId := none, failureCode := none }

def db : Database where
  data := data
  semesters := ⟨[semester], semester_keys⟩
  operations := ⟨[operation], by simp⟩
  backups := ⟨[backup], by simp⟩
  alembicHead := "head"

def stored : StoredPackage where
  databaseArtifact := some (data.copyFromQuery 7)
  databaseManifest := some manifest
  avatarManifest := some avatars
  avatarBinaries := [((40, .png), [0])]

def request : ExecutionRequest := ⟨8, 9, 1, "secret", "RESET 7"⟩

def clock : ResetClock := ⟨130, 10, 11⟩

theorem db_integrity : db.Integrity := by decide +kernel

/-- A reset of the two students commits and removes their package. -/
theorem executeSemesterReset_exact_matchedPair :
    ∃ committed, executeSemesterReset env db stored request clock none = .ok committed ∧
      RemovesPackage db committed.database (data.copyFromQuery 7) operation semester 1
        clock := by
  obtain ⟨committed, hcommitted⟩ := exists_ok_of_toBool
    (executeSemesterReset env db stored request clock none) (by decide +kernel)
  have hreplay : (executeSemesterReset env db stored request clock none).toOption.all
      (fun outcome => !outcome.replay) = true := by decide +kernel
  have hexact := (executeSemesterReset_exact env db stored request clock none backup manifest
    (data.copyFromQuery 7) db_integrity (by decide +kernel)
    ⟨"database9", rfl, by
      rw [validateDatabaseBackupPackage_eq_ok_iff, validateDatabaseBackupManifest_eq_ok_iff]
      decide +kernel⟩
    ⟨fun other hother _ => (Option.some.inj hother).symm, fun _ _ => rfl⟩).2
    committed hcommitted
  rw [hcommitted] at hreplay
  have hfresh : committed.replay = false := by simpa [Except.toOption] using hreplay
  simp only [hfresh, Bool.false_eq_true, ↓reduceIte] at hexact
  obtain ⟨found, source, hfound, hsource, hremoves⟩ := hexact
  have hoperation : db.operations.get? request.operationId = some operation := by
    decide +kernel
  have hsemester : db.semesters.get? backup.sourceSemesterId = some semester := by
    decide +kernel
  rw [hoperation] at hfound
  rw [hsemester] at hsource
  obtain rfl := Option.some.inj hfound
  obtain rfl := Option.some.inj hsource
  exact ⟨committed, hcommitted, hremoves⟩

end ResetExactWitness

end BuddyWeb
