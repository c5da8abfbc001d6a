/-
What the deletions of a reset remove.  Children are deleted before the rows they
refer to, and with a row its children are selected, so that no cascade removes
anything more.
-/
import BuddyWeb.Semester.ResetFunction

namespace BuddyWeb

open ForeignKeys

section Cohort

variable {data : Dataset} {semesterId : Nat}

theorem resetUser_eq_true_iff {userId : Nat} :
    data.resetUser semesterId userId = true ↔
      ∃ user ∈ data.users, user.id = userId ∧ user.role = .user ∧
        user.semesterId = some semesterId := by
  simp [Dataset.resetUser]

theorem resetProfile_eq_true_iff {profileId : Nat} :
    data.resetProfile semesterId profileId = true ↔
      ∃ profile ∈ data.studentProfiles, profile.id = profileId ∧
        data.resetUser semesterId profile.userId = true := by
  simp only [Dataset.resetProfile, resetUser_eq_true_iff, List.any_eq_true, Bool.and_eq_true,
    beq_iff_eq]
  constructor
  · rintro ⟨profile, hprofile, owner, howner, hid, ⟨hrole, hsemester⟩, hkey⟩
    exact ⟨profile, hprofile, hkey, owner, howner, hid, hrole, hsemester⟩
  · rintro ⟨profile, hprofile, hkey, owner, howner, hid, hrole, hsemester⟩
    exact ⟨profile, hprofile, owner, howner, hid, ⟨hrole, hsemester⟩, hkey⟩

theorem resetConversation_eq_true_iff {conversationId : Nat} :
    data.resetConversation semesterId conversationId = true ↔
      ∃ conversation ∈ data.buddyConversations, conversation.id = conversationId ∧
        conversation.semesterId = semesterId := by
  simp [Dataset.resetConversation]

/-- A match of which a participant is in the cohort belongs to its semester. -/
theorem match_semester_of_resetUser (hintegrity : data.Integrity) {buddyMatch : MatchRow}
    (hmatch : buddyMatch ∈ data.buddyMatches) {userId : Nat}
    (hparticipant : userId = buddyMatch.participantOneUserId ∨
      userId = buddyMatch.participantTwoUserId)
    (hreset : data.resetUser semesterId userId = true) :
    buddyMatch.semesterId = semesterId := by
  obtain ⟨user, huser, hid, _, hsemester⟩ := resetUser_eq_true_iff.mp hreset
  have hstamped := hintegrity.match_semester buddyMatch hmatch user huser (by rwa [hid])
  exact Option.some.inj (hstamped.symm.trans hsemester)

/-- The match of a conversation, which foreign keys provide. -/
theorem exists_match_of_conversation (hintegrity : data.Integrity)
    {conversation : ConversationRow} (hconversation : conversation ∈ data.buddyConversations) :
    ∃ buddyMatch ∈ data.buddyMatches, buddyMatch.id = conversation.matchId := by
  obtain ⟨buddyMatch, hmatch, hid⟩ := hintegrity.foreign_keys .buddyConversations conversation
    hconversation (.buddyMatches, conversation.matchId) (by simp [references, cohortKeys,
      cascadeParents])
  exact ⟨buddyMatch, hmatch, Option.some.inj hid⟩

theorem exists_conversation_of_message (hintegrity : data.Integrity) {message : MessageRow}
    (hmessage : message ∈ data.buddyMessages) :
    ∃ conversation ∈ data.buddyConversations, conversation.id = message.conversationId := by
  obtain ⟨conversation, hconversation, hid⟩ := hintegrity.foreign_keys .buddyMessages message
    hmessage (.buddyConversations, message.conversationId) (by simp [references, cohortKeys,
      cascadeParents])
  exact ⟨conversation, hconversation, Option.some.inj hid⟩

/-- The conversation of a message which a student of the cohort sent belongs to
the semester. -/
theorem resetConversation_of_sender (hintegrity : data.Integrity) {message : MessageRow}
    (hmessage : message ∈ data.buddyMessages)
    (hreset : data.resetUser semesterId message.senderId = true) :
    data.resetConversation semesterId message.conversationId = true := by
  obtain ⟨conversation, hconversation, hid⟩ :=
    exists_conversation_of_message hintegrity hmessage
  obtain ⟨buddyMatch, hmatch, hmatchId⟩ :=
    exists_match_of_conversation hintegrity hconversation
  have hsender := hintegrity.message_sender message hmessage conversation hconversation hid
    buddyMatch hmatch hmatchId
  have hsemester := match_semester_of_resetUser hintegrity hmatch hsender hreset
  have hstamped := hintegrity.conversation_semester conversation hconversation buddyMatch
    hmatch hmatchId
  exact resetConversation_eq_true_iff.mpr
    ⟨conversation, hconversation, hid, hstamped.trans hsemester⟩

/-- With a row a reset selects every row which refers to it. -/
theorem resetPredicate_closed (hintegrity : data.Integrity) :
    Closed cohortKeys data.rows (data.resetPredicate semesterId) := by
  intro table row hrow target htarget parent hparent hkey hselected
  have huser : ∀ {userId : Nat}, target = (.users, userId) →
      data.resetUser semesterId userId = true := by
    rintro userId rfl
    simp only [Dataset.resetPredicate, Bool.and_eq_true, beq_iff_eq] at hselected
    exact resetUser_eq_true_iff.mpr ⟨parent, hparent, Option.some.inj hkey, hselected⟩
  have hprofile : ∀ {profileId : Nat}, target = (.studentProfiles, profileId) →
      data.resetProfile semesterId profileId = true := by
    rintro profileId rfl
    exact resetProfile_eq_true_iff.mpr ⟨parent, hparent, Option.some.inj hkey, hselected⟩
  cases table with
  | users => simp [references, cohortKeys, cascadeParents, nullableParents] at htarget
  | emailVerificationTokens | refreshSessions | studentProfiles | eventRegistrations =>
      simp only [references, cohortKeys, cascadeParents, nullableParents, List.append_nil,
        List.mem_singleton] at htarget
      exact huser htarget
  | profilePhotos | profileInterests | profileLanguages | profileActivities
  | profileCustomPreferences =>
      simp only [references, cohortKeys, cascadeParents, nullableParents, List.append_nil,
        List.mem_singleton] at htarget
      exact hprofile htarget
  | matchingInvitations =>
      simp only [references, cohortKeys, cascadeParents, nullableParents, List.append_nil,
        List.mem_cons, List.not_mem_nil, or_false] at htarget
      rcases htarget with h | h <;> simp [Dataset.resetPredicate, huser h]
  | buddyMatches =>
      simp only [references, cohortKeys, cascadeParents, nullableParents, List.append_nil,
        List.mem_cons, List.not_mem_nil, or_false] at htarget
      simp only [Dataset.resetPredicate, beq_iff_eq]
      rcases htarget with h | h | h | h | h
      · exact match_semester_of_resetUser hintegrity hrow (Or.inl rfl) (huser h)
      · exact match_semester_of_resetUser hintegrity hrow (Or.inr rfl) (huser h)
      · obtain ⟨profile, hmem, hid, hreset⟩ := resetProfile_eq_true_iff.mp (hprofile h)
        have howner := (hintegrity.match_profiles row hrow profile hmem).1 hid
        exact match_semester_of_resetUser hintegrity hrow (Or.inl howner) hreset
      · obtain ⟨profile, hmem, hid, hreset⟩ := resetProfile_eq_true_iff.mp (hprofile h)
        have howner := (hintegrity.match_profiles row hrow profile hmem).2 hid
        exact match_semester_of_resetUser hintegrity hrow (Or.inr howner) hreset
      · subst h
        have hends := hintegrity.match_invitation row hrow parent hparent (Option.some.inj hkey)
        simp only [Dataset.resetPredicate, Bool.or_eq_true] at hselected
        rcases hselected with hreset | hreset
        · exact match_semester_of_resetUser hintegrity hrow (hends _ (by simp)) hreset
        · exact match_semester_of_resetUser hintegrity hrow (hends _ (by simp)) hreset
  | buddyConversations =>
      simp only [references, cohortKeys, cascadeParents, nullableParents, List.append_nil,
        List.mem_singleton] at htarget
      subst htarget
      have hstamped := hintegrity.conversation_semester row hrow parent hparent
        (Option.some.inj hkey)
      simp only [Dataset.resetPredicate, beq_iff_eq] at hselected ⊢
      exact hstamped.trans hselected
  | buddyMessages =>
      simp only [references, cohortKeys, cascadeParents, nullableParents, List.append_nil,
        List.mem_cons, List.not_mem_nil, or_false] at htarget
      rcases htarget with h | h
      · subst h
        simp only [Dataset.resetPredicate, beq_iff_eq] at hselected
        exact resetConversation_eq_true_iff.mpr
          ⟨parent, hparent, Option.some.inj hkey, hselected⟩
      · exact resetConversation_of_sender hintegrity hrow (huser h)
  | transactionalOutbox =>
      simp only [references, cohortKeys, cascadeParents, nullableParents, List.nil_append,
        List.mem_map, Option.mem_toList] at htarget
      obtain ⟨userId, hrecipient, rfl⟩ := htarget
      simp [Dataset.resetPredicate, Option.mem_def.mp hrecipient, huser rfl]

end Cohort

section Order

/-- The tables to which the rows of a table refer. -/
def parentTables : CohortTable → List CohortTable
  | .users => []
  | .emailVerificationTokens | .refreshSessions | .studentProfiles | .eventRegistrations
  | .matchingInvitations | .transactionalOutbox => [.users]
  | .profilePhotos | .profileInterests | .profileLanguages | .profileActivities
  | .profileCustomPreferences => [.studentProfiles]
  | .buddyMatches => [.users, .studentProfiles, .matchingInvitations]
  | .buddyConversations => [.buddyMatches]
  | .buddyMessages => [.buddyConversations, .users]

/-- The other tables which the predicate of a table reads. -/
def readTables : CohortTable → List CohortTable
  | .users | .buddyMatches | .buddyConversations => []
  | .emailVerificationTokens | .refreshSessions | .studentProfiles | .eventRegistrations
  | .matchingInvitations | .transactionalOutbox => [.users]
  | .profilePhotos | .profileInterests | .profileLanguages | .profileActivities
  | .profileCustomPreferences => [.users, .studentProfiles]
  | .buddyMessages => [.buddyConversations]

theorem mem_parentTables {table : CohortTable} {row : CohortRow table}
    {target : CohortTable × Nat} (htarget : target ∈ cohortKeys.references table row) :
    target.1 ∈ parentTables table := by
  cases table <;>
    simp only [references, cohortKeys, cascadeParents, nullableParents, List.append_nil,
      List.nil_append, List.mem_cons, List.mem_map, Option.mem_toList, List.not_mem_nil,
      or_false] at htarget
  case transactionalOutbox =>
    obtain ⟨userId, _, rfl⟩ := htarget
    simp [parentTables]
  case matchingInvitations | buddyMessages => rcases htarget with rfl | rfl <;> simp [parentTables]
  case buddyMatches => rcases htarget with rfl | rfl | rfl | rfl | rfl <;> simp [parentTables]
  all_goals subst htarget; simp [parentTables]

/-- A predicate depends on the tables it reads only. -/
theorem resetPredicate_congr {data other : Dataset} {semesterId : Nat} {table : CohortTable}
    (hread : ∀ source ∈ readTables table, data.rows source = other.rows source)
    (row : CohortRow table) :
    data.resetPredicate semesterId table row = other.resetPredicate semesterId table row := by
  have husers : CohortTable.users ∈ readTables table →
      ∀ userId, data.resetUser semesterId userId = other.resetUser semesterId userId :=
    fun hmem userId => by simp only [Dataset.resetUser, Dataset.users, hread _ hmem]
  have hprofiles : CohortTable.users ∈ readTables table →
      CohortTable.studentProfiles ∈ readTables table → ∀ profileId,
      data.resetProfile semesterId profileId = other.resetProfile semesterId profileId :=
    fun hmem hprofile profileId => by
      simp only [Dataset.resetProfile, Dataset.users, Dataset.studentProfiles, hread _ hmem,
        hread _ hprofile]
  cases table with
  | users | buddyMatches | buddyConversations => rfl
  | emailVerificationTokens | refreshSessions | studentProfiles | eventRegistrations
  | matchingInvitations | transactionalOutbox =>
      simp [Dataset.resetPredicate, husers (by simp [readTables])]
  | profilePhotos | profileInterests | profileLanguages | profileActivities
  | profileCustomPreferences =>
      simp [Dataset.resetPredicate, hprofiles (by simp [readTables]) (by simp [readTables])]
  | buddyMessages =>
      simp only [Dataset.resetPredicate, Dataset.resetConversation, Dataset.buddyConversations,
        hread .buddyConversations (by simp [readTables])]

/-- Each statement comes after those of the tables which refer to its table, and
before those of the tables which its predicate reads. -/
def sweepOrder (done : List CohortTable) : List CohortTable → Bool
  | [] => true
  | table :: rest =>
      decide (table ∉ done) && decide (∀ source ∈ readTables table, source ∉ done) &&
        CohortTable.backupTables.all (fun other =>
          decide (table ∈ parentTables other → other ∈ done)) &&
        sweepOrder (table :: done) rest

theorem sweepOrder_resetDeleteOrder : sweepOrder [] resetDeleteOrder = true := by
  decide

variable {original : Dataset} {semesterId : Nat}

/-- One statement in its place removes exactly the rows which its predicate selects
before the first of them. -/
theorem deleteTable_of_swept (hintegrity : original.Integrity) {done : List CohortTable}
    {rows : CohortRows} {table : CohortTable} (hfresh : table ∉ done)
    (hread : ∀ source ∈ readTables table, source ∉ done)
    (hparents : ∀ other, table ∈ parentTables other → other ∈ done)
    (hswept : Swept original.rows (original.resetPredicate semesterId) done rows) :
    ∃ next, deleteTable semesterId (original.affectedCount semesterId)
        (original.withRows rows) table = .ok (original.withRows next) ∧
      Swept original.rows (original.resetPredicate semesterId) (table :: done) next := by
  have hpredicate : (original.withRows rows).resetPredicate semesterId table =
      original.resetPredicate semesterId table := by
    funext row
    exact resetPredicate_congr (fun source hsource => by
      simp only [Dataset.withRows_rows, hswept source, if_neg (hread source hsource)]) row
  have hselected : (original.withRows rows).selectedRows
      ((original.withRows rows).resetPredicate semesterId) table =
        original.selectedRows (original.resetPredicate semesterId) table := by
    simp only [Dataset.selectedRows, Dataset.withRows_rows, hswept table, if_neg hfresh,
      hpredicate]
  have hdelete : cohortKeys.deleteFrom CohortTable.backupTables.length rows table
        ((original.withRows rows).resetPredicate semesterId) =
      cohortKeys.deleteFrom CohortTable.backupTables.length rows table
        (original.resetPredicate semesterId) := by
    unfold ForeignKeys.deleteFrom
    congr 1
    funext other row
    by_cases htable : other = table
    · subst htable
      rw [hpredicate]
    · simp [htable]
  have hunrestricted : table = .users → ∀ user ∈ (original.withRows rows).selectedRows
      ((original.withRows rows).resetPredicate semesterId) .users,
        user.id ∉ (original.withRows rows).restrictedUserIds := by
    rintro rfl user huser hrestricted
    rw [hselected] at huser
    obtain ⟨hmem, hstudent⟩ := List.mem_filter.mp huser
    simp only [Dataset.resetPredicate, Bool.and_eq_true, beq_iff_eq] at hstudent
    have hadmin := hintegrity.retained_users user hmem hrestricted
    exact absurd (hadmin.symm.trans hstudent.1) (by decide)
  refine ⟨cohortKeys.deleteFrom CohortTable.backupTables.length rows table
    (original.resetPredicate semesterId), ?_, ?_⟩
  · simp only [deleteTable, except_bind_eq_ok_iff, ensure_eq_ok_iff, except_pure_eq_ok_iff]
    refine ⟨PUnit.unit, hunrestricted, PUnit.unit, ?_, ?_⟩
    · rw [hselected, Dataset.affectedCount]
    · rw [Dataset.withRows_rows, hdelete]
      rfl
  · apply hswept.deleteFrom (resetPredicate_closed hintegrity)
    intro other row _ target htarget htable
    subst htable
    exact hparents other (mem_parentTables htarget)

/-- Statements in order remove exactly the rows which their predicates select
before the first of them. -/
theorem deleteTables_eq_ok (hintegrity : original.Integrity) {remaining : List CohortTable} :
    ∀ {done : List CohortTable} {rows : CohortRows}, sweepOrder done remaining = true →
      Swept original.rows (original.resetPredicate semesterId) done rows →
      ∃ final, remaining.foldlM (deleteTable semesterId (original.affectedCount semesterId))
          (original.withRows rows) = .ok (original.withRows final) ∧
        Swept original.rows (original.resetPredicate semesterId)
          (remaining.reverse ++ done) final := by
  induction remaining with
  | nil => exact fun {done rows} _ hswept => ⟨rows, rfl, hswept⟩
  | cons table rest ih =>
      intro done rows horder hswept
      simp only [sweepOrder, Bool.and_eq_true, decide_eq_true_eq, List.all_eq_true] at horder
      obtain ⟨⟨⟨hfresh, hread⟩, hparents⟩, hrest⟩ := horder
      obtain ⟨next, hdelete, hnext⟩ := deleteTable_of_swept hintegrity hfresh hread
        (fun other => hparents other (CohortTable.mem_backupTables other)) hswept
      obtain ⟨final, hfold, hfinal⟩ := ih hrest hnext
      refine ⟨final, ?_, by simpa using hfinal⟩
      rw [List.foldlM_cons, hdelete]
      exact hfold

/-- The data without the rows which the reset predicates select. -/
def Dataset.withoutCohort (data : Dataset) (semesterId : Nat) : Dataset :=
  data.withRows fun table =>
    (data.rows table).filter fun row => !data.resetPredicate semesterId table row

theorem mem_withoutCohort_iff {table : CohortTable} {row : CohortRow table} :
    row ∈ (original.withoutCohort semesterId).rows table ↔
      row ∈ original.rows table ∧ original.resetPredicate semesterId table row = false := by
  simp [Dataset.withoutCohort, List.mem_filter]

/-- The deletion of a cohort succeeds and removes exactly the rows which the reset
predicates select. -/
theorem deleteCohort_eq_ok (hintegrity : original.Integrity) :
    deleteCohort original semesterId = .ok (original.withoutCohort semesterId) := by
  obtain ⟨final, hfold, hfinal⟩ := deleteTables_eq_ok hintegrity sweepOrder_resetDeleteOrder
    (swept_nil original.rows (original.resetPredicate semesterId))
  have hrows : final = fun table => (original.rows table).filter fun row =>
      !original.resetPredicate semesterId table row := by
    funext table
    rw [hfinal table, if_pos]
    cases table <;> decide
  rw [Dataset.withoutCohort, ← hrows, ← hfold, deleteCohort]
  rfl

/-- What is left keeps the constraints: no row loses the row it refers to. -/
theorem withoutCohort_integrity (hintegrity : original.Integrity) :
    (original.withoutCohort semesterId).Integrity := by
  have hkept : ∀ {table : CohortTable} {row : CohortRow table},
      row ∈ (original.withoutCohort semesterId).rows table → row ∈ original.rows table :=
    fun hrow => (mem_withoutCohort_iff.mp hrow).1
  exact
  { user_keys := hintegrity.user_keys.sublist (List.filter_sublist.map _)
    foreign_keys := fun table row hrow target htarget => by
      obtain ⟨hmem, hunselected⟩ := mem_withoutCohort_iff.mp hrow
      obtain ⟨parent, hparent, hkey⟩ := hintegrity.foreign_keys table row hmem target htarget
      refine ⟨parent, mem_withoutCohort_iff.mpr ⟨hparent, ?_⟩, hkey⟩
      by_contra hselected
      have hall : Closed cohortKeys original.rows (original.resetPredicate semesterId) :=
        resetPredicate_closed hintegrity
      have hclosed := hall table row hmem target htarget parent hparent hkey
        (by simpa using hselected)
      simp [hunselected] at hclosed
    role_semester := fun user huser => hintegrity.role_semester user (hkept huser)
    match_semester := fun buddyMatch hmatch user huser =>
      hintegrity.match_semester buddyMatch (hkept hmatch) user (hkept huser)
    match_profiles := fun buddyMatch hmatch profile hprofile =>
      hintegrity.match_profiles buddyMatch (hkept hmatch) profile (hkept hprofile)
    match_invitation := fun buddyMatch hmatch invitation hinvitation =>
      hintegrity.match_invitation buddyMatch (hkept hmatch) invitation (hkept hinvitation)
    conversation_semester := fun conversation hconversation buddyMatch hmatch =>
      hintegrity.conversation_semester conversation (hkept hconversation) buddyMatch
        (hkept hmatch)
    message_sender := fun message hmessage conversation hconversation hid buddyMatch hmatch =>
      hintegrity.message_sender message (hkept hmessage) conversation (hkept hconversation) hid
        buddyMatch (hkept hmatch)
    invitation_semester := fun invitation hinvitation sender hsender hid recipient hrecipient =>
      hintegrity.invitation_semester invitation (hkept hinvitation) sender (hkept hsender) hid
        recipient (hkept hrecipient)
    retained_users := fun user huser => hintegrity.retained_users user (hkept huser) }

end Order

end BuddyWeb
