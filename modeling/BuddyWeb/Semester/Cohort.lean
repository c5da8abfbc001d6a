/-
The rows which belong to students, the tables they refer to, and what the
database and the services keep true of them.
-/
import BuddyWeb.Accounts
import BuddyWeb.Lib.Cascade

namespace BuddyWeb

/-- The tables of one database backup, in `BACKUP_TABLES` order. -/
inductive CohortTable
  | users
  | emailVerificationTokens
  | refreshSessions
  | studentProfiles
  | profilePhotos
  | profileInterests
  | profileLanguages
  | profileActivities
  | profileCustomPreferences
  | eventRegistrations
  | matchingInvitations
  | buddyMatches
  | buddyConversations
  | buddyMessages
  | transactionalOutbox
  deriving DecidableEq, Repr

namespace CohortTable

def backupTables : List CohortTable :=
  [users, emailVerificationTokens, refreshSessions, studentProfiles, profilePhotos,
    profileInterests, profileLanguages, profileActivities, profileCustomPreferences,
    eventRegistrations, matchingInvitations, buddyMatches, buddyConversations, buddyMessages,
    transactionalOutbox]

theorem mem_backupTables (table : CohortTable) : table ∈ backupTables := by
  cases table <;> decide

def tableName : CohortTable → String
  | users => "users"
  | emailVerificationTokens => "email_verification_tokens"
  | refreshSessions => "refresh_sessions"
  | studentProfiles => "student_profiles"
  | profilePhotos => "profile_photos"
  | profileInterests => "profile_interests"
  | profileLanguages => "profile_languages"
  | profileActivities => "profile_activities"
  | profileCustomPreferences => "profile_custom_preferences"
  | eventRegistrations => "event_registrations"
  | matchingInvitations => "matching_invitations"
  | buddyMatches => "matches"
  | buddyConversations => "buddy_conversations"
  | buddyMessages => "buddy_messages"
  | transactionalOutbox => "transactional_outbox"

end CohortTable

/-- An account row.  Here and below `rest` stands for the columns which no
semester workflow reads and a backup copies. -/
structure UserRow extends User where
  passwordHash : String
  rest : String
  deriving DecidableEq, Repr

/-- A row of one account with an id of its own. -/
structure OwnedRow where
  id : Nat
  userId : Nat
  rest : String
  deriving DecidableEq, Repr

inductive ImageMimeType
  | jpeg
  | png
  | webp
  deriving DecidableEq, Repr

/-- A `profile_photos` row.  Its bucket is always `profile-images`, and its object
key is a random id with the extension of the MIME type. -/
structure PhotoRow where
  id : Nat
  profileId : Nat
  objectKey : Nat
  mimeType : ImageMimeType
  byteSize : Nat
  width : Nat
  height : Nat
  deriving DecidableEq, Repr

/-- A profile's choice of an interest or activity. -/
structure ProfileItemRow where
  profileId : Nat
  itemId : Nat
  deriving DecidableEq, Repr

structure ProfileLanguageRow where
  profileId : Nat
  languageCode : String
  rest : String
  deriving DecidableEq, Repr

structure CustomPreferenceRow where
  id : Nat
  profileId : Nat
  rest : String
  deriving DecidableEq, Repr

structure EventRegistrationRow where
  id : Nat
  eventId : Nat
  userId : Nat
  rest : String
  deriving DecidableEq, Repr

structure InvitationRow where
  id : Nat
  senderId : Nat
  recipientId : Nat
  rest : String
  deriving DecidableEq, Repr

structure MatchRow where
  id : Nat
  semesterId : Nat
  participantOneUserId : Nat
  participantTwoUserId : Nat
  participantOneProfileId : Nat
  participantTwoProfileId : Nat
  acceptedInvitationId : Nat
  rest : String
  deriving DecidableEq, Repr

structure ConversationRow where
  id : Nat
  matchId : Nat
  semesterId : Nat
  rest : String
  deriving DecidableEq, Repr

structure MessageRow where
  id : Nat
  conversationId : Nat
  senderId : Nat
  rest : String
  deriving DecidableEq, Repr

structure OutboxRow where
  id : Nat
  recipientUserId : Option Nat
  rest : String
  deriving DecidableEq, Repr

/-- The row type of each table. -/
abbrev CohortRow : CohortTable → Type
  | .users => UserRow
  | .emailVerificationTokens => OwnedRow
  | .refreshSessions => OwnedRow
  | .studentProfiles => OwnedRow
  | .profilePhotos => PhotoRow
  | .profileInterests => ProfileItemRow
  | .profileLanguages => ProfileLanguageRow
  | .profileActivities => ProfileItemRow
  | .profileCustomPreferences => CustomPreferenceRow
  | .eventRegistrations => EventRegistrationRow
  | .matchingInvitations => InvitationRow
  | .buddyMatches => MatchRow
  | .buddyConversations => ConversationRow
  | .buddyMessages => MessageRow
  | .transactionalOutbox => OutboxRow

abbrev CohortRows : Type := Tables CohortRow

/-- A row kept by the semester workflows with the accounts it refers to and must
not lose: events and their media, recaps and audit logs. -/
structure RetainedRow where
  id : Nat
  userIds : List Nat
  rest : String
  deriving DecidableEq, Repr

/-- The data of the application without the semester metadata. -/
structure Dataset where
  rows : CohortRows
  interests : List Nat
  languages : List String
  activities : List Nat
  events : List RetainedRow
  eventMedia : List RetainedRow
  recaps : List RetainedRow
  auditLogs : List RetainedRow

namespace Dataset

def withRows (data : Dataset) (rows : CohortRows) : Dataset := { data with rows }

@[simp]
theorem withRows_rows (data : Dataset) (rows : CohortRows) :
    (data.withRows rows).rows = rows := rfl

def users (data : Dataset) : List UserRow := data.rows .users

def studentProfiles (data : Dataset) : List OwnedRow := data.rows .studentProfiles

def matchingInvitations (data : Dataset) : List InvitationRow :=
  data.rows .matchingInvitations

def buddyMatches (data : Dataset) : List MatchRow := data.rows .buddyMatches

def buddyConversations (data : Dataset) : List ConversationRow :=
  data.rows .buddyConversations

def buddyMessages (data : Dataset) : List MessageRow := data.rows .buddyMessages

/-- The accounts to which rows refer which restrict their deletion. -/
def restrictedUserIds (data : Dataset) : List Nat :=
  (data.events ++ data.eventMedia ++ data.recaps ++ data.auditLogs).flatMap (·.userIds)

end Dataset

/-- The `ON DELETE CASCADE` parents of a row. -/
def cascadeParents : (table : CohortTable) → CohortRow table → List (CohortTable × Nat)
  | .users, _ => []
  | .emailVerificationTokens, row => [(.users, row.userId)]
  | .refreshSessions, row => [(.users, row.userId)]
  | .studentProfiles, row => [(.users, row.userId)]
  | .profilePhotos, row => [(.studentProfiles, row.profileId)]
  | .profileInterests, row => [(.studentProfiles, row.profileId)]
  | .profileLanguages, row => [(.studentProfiles, row.profileId)]
  | .profileActivities, row => [(.studentProfiles, row.profileId)]
  | .profileCustomPreferences, row => [(.studentProfiles, row.profileId)]
  | .eventRegistrations, row => [(.users, row.userId)]
  | .matchingInvitations, row => [(.users, row.senderId), (.users, row.recipientId)]
  | .buddyMatches, row =>
      [(.users, row.participantOneUserId), (.users, row.participantTwoUserId),
        (.studentProfiles, row.participantOneProfileId),
        (.studentProfiles, row.participantTwoProfileId),
        (.matchingInvitations, row.acceptedInvitationId)]
  | .buddyConversations, row => [(.buddyMatches, row.matchId)]
  | .buddyMessages, row => [(.buddyConversations, row.conversationId), (.users, row.senderId)]
  | .transactionalOutbox, _ => []

/-- The ids to which other rows refer. -/
def referencedId : (table : CohortTable) → CohortRow table → Option Nat
  | .users, row => some row.id
  | .studentProfiles, row => some row.id
  | .matchingInvitations, row => some row.id
  | .buddyMatches, row => some row.id
  | .buddyConversations, row => some row.id
  | _, _ => none

/-- The `ON DELETE SET NULL` parents of a row. -/
def nullableParents : (table : CohortTable) → CohortRow table → List (CohortTable × Nat)
  | .transactionalOutbox, row => row.recipientUserId.toList.map (CohortTable.users, ·)
  | _, _ => []

def clearNullable (gone : List (CohortTable × Nat)) :
    (table : CohortTable) → CohortRow table → CohortRow table
  | .transactionalOutbox, row =>
      { row with
        recipientUserId := row.recipientUserId.filter fun id => !gone.contains (.users, id) }
  | .users, row => row
  | .emailVerificationTokens, row => row
  | .refreshSessions, row => row
  | .studentProfiles, row => row
  | .profilePhotos, row => row
  | .profileInterests, row => row
  | .profileLanguages, row => row
  | .profileActivities, row => row
  | .profileCustomPreferences, row => row
  | .eventRegistrations, row => row
  | .matchingInvitations, row => row
  | .buddyMatches, row => row
  | .buddyConversations, row => row
  | .buddyMessages, row => row

/-- The foreign keys between the student tables. -/
def cohortKeys : ForeignKeys CohortRow where
  tables := CohortTable.backupTables
  mem_tables := CohortTable.mem_backupTables
  key := referencedId
  owners := cascadeParents
  optional := nullableParents
  clear := clearNullable
  clear_eq := by
    intro gone table row hkept
    cases table with
    | transactionalOutbox =>
        rcases row with ⟨id, recipient, rest⟩
        cases recipient with
        | none => rfl
        | some user =>
            have huser : (CohortTable.users, user) ∉ gone :=
              hkept (.users, user) (by simp [nullableParents])
            simp [clearNullable, Option.filter, huser]
    | _ => rfl

/-- What constraints, triggers and services keep true of the student data: primary
and foreign keys, `ck_users_role_semester`, the stamping triggers of matches and
conversations, and the participants which sending an invitation, activating a
match and sending a message write. -/
structure Dataset.Integrity (data : Dataset) : Prop where
  user_keys : (data.users.map (·.id)).Nodup
  foreign_keys : ∀ table, ∀ row ∈ data.rows table, ∀ target ∈ cohortKeys.references table row,
    ∃ parent ∈ data.rows target.1, referencedId target.1 parent = some target.2
  role_semester : ∀ user ∈ data.users, user.role = .user ↔ user.semesterId.isSome
  match_semester : ∀ buddyMatch ∈ data.buddyMatches, ∀ user ∈ data.users,
    user.id = buddyMatch.participantOneUserId ∨ user.id = buddyMatch.participantTwoUserId →
      user.semesterId = some buddyMatch.semesterId
  match_profiles : ∀ buddyMatch ∈ data.buddyMatches, ∀ profile ∈ data.studentProfiles,
    (profile.id = buddyMatch.participantOneProfileId →
        profile.userId = buddyMatch.participantOneUserId) ∧
      (profile.id = buddyMatch.participantTwoProfileId →
        profile.userId = buddyMatch.participantTwoUserId)
  match_invitation : ∀ buddyMatch ∈ data.buddyMatches,
    ∀ invitation ∈ data.matchingInvitations,
      invitation.id = buddyMatch.acceptedInvitationId →
        ∀ userId ∈ [invitation.senderId, invitation.recipientId],
          userId = buddyMatch.participantOneUserId ∨ userId = buddyMatch.participantTwoUserId
  conversation_semester : ∀ conversation ∈ data.buddyConversations,
    ∀ buddyMatch ∈ data.buddyMatches, buddyMatch.id = conversation.matchId →
      conversation.semesterId = buddyMatch.semesterId
  message_sender : ∀ message ∈ data.buddyMessages, ∀ conversation ∈ data.buddyConversations,
    conversation.id = message.conversationId →
      ∀ buddyMatch ∈ data.buddyMatches, buddyMatch.id = conversation.matchId →
        message.senderId = buddyMatch.participantOneUserId ∨
          message.senderId = buddyMatch.participantTwoUserId
  invitation_semester : ∀ invitation ∈ data.matchingInvitations,
    ∀ sender ∈ data.users, sender.id = invitation.senderId →
      ∀ recipient ∈ data.users, recipient.id = invitation.recipientId →
        sender.semesterId.isSome ∧ sender.semesterId = recipient.semesterId
  retained_users : ∀ user ∈ data.users, user.id ∈ data.restrictedUserIds → user.role = .admin

set_option synthInstance.maxSize 1024 in
set_option synthInstance.maxHeartbeats 200000 in
instance (data : Dataset) : Decidable data.Integrity :=
  decidable_of_iff
    ((data.users.map (·.id)).Nodup ∧
      (∀ table ∈ CohortTable.backupTables, ∀ row ∈ data.rows table,
        ∀ target ∈ cohortKeys.references table row,
          ∃ parent ∈ data.rows target.1, referencedId target.1 parent = some target.2) ∧
      (∀ user ∈ data.users, user.role = .user ↔ user.semesterId.isSome) ∧
      (∀ buddyMatch ∈ data.buddyMatches, ∀ user ∈ data.users,
        user.id = buddyMatch.participantOneUserId ∨ user.id = buddyMatch.participantTwoUserId →
          user.semesterId = some buddyMatch.semesterId) ∧
      (∀ buddyMatch ∈ data.buddyMatches, ∀ profile ∈ data.studentProfiles,
        (profile.id = buddyMatch.participantOneProfileId →
            profile.userId = buddyMatch.participantOneUserId) ∧
          (profile.id = buddyMatch.participantTwoProfileId →
            profile.userId = buddyMatch.participantTwoUserId)) ∧
      (∀ buddyMatch ∈ data.buddyMatches, ∀ invitation ∈ data.matchingInvitations,
        invitation.id = buddyMatch.acceptedInvitationId →
          ∀ userId ∈ [invitation.senderId, invitation.recipientId],
            userId = buddyMatch.participantOneUserId ∨
              userId = buddyMatch.participantTwoUserId) ∧
      (∀ conversation ∈ data.buddyConversations, ∀ buddyMatch ∈ data.buddyMatches,
        buddyMatch.id = conversation.matchId →
          conversation.semesterId = buddyMatch.semesterId) ∧
      (∀ message ∈ data.buddyMessages, ∀ conversation ∈ data.buddyConversations,
        conversation.id = message.conversationId → ∀ buddyMatch ∈ data.buddyMatches,
          buddyMatch.id = conversation.matchId →
            message.senderId = buddyMatch.participantOneUserId ∨
              message.senderId = buddyMatch.participantTwoUserId) ∧
      (∀ invitation ∈ data.matchingInvitations, ∀ sender ∈ data.users,
        sender.id = invitation.senderId → ∀ recipient ∈ data.users,
          recipient.id = invitation.recipientId →
            sender.semesterId.isSome ∧ sender.semesterId = recipient.semesterId) ∧
      ∀ user ∈ data.users, user.id ∈ data.restrictedUserIds → user.role = .admin)
    ⟨fun ⟨users, foreign, role, stamped, profiles, invitation, conversation, sender, ends,
        retained⟩ =>
        ⟨users, fun table => foreign table (CohortTable.mem_backupTables table), role, stamped,
          profiles, invitation, conversation, sender, ends, retained⟩,
      fun h => ⟨h.user_keys, fun table _ => h.foreign_keys table, h.role_semester,
        h.match_semester, h.match_profiles, h.match_invitation, h.conversation_semester,
        h.message_sender, h.invitation_semester, h.retained_users⟩⟩

end BuddyWeb
