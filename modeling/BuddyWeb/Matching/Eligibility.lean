/-
Who may be matched with whom: the check of a loaded principal, and the candidate query
which states the same policy over the tables.
-/
import BuddyWeb.Matching.Completion
import BuddyWeb.Matching.Records

namespace BuddyWeb

/-- The identity of a student who may be matched. -/
structure EligibleMatchingPrincipal where
  userId : Nat
  profileId : Nat
  studentType : StudentType
  semesterId : Option Nat
  deriving DecidableEq, Repr

/-- The check of a verified student, with the rows loaded for the request. -/
def getEligibleMatchingPrincipal (context : CompletionContext) (user : User)
    (record : ProfileRecord) : Except MatchingError EligibleMatchingPrincipal := do
  ensure (user.semesterId.isSome = true) (.buddyCapability none)
  let completion ← getProfileCompletion context user record
  ensure (completion.matchingEligible = true) (.buddyCapability completion.reasons.head?)
  let studentType ← require record.profile.studentType (.buddyCapability none)
  return {
    userId := user.id
    profileId := record.profile.id
    studentType := studentType
    semesterId := user.semesterId }

/-- The pair rule. -/
def matchingPairIsEligible (current candidate : EligibleMatchingPrincipal) : Bool :=
  current.userId != candidate.userId && current.profileId != candidate.profileId &&
    current.studentType != candidate.studentType

/-- An active match between two users. -/
def activeMatchExists (buddyMatches : Table BuddyMatch) (firstUserId secondUserId : Nat) :
    Bool :=
  buddyMatches.rows.any fun buddyMatch => buddyMatch.isActive &&
    (buddyMatch.participantOneUserId = firstUserId &&
        buddyMatch.participantTwoUserId = secondUserId ||
      buddyMatch.participantTwoUserId = firstUserId &&
        buddyMatch.participantOneUserId = secondUserId)

/-- `BETWEEN`, which no null is. -/
def isBetween (low high : Nat) (value : Option Nat) : Bool :=
  value.any fun value => low ≤ value && value ≤ high

/-- The conditions of the candidate query on a profile joined with its owner.  A comparison
with a null holds of no row. -/
def eligibleCandidateConditions (catalog : Catalog) (photos : Table ProfilePhoto)
    (buddyMatches : Table BuddyMatch) (current : EligibleMatchingPrincipal) (owner : User)
    (record : ProfileRecord) : Bool :=
  owner.role = .user && owner.semesterId = current.semesterId && owner.isActive &&
    owner.deletedAt.isNone && owner.emailVerifiedAt.isSome &&
    record.profile.deletedAt.isNone && record.profile.userId != current.userId &&
    record.profile.id != current.profileId && record.profile.studentType.isSome &&
    record.profile.studentType != some current.studentType && record.profile.matchingOptIn &&
    !activeMatchExists buddyMatches current.userId record.profile.userId &&
    isBetween 1 120 (record.profile.fullName.map fun name => (btrim name).length) &&
    countReadyAvatars photos record.profile.id = 1 &&
    isBetween 1 20 (some (interestCount catalog record)) &&
    isBetween 1 10 (some (languageCount catalog record))

end BuddyWeb
