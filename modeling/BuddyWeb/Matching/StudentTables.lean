/-
The tables which the matching features read about students, and the three loaders of the
profiles which they score.
-/
import BuddyWeb.Matching.Scoring

namespace BuddyWeb

instance : Keyed ProfileRecord := ⟨fun record => record.profile.id⟩

instance : Keyed User := ⟨User.id⟩

/-- One profile for a user, and a proficiency for exactly the custom languages, as the
tables guarantee. -/
structure StudentTables where
  catalog : Catalog
  users : Table User
  profiles : Table ProfileRecord
  photos : Table ProfilePhoto
  profiles_user : ∀ first ∈ profiles.rows, ∀ second ∈ profiles.rows,
    first.profile.userId = second.profile.userId → first = second
  customs_proficiency : ∀ record ∈ profiles.rows, ∀ custom ∈ record.customs,
    custom.kind = .language ↔ custom.proficiency.isSome = true

namespace StudentTables

variable (tables : StudentTables)

def completionContext (unicode : UnicodeData) : CompletionContext where
  unicode := unicode
  catalog := tables.catalog
  photos := tables.photos

/-- The row of a user's profile. -/
def profileOf (userId : Nat) : Option ProfileRecord :=
  tables.profiles.select? fun record => record.profile.userId = userId

/-- The photos which the avatar join finds for a profile. -/
def readyAvatars (profileId : Nat) : List ProfilePhoto :=
  tables.photos.rows.filter (·.isReadyAvatar profileId)

variable {tables}

theorem profileOf_eq_some_iff {userId : Nat} {record : ProfileRecord} :
    tables.profileOf userId = some record ↔
      record ∈ tables.profiles.rows ∧ record.profile.userId = userId := by
  constructor
  · intro h
    exact ⟨Table.select?_mem h, by simpa using Table.select?_filter h⟩
  · rintro ⟨hmem, huser⟩
    refine Table.select?_eq_some_of_unique hmem (by simpa using huser) ?_
    intro other hother hsame
    exact tables.profiles_user other hother record hmem
      ((by simpa using hsame : other.profile.userId = userId).trans huser.symm)

end StudentTables

/-- A student who may use the buddy features, with the rows loaded for the request. -/
structure VerifiedBuddyPrincipal where
  user : User
  profile : StudentProfile
  deriving DecidableEq, Repr

def getVerifiedBuddyPrincipal (tables : StudentTables) (currentUser : User) :
    Except MatchingError VerifiedBuddyPrincipal := do
  ensure (currentUser.isAvailable = true) (.buddyCapability none)
  ensure (currentUser.emailVerifiedAt.isSome = true)
    (.buddyCapability (some .emailVerificationRequired))
  let record ← require ((tables.profileOf currentUser.id).filter fun record =>
    record.profile.deletedAt.isNone) (.buddyCapability none)
  return ⟨currentUser, record.profile⟩

section Session

/-- A selected row with the attributes which the session has already loaded. -/
def ProfileRecord.inSession (record : ProfileRecord) (loaded : StudentProfile) :
    ProfileRecord :=
  if record.profile.id = loaded.id then { record with profile := loaded } else record

/-- The custom preferences of a row in the order of one of their columns. -/
def ProfileRecord.orderCustoms (record : ProfileRecord)
    (column : ProfileCustomPreference → String) : ProfileRecord :=
  { record with
    customs := record.customs.insertionSort fun first second =>
      column first ≤ column second }

end Session

/-- The avatar reference of a photo. -/
def safeMatchingAvatar (photo : ProfilePhoto) : Validated SafeMatchingAvatar :=
  if h : 1 ≤ photo.width ∧ 1 ≤ photo.height then
    .ok ⟨photo.id, photo.width, photo.height, h.1, h.2⟩
  else
    .error ((if photo.width < 1 then [⟨[.field "width"], .greaterThanEqual 1⟩] else []) ++
      if photo.height < 1 then [⟨[.field "height"], .greaterThanEqual 1⟩] else [])

section Candidates

variable (context : ScoringContext) (tables : StudentTables)

/-- The candidate projection of joined rows, its custom rows in the order of their keys. -/
def projectSafeRows (locale : CatalogLocale) (rows : List (ProfileRecord × ProfilePhoto)) :
    Validated (List (SafeMatchingProfile context.zoneInfo)) := do
  let rows ← rows.mapM fun row => do
    let avatar ← safeMatchingAvatar row.2
    return (row.1.orderCustoms (·.normalizedKey), avatar)
  projectSafeProfiles context.zoneInfo tables.catalog locale rows

/-- The rows of a profile in the avatar join. -/
def avatarRows (record : ProfileRecord) : List (ProfileRecord × ProfilePhoto) :=
  (tables.readyAvatars record.profile.id).map fun photo => (record, photo)

/-- The rows which a filter selects from the avatar join, in the order of the profiles. -/
def joinedRows (filter : ProfileRecord → Bool) : List (ProfileRecord × ProfilePhoto) :=
  ((tables.profiles.rows.filter filter).insertionSort
    fun first second => first.profile.id ≤ second.profile.id).flatMap (avatarRows tables)

/-- The bounded candidate query. -/
def eligibleCandidateRows (buddyMatches : Table BuddyMatch)
    (current : EligibleMatchingPrincipal) (limit : Nat) :
    List (ProfileRecord × ProfilePhoto) :=
  (joinedRows tables fun record =>
    (tables.users.get? record.profile.userId).any fun owner =>
      eligibleCandidateConditions tables.catalog tables.photos buddyMatches current owner
        record).take limit

structure EligibleMatchingCandidate where
  principal : EligibleMatchingPrincipal
  profile : SafeMatchingProfile context.zoneInfo

/-- The candidate of a selected row and of its projection. -/
def eligibleMatchingCandidate (current : EligibleMatchingPrincipal)
    (row : ProfileRecord × ProfilePhoto) (profile : SafeMatchingProfile context.zoneInfo) :
    EligibleMatchingCandidate context where
  principal := {
    userId := row.1.profile.userId
    profileId := row.1.profile.id
    studentType := profile.studentType
    semesterId := current.semesterId }
  profile := profile

/-- The current profile and the candidate pool.  The pool and its projections have one
length, since the query selects no row without a student type. -/
def loadMatchingScoringProfiles (buddyMatches : Table BuddyMatch)
    (current : EligibleMatchingPrincipal) (locale : CatalogLocale) (candidateLimit : Nat) :
    Validated (Option (SafeMatchingProfile context.zoneInfo ×
      List (EligibleMatchingCandidate context))) :=
  let currentRows := joinedRows tables fun record =>
    record.profile.id = current.profileId && record.profile.userId = current.userId &&
      record.profile.studentType = some current.studentType &&
      record.profile.deletedAt.isNone
  if currentRows.length ≠ 1 then .ok none
  else
    let candidateRows := eligibleCandidateRows tables buddyMatches current candidateLimit
    (projectSafeRows context tables locale (currentRows ++ candidateRows)).map
      fun
        | [] => none
        | first :: rest =>
            if first.id ≠ current.profileId then none
            else some (first,
              List.zipWith (eligibleMatchingCandidate context current) candidateRows rest)

variable {context} in
/-- The projection of a principal's row, when the row is still that of the principal. -/
def selectPairProfile (rows : List (ProfileRecord × ProfilePhoto))
    (projected : List (SafeMatchingProfile context.zoneInfo))
    (principal : EligibleMatchingPrincipal) :
    Option (SafeMatchingProfile context.zoneInfo) := do
  let persisted ← rows.find? fun row => row.1.profile.id = principal.profileId
  let safeProfile ← projected.find? fun profile => profile.id = principal.profileId
  if persisted.1.profile.userId = principal.userId ∧
      persisted.1.profile.studentType = some principal.studentType ∧
      safeProfile.studentType = principal.studentType then
    some safeProfile
  else none

/-- The two profiles of a locked pair, through a session which has loaded one of them
before. -/
def loadMatchingPairScoringProfiles (loaded : StudentProfile)
    (first second : EligibleMatchingPrincipal) (locale : CatalogLocale) :
    Validated (Option
      (SafeMatchingProfile context.zoneInfo × SafeMatchingProfile context.zoneInfo)) :=
  if matchingPairIsEligible first second = false then .ok none
  else
    let rows := (joinedRows tables fun record =>
      (record.profile.id = first.profileId || record.profile.id = second.profileId) &&
        record.profile.deletedAt.isNone).map fun row => (row.1.inSession loaded, row.2)
    if rows.length ≠ 2 then .ok none
    else (projectSafeRows context tables locale rows).map fun projected =>
      if projected.length ≠ 2 then none
      else do
        let firstProfile ← selectPairProfile rows projected first
        let secondProfile ← selectPairProfile rows projected second
        return (firstProfile, secondProfile)

end Candidates

section Participants

variable (context : ScoringContext) (tables : StudentTables)

/-- The rows of a profile in the outer avatar join. -/
def outerAvatarRows (record : ProfileRecord) : List (ProfileRecord × Option ProfilePhoto) :=
  match tables.readyAvatars record.profile.id with
  | [] => [(record, none)]
  | photos => photos.map fun photo => (record, some photo)

def projectParticipantRow (locale : CatalogLocale)
    (row : ProfileRecord × Option ProfilePhoto) :
    Validated (Nat × SafeInvitationProfile context.zoneInfo) := do
  let avatar ← row.2.mapM safeMatchingAvatar
  let profile ← loadSafeParticipantProfile context.zoneInfo tables.catalog locale
    (row.1.orderCustoms (·.displayLabel)) avatar
  return (row.1.profile.userId, profile)

/-- The public profiles of users, with the users which they belong to. -/
def loadSafeParticipantProfiles (userIds : List Nat) (locale : CatalogLocale) :
    Validated (List (Nat × SafeInvitationProfile context.zoneInfo)) :=
  (((tables.profiles.rows.filter fun record =>
    userIds.contains record.profile.userId && record.profile.deletedAt.isNone).insertionSort
      fun first second => first.profile.userId ≤ second.profile.userId).flatMap
        (outerAvatarRows tables)).mapM (projectParticipantRow context tables locale)

variable {context}

/-- The last entry of a user, as a dictionary keeps it. -/
def participantProfile (profiles : List (Nat × SafeInvitationProfile context.zoneInfo))
    (userId : Nat) : Option (SafeInvitationProfile context.zoneInfo) :=
  ((profiles.filter fun entry => entry.1 = userId).getLast?).map (·.2)

/-- The fields which the scorer reads, when none of the required ones is missing. -/
def asScoringFields (profile : SafeInvitationProfile context.zoneInfo) :
    Option (SafeMatchingProfile context.zoneInfo) := do
  let studentType ← profile.studentType
  let avatar ← profile.avatar
  guard (profile.preferences.interests ≠ [] ∧ profile.preferences.languages ≠ [])
  return {
    id := profile.id
    displayName := profile.displayName
    fullName := none
    studentType := studentType
    bio := none
    major := profile.major
    studyYear := none
    nationality := none
    homeUniversity := none
    avatar := avatar
    preferences := profile.preferences }

def asScoringProfile (profile : SafeInvitationProfile context.zoneInfo) :
    Validated (Option (SafeMatchingProfile context.zoneInfo)) :=
  match asScoringFields profile with
  | none => .ok none
  | some value => (acceptWithout value (safeMatchingProfileErrors value)).map some

end Participants

end BuddyWeb
