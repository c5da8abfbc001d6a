/-
The lists which show compatibility: the ranked recommendations, and the incoming and sent
invitations of a user.
-/
import BuddyWeb.Matching.MatchingTables

namespace BuddyWeb

/-- Why one of the lists raises. -/
inductive MatchingReadError
  | value (message : String)
  | state
  | capacity
  | invalid (errors : List FieldError)
  | scoring (message : String)
  deriving DecidableEq, Repr

/-- One page of a list. -/
structure ListResponse (α : Type) where
  items : List α
  page : Nat
  pageSize : Nat
  total : Nat
  totalPages : Nat
  referenceWeekStart : Int
  deriving DecidableEq, Repr

def maxPageSize : Nat := 50

def pageOf {α : Type} (entries : List α) (page pageSize : Nat) : List α :=
  (entries.drop ((page - 1) * pageSize)).take pageSize

def listResponse {α : Type} (items : List α) (page pageSize total : Nat)
    (referenceWeekStart : Int) : ListResponse α where
  items := items
  page := page
  pageSize := pageSize
  total := total
  totalPages := (total + pageSize - 1) / pageSize
  referenceWeekStart := referenceWeekStart

/-- The checks of a page request, with the name which their messages use. -/
def validatePage (name : String) (page pageSize : Nat) (referenceWeekStart : Int) :
    Except MatchingReadError Unit := do
  ensure (1 ≤ page) (.value s!"{name} page must be positive.")
  ensure (1 ≤ pageSize ∧ pageSize ≤ maxPageSize)
    (.value s!"{name} page size is outside the supported range.")
  ensure (isMonday referenceWeekStart = true)
    (.value s!"{name} reference week must begin on Monday.")

section Recommendations

def maxRecommendationCandidates : Nat := 500

variable (context : ScoringContext) (db : MatchingDatabase)

structure MatchingRecommendation where
  profile : SafeMatchingProfile context.zoneInfo
  score : Int
  explanation : CompatibilityExplanation

variable {context}

def rankedBefore (first second : CompatibilityScore × SafeMatchingProfile context.zoneInfo) :
    Bool :=
  second.1.preciseScore < first.1.preciseScore ||
    first.1.preciseScore = second.1.preciseScore && first.2.id ≤ second.2.id

def scoreCandidate (current : EligibleMatchingPrincipal)
    (currentProfile : SafeMatchingProfile context.zoneInfo) (referenceWeekStart : Int)
    (candidate : EligibleMatchingCandidate context) :
    Except MatchingReadError (CompatibilityScore × SafeMatchingProfile context.zoneInfo) := do
  let score ← (scoreEligiblePair current candidate.principal currentProfile
    candidate.profile referenceWeekStart).mapError .scoring
  return (score, candidate.profile)

def matchingRecommendation
    (scored : CompatibilityScore × SafeMatchingProfile context.zoneInfo) :
    Except MatchingReadError (MatchingRecommendation context) := do
  let explanation ← (projectCompatibilityExplanation context scored.1).mapError .invalid
  return ⟨scored.2, scored.1.score, explanation⟩

variable (context)

def listRankedMatchingRecommendations (current : EligibleMatchingPrincipal)
    (locale : CatalogLocale) (page pageSize : Nat) (referenceWeekStart : Int) :
    Except MatchingReadError (ListResponse (MatchingRecommendation context)) := do
  validatePage "Recommendation" page pageSize referenceWeekStart
  let loaded ← (loadMatchingScoringProfiles context db.toStudentTables db.buddyMatches
    current locale (maxRecommendationCandidates + 1)).mapError .invalid
  let (currentProfile, candidates) ← require loaded .state
  ensure (candidates.length ≤ maxRecommendationCandidates) .capacity
  let scored ← candidates.mapM (scoreCandidate current currentProfile referenceWeekStart)
  let ranked := scored.insertionSort fun first second => rankedBefore first second
  let items ← (pageOf ranked page pageSize).mapM matchingRecommendation
  return listResponse items page pageSize scored.length referenceWeekStart

end Recommendations

inductive InvitationView
  | incoming
  | sent
  deriving DecidableEq, Repr

namespace InvitationView

/-- The other participant of an invitation in a view. -/
def participant (view : InvitationView) (invitation : MatchingInvitation) : Nat :=
  match view with
  | .incoming => invitation.senderId
  | .sent => invitation.recipientId

/-- The visibility of an invitation to a user. -/
def shows (view : InvitationView) (ownerUserId : Nat) (instant : Int)
    (invitation : MatchingInvitation) : Bool :=
  invitation.deletedAt.isNone &&
    match view with
    | .incoming =>
        invitation.recipientId = ownerUserId && invitation.effectivePending instant
    | .sent =>
        invitation.senderId = ownerUserId &&
          (invitation.effectivePending instant ||
            invitation.status = .accepted && invitation.senderHiddenAt.isNone)

end InvitationView

/-- The newest invitations come first. -/
def newerInvitation (first second : MatchingInvitation) : Bool :=
  second.createdAt < first.createdAt ||
    first.createdAt = second.createdAt && second.id ≤ first.id

section Invitations

variable (context : ScoringContext) (db : MatchingDatabase)

/-- The fields of an invitation which both views show.  The message is shown to the
recipient only. -/
structure InvitationReadItem where
  id : Nat
  status : InvitationStatus
  createdAt : Int
  expiresAt : Int
  participant : SafeInvitationProfile context.zoneInfo
  message : Option String
  compatibility : Option (Int × CompatibilityExplanation)

def listInvitationRows (view : InvitationView) (ownerUserId : Nat) (instant : Int) :
    List MatchingInvitation :=
  (db.invitations.rows.filter (view.shows ownerUserId instant)).insertionSort
    fun first second => newerInvitation first second

variable {context}

/-- The principal of a participant, whose semester no score reads. -/
def participantPrincipal (userId : Nat) (profile : SafeMatchingProfile context.zoneInfo) :
    EligibleMatchingPrincipal where
  userId := userId
  profileId := profile.id
  studentType := profile.studentType
  semesterId := none

def currentCompatibility (currentUserId : Nat)
    (currentProfile : SafeInvitationProfile context.zoneInfo) (participantUserId : Nat)
    (participantProfile : SafeInvitationProfile context.zoneInfo)
    (referenceWeekStart : Int) :
    Except MatchingReadError (Option (Int × CompatibilityExplanation)) := do
  let scoringCurrent ← (asScoringProfile currentProfile).mapError .invalid
  let scoringParticipant ← (asScoringProfile participantProfile).mapError .invalid
  match scoringCurrent, scoringParticipant with
  | some scoringCurrent, some scoringParticipant =>
      let current := participantPrincipal currentUserId scoringCurrent
      let participant := participantPrincipal participantUserId scoringParticipant
      if matchingPairIsEligible current participant then
        let score ← (scoreEligiblePair current participant scoringCurrent scoringParticipant
          referenceWeekStart).mapError .scoring
        let explanation ← (projectCompatibilityExplanation context score).mapError .invalid
        return some (score.score, explanation)
      else return none
  | _, _ => return none

def invitationReadItem (view : InvitationView) (currentUserId : Nat)
    (currentProfile : SafeInvitationProfile context.zoneInfo)
    (profiles : List (Nat × SafeInvitationProfile context.zoneInfo))
    (referenceWeekStart : Int) (invitation : MatchingInvitation) :
    Except MatchingReadError (InvitationReadItem context) := do
  let participant ← require (participantProfile profiles (view.participant invitation)) .state
  let compatibility ← currentCompatibility currentUserId currentProfile
    (view.participant invitation) participant referenceWeekStart
  return {
    id := invitation.id
    status := invitation.status
    createdAt := invitation.createdAt
    expiresAt := invitation.expiresAt
    participant := participant
    message := if view = .incoming then some invitation.message else none
    compatibility := compatibility }

variable (context)

def listInvitations (view : InvitationView) (current : VerifiedBuddyPrincipal)
    (locale : CatalogLocale) (page pageSize : Nat) (referenceWeekStart instant : Int) :
    Except MatchingReadError (ListResponse (InvitationReadItem context)) := do
  validatePage "Invitation" page pageSize referenceWeekStart
  let visible := listInvitationRows db view current.user.id instant
  let rows := pageOf visible page pageSize
  if rows = [] then
    return listResponse [] page pageSize visible.length referenceWeekStart
  let profiles ← (loadSafeParticipantProfiles context db.toStudentTables
    (current.user.id :: rows.map view.participant).dedup locale).mapError .invalid
  let currentProfile ← require (participantProfile profiles current.user.id) .state
  let items ← rows.mapM (invitationReadItem view current.user.id currentProfile profiles
    referenceWeekStart)
  return listResponse items page pageSize visible.length referenceWeekStart

def listIncomingInvitations (current : VerifiedBuddyPrincipal) (locale : CatalogLocale)
    (page pageSize : Nat) (referenceWeekStart instant : Int) :
    Except MatchingReadError (ListResponse (InvitationReadItem context)) :=
  listInvitations context db .incoming current locale page pageSize
    referenceWeekStart instant

def listSentInvitations (current : VerifiedBuddyPrincipal) (locale : CatalogLocale)
    (page pageSize : Nat) (referenceWeekStart instant : Int) :
    Except MatchingReadError (ListResponse (InvitationReadItem context)) :=
  listInvitations context db .sent current locale page pageSize
    referenceWeekStart instant

end Invitations

end BuddyWeb
