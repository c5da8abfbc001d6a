/-
Profile completion: which required groups of a stored profile are missing, and whether
its owner may be matched.
-/
import BuddyWeb.Profile.Projection
import BuddyWeb.Lib.Table

namespace BuddyWeb

inductive ProfilePhotoProcessingStatus
  | ready
  | failed
  deriving DecidableEq, Repr

structure ProfilePhoto where
  id : Nat
  profileId : Nat
  isAvatar : Bool
  processingStatus : ProfilePhotoProcessingStatus
  width : Nat
  height : Nat
  deletedAt : Option Int
  deriving DecidableEq, Repr

instance : Keyed ProfilePhoto := ⟨ProfilePhoto.id⟩

/-- A processed avatar which is not deleted. -/
def ProfilePhoto.isReadyAvatar (photo : ProfilePhoto) (profileId : Nat) : Bool :=
  photo.profileId = profileId && photo.isAvatar && photo.processingStatus = .ready &&
    photo.deletedAt.isNone

def countReadyAvatars (photos : Table ProfilePhoto) (profileId : Nat) : Nat :=
  (photos.rows.filter (·.isReadyAvatar profileId)).length

/-- The keys of both labels of catalog entries, or the refusal of a label. -/
def labelKeys (unicode : UnicodeData) :
    List (CatalogLabel × CatalogLabel) → Except String (List String)
  | [] => .ok []
  | (labelEn, labelDe) :: rest => do
      let keyEn ← normalizePreferenceKey unicode labelEn.text
      let keyDe ← normalizePreferenceKey unicode labelDe.text
      let keys ← labelKeys unicode rest
      return keyEn :: keyDe :: keys

/-- The selected catalog entries, and the custom keys which are not keys of them. -/
def countValidSelections (unicode : UnicodeData)
    (selected : List (CatalogLabel × CatalogLabel))
    (customs : List ProfileCustomPreference) : Except String Nat := do
  let catalogKeys ← labelKeys unicode selected
  let customKeys := (customs.map (·.normalizedKey)).dedup
  return selected.length + (customKeys.filter (· ∉ catalogKeys)).length

/-- The selectable interests of a profile. -/
def selectedInterests (catalog : Catalog) (record : ProfileRecord) : List CatalogItem :=
  (listActiveInterests catalog).filter fun item => record.interestIds.contains item.id

/-- The active languages of a profile. -/
def selectedLanguages (catalog : Catalog) (record : ProfileRecord) : List CatalogLanguage :=
  (listActiveLanguages catalog).filter fun item =>
    record.languages.any fun selection => selection.languageCode = item.code

def countValidInterests (unicode : UnicodeData) (catalog : Catalog)
    (record : ProfileRecord) : Except String Nat :=
  countValidSelections unicode
    ((selectedInterests catalog record).map fun item => (item.labelEn, item.labelDe))
    (customRows record.customs .interest)

def countValidLanguages (unicode : UnicodeData) (catalog : Catalog)
    (record : ProfileRecord) : Except String Nat :=
  countValidSelections unicode
    ((selectedLanguages catalog record).map fun item => (item.labelEn, item.labelDe))
    (customRows record.customs .language)

inductive ProfileCompletionStatus
  | incomplete
  | complete
  deriving DecidableEq, Repr

inductive ProfileMissingField
  | fullName
  | studentType
  | avatar
  | interests
  | languages
  deriving DecidableEq, Repr

inductive MatchingIneligibilityReason
  | profileIncomplete
  | accountInactive
  | accountDeleted
  | emailVerificationRequired
  | matchingOptInRequired
  deriving DecidableEq, Repr

structure ProfileCompletionResponse where
  status : ProfileCompletionStatus
  percentage : Nat
  missingFields : List ProfileMissingField
  matchingEligible : Bool
  reasons : List MatchingIneligibilityReason
  deriving DecidableEq, Repr

/-- An entry of a list which is built up under a condition. -/
def listWhen {α : Type} (condition : Bool) (entry : α) : List α :=
  if condition then [entry] else []

def strippedFullName (profile : StudentProfile) : String :=
  (profile.fullName.map pyStrip).getD ""

def missingFields (profile : StudentProfile)
    (readyAvatarCount validInterestCount validLanguageCount : Nat) :
    List ProfileMissingField :=
  listWhen (!decide (1 ≤ (strippedFullName profile).length ∧
      (strippedFullName profile).length ≤ 120)) .fullName ++
    listWhen profile.studentType.isNone .studentType ++
    listWhen (readyAvatarCount != 1) .avatar ++
    listWhen (!decide (1 ≤ validInterestCount ∧ validInterestCount ≤ 20)) .interests ++
    listWhen (!decide (1 ≤ validLanguageCount ∧ validLanguageCount ≤ 10)) .languages

/-- An available USER with a verified e-mail address. -/
def User.isVerified (user : User) : Bool :=
  user.isAvailable && user.emailVerifiedAt.isSome

/-- Readiness, derived from the persisted state only. -/
def deriveProfileCompletion (owner : User) (profile : StudentProfile)
    (readyAvatarCount validInterestCount validLanguageCount : Nat) :
    ProfileCompletionResponse :=
  let missing := missingFields profile readyAvatarCount validInterestCount
    validLanguageCount
  { status := if missing = [] then .complete else .incomplete
    percentage := (5 - missing.length) * 20
    missingFields := missing
    matchingEligible := missing = [] && owner.isVerified && profile.matchingOptIn
    reasons :=
      listWhen (missing ≠ []) .profileIncomplete ++
        listWhen (!owner.isActive) .accountInactive ++
        listWhen owner.deletedAt.isSome .accountDeleted ++
        listWhen (owner.role = .user && owner.emailVerifiedAt.isNone)
          .emailVerificationRequired ++
        listWhen (!profile.matchingOptIn) .matchingOptInRequired }

/-- Why a matching service refuses a student. -/
inductive MatchingError
  | profileAccess
  | preferenceIdentity (message : String)
  | buddyCapability (reason : Option MatchingIneligibilityReason)
  deriving DecidableEq, Repr

/-- What the completion of a profile reads besides its own rows. -/
structure CompletionContext where
  unicode : UnicodeData
  catalog : Catalog
  photos : Table ProfilePhoto

def preferenceCount (count : Except String Nat) : Except MatchingError Nat :=
  count.mapError .preferenceIdentity

def getProfileCompletion (context : CompletionContext) (owner : User)
    (record : ProfileRecord) : Except MatchingError ProfileCompletionResponse := do
  ensure (record.profile.userId = owner.id ∧ record.profile.deletedAt = none) .profileAccess
  let interests ← preferenceCount
    (countValidInterests context.unicode context.catalog record)
  let languages ← preferenceCount
    (countValidLanguages context.unicode context.catalog record)
  return deriveProfileCompletion owner record.profile
    (countReadyAvatars context.photos record.profile.id) interests languages

section Derivation

theorem listWhen_eq_nil_iff {α : Type} {condition : Bool} {entry : α} :
    listWhen condition entry = [] ↔ condition = false := by
  cases condition <;> simp [listWhen]

/-- Nothing is missing exactly when each group is within its bounds. -/
theorem missingFields_eq_nil_iff {profile : StudentProfile}
    {readyAvatarCount validInterestCount validLanguageCount : Nat} :
    missingFields profile readyAvatarCount validInterestCount validLanguageCount = [] ↔
      (1 ≤ (strippedFullName profile).length ∧
          (strippedFullName profile).length ≤ 120) ∧
        profile.studentType.isSome = true ∧ readyAvatarCount = 1 ∧
        (1 ≤ validInterestCount ∧ validInterestCount ≤ 20) ∧
        1 ≤ validLanguageCount ∧ validLanguageCount ≤ 10 := by
  simp only [missingFields, List.append_eq_nil_iff, listWhen_eq_nil_iff,
    Bool.not_eq_false', decide_eq_true_eq, bne_eq_false_iff_eq]
  constructor
  · rintro ⟨⟨⟨⟨hname, htype⟩, havatar⟩, hinterests⟩, hlanguages⟩
    exact ⟨hname, by simpa [Option.isSome_iff_ne_none] using htype, havatar, hinterests,
      hlanguages⟩
  · rintro ⟨hname, htype, havatar, hinterests, hlanguages⟩
    exact ⟨⟨⟨⟨hname, by simpa [Option.isSome_iff_ne_none] using htype⟩, havatar⟩,
      hinterests⟩, hlanguages⟩

/-- The reported percentage is a multiple of twenty up to a hundred, and a hundred exactly
for a complete profile. -/
theorem deriveProfileCompletion_percentage (owner : User) (profile : StudentProfile)
    (readyAvatarCount validInterestCount validLanguageCount : Nat) :
    let completion := deriveProfileCompletion owner profile readyAvatarCount
      validInterestCount validLanguageCount
    completion.percentage % 20 = 0 ∧ completion.percentage ≤ 100 ∧
      (completion.percentage = 100 ↔ completion.status = .complete) := by
  intro completion
  have hpercentage : completion.percentage = (5 - completion.missingFields.length) * 20 := rfl
  have hstatus : completion.status = .complete ↔ completion.missingFields = [] := by
    by_cases hmissing : completion.missingFields = []
    · exact iff_of_true (if_pos hmissing) hmissing
    · refine iff_of_false ?_ hmissing
      rw [show completion.status = .incomplete from if_neg hmissing]
      decide
  rw [hstatus, hpercentage, ← List.length_eq_zero_iff]
  omega

end Derivation

end BuddyWeb
