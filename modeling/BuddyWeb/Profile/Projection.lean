/-
The public projections of a stored profile: the safe matching profile of an
eligible candidate and the safe profile of an invitation participant.
-/
import BuddyWeb.Profile.Services

namespace BuddyWeb

inductive CatalogLocale
  | en
  | de
  deriving DecidableEq, Repr

def localizedLabel (labelEn labelDe : CatalogLabel) : CatalogLocale → CatalogLabel
  | .de => labelDe
  | .en => labelEn

@[ext]
structure SafeMatchingAvatar where
  id : Nat
  width : Nat
  height : Nat
  width_pos : 1 ≤ width
  height_pos : 1 ≤ height
  deriving Repr

instance : DecidableEq SafeMatchingAvatar := fun _ _ =>
  decidable_of_iff _ SafeMatchingAvatar.ext_iff.symm

/-- A predefined or custom interest or activity as shown to other participants. -/
structure SafeMatchingPreference where
  id : Option Nat
  code : Option String
  label : String
  isCustom : Bool
  deriving DecidableEq, Repr

structure SafeMatchingLanguage where
  code : Option String
  label : String
  proficiency : LanguageProficiency
  isCustom : Bool
  deriving DecidableEq, Repr

def checkLabel (label : String) : List FieldError :=
  if label.length < 1 then [⟨[.field "label"], .tooShort 1⟩]
  else if 120 < label.length then [⟨[.field "label"], .tooLong 120⟩]
  else []

def safeMatchingPreference (value : SafeMatchingPreference) :
    Validated SafeMatchingPreference :=
  match checkLabel value.label with
  | error :: errors => .error (error :: errors)
  | [] =>
      if value.id.isSome && value.code.isSome && !value.isCustom ||
          value.id.isNone && value.code.isNone && value.isCustom then
        .ok value
      else
        .error [⟨[], .valueError "Matching preference identity is inconsistent."⟩]

def safeMatchingLanguage (value : SafeMatchingLanguage) :
    Validated SafeMatchingLanguage :=
  match checkLabel value.label with
  | error :: errors => .error (error :: errors)
  | [] =>
      if value.code.isNone = value.isCustom then .ok value
      else .error [⟨[], .valueError "Matching language identity is inconsistent."⟩]

/-- The selectable catalog rows of the stored identifiers, localized. -/
def catalogPreferences (locale : CatalogLocale) (items : List CatalogItem)
    (ids : List Nat) : List SafeMatchingPreference :=
  (items.filter fun item => item.isSelectable && ids.contains item.id).map fun item =>
    { id := some item.id
      code := some item.code
      label := (localizedLabel item.labelEn item.labelDe locale).text
      isCustom := false }

def customPreferences (record : ProfileRecord) (kind : PreferenceKind) :
    List SafeMatchingPreference :=
  (customRows record.customs kind).map fun custom =>
    { id := none, code := none, label := custom.displayLabel, isCustom := true }

def projectedInterests (catalog : Catalog) (locale : CatalogLocale)
    (record : ProfileRecord) : List SafeMatchingPreference :=
  catalogPreferences locale catalog.interests record.interestIds ++
    customPreferences record .interest

def projectedActivities (catalog : Catalog) (locale : CatalogLocale)
    (record : ProfileRecord) : List SafeMatchingPreference :=
  catalogPreferences locale catalog.activities record.activityIds ++
    customPreferences record .activity

def projectedLanguages (catalog : Catalog) (locale : CatalogLocale)
    (record : ProfileRecord) : List SafeMatchingLanguage :=
  (catalog.languages.filter (·.isActive)).filterMap (fun item =>
    (record.languages.find? fun selection => selection.languageCode = item.code).map
      fun selection =>
        { code := some item.code
          label := (localizedLabel item.labelEn item.labelDe locale).text
          proficiency := selection.proficiency
          isCustom := false }) ++
  (customRows record.customs .language).filterMap fun custom =>
    custom.proficiency.map fun proficiency =>
      { code := none
        label := custom.displayLabel
        proficiency := proficiency
        isCustom := true }

/-- The fields of a profile which both projections show. -/
structure SafePreferences (zoneInfo : String → Bool) where
  interests : List SafeMatchingPreference
  languages : List SafeMatchingLanguage
  activities : List SafeMatchingPreference
  availability : Option (WeeklyAvailability zoneInfo)

/-- Rebuild the shown preferences and the availability of a stored profile. -/
def projectPreferences (zoneInfo : String → Bool) (catalog : Catalog)
    (locale : CatalogLocale) (record : ProfileRecord) :
    Validated (SafePreferences zoneInfo) := do
  let interests ← (projectedInterests catalog locale record).mapM safeMatchingPreference
  let languages ← (projectedLanguages catalog locale record).mapM safeMatchingLanguage
  let activities ← (projectedActivities catalog locale record).mapM safeMatchingPreference
  let availability ← responseAvailability zoneInfo record.profile
  return ⟨interests, languages, activities, availability⟩

def checkMaxText (name : String) (maximum : Nat) : Option String → List FieldError
  | none => []
  | some value =>
      if maximum < value.length then [⟨[.field name], .tooLong maximum⟩] else []

def checkListLength {α : Type} (name : String) (minimum maximum : Nat)
    (entries : List α) : List FieldError :=
  if entries.length < minimum then [⟨[.field name], .tooShort minimum⟩]
  else if maximum < entries.length then [⟨[.field name], .tooLong maximum⟩]
  else []

/-- The candidate allowlist. -/
structure SafeMatchingProfile (zoneInfo : String → Bool) where
  id : Nat
  displayName : Option String
  fullName : Option String
  studentType : StudentType
  bio : Option String
  major : Option String
  studyYear : Option Int
  nationality : Option String
  homeUniversity : Option String
  avatar : SafeMatchingAvatar
  preferences : SafePreferences zoneInfo

/-- The bounds of the fields of a safe matching profile. -/
def safeMatchingProfileErrors {zoneInfo : String → Bool}
    (value : SafeMatchingProfile zoneInfo) : List FieldError :=
  checkMaxText "display_name" 80 value.displayName ++
    checkMaxText "full_name" 120 value.fullName ++
    checkMaxText "bio" 500 value.bio ++
    (match value.studyYear with
      | none => []
      | some year => checkBounds [.field "study_year"] 1 10 year) ++
    checkListLength "interests" 1 maxProfileInterestSelections
      value.preferences.interests ++
    checkListLength "languages" 1 maxProfileLanguageSelections
      value.preferences.languages ++
    checkListLength "activities" 0 maxProfileActivitySelections
      value.preferences.activities

/-- The public profile of an invitation participant. -/
structure SafeInvitationProfile (zoneInfo : String → Bool) where
  id : Nat
  displayName : Option String
  studentType : Option StudentType
  major : Option String
  avatar : Option SafeMatchingAvatar
  preferences : SafePreferences zoneInfo

def safeInvitationProfileErrors {zoneInfo : String → Bool}
    (value : SafeInvitationProfile zoneInfo) : List FieldError :=
  checkMaxText "display_name" 80 value.displayName ++
    checkListLength "interests" 0 maxProfileInterestSelections
      value.preferences.interests ++
    checkListLength "languages" 0 maxProfileLanguageSelections
      value.preferences.languages ++
    checkListLength "activities" 0 maxProfileActivitySelections
      value.preferences.activities

/-- Accept a value none of whose fields is refused. -/
def acceptWithout {α : Type} (value : α) : List FieldError → Validated α
  | [] => .ok value
  | error :: errors => .error (error :: errors)

@[simp]
theorem acceptWithout_eq_ok_iff {α : Type} {value result : α}
    {errors : List FieldError} :
    acceptWithout value errors = .ok result ↔ errors = [] ∧ value = result := by
  cases errors <;> simp [acceptWithout]

/-- The candidate fields of a row with the given student type. -/
def candidateFields {zoneInfo : String → Bool} (profile : StudentProfile)
    (studentType : StudentType) (avatar : SafeMatchingAvatar)
    (preferences : SafePreferences zoneInfo) : SafeMatchingProfile zoneInfo where
  id := profile.id
  displayName := profile.displayName
  fullName := profile.fullName
  studentType := studentType
  bio := profile.bio
  major := profile.major
  studyYear := profile.studyYear
  nationality := profile.nationality
  homeUniversity := profile.homeUniversity
  avatar := avatar
  preferences := preferences

/-- One row of the candidate projection; a row without a student type is left out. -/
def projectSafeProfile (zoneInfo : String → Bool) (catalog : Catalog)
    (locale : CatalogLocale) (record : ProfileRecord) (avatar : SafeMatchingAvatar) :
    Validated (Option (SafeMatchingProfile zoneInfo)) :=
  match record.profile.studentType with
  | none => .ok none
  | some studentType => do
      let preferences ← projectPreferences zoneInfo catalog locale record
      let profile := candidateFields record.profile studentType avatar preferences
      some <$> acceptWithout profile (safeMatchingProfileErrors profile)

/-- The candidate projection of several rows fails when one row does. -/
def projectSafeProfiles (zoneInfo : String → Bool) (catalog : Catalog)
    (locale : CatalogLocale) (rows : List (ProfileRecord × SafeMatchingAvatar)) :
    Validated (List (SafeMatchingProfile zoneInfo)) :=
  (rows.mapM fun row =>
    projectSafeProfile zoneInfo catalog locale row.1 row.2).map (·.filterMap id)

/-- The participant fields of a row. -/
def participantFields {zoneInfo : String → Bool} (profile : StudentProfile)
    (avatar : Option SafeMatchingAvatar) (preferences : SafePreferences zoneInfo) :
    SafeInvitationProfile zoneInfo where
  id := profile.id
  displayName := profile.displayName
  studentType := profile.studentType
  major := profile.major
  avatar := avatar
  preferences := preferences

/-- The projection of one invitation participant. -/
def loadSafeParticipantProfile (zoneInfo : String → Bool) (catalog : Catalog)
    (locale : CatalogLocale) (record : ProfileRecord)
    (avatar : Option SafeMatchingAvatar) :
    Validated (SafeInvitationProfile zoneInfo) := do
  let preferences ← projectPreferences zoneInfo catalog locale record
  let profile := participantFields record.profile avatar preferences
  acceptWithout profile (safeInvitationProfileErrors profile)

/-- The number of interests which the candidate query counts. -/
def interestCount (catalog : Catalog) (record : ProfileRecord) : Nat :=
  (catalog.interests.filter fun item =>
    item.isSelectable && record.interestIds.contains item.id).length +
    (customRows record.customs .interest).length

/-- The number of languages which the candidate query counts. -/
def languageCount (catalog : Catalog) (record : ProfileRecord) : Nat :=
  (catalog.languages.filter fun item =>
    item.isActive && record.languages.any fun selection =>
      selection.languageCode = item.code).length +
    (customRows record.customs .language).length

end BuddyWeb
