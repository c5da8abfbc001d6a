/-
The owner-bound writes of a profile: the four preference replacements, the
partial profile update, and the update endpoint which commits it.
-/
import BuddyWeb.Profile.Selections

namespace BuddyWeb

def requireProfileOwner (owner : User) : Except ProfileError Unit :=
  ensure (owner.isAvailable = true) .accessDenied

/-- The stored profile of the owner, or the draft which is staged in its place. -/
def getOrCreateOwnProfileForUpdate (context : ProfileContext) (owner : User)
    (stored : Option ProfileRecord) : Except ProfileError ProfileRecord := do
  requireProfileOwner owner
  return stored.getD (.draft context.freshProfileId owner.id)

/-- The rows which the prepared custom values of one kind become. -/
def customModels (kind : PreferenceKind) (values : List PreparedCustomPreference) :
    List ProfileCustomPreference :=
  values.map fun value =>
    { kind := kind
      displayLabel := value.displayLabel
      normalizedKey := value.normalizedKey
      proficiency := value.proficiency
      deletedAt := none
      displayLabel_nonempty := value.displayLabel_nonempty
      displayLabel_le := value.displayLabel_le }

def replaceCustomKind (customs : List ProfileCustomPreference) (kind : PreferenceKind)
    (values : List PreparedCustomPreference) : List ProfileCustomPreference :=
  customs.filter (fun custom => custom.kind ≠ kind) ++ customModels kind values

/-- Two preference texts differ when their keys, labels or proficiencies do. -/
abbrev CustomSignature : Type :=
  List (String × String × Option LanguageProficiency)

def preparedSignature (values : List PreparedCustomPreference) : CustomSignature :=
  values.map fun value => (value.normalizedKey, value.displayLabel, value.proficiency)

def rowSignature (rows : List ProfileCustomPreference) : CustomSignature :=
  (rows.insertionSort fun first second =>
    first.normalizedKey ≤ second.normalizedKey).map fun row =>
      (row.normalizedKey, row.displayLabel, row.proficiency)

namespace ProfileRecord

def bumpVersion (record : ProfileRecord) : ProfileRecord :=
  { record with profile := { record.profile with version := record.profile.version + 1 } }

def readInterestIds (record : ProfileRecord) : List Nat :=
  record.interestIds.insertionSort (· ≤ ·)

def readActivityIds (record : ProfileRecord) : List Nat :=
  record.activityIds.insertionSort (· ≤ ·)

def readLanguages (record : ProfileRecord) : List ProfileLanguageSelection :=
  record.languages.insertionSort fun first second =>
    first.languageCode ≤ second.languageCode

end ProfileRecord

/-- The identifiers which a replacement of the activity relation leaves behind. -/
def replaceProfileActivityIds (existing requested : List Nat) : List Nat :=
  if requested ⊆ existing ∧ existing ⊆ requested then existing
  else requested.dedup.insertionSort (· ≤ ·)

def requireVersion (record : ProfileRecord) (version : Nat) : Except ProfileError Unit :=
  ensure (record.profile.version = version) .versionConflict

def replaceOwnInterests (context : ProfileContext) (owner : User)
    (stored : Option ProfileRecord) (version : Nat) (group : InterestGroup) :
    Except ProfileError ProfileRecord := do
  let record ← getOrCreateOwnProfileForUpdate context owner stored
  requireVersion record version
  let (ids, customs) ← prepareInterests context group
  if ids = record.readInterestIds ∧
      preparedSignature customs = rowSignature (customRows record.customs .interest) then
    return record
  return ProfileRecord.bumpVersion
    { record with
      interestIds := ids
      customs := replaceCustomKind record.customs .interest customs }

def replaceOwnLanguages (context : ProfileContext) (owner : User)
    (stored : Option ProfileRecord) (version : Nat) (group : LanguageGroup) :
    Except ProfileError ProfileRecord := do
  let record ← getOrCreateOwnProfileForUpdate context owner stored
  requireVersion record version
  let (languages, customs) ← prepareLanguages context group
  if languages = record.readLanguages ∧
      preparedSignature customs = rowSignature (customRows record.customs .language) then
    return record
  return ProfileRecord.bumpVersion
    { record with
      languages := languages
      customs := replaceCustomKind record.customs .language customs }

def replaceOwnActivities (context : ProfileContext) (owner : User)
    (stored : Option ProfileRecord) (version : Nat) (group : ActivityGroup) :
    Except ProfileError ProfileRecord := do
  let record ← getOrCreateOwnProfileForUpdate context owner stored
  requireVersion record version
  let (ids, customs) ← prepareActivities context group
  if ids = record.readActivityIds ∧
      preparedSignature customs = rowSignature (customRows record.customs .activity) then
    return record
  return ProfileRecord.bumpVersion
    { record with
      activityIds := replaceProfileActivityIds record.readActivityIds ids
      customs := replaceCustomKind record.customs .activity customs }

def replaceOwnPreferences (context : ProfileContext) (owner : User)
    (stored : Option ProfileRecord) (update : ProfilePreferenceUpdate) :
    Except ProfileError ProfileRecord := do
  let record ← getOrCreateOwnProfileForUpdate context owner stored
  requireVersion record update.version
  let (interestIds, customInterests) ← prepareInterests context update.interests
  let (languages, customLanguages) ← prepareLanguages context update.languages
  let (activityIds, customActivities) ← prepareActivities context update.activities
  if interestIds = record.readInterestIds ∧ languages = record.readLanguages ∧
      activityIds = record.readActivityIds ∧
      preparedSignature customInterests = rowSignature (customRows record.customs .interest) ∧
      preparedSignature customLanguages = rowSignature (customRows record.customs .language) ∧
      preparedSignature customActivities = rowSignature (customRows record.customs .activity) then
    return record
  return ProfileRecord.bumpVersion
    { record with
      interestIds := interestIds
      languages := languages
      activityIds := replaceProfileActivityIds record.readActivityIds activityIds
      customs := customModels .interest customInterests ++
        customModels .language customLanguages ++
        customModels .activity customActivities }

/-- A trimmed nonblank text of at most `maximum` characters. -/
structure BoundedText (maximum : Option Nat) where
  text : String
  trimmed : pyStrip text = text
  nonempty : text ≠ ""
  length_le : ∀ bound ∈ maximum, text.length ≤ bound

/-- A partial update after its schema: absent fields are `none`, and a field set
to null is `some none`. -/
structure ProfileUpdate (zoneInfo : String → Bool) where
  version : Nat
  fullName : Option (BoundedText (some 120)) := none
  displayName : Option (Option (BoundedText (some 80))) := none
  studentType : Option StudentType := none
  nationality : Option (Option (BoundedText none)) := none
  major : Option (Option (BoundedText none)) := none
  studyYear : Option (Option {year : Int // 1 ≤ year ∧ year ≤ 10}) := none
  bio : Option (Option (BoundedText (some 500))) := none
  homeUniversity : Option (Option (BoundedText none)) := none
  arrivalDate : Option (Option Nat) := none
  departureDate : Option (Option Nat) := none
  availability : Option (Option (WeeklyAvailability zoneInfo)) := none
  preferences : Option (Option {ids : List Nat // ids.Nodup ∧ ids.length ≤ 20}) := none
  matchingOptIn : Option Bool := none

/-- The row after the supplied fields are set. -/
def ProfileUpdate.apply {zoneInfo : String → Bool} (update : ProfileUpdate zoneInfo)
    (profile : StudentProfile) : StudentProfile :=
  { profile with
    fullName := (update.fullName.map fun value => some value.text).getD profile.fullName
    displayName :=
      (update.displayName.map (·.map (·.text))).getD profile.displayName
    studentType := (update.studentType.map some).getD profile.studentType
    nationality := (update.nationality.map (·.map (·.text))).getD profile.nationality
    major := (update.major.map (·.map (·.text))).getD profile.major
    studyYear := (update.studyYear.map (·.map (·.val))).getD profile.studyYear
    bio := (update.bio.map (·.map (·.text))).getD profile.bio
    homeUniversity :=
      (update.homeUniversity.map (·.map (·.text))).getD profile.homeUniversity
    arrivalDate := update.arrivalDate.getD profile.arrivalDate
    departureDate := update.departureDate.getD profile.departureDate
    availability :=
      (update.availability.map (·.map availabilityValue)).getD profile.availability
    matchingOptIn := update.matchingOptIn.getD profile.matchingOptIn }

def datesInOrder (profile : StudentProfile) : Bool :=
  match profile.arrivalDate, profile.departureDate with
  | some arrival, some departure => arrival ≤ departure
  | _, _ => true

/-- The requested predefined activities of an update which carries preferences. -/
def ProfileUpdate.requestedActivityIds {zoneInfo : String → Bool}
    (update : ProfileUpdate zoneInfo) : Option (List Nat) :=
  update.preferences.join.map (·.val)

/-- The activity relation after an update: kept unless the update carries one. -/
def requestedActivities (context : ProfileContext) (record : ProfileRecord) :
    Option (List Nat) → Except ProfileError (List Nat)
  | none => .ok record.activityIds
  | some requested => do
      ensure (requested ⊆ (listSelectableActivities context.catalog).map (·.id))
        (.invalid "Profile preferences are invalid.")
      return replaceProfileActivityIds record.readActivityIds requested

def updateOwnProfile (context : ProfileContext) (owner : User)
    (stored : Option ProfileRecord) (update : ProfileUpdate context.zoneInfo) :
    Except ProfileError ProfileRecord := do
  ensure (update.studentType.isNone ∨ owner.isAvailable) .accessDenied
  let record ← getOrCreateOwnProfileForUpdate context owner stored
  requireVersion record update.version
  let changed := update.apply record.profile
  ensure (update.studentType.isNone ∨ changed.studentType = record.profile.studentType ∨
    ¬ context.hasActiveBuddyMatch owner.id) .studentTypeLocked
  ensure (datesInOrder changed) (.invalid "Profile dates are invalid.")
  let activityIds ← requestedActivities context record update.requestedActivityIds
  return ProfileRecord.bumpVersion
    { record with profile := changed, activityIds := activityIds }

/-- The availability which the profile response rebuilds from the stored value. -/
def responseAvailability (zoneInfo : String → Bool) (profile : StudentProfile) :
    Validated (Option (WeeklyAvailability zoneInfo)) :=
  match profile.availability with
  | none => .ok none
  | some stored => (validateAvailability zoneInfo stored).map some

/-- The update endpoint: the response is built before the commit, so an update
whose response is refused is rolled back. -/
def replaceOwnProfileFields (context : ProfileContext) (owner : User)
    (stored : Option ProfileRecord) (update : ProfileUpdate context.zoneInfo) :
    Except ProfileError ProfileRecord := do
  let record ← updateOwnProfile context owner stored update
  match responseAvailability context.zoneInfo record.profile with
  | .ok _ => .ok record
  | .error errors => .error (.responseInvalid errors)

end BuddyWeb
