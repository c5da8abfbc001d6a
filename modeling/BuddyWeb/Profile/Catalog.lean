/-
The shared preference catalogs, and what is stored for one profile: its row and
the rows of the relations which its preferences live in.
-/
import BuddyWeb.Accounts
import BuddyWeb.Profile.Availability
import BuddyWeb.Profile.PreferenceIdentity

namespace BuddyWeb

/-- A localized label of a catalog.  Its table checks the length of the trimmed label only; the
labels of its rows, which the migrations alone write, have no outer white space. -/
structure CatalogLabel where
  text : String
  nonempty : text ≠ ""
  length_le : text.length ≤ 120
  deriving DecidableEq, Repr

/-- A row of the shared interest or activity catalog. -/
structure CatalogItem where
  id : Nat
  code : String
  labelEn : CatalogLabel
  labelDe : CatalogLabel
  isActive : Bool
  deletedAt : Option Nat
  deriving DecidableEq, Repr

def CatalogItem.isSelectable (item : CatalogItem) : Bool :=
  item.isActive && item.deletedAt.isNone

/-- A row of the shared language catalog. -/
structure CatalogLanguage where
  code : String
  labelEn : CatalogLabel
  labelDe : CatalogLabel
  isActive : Bool
  deriving DecidableEq, Repr

/-- The three catalogs, each in its own catalog order. -/
structure Catalog where
  interests : List CatalogItem
  languages : List CatalogLanguage
  activities : List CatalogItem
  interests_nodup : (interests.map (·.id)).Nodup
  languages_nodup : (languages.map (·.code)).Nodup
  activities_nodup : (activities.map (·.id)).Nodup

def listActiveInterests (catalog : Catalog) : List CatalogItem :=
  catalog.interests.filter (·.isSelectable)

def listActiveLanguages (catalog : Catalog) : List CatalogLanguage :=
  catalog.languages.filter (·.isActive)

def listSelectableActivities (catalog : Catalog) : List CatalogItem :=
  catalog.activities.filter (·.isSelectable)

inductive LanguageProficiency
  | native
  | fluent
  | intermediate
  | beginner
  deriving DecidableEq, Repr

inductive PreferenceKind
  | interest
  | language
  | activity
  deriving DecidableEq, Repr

structure ProfileLanguageSelection where
  languageCode : String
  proficiency : LanguageProficiency
  deriving DecidableEq, Repr

/-- A stored custom preference, with the label length which its table guarantees. -/
structure ProfileCustomPreference where
  kind : PreferenceKind
  displayLabel : String
  normalizedKey : String
  proficiency : Option LanguageProficiency
  deletedAt : Option Nat
  displayLabel_nonempty : displayLabel ≠ ""
  displayLabel_le : displayLabel.length ≤ maxDisplayLabelLength
  deriving DecidableEq, Repr

/-- A student profile row. -/
structure StudentProfile where
  id : Nat
  userId : Nat
  fullName : Option String
  displayName : Option String
  studentType : Option StudentType
  nationality : Option String
  major : Option String
  studyYear : Option Int
  bio : Option String
  homeUniversity : Option String
  arrivalDate : Option Nat
  departureDate : Option Nat
  availability : Option AvailabilityInput
  matchingOptIn : Bool
  version : Nat
  deletedAt : Option Nat
  deriving DecidableEq, Repr

/-- A profile row with the preference rows which refer to it. -/
structure ProfileRecord where
  profile : StudentProfile
  interestIds : List Nat
  languages : List ProfileLanguageSelection
  activityIds : List Nat
  customs : List ProfileCustomPreference
  deriving DecidableEq, Repr

/-- The draft which the first access of an owner stages. -/
def StudentProfile.draft (id userId : Nat) : StudentProfile where
  id := id
  userId := userId
  fullName := none
  displayName := none
  studentType := none
  nationality := none
  major := none
  studyYear := none
  bio := none
  homeUniversity := none
  arrivalDate := none
  departureDate := none
  availability := none
  matchingOptIn := false
  version := 1
  deletedAt := none

def ProfileRecord.draft (id userId : Nat) : ProfileRecord where
  profile := .draft id userId
  interestIds := []
  languages := []
  activityIds := []
  customs := []

/-- The undeleted custom preferences of one kind. -/
def customRows (customs : List ProfileCustomPreference) (kind : PreferenceKind) :
    List ProfileCustomPreference :=
  customs.filter fun custom => custom.kind = kind && custom.deletedAt.isNone

end BuddyWeb
