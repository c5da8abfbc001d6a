/-
Replacement of the preference selections of a profile: the request groups with
their joint limits, and the values which the services prepare from them.
-/
import Mathlib.Data.List.Dedup
import Mathlib.Data.List.Sort
import BuddyWeb.Profile.Catalog

namespace BuddyWeb

/-- Why a profile service refuses a write. -/
inductive ProfileError
  | accessDenied
  | versionConflict
  | studentTypeLocked
  | invalid (message : String)
  | responseInvalid (errors : List FieldError)
  deriving DecidableEq, Repr

/-- What the profile services read besides the owner's own rows. -/
structure ProfileContext where
  unicode : UnicodeData
  zoneInfo : String → Bool
  catalog : Catalog
  hasActiveBuddyMatch : Nat → Bool
  freshProfileId : Nat

def maxProfileInterestSelections : Nat := 20

def maxProfileLanguageSelections : Nat := 10

def maxProfileActivitySelections : Nat := 20

/-- A submitted custom label. -/
structure CustomPreferenceInput where
  label : String
  deriving DecidableEq, Repr

/-- A submitted custom language with its proficiency. -/
structure CustomLanguageInput where
  label : String
  proficiency : LanguageProficiency
  deriving DecidableEq, Repr

/-- One preference group of a request within its joint limit. -/
structure SelectionGroup (α β : Type) (key : α → κ) (maximum : Nat) where
  selected : List α
  customs : List β
  selected_nodup : (selected.map key).Nodup
  combined_le : selected.length + customs.length ≤ maximum

abbrev InterestGroup : Type :=
  SelectionGroup Nat CustomPreferenceInput id maxProfileInterestSelections

abbrev LanguageGroup : Type :=
  SelectionGroup ProfileLanguageSelection CustomLanguageInput
    ProfileLanguageSelection.languageCode maxProfileLanguageSelections

abbrev ActivityGroup : Type :=
  SelectionGroup Nat CustomPreferenceInput id maxProfileActivitySelections

/-- A combined request within the three joint limits. -/
structure ProfilePreferenceUpdate where
  version : Nat
  interests : InterestGroup
  languages : LanguageGroup
  activities : ActivityGroup

/-- A custom preference ready to be stored. -/
@[ext]
structure PreparedCustomPreference where
  displayLabel : String
  normalizedKey : String
  proficiency : Option LanguageProficiency
  displayLabel_nonempty : displayLabel ≠ ""
  displayLabel_le : displayLabel.length ≤ maxDisplayLabelLength
  deriving Repr

instance : DecidableEq PreparedCustomPreference := fun _ _ =>
  decidable_of_iff _ PreparedCustomPreference.ext_iff.symm

/-- The keys of both labels of the selectable catalog entries. -/
def catalogIdentityKeys (unicode : UnicodeData) :
    List (CatalogLabel × CatalogLabel) → Except ProfileError (List String)
  | [] => .ok []
  | (labelEn, labelDe) :: rest =>
      match normalizePreferenceKey unicode labelEn.text,
        normalizePreferenceKey unicode labelDe.text,
        catalogIdentityKeys unicode rest with
      | .ok keyEn, .ok keyDe, .ok keys => .ok (keyEn :: keyDe :: keys)
      | .ok _, .ok _, .error error => .error error
      | _, _, _ => .error (.invalid "Selectable preference catalog is invalid.")

/-- The loop over the submitted custom values, with the keys seen so far. -/
def normalizeCustomLoop (unicode : UnicodeData) (catalogKeys : List String) :
    List String → List (String × Option LanguageProficiency) →
      Except ProfileError (List PreparedCustomPreference)
  | _, [] => .ok []
  | seen, (label, proficiency) :: rest =>
      match normalizePreferenceIdentity unicode label with
      | .error _ => .error (.invalid "Custom preference is invalid.")
      | .ok identity =>
          if identity.normalizedKey ∈ catalogKeys ∨ identity.normalizedKey ∈ seen then
            .error (.invalid "Custom preference duplicates an existing preference.")
          else
            (normalizeCustomLoop unicode catalogKeys
              (identity.normalizedKey :: seen) rest).map fun prepared =>
                { displayLabel := identity.displayLabel
                  normalizedKey := identity.normalizedKey
                  proficiency := proficiency
                  displayLabel_nonempty := identity.displayLabel_nonempty
                  displayLabel_le := identity.displayLabel_le } :: prepared

/-- The prepared custom values in the order of their keys. -/
def normalizeCustom (unicode : UnicodeData)
    (values : List (String × Option LanguageProficiency)) (catalogKeys : List String) :
    Except ProfileError (List PreparedCustomPreference) :=
  (normalizeCustomLoop unicode catalogKeys [] values).map fun prepared =>
    prepared.insertionSort fun first second =>
      first.normalizedKey ≤ second.normalizedKey

/-- Identifiers and custom values checked against one catalog of items. -/
def prepareItems (unicode : UnicodeData) (catalog : List CatalogItem) (message : String)
    (ids : List Nat) (customs : List CustomPreferenceInput) :
    Except ProfileError (List Nat × List PreparedCustomPreference) := do
  ensure (ids ⊆ catalog.map (·.id)) (.invalid message)
  let keys ← catalogIdentityKeys unicode
    (catalog.map fun item => (item.labelEn, item.labelDe))
  let prepared ← normalizeCustom unicode (customs.map fun item => (item.label, none)) keys
  return (ids.dedup.insertionSort (· ≤ ·), prepared)

def prepareInterests (context : ProfileContext) (group : InterestGroup) :
    Except ProfileError (List Nat × List PreparedCustomPreference) :=
  prepareItems context.unicode (listActiveInterests context.catalog)
    "Profile interests are invalid." group.selected group.customs

def prepareActivities (context : ProfileContext) (group : ActivityGroup) :
    Except ProfileError (List Nat × List PreparedCustomPreference) :=
  prepareItems context.unicode (listSelectableActivities context.catalog)
    "Profile activities are invalid." group.selected group.customs

def prepareLanguages (context : ProfileContext) (group : LanguageGroup) :
    Except ProfileError
      (List ProfileLanguageSelection × List PreparedCustomPreference) := do
  let catalog := listActiveLanguages context.catalog
  ensure (group.selected.map (·.languageCode) ⊆ catalog.map (·.code))
    (.invalid "Profile languages are invalid.")
  let keys ← catalogIdentityKeys context.unicode
    (catalog.map fun item => (item.labelEn, item.labelDe))
  let prepared ← normalizeCustom context.unicode
    (group.customs.map fun item => (item.label, some item.proficiency)) keys
  return (group.selected.insertionSort fun first second =>
    first.languageCode ≤ second.languageCode, prepared)

end BuddyWeb
