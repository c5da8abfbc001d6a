/-
Display labels and comparison keys of custom preferences.
-/
import BuddyWeb.Lib.PyText

namespace BuddyWeb

/-- The Unicode tables behind `unicodedata` and `str.casefold`. -/
structure UnicodeData where
  nfkc : String → String
  casefold : String → String
  /-- The general category is `Cc`, `Cf` or `Cs`. -/
  unsafeCategory : Char → Bool

/-- `str.split` without arguments. -/
def pySplit (value : String) : List String :=
  ((value.toList.splitOnP isPySpace).filter (· ≠ [])).map String.ofList

def collapseWhitespace (value : String) : String :=
  " ".intercalate (pySplit value)

def maxDisplayLabelLength : Nat := 120

def maxNormalizedKeyLength : Nat := 255

def maxInputLength : Nat := maxNormalizedKeyLength

/-- A validated label and its deterministic comparison key. -/
structure PreferenceIdentity where
  displayLabel : String
  normalizedKey : String
  displayLabel_nonempty : displayLabel ≠ ""
  displayLabel_le : displayLabel.length ≤ maxDisplayLabelLength
  normalizedKey_nonempty : normalizedKey ≠ ""
  normalizedKey_le : normalizedKey.length ≤ maxNormalizedKeyLength

variable (unicode : UnicodeData)

def containsUnsafeControl (value : String) : Bool :=
  value.toList.any fun c => unicode.unsafeCategory c && c != '\t'

def inputTooLongMessage : String :=
  "Preference label exceeds the pre-normalization input limit."

def unsafeTextMessage : String :=
  "Preference label contains unsafe control characters."

/-- The display label and the NFKC, whitespace and casefold identity of a label. -/
def normalizePreferenceIdentity (value : String) : Except String PreferenceIdentity :=
  let displayLabel := collapseWhitespace value
  let normalizedKey := unicode.casefold (collapseWhitespace (unicode.nfkc value))
  if maxInputLength < value.length then .error inputTooLongMessage
  else if containsUnsafeControl unicode value then .error unsafeTextMessage
  else if hlabel : displayLabel = "" then
    .error "Preference label must not be empty."
  else if hlabelLength : maxDisplayLabelLength < displayLabel.length then
    .error "Preference display label is too long."
  else if containsUnsafeControl unicode displayLabel then .error unsafeTextMessage
  else if containsUnsafeControl unicode normalizedKey then .error unsafeTextMessage
  else if hkey : normalizedKey = "" then
    .error "Preference normalized key must not be empty."
  else if hkeyLength : maxNormalizedKeyLength < normalizedKey.length then
    .error "Preference normalized key is too long."
  else
    .ok {
      displayLabel := displayLabel
      normalizedKey := normalizedKey
      displayLabel_nonempty := hlabel
      displayLabel_le := Nat.le_of_not_lt hlabelLength
      normalizedKey_nonempty := hkey
      normalizedKey_le := Nat.le_of_not_lt hkeyLength }

def normalizePreferenceKey (value : String) : Except String String :=
  (normalizePreferenceIdentity unicode value).map (·.normalizedKey)

end BuddyWeb
