/-
The form of the event editor: the stored instants of an event as local times of its zone,
and the submitted local times as instants again.  Instants are counted in minutes.
-/
import BuddyWeb.Chat.WireContract
import BuddyWeb.Lib.CivilDate

namespace BuddyWeb

/-- The minutes by which the local time of a zone is ahead of UTC at each instant.  They
change at most once within three days, and reach no further than half of these. -/
structure ZoneOffsets where
  offset : Int → Int
  bounded : ∀ instant, -2160 ≤ offset instant ∧ offset instant ≤ 2160
  changesOnce : ∀ start, ∃ change,
    (∀ instant, start ≤ instant → instant < change → offset instant = offset start) ∧
    ∀ instant, change ≤ instant → instant ≤ start + 4320 →
      offset instant = offset (start + 4320)

namespace ZoneOffsets

variable (zone : ZoneOffsets)

/-- The local time at an instant, counted as if it were UTC. -/
def wallTime (instant : Int) : Int :=
  instant + zone.offset instant

end ZoneOffsets

section Conversion

def zoneParts (instant : Int) (zone : ZoneOffsets) : CivilMinute :=
  civilOfMinute (zone.wallTime instant)

/-- `padStart` to two characters. -/
def padTwo (part : Int) : List Char :=
  List.replicate (2 - (intText part).length) '0' ++ intText part

def localText (parts : CivilMinute) : List Char :=
  intText parts.year ++ '-' :: padTwo parts.month ++ '-' :: padTwo parts.day ++
    'T' :: padTwo parts.hour ++ ':' :: padTwo parts.minute

def digitsValue (digits : List Char) : Int :=
  Nat.ofDigitChars 10 digits 0

/-- A text of the form `YYYY-MM-DDTHH:mm`. -/
def localParts : List Char → Option CivilMinute
  | [y₁, y₂, y₃, y₄, '-', m₁, m₂, '-', d₁, d₂, 'T', h₁, h₂, ':', n₁, n₂] =>
      if [y₁, y₂, y₃, y₄, m₁, m₂, d₁, d₂, h₁, h₂, n₁, n₂].all Char.isDigit then
        some ⟨digitsValue [y₁, y₂, y₃, y₄], digitsValue [m₁, m₂], digitsValue [d₁, d₂],
          digitsValue [h₁, h₂], digitsValue [n₁, n₂]⟩
      else none
  | _ => none

/-- The passes of the solver: each moves the instant by what its local time is off. -/
def settle (zone : ZoneOffsets) (desiredUtc : Int) : Nat → Int → Int
  | 0, timestamp => timestamp
  | pass + 1, timestamp =>
      settle zone desiredUtc pass
        (timestamp + (desiredUtc - minuteOfCivil (zoneParts timestamp zone)))

/-- The zones which the browser knows; it raises at any other name. -/
abbrev KnownZones : Type :=
  String → Option ZoneOffsets

variable (zones : KnownZones)

def zonedLocalToIso (value timezone : String) : Option Int :=
  match localParts value.toList, zones timezone with
  | some desired, some zone =>
      let desiredUtc := minuteOfCivil desired
      let timestamp := settle zone desiredUtc 3 desiredUtc
      if zoneParts timestamp zone = desired then some timestamp else none
  | _, _ => none

def isoToZonedLocal (value : Option Int) (timezone : String) : String :=
  match value, zones timezone with
  | some instant, some zone => String.ofList (localText (zoneParts instant zone))
  | _, _ => ""

end Conversion

section Form

structure AdminEvent where
  titleEn : Option String
  titleDe : Option String
  descriptionEn : Option String
  descriptionDe : Option String
  startDate : Option Int
  endDate : Option Int
  timezone : String
  locationEn : Option String
  locationDe : Option String
  category : Option String
  organizer : Option String
  registrationUrl : Option String
  registrationEnabled : Bool
  maxParticipants : Option Nat
  registrationDeadline : Option Int
  deriving DecidableEq, Repr

structure EventFormValues where
  titleEn : String := ""
  titleDe : String := ""
  descriptionEn : String := ""
  descriptionDe : String := ""
  startDate : String := ""
  endDate : String := ""
  timezone : String := "Asia/Ho_Chi_Minh"
  locationEn : String := ""
  locationDe : String := ""
  category : String := ""
  organizer : String := ""
  registrationUrl : String := ""
  registrationEnabled : Bool := false
  maxParticipants : String := ""
  registrationDeadline : String := ""
  altEn : String := ""
  altDe : String := ""
  deriving DecidableEq, Repr

/-- What `Number` makes of a text: digits are read, any other text is kept. -/
inductive FormNumber
  | natural (value : Nat)
  | other (text : String)
  deriving DecidableEq, Repr

structure EventDraftPayload where
  titleEn : Option String
  titleDe : Option String
  descriptionEn : Option String
  descriptionDe : Option String
  startDate : Option Int
  endDate : Option Int
  timezone : String
  locationEn : Option String
  locationDe : Option String
  category : Option String
  organizer : Option String
  registrationUrl : Option String
  registrationEnabled : Bool
  maxParticipants : Option FormNumber
  registrationDeadline : Option Int
  deriving DecidableEq, Repr

def jsTrim (value : String) : String :=
  String.ofList (trimEnds isJsSpace value.toList)

def textOrNull (value : String) : Option String :=
  if jsTrim value = "" then none else some (jsTrim value)

def formNumber (value : String) : FormNumber :=
  if value.toList.all Char.isDigit then .natural (Nat.ofDigitChars 10 value.toList 0)
  else .other value

variable (zones : KnownZones)

def eventToFormValues (event : AdminEvent) : EventFormValues where
  titleEn := event.titleEn.getD ""
  titleDe := event.titleDe.getD ""
  descriptionEn := event.descriptionEn.getD ""
  descriptionDe := event.descriptionDe.getD ""
  startDate := isoToZonedLocal zones event.startDate event.timezone
  endDate := isoToZonedLocal zones event.endDate event.timezone
  timezone := event.timezone
  locationEn := event.locationEn.getD ""
  locationDe := event.locationDe.getD ""
  category := event.category.getD ""
  organizer := event.organizer.getD ""
  registrationUrl := event.registrationUrl.getD ""
  registrationEnabled := event.registrationEnabled
  maxParticipants :=
    match event.maxParticipants with
    | some (count + 1) => String.ofList (Nat.toDigits 10 (count + 1))
    | _ => ""
  registrationDeadline := isoToZonedLocal zones event.registrationDeadline event.timezone

/-- A local time of the form as an instant; an empty one is none. -/
def submittedInstant (value timezone : String) : Option Int :=
  if value = "" then none else zonedLocalToIso zones value (jsTrim timezone)

def eventFormPayload (values : EventFormValues) : EventDraftPayload where
  titleEn := textOrNull values.titleEn
  titleDe := textOrNull values.titleDe
  descriptionEn := textOrNull values.descriptionEn
  descriptionDe := textOrNull values.descriptionDe
  startDate := submittedInstant zones values.startDate values.timezone
  endDate := submittedInstant zones values.endDate values.timezone
  timezone := jsTrim values.timezone
  locationEn := textOrNull values.locationEn
  locationDe := textOrNull values.locationDe
  category := textOrNull values.category
  organizer := textOrNull values.organizer
  registrationUrl := textOrNull values.registrationUrl
  registrationEnabled := values.registrationEnabled
  maxParticipants :=
    if values.maxParticipants = "" then none else some (formNumber values.maxParticipants)
  registrationDeadline := submittedInstant zones values.registrationDeadline values.timezone

end Form

/-- An event as the editor receives it: its zone is known under a name without white space,
and its instants are in years of four digits. -/
structure StoredEvent (zones : KnownZones) extends AdminEvent where
  zone : ZoneOffsets
  zone_known : zones timezone = some zone
  timezone_plain : ∀ char ∈ timezone.toList, isJsSpace char = false
  years : ∀ instant, startDate = some instant ∨ endDate = some instant ∨
    registrationDeadline = some instant →
    1000 ≤ (civilOfMinute instant).year ∧ (civilOfMinute instant).year ≤ 9999

end BuddyWeb
