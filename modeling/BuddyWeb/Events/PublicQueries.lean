/-
The public list and the public detail of events: the rows which they select, in order, and
the projection of each into one language.
-/
import Mathlib.Data.Int.ConditionallyCompleteOrder
import Mathlib.Order.ConditionallyCompleteLattice.Basic
import BuddyWeb.Events.Editing
import BuddyWeb.Lib.Pages
import Mathlib.Data.List.Sort
import Mathlib.Data.Prod.Lex
import Mathlib.Order.WithBot

namespace BuddyWeb

inductive EventPhase
  | upcoming
  | ongoing
  | completed
  deriving DecidableEq, Repr

inductive EventLocale
  | en
  | de
  deriving DecidableEq, Repr

structure PublicEventFilters where
  locale : EventLocale := .en
  category : Option String := none
  phase : Option EventPhase := none
  fromInstant : Option Int := none
  toInstant : Option Int := none
  page : Int := 1
  pageSize : Int := 20
  deriving DecidableEq, Repr

inductive EventQueryError
  | validation (message : String)
  /-- "Published Event localization is incomplete." -/
  | incompleteLocalization
  /-- "Event end date must be later than start date." -/
  | invalidSchedule
  | storage
  deriving DecidableEq, Repr

structure PublicEventCoverResponse where
  url : String
  altText : String
  mimeType : String
  width : Nat
  height : Nat
  expiresIn : Nat
  deriving DecidableEq, Repr

structure PublicEventResponse where
  id : Nat
  locale : EventLocale
  title : String
  description : String
  startDate : Option Int
  endDate : Option Int
  timezone : String
  location : Option String
  category : Option String
  organizer : Option String
  registrationUrl : Option String
  registrationEnabled : Bool
  registrationDeadline : Option Int
  status : EventStatus
  visibility : EventVisibility
  phase : Option EventPhase
  cover : Option PublicEventCoverResponse
  deriving DecidableEq, Repr

structure PublicEventListResponse where
  items : List PublicEventResponse
  page : Int
  pageSize : Int
  total : Nat
  totalPages : Nat
  deriving DecidableEq, Repr

namespace Events

section Filters

def maxPublicEventRange : Int := 93 * 24 * 60 * 60 * 1000000

def maxSignedUrlSeconds : Nat := 300

/-- The clause which selects what the public may see. -/
def publicClause (event : EventRow) : Bool :=
  event.deletedAt.isNone && event.publishedAt.isSome &&
    (event.status == .published || event.status == .cancelled)

def validated (filters : PublicEventFilters) : Except EventQueryError PublicEventFilters := do
  ensure (1 ≤ filters.page ∧ 1 ≤ filters.pageSize ∧ filters.pageSize ≤ 100)
    (.validation "Event pagination is out of bounds.")
  let category := filters.category.map pyStrip
  ensure (∀ text ∈ category, text ≠ "" ∧ text.length ≤ 80)
    (.validation "Event category is invalid.")
  match filters.fromInstant, filters.toInstant with
  | none, none => pure ()
  | some start, some stop =>
      ensure (start < stop ∧ stop - start ≤ maxPublicEventRange)
        (.validation "Event date range is invalid.")
  | _, _ => throw (.validation "Event date range requires both from and to.")
  pure { filters with category }

/-- A comparison with a null column does not select. -/
def filterClauses (filters : PublicEventFilters) (now : Int) (event : EventRow) : Bool :=
  publicClause event &&
    filters.category.all (fun category => event.category == some category) &&
    (match filters.phase with
      | none => true
      | some .upcoming => event.startDate.any (now < ·)
      | some .ongoing => event.startDate.any (· ≤ now) && event.endDate.any (now < ·)
      | some .completed => event.endDate.any (· ≤ now)) &&
    (match filters.fromInstant, filters.toInstant with
      | some start, some stop => event.startDate.any (· < stop) && event.endDate.any (start < ·)
      | _, _ => true)

def coverJoin (event : EventRow) (media : EventMediaRow) : Bool :=
  event.coverMediaId == some media.id && event.id == media.eventId &&
    media.deletedAt.isNone && media.usage == .eventCover && media.processingStatus == .ready

/-- By the start, events without one last, and then by the identifier. -/
def listKey (event : EventRow) : WithTop Int ×ₗ Nat :=
  toLex ((event.startDate : WithTop Int), event.id)

/-- The rows of one page, each with its cover where it has one. -/
def eventPage (db : EventDb) (filters : PublicEventFilters) (now : Int) :
    List (EventRow × Option EventMediaRow) :=
  let selected := db.events.rows.filter (filterClauses filters now)
  let ordered := selected.insertionSort fun first second => listKey first ≤ listKey second
  (window ordered filters.pageSize.toNat (filters.page.toNat - 1)).map fun event =>
    (event, db.media.select? (coverJoin event))

end Filters

section Projection

/-- `primary or fallback`: an empty text counts as missing. -/
def orElse (primary fallback : Option String) : Option String :=
  match primary with
  | some text => if text = "" then fallback else some text
  | none => fallback

def localized (primary fallback : Option String) : Except EventQueryError String :=
  require (orElse primary fallback) .incompleteLocalization

def phaseAt (event : EventRow) (now : Int) : Except EventQueryError (Option EventPhase) :=
  match event.startDate, event.endDate with
  | some start, some stop =>
      if stop ≤ start then .error .invalidSchedule
      else if now < start then .ok (some .upcoming)
      else if now < stop then .ok (some .ongoing)
      else .ok (some .completed)
  | _, _ => .ok none

variable (createSignedUrl : String → Option String)

/-- The first text where the language asks for it, with the second as the fallback. -/
def inLocale (locale : EventLocale) (en de : Option String) :
    Option String × Option String :=
  match locale with
  | .en => (en, de)
  | .de => (de, en)

def projectCover (locale : EventLocale) (media : EventMediaRow) :
    Except EventQueryError PublicEventCoverResponse := do
  let alt := inLocale locale (some media.altEn) (some media.altDe)
  let altText ← localized alt.1 alt.2
  let url ← require (createSignedUrl media.objectKey) .storage
  pure ⟨url, altText, media.mimeType, media.width, media.height, maxSignedUrlSeconds⟩

def projectEvent (event : EventRow) (media : Option EventMediaRow) (locale : EventLocale)
    (now : Int) : Except EventQueryError PublicEventResponse := do
  let phase ← phaseAt event now
  let titles := inLocale locale event.titleEn event.titleDe
  let title ← localized titles.1 titles.2
  let descriptions := inLocale locale event.descriptionEn event.descriptionDe
  let description ← localized descriptions.1 descriptions.2
  let locations := inLocale locale event.locationEn event.locationDe
  let location := orElse locations.1 locations.2
  let cover ← match media with
    | none => pure none
    | some media => some <$> projectCover createSignedUrl locale media
  pure
    { id := event.id, locale, title, description, startDate := event.startDate,
      endDate := event.endDate, timezone := event.timezone, location,
      category := event.category, organizer := event.organizer,
      registrationUrl := event.registrationUrl,
      registrationEnabled := event.registrationEnabled && event.status == .published,
      registrationDeadline := event.registrationDeadline, status := event.status,
      visibility := event.visibility, phase, cover }

def listPublicEvents (db : EventDb) (filters : PublicEventFilters) (now : Int) :
    Except EventQueryError PublicEventListResponse := do
  let checked ← validated filters
  let total := (db.events.rows.filter (filterClauses checked now)).length
  let items ← (eventPage db checked now).mapM fun row =>
    projectEvent createSignedUrl row.1 row.2 checked.locale now
  pure ⟨items, checked.page, checked.pageSize, total,
    windowCount total checked.pageSize.toNat⟩

def getPublicEventDetail (db : EventDb) (eventId : Nat) (locale : EventLocale) (now : Int) :
    Except EventQueryError (Option PublicEventResponse) :=
  match db.events.select? fun event => event.id == eventId && publicClause event with
  | none => .ok none
  | some event =>
      some <$> projectEvent createSignedUrl event (db.media.select? (coverJoin event)) locale now

end Projection

end Events

end BuddyWeb
