/-
Weekly availability: validation of the submitted slots, their normal form with
overnight slots split at midnight, and the value which a profile stores.
-/
import Mathlib.Data.List.Sort
import Mathlib.Data.Prod.Lex
import BuddyWeb.Lib.CyclicArc
import BuddyWeb.Lib.PyText
import BuddyWeb.Schema

namespace BuddyWeb

def minutesPerDay : Nat := 1440

def minutesPerWeek : Nat := 10080

/-- A submitted slot before any check. -/
structure SlotInput where
  weekday : Int
  startMinute : Int
  endMinute : Int
  deriving DecidableEq, Repr

/-- One ISO-weekday interval measured in local minutes from midnight.  A slot
whose end is not after its start continues into the next day. -/
structure WeeklyAvailabilitySlot where
  weekday : Nat
  startMinute : Nat
  endMinute : Nat
  weekday_mem : 1 ≤ weekday ∧ weekday ≤ 7
  startMinute_le : startMinute ≤ 1439
  endMinute_le : endMinute ≤ 1440
  nonzero : startMinute ≠ endMinute
  deriving DecidableEq, Repr

namespace WeeklyAvailabilitySlot

/-- The slot as the profile stores it. -/
def modelDump (slot : WeeklyAvailabilitySlot) : SlotInput where
  weekday := slot.weekday
  startMinute := slot.startMinute
  endMinute := slot.endMinute

/-- The minute of the week at which the slot starts. -/
def weekStart (slot : WeeklyAvailabilitySlot) : Nat :=
  (slot.weekday - 1) * minutesPerDay + slot.startMinute

/-- The number of minutes the slot lasts, counted across midnight. -/
def duration (slot : WeeklyAvailabilitySlot) : Nat :=
  if slot.startMinute < slot.endMinute then slot.endMinute - slot.startMinute
  else minutesPerDay - slot.startMinute + slot.endMinute

/-- The weekly minutes which the slot denotes. -/
def weekMinutes (slot : WeeklyAvailabilitySlot) : Set Nat :=
  arc minutesPerWeek slot.weekStart slot.duration

/-- The slot covers a nonempty head of the day after its own. -/
def splitsAtMidnight (slot : WeeklyAvailabilitySlot) : Bool :=
  slot.endMinute < slot.startMinute && 0 < slot.endMinute

/-- The tail of an overnight slot's own day. -/
def dayTail (slot : WeeklyAvailabilitySlot) : WeeklyAvailabilitySlot where
  weekday := slot.weekday
  startMinute := slot.startMinute
  endMinute := 1440
  weekday_mem := slot.weekday_mem
  startMinute_le := slot.startMinute_le
  endMinute_le := le_refl _
  nonzero := by
    have hstart := slot.startMinute_le
    omega

/-- The head of the day after an overnight slot's own, cyclically. -/
def nextDayHead (slot : WeeklyAvailabilitySlot) (hpos : 0 < slot.endMinute) :
    WeeklyAvailabilitySlot where
  weekday := if slot.weekday = 7 then 1 else slot.weekday + 1
  startMinute := 0
  endMinute := slot.endMinute
  weekday_mem := by
    have hweekday := slot.weekday_mem
    split <;> omega
  startMinute_le := by omega
  endMinute_le := slot.endMinute_le
  nonzero := by omega

/-- What one iteration of the normalisation loop appends. -/
def pieces (slot : WeeklyAvailabilitySlot) : List WeeklyAvailabilitySlot :=
  if slot.startMinute < slot.endMinute then [slot]
  else if hpos : 0 < slot.endMinute then [slot.dayTail, slot.nextDayHead hpos]
  else [slot.dayTail]

/-- The key by which the normal form is sorted. -/
def sortKey (slot : WeeklyAvailabilitySlot) : Nat ×ₗ Nat ×ₗ Nat :=
  toLex (slot.weekday, toLex (slot.startMinute, slot.endMinute))

/-- The order of the normal form. -/
def Before (first second : WeeklyAvailabilitySlot) : Prop :=
  first.sortKey ≤ second.sortKey

instance : DecidableRel Before := fun first second =>
  inferInstanceAs (Decidable (first.sortKey ≤ second.sortKey))

instance : Std.Total Before :=
  ⟨fun first second => le_total first.sortKey second.sortKey⟩

instance : IsTrans WeeklyAvailabilitySlot Before :=
  ⟨fun _ _ _ hfirst hsecond => le_trans hfirst hsecond⟩

theorem before_iff {first second : WeeklyAvailabilitySlot} :
    Before first second ↔
      first.weekday < second.weekday ∨
        first.weekday = second.weekday ∧
          (first.startMinute < second.startMinute ∨
            first.startMinute = second.startMinute ∧
              first.endMinute ≤ second.endMinute) := by
  simp [Before, sortKey, Prod.Lex.toLex_le_toLex]

/-- The comparison of one slot with the one before it in sorted order. -/
def overlapsPrevious (previous slot : WeeklyAvailabilitySlot) : Bool :=
  previous.weekday == slot.weekday && slot.startMinute < previous.endMinute

end WeeklyAvailabilitySlot

open WeeklyAvailabilitySlot

/-- The overlap loop, with the slot which the last iteration left behind. -/
def hasOverlap : Option WeeklyAvailabilitySlot → List WeeklyAvailabilitySlot → Bool
  | _, [] => false
  | none, slot :: rest => hasOverlap (some slot) rest
  | some previous, slot :: rest =>
      overlapsPrevious previous slot || hasOverlap (some slot) rest

/-- The order and separation of a normalised list of slots. -/
structure NormalSlots (slots : List WeeklyAvailabilitySlot) : Prop where
  sorted : slots.Pairwise Before
  positive : ∀ slot ∈ slots, slot.startMinute < slot.endMinute
  separated : hasOverlap none slots = false

/-- The slots of the normal form before the overlap check. -/
def sortedPieces (slots : List WeeklyAvailabilitySlot) : List WeeklyAvailabilitySlot :=
  (slots.flatMap pieces).insertionSort Before

theorem pieces_positive (slot : WeeklyAvailabilitySlot) :
    ∀ piece ∈ slot.pieces, piece.startMinute < piece.endMinute := by
  have hstart := slot.startMinute_le
  intro piece hpiece
  unfold pieces at hpiece
  split at hpiece
  · simp only [List.mem_singleton] at hpiece
    subst piece
    assumption
  · split at hpiece
    · simp only [List.mem_cons, List.not_mem_nil, or_false] at hpiece
      rcases hpiece with rfl | rfl
      · simp only [dayTail]
        omega
      · simpa only [nextDayHead]
    · simp only [List.mem_singleton] at hpiece
      subst piece
      simp only [dayTail]
      omega

theorem sortedPieces_sorted (slots : List WeeklyAvailabilitySlot) :
    (sortedPieces slots).Pairwise Before :=
  List.pairwise_insertionSort Before _

theorem mem_sortedPieces {slots : List WeeklyAvailabilitySlot}
    {piece : WeeklyAvailabilitySlot} :
    piece ∈ sortedPieces slots ↔ ∃ slot ∈ slots, piece ∈ slot.pieces := by
  simp [sortedPieces, List.mem_flatMap]

theorem sortedPieces_positive (slots : List WeeklyAvailabilitySlot) :
    ∀ piece ∈ sortedPieces slots, piece.startMinute < piece.endMinute := by
  intro piece hpiece
  obtain ⟨slot, _, hmem⟩ := mem_sortedPieces.mp hpiece
  exact pieces_positive slot piece hmem

def overlapMessage : String := "Availability slots must not overlap."

def durationMessage : String := "Availability slots must have a positive duration."

def timezoneMessage : String := "Availability timezone is invalid."

/-- The normal form of the accepted slots, refused when two of them overlap. -/
def normalizedSlots (slots : List WeeklyAvailabilitySlot) :
    Except String {normal : List WeeklyAvailabilitySlot // NormalSlots normal} :=
  if h : hasOverlap none (sortedPieces slots) = true then .error overlapMessage
  else .ok ⟨sortedPieces slots, sortedPieces_sorted slots,
    sortedPieces_positive slots, by simpa using h⟩

/-- A submitted availability before any check. -/
structure AvailabilityInput where
  timezone : String
  slots : List SlotInput := []
  deriving DecidableEq, Repr

/-- The declared bounds of the three fields of a slot. -/
def slotFieldErrors (loc : List Loc) (raw : SlotInput) : List FieldError :=
  checkBounds (loc ++ [.field "weekday"]) 1 7 raw.weekday ++
    checkBounds (loc ++ [.field "start_minute"]) 0 1439 raw.startMinute ++
    checkBounds (loc ++ [.field "end_minute"]) 0 1440 raw.endMinute

theorem slotFieldErrors_eq_nil_iff {loc : List Loc} {raw : SlotInput} :
    slotFieldErrors loc raw = [] ↔
      (1 ≤ raw.weekday ∧ raw.weekday ≤ 7) ∧
        (0 ≤ raw.startMinute ∧ raw.startMinute ≤ 1439) ∧
          (0 ≤ raw.endMinute ∧ raw.endMinute ≤ 1440) := by
  simp only [slotFieldErrors, List.append_eq_nil_iff, checkBounds_eq_nil_iff]
  tauto

/-- Validation of one submitted slot. -/
def validateSlot (loc : List Loc) (raw : SlotInput) :
    Validated WeeklyAvailabilitySlot :=
  if hfields : slotFieldErrors loc raw = [] then
    if hzero : raw.startMinute = raw.endMinute then
      .error [⟨loc, .valueError durationMessage⟩]
    else
      .ok {
        weekday := raw.weekday.toNat
        startMinute := raw.startMinute.toNat
        endMinute := raw.endMinute.toNat
        weekday_mem := by
          have hbounds := slotFieldErrors_eq_nil_iff.mp hfields
          omega
        startMinute_le := by
          have hbounds := slotFieldErrors_eq_nil_iff.mp hfields
          omega
        endMinute_le := by
          have hbounds := slotFieldErrors_eq_nil_iff.mp hfields
          omega
        nonzero := by
          have hbounds := slotFieldErrors_eq_nil_iff.mp hfields
          omega }
  else .error (slotFieldErrors loc raw)

/-- Validation of the submitted slots in order, collecting every error. -/
def validateSlotList (position : Nat) :
    List SlotInput → Validated (List WeeklyAvailabilitySlot)
  | [] => .ok []
  | raw :: rest =>
      (Validated.both (validateSlot [.field "slots", .index position] raw)
        (validateSlotList (position + 1) rest)).map fun pair => pair.1 :: pair.2

/-- A timezone text as the schema keeps it.  `zoneInfo` says for which keys the
timezone database has an entry. -/
structure ValidTimezone (zoneInfo : String → Bool) (timezone : String) : Prop where
  stripped : pyStrip timezone = timezone
  nonempty : timezone ≠ ""
  length_le : timezone.length ≤ 64
  known : zoneInfo timezone = true

/-- Validation of a submitted timezone. -/
def validateTimezone (zoneInfo : String → Bool) (value : String) :
    Except String {timezone : String // ValidTimezone zoneInfo timezone} :=
  let candidate := pyStrip value
  if hblank : candidate = "" ∨ 64 < candidate.length then .error timezoneMessage
  else if hknown : zoneInfo candidate = true then
    .ok ⟨candidate, pyStrip_pyStrip value, by tauto, by omega, hknown⟩
  else .error timezoneMessage

/-- Weekly availability with an IANA timezone and split overnight slots. -/
structure WeeklyAvailability (zoneInfo : String → Bool) where
  timezone : String
  slots : List WeeklyAvailabilitySlot
  timezone_valid : ValidTimezone zoneInfo timezone
  normal : NormalSlots slots

/-- Validation of a submitted availability. -/
def validateAvailability (zoneInfo : String → Bool) (raw : AvailabilityInput) :
    Validated (WeeklyAvailability zoneInfo) :=
  (Validated.both
    (Validated.atField [.field "timezone"] (validateTimezone zoneInfo raw.timezone))
    (Validated.boundedList [.field "slots"] 100 raw.slots
      (validateSlotList 0 raw.slots >>= fun slots =>
        Validated.atField [.field "slots"] (normalizedSlots slots)))).map
    fun pair => ⟨pair.1.1, pair.2.1, pair.1.2, pair.2.2⟩

/-- The value which a profile stores for an accepted availability. -/
def availabilityValue {zoneInfo : String → Bool}
    (availability : WeeklyAvailability zoneInfo) : AvailabilityInput where
  timezone := availability.timezone
  slots := availability.slots.map modelDump

end BuddyWeb
