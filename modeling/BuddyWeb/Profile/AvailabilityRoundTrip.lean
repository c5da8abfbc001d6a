/-
What an accepted availability denotes, and when the stored value is accepted
again as itself.
-/
import BuddyWeb.Profile.Availability

namespace BuddyWeb

open WeeklyAvailabilitySlot

/-- The minutes of the week which a submitted slot denotes: the arc from its
start which lasts until its end is next reached. -/
def SlotInput.weekMinutes (raw : SlotInput) : Set Nat :=
  arc minutesPerWeek
    ((raw.weekday - 1) * minutesPerDay + raw.startMinute).toNat
    (if raw.startMinute < raw.endMinute then raw.endMinute - raw.startMinute
      else minutesPerDay - raw.startMinute + raw.endMinute).toNat

/-- The submitted slot covers a nonempty head of the day after its own. -/
def SlotInput.splitsAtMidnight (raw : SlotInput) : Bool :=
  raw.endMinute < raw.startMinute && 0 < raw.endMinute

namespace WeeklyAvailabilitySlot

theorem modelDump_weekMinutes (slot : WeeklyAvailabilitySlot) :
    slot.modelDump.weekMinutes = slot.weekMinutes := by
  have hweekday := slot.weekday_mem
  have hstart := slot.startMinute_le
  unfold SlotInput.weekMinutes weekMinutes weekStart duration modelDump
  congr 1
  · simp only [minutesPerDay]
    omega
  · simp only [minutesPerDay]
    split <;> split <;> omega

theorem modelDump_splitsAtMidnight (slot : WeeklyAvailabilitySlot) :
    slot.modelDump.splitsAtMidnight = slot.splitsAtMidnight := by
  simp [SlotInput.splitsAtMidnight, splitsAtMidnight, modelDump]

/-- The pieces of a slot cover the weekly minutes of the slot. -/
theorem listCover_pieces (slot : WeeklyAvailabilitySlot) :
    listCover weekMinutes slot.pieces = slot.weekMinutes := by
  have hweekday := slot.weekday_mem
  have hstart := slot.startMinute_le
  have htail : slot.dayTail.weekMinutes =
      arc minutesPerWeek slot.weekStart (minutesPerDay - slot.startMinute) := by
    have hlt : slot.startMinute < 1440 := by omega
    simp [weekMinutes, duration, weekStart, dayTail, minutesPerDay, hlt]
  unfold pieces
  split
  · simp
  · rename_i hovernight
    have hduration : slot.duration =
        minutesPerDay - slot.startMinute + slot.endMinute := by
      simp [duration, hovernight]
    split
    · rename_i hpos
      have hhead : (slot.nextDayHead hpos).weekMinutes =
          arc minutesPerWeek
            ((slot.weekStart + (minutesPerDay - slot.startMinute)) %
              minutesPerWeek) slot.endMinute := by
        have hreached : (slot.nextDayHead hpos).weekStart =
            (slot.weekStart + (minutesPerDay - slot.startMinute)) %
              minutesPerWeek := by
          have hsum : slot.weekStart + (minutesPerDay - slot.startMinute) =
              slot.weekday * minutesPerDay := by
            simp only [weekStart, minutesPerDay]
            omega
          rw [hsum]
          by_cases hlast : slot.weekday = 7
          · simp [weekStart, nextDayHead, hlast, minutesPerDay, minutesPerWeek]
          · rw [Nat.mod_eq_of_lt (by simp only [minutesPerDay, minutesPerWeek]; omega)]
            simp [weekStart, nextDayHead, hlast]
        rw [weekMinutes, hreached]
        simp [duration, nextDayHead, hpos]
      simp only [listCover_cons, listCover_nil, Set.union_empty, htail, hhead]
      rw [weekMinutes, hduration, arc_add]
    · have hzero : slot.endMinute = 0 := by omega
      simp only [listCover_cons, listCover_nil, Set.union_empty, htail]
      rw [weekMinutes, hduration, hzero, Nat.add_zero]

theorem pieces_length (slot : WeeklyAvailabilitySlot) :
    slot.pieces.length = 1 + if slot.splitsAtMidnight then 1 else 0 := by
  have hnonzero := slot.nonzero
  unfold pieces splitsAtMidnight
  split
  · have hnot : ¬ slot.endMinute < slot.startMinute := by omega
    simp [hnot]
  · have hlt : slot.endMinute < slot.startMinute := by omega
    split <;> simp_all

theorem pieces_of_positive {slot : WeeklyAvailabilitySlot}
    (hpositive : slot.startMinute < slot.endMinute) : slot.pieces = [slot] := by
  simp [pieces, hpositive]

end WeeklyAvailabilitySlot

theorem sortedPieces_perm (slots : List WeeklyAvailabilitySlot) :
    (sortedPieces slots).Perm (slots.flatMap pieces) :=
  List.perm_insertionSort Before _

/-- Normalising keeps the covered weekly minutes. -/
theorem listCover_sortedPieces (slots : List WeeklyAvailabilitySlot) :
    listCover weekMinutes (sortedPieces slots) = listCover weekMinutes slots := by
  rw [listCover_perm (sortedPieces_perm slots)]
  exact listCover_flatMap slots fun slot _ => listCover_pieces slot

/-- Each slot which runs into the next day adds one slot to the normal form. -/
theorem sortedPieces_length (slots : List WeeklyAvailabilitySlot) :
    (sortedPieces slots).length = slots.length + slots.countP splitsAtMidnight := by
  rw [(sortedPieces_perm slots).length_eq]
  induction slots with
  | nil => rfl
  | cons head tail ih =>
      simp only [List.flatMap_cons, List.length_append, pieces_length, ih,
        List.length_cons, List.countP_cons]
      omega

/-- A normal list is its own normal form. -/
theorem sortedPieces_of_normal {slots : List WeeklyAvailabilitySlot}
    (hnormal : NormalSlots slots) : sortedPieces slots = slots := by
  have hpieces : slots.flatMap pieces = slots := by
    have hpositive := hnormal.positive
    clear hnormal
    induction slots with
    | nil => rfl
    | cons head tail ih =>
        rw [List.flatMap_cons,
          pieces_of_positive (hpositive head List.mem_cons_self),
          ih fun slot hslot => hpositive slot (List.mem_cons_of_mem head hslot)]
        rfl
  rw [sortedPieces, hpieces]
  exact hnormal.sorted.insertionSort_eq

theorem hasOverlap_none_of_some {previous : WeeklyAvailabilitySlot}
    {slots : List WeeklyAvailabilitySlot}
    (hsome : hasOverlap (some previous) slots = false) :
    hasOverlap none slots = false := by
  cases slots with
  | nil => rfl
  | cons head tail =>
      simp only [hasOverlap, Bool.or_eq_false_iff] at hsome
      exact hsome.2

theorem NormalSlots.tail {head : WeeklyAvailabilitySlot}
    {rest : List WeeklyAvailabilitySlot} (hnormal : NormalSlots (head :: rest)) :
    NormalSlots rest where
  sorted := (List.pairwise_cons.mp hnormal.sorted).2
  positive := fun slot hslot =>
    hnormal.positive slot (List.mem_cons_of_mem head hslot)
  separated := hasOverlap_none_of_some hnormal.separated

/-- The minute of the week at which a slot inside one day ends. -/
def WeeklyAvailabilitySlot.weekEnd (slot : WeeklyAvailabilitySlot) : Nat :=
  (slot.weekday - 1) * minutesPerDay + slot.endMinute

/-- Comparing with the previous slot alone separates every two slots. -/
theorem NormalSlots.pairwise_weekEnd {slots : List WeeklyAvailabilitySlot}
    (hnormal : NormalSlots slots) :
    slots.Pairwise fun first second => first.weekEnd ≤ second.weekStart := by
  induction slots with
  | nil => exact List.Pairwise.nil
  | cons head tail ih =>
      have hpairwise := ih hnormal.tail
      refine List.pairwise_cons.mpr ⟨?_, hpairwise⟩
      cases tail with
      | nil => simp
      | cons next rest =>
          have hhead : head.weekEnd ≤ next.weekStart := by
            have hbefore := before_iff.mp
              ((List.pairwise_cons.mp hnormal.sorted).1 next List.mem_cons_self)
            have hseparated := hnormal.separated
            simp only [hasOverlap, Bool.or_eq_false_iff, overlapsPrevious,
              Bool.and_eq_false_iff, beq_eq_false_iff_ne, ne_eq,
              decide_eq_false_iff_not, not_lt] at hseparated
            have hend := head.endMinute_le
            have hweekday := head.weekday_mem
            simp only [weekEnd, weekStart, minutesPerDay]
            omega
          have hnext : next.weekStart ≤ next.weekEnd := by
            have hpositive := hnormal.tail.positive next List.mem_cons_self
            simp only [weekEnd, weekStart]
            omega
          intro slot hslot
          rcases List.mem_cons.mp hslot with rfl | hslot
          · exact hhead
          · have hrest := (List.pairwise_cons.mp hpairwise).1 slot hslot
            omega

/-- The slots of a normal list denote disjoint sets of weekly minutes. -/
theorem NormalSlots.pairwise_disjoint {slots : List WeeklyAvailabilitySlot}
    (hnormal : NormalSlots slots) :
    slots.Pairwise fun first second =>
      Disjoint first.weekMinutes second.weekMinutes := by
  have hinside : ∀ slot ∈ slots, slot.weekStart + slot.duration = slot.weekEnd ∧
      slot.weekEnd ≤ minutesPerWeek := by
    intro slot hslot
    have hpositive := hnormal.positive slot hslot
    have hend := slot.endMinute_le
    have hweekday := slot.weekday_mem
    simp only [weekStart, duration, hpositive, if_true, weekEnd, minutesPerDay,
      minutesPerWeek]
    omega
  refine List.Pairwise.imp_of_mem ?_ hnormal.pairwise_weekEnd
  intro first second hfirst hsecond hbefore
  have hfirst := hinside first hfirst
  have hsecond := hinside second hsecond
  apply disjoint_arc <;> omega

/-- A slot is accepted as itself: the schema changes no field of it. -/
theorem validateSlot_eq_ok_iff {loc : List Loc} {raw : SlotInput}
    {slot : WeeklyAvailabilitySlot} :
    validateSlot loc raw = .ok slot ↔ slot.modelDump = raw := by
  constructor
  · intro h
    unfold validateSlot at h
    split at h
    · rename_i hfields
      have hbounds := slotFieldErrors_eq_nil_iff.mp hfields
      split at h
      · simp at h
      · simp only [Except.ok.injEq] at h
        subst slot
        rcases raw with ⟨weekday, startMinute, endMinute⟩
        simp only [modelDump, SlotInput.mk.injEq]
        simp only at hbounds
        omega
    · simp at h
  · rintro rfl
    have hweekday := slot.weekday_mem
    have hstart := slot.startMinute_le
    have hend := slot.endMinute_le
    have hnonzero := slot.nonzero
    have hfields : slotFieldErrors loc slot.modelDump = [] := by
      rw [slotFieldErrors_eq_nil_iff]
      simp only [modelDump]
      omega
    have hzero : ¬ slot.modelDump.startMinute = slot.modelDump.endMinute := by
      simp only [modelDump]
      omega
    simp only [validateSlot, hfields, hzero, dite_true, dite_false]
    congr 1

theorem validateSlotList_eq_ok_iff {position : Nat} {raws : List SlotInput}
    {slots : List WeeklyAvailabilitySlot} :
    validateSlotList position raws = .ok slots ↔ slots.map modelDump = raws := by
  induction raws generalizing position slots with
  | nil => simp [validateSlotList, eq_comm]
  | cons raw rest ih =>
      simp only [validateSlotList, except_map_eq_ok_iff, Validated.both_eq_ok_iff,
        validateSlot_eq_ok_iff, ih, Prod.exists]
      cases slots with
      | nil => simp
      | cons head tail => aesop

theorem normalizedSlots_eq_ok_iff {slots : List WeeklyAvailabilitySlot}
    {normal : {normal : List WeeklyAvailabilitySlot // NormalSlots normal}} :
    normalizedSlots slots = .ok normal ↔ sortedPieces slots = normal.val := by
  unfold normalizedSlots
  split
  · rename_i hoverlap
    simp only [reduceCtorEq, false_iff]
    intro heq
    rw [heq, normal.property.separated] at hoverlap
    contradiction
  · simp [Subtype.ext_iff]

theorem validateTimezone_eq_ok_iff {zoneInfo : String → Bool} {value : String}
    {timezone : {timezone : String // ValidTimezone zoneInfo timezone}} :
    validateTimezone zoneInfo value = .ok timezone ↔ pyStrip value = timezone.val := by
  rcases timezone with ⟨timezone, hvalid⟩
  simp only [validateTimezone]
  constructor
  · intro h
    split at h
    · simp at h
    · split at h
      · simpa [Subtype.ext_iff] using h
      · simp at h
  · intro h
    have hnonempty := hvalid.nonempty
    have hlength := hvalid.length_le
    subst h
    have hblank : ¬ (pyStrip value = "" ∨ 64 < (pyStrip value).length) := by
      rintro (hempty | hlong)
      · exact hnonempty hempty
      · omega
    simp [hblank, hvalid.known]

variable {zoneInfo : String → Bool}

/-- What acceptance of a submitted availability amounts to. -/
theorem validateAvailability_eq_ok_iff {raw : AvailabilityInput}
    {availability : WeeklyAvailability zoneInfo} :
    validateAvailability zoneInfo raw = .ok availability ↔
      pyStrip raw.timezone = availability.timezone ∧
        raw.slots.length ≤ 100 ∧
          ∃ slots, slots.map modelDump = raw.slots ∧
            sortedPieces slots = availability.slots := by
  rcases availability with ⟨timezone, slots, htimezone, hnormal⟩
  simp only [validateAvailability, except_map_eq_ok_iff, Validated.both_eq_ok_iff,
    Validated.atField_eq_ok_iff, Validated.boundedList_eq_ok_iff,
    except_bind_eq_ok_iff, validateSlotList_eq_ok_iff, normalizedSlots_eq_ok_iff,
    validateTimezone_eq_ok_iff, WeeklyAvailability.mk.injEq]
  constructor
  · rintro ⟨⟨accepted, normal⟩, ⟨hstrip, hlength, source, hdump, hsorted⟩, rfl, rfl⟩
    exact ⟨hstrip, hlength, source, hdump, hsorted⟩
  · rintro ⟨hstrip, hlength, source, hdump, hsorted⟩
    exact ⟨(⟨timezone, htimezone⟩, ⟨slots, hnormal⟩),
      ⟨hstrip, hlength, source, hdump, hsorted⟩, rfl, rfl⟩

/-- The stored value is accepted as itself when it has at most 100 slots. -/
theorem validateAvailability_availabilityValue_iff
    (availability : WeeklyAvailability zoneInfo) :
    validateAvailability zoneInfo (availabilityValue availability) =
        .ok availability ↔ availability.slots.length ≤ 100 := by
  rw [validateAvailability_eq_ok_iff]
  simp only [availabilityValue, List.length_map]
  constructor
  · exact fun h => h.2.1
  · intro hlength
    exact ⟨availability.timezone_valid.stripped, hlength, availability.slots, rfl,
      sortedPieces_of_normal availability.normal⟩

/-- The weekly minutes which a submitted availability denotes. -/
def AvailabilityInput.weekMinutes (raw : AvailabilityInput) : Set Nat :=
  listCover SlotInput.weekMinutes raw.slots

/-- The weekly minutes which the slots of an accepted availability denote. -/
def WeeklyAvailability.weekMinutes (availability : WeeklyAvailability zoneInfo) :
    Set Nat :=
  listCover WeeklyAvailabilitySlot.weekMinutes availability.slots

/-- An accepted availability stores a value which reads back as itself, whose
slots are sorted, separate, positive and cover what was submitted. -/
structure AvailabilityRoundTrip (raw : AvailabilityInput)
    (availability : WeeklyAvailability zoneInfo) : Prop where
  accepted : validateAvailability zoneInfo (availabilityValue availability) =
    .ok availability
  sorted : availability.slots.Pairwise Before
  disjoint : availability.slots.Pairwise fun first second =>
    Disjoint first.weekMinutes second.weekMinutes
  positive : ∀ slot ∈ availability.slots, slot.startMinute < slot.endMinute
  covers : availability.weekMinutes = raw.weekMinutes

/-- The number of slots which the normal form of a submission has. -/
def AvailabilityInput.normalLength (raw : AvailabilityInput) : Nat :=
  raw.slots.length + raw.slots.countP SlotInput.splitsAtMidnight

theorem validateAvailability_slots_length {raw : AvailabilityInput}
    {availability : WeeklyAvailability zoneInfo}
    (haccepted : validateAvailability zoneInfo raw = .ok availability) :
    availability.slots.length = raw.normalLength := by
  obtain ⟨_, _, slots, hdump, hsorted⟩ := validateAvailability_eq_ok_iff.mp haccepted
  have hsplits : SlotInput.splitsAtMidnight ∘ modelDump =
      WeeklyAvailabilitySlot.splitsAtMidnight :=
    funext modelDump_splitsAtMidnight
  rw [← hsorted, sortedPieces_length, AvailabilityInput.normalLength, ← hdump,
    List.length_map, List.countP_map, hsplits]

theorem validateAvailability_weekMinutes {raw : AvailabilityInput}
    {availability : WeeklyAvailability zoneInfo}
    (haccepted : validateAvailability zoneInfo raw = .ok availability) :
    availability.weekMinutes = raw.weekMinutes := by
  obtain ⟨_, _, slots, hdump, hsorted⟩ := validateAvailability_eq_ok_iff.mp haccepted
  rw [WeeklyAvailability.weekMinutes, ← hsorted, listCover_sortedPieces,
    AvailabilityInput.weekMinutes, ← hdump, listCover_map]
  congr 1
  exact (funext modelDump_weekMinutes).symm

/-- An accepted availability round-trips exactly when its normal form, in which
every slot running into the next day counts twice, has at most 100 slots. -/
theorem availabilityRoundTrip_iff {raw : AvailabilityInput}
    {availability : WeeklyAvailability zoneInfo}
    (haccepted : validateAvailability zoneInfo raw = .ok availability) :
    AvailabilityRoundTrip raw availability ↔ raw.normalLength ≤ 100 := by
  rw [← validateAvailability_slots_length haccepted]
  constructor
  · intro hround
    exact (validateAvailability_availabilityValue_iff availability).mp hround.accepted
  · intro hlength
    exact {
      accepted :=
        (validateAvailability_availabilityValue_iff availability).mpr hlength
      sorted := availability.normal.sorted
      disjoint := availability.normal.pairwise_disjoint
      positive := availability.normal.positive
      covers := validateAvailability_weekMinutes haccepted }

namespace AvailabilityWitness

/-- A database with the one timezone which the witnesses use. -/
def bangkokOnly (timezone : String) : Bool :=
  timezone == "Asia/Bangkok"

/-- One overnight slot from Sunday to Monday and a Monday slot after it. -/
def sundayNight : AvailabilityInput where
  timezone := " Asia/Bangkok"
  slots := [⟨1, 60, 120⟩, ⟨7, 1380, 60⟩]

theorem availabilityRoundTrip_sundayNight :
    ∃ availability,
      validateAvailability bangkokOnly sundayNight = .ok availability ∧
        AvailabilityRoundTrip sundayNight availability := by
  obtain ⟨availability, haccepted⟩ := exists_ok_of_toBool
    (validateAvailability bangkokOnly sundayNight) (by decide +kernel)
  exact ⟨availability, haccepted,
    (availabilityRoundTrip_iff haccepted).mpr (by decide)⟩

/-- One hundred slots, the last of which runs from Sunday into Monday. -/
def hundredSlots : AvailabilityInput where
  timezone := "Asia/Bangkok"
  slots := (List.range 99).map (fun k => ⟨1, 60 + 2 * k, 61 + 2 * k⟩) ++
    [⟨7, 1380, 60⟩]

/-- One hundred accepted slots whose stored value is refused. -/
theorem not_availabilityRoundTrip_hundredSlots :
    ¬ ∀ (zoneInfo : String → Bool) (raw : AvailabilityInput)
        (availability : WeeklyAvailability zoneInfo),
      validateAvailability zoneInfo raw = .ok availability →
        AvailabilityRoundTrip raw availability := by
  intro hclaim
  obtain ⟨availability, haccepted⟩ := exists_ok_of_toBool
    (validateAvailability bangkokOnly hundredSlots) (by decide +kernel)
  have hround := (hclaim bangkokOnly hundredSlots availability haccepted).accepted
  have hlength := (validateAvailability_availabilityValue_iff availability).mp hround
  rw [validateAvailability_slots_length haccepted] at hlength
  have hcount : hundredSlots.normalLength = 101 := by decide +kernel
  omega

end AvailabilityWitness

end BuddyWeb
