/-
The similarity of schedules in fixed-offset timezones against that of the weekly minutes
which they denote: where a slot leaves the reference week, the two may differ.
-/
import Mathlib.Algebra.BigOperators.Ring.Finset
import BuddyWeb.Matching.AvailabilitySimilarity

namespace BuddyWeb

open WeeklyAvailabilitySlot

variable {context : ScoringContext}

def microsecondsPerMinute : Int := 60000000

/-- A timezone which is always the given number of minutes ahead of UTC. -/
def FixedOffset (context : ScoringContext) (timezone : String) (offset : Int) : Prop :=
  ∀ localMinute, context.toUtc timezone localMinute =
    (localMinute - offset) * microsecondsPerMinute

/-- The minutes of a slot, counted from the reference Monday in a zone that is the offset
behind the slot's own. -/
def minuteInterval (offset : Int) (slot : WeeklyAvailabilitySlot) : Int × Int :=
  (((slot.weekday : Int) - 1) * minutesPerDay + slot.startMinute - offset,
    ((slot.weekday : Int) - 1) * minutesPerDay + slot.endMinute - offset)

/-- The minutes of a schedule, counted from Monday 00:00 in UTC of the reference week. -/
def utcMinutes (offset : Int) (availability : WeeklyAvailability context.zoneInfo) :
    Finset Int :=
  covered (availability.slots.map (minuteInterval offset))

/-- The minutes of a schedule modulo one week. -/
def weeklyMinutes (offset : Int) (availability : WeeklyAvailability context.zoneInfo) :
    Finset Int :=
  (utcMinutes offset availability).image (· % minutesPerWeek)

/-- One schedule is another one written in another zone: every local minute is shifted by the
difference of the offsets, cyclically. -/
def Reexpresses (first second : WeeklyAvailability context.zoneInfo)
    (firstOffset secondOffset : Int) : Prop :=
  utcMinutes 0 second = (utcMinutes 0 first).image fun minute =>
    (minute + (secondOffset - firstOffset)) % minutesPerWeek

/-- A minute of one set is a whole number of weeks before or after one of the other. -/
def WeeksApart (left right : Finset Int) : Prop :=
  ∃ first ∈ left, ∃ second ∈ right,
    first % minutesPerWeek = second % minutesPerWeek ∧ first ≠ second

section Minutes

variable {availability : WeeklyAvailability context.zoneInfo} {offset minute : Int}

theorem mem_utcMinutes :
    minute ∈ utcMinutes offset availability ↔
      ∃ slot ∈ availability.slots, (minuteInterval offset slot).1 ≤ minute ∧
        minute < (minuteInterval offset slot).2 := by
  rw [utcMinutes, mem_covered]
  simp only [List.mem_map]
  constructor
  · rintro ⟨interval, ⟨slot, hslot, rfl⟩, hbounds⟩
    exact ⟨slot, hslot, hbounds⟩
  · rintro ⟨slot, hslot, hbounds⟩
    exact ⟨_, ⟨slot, hslot, rfl⟩, hbounds⟩

/-- An offset moves every minute. -/
theorem mem_utcMinutes_iff_local :
    minute ∈ utcMinutes offset availability ↔ minute + offset ∈ utcMinutes 0 availability := by
  simp only [mem_utcMinutes, minuteInterval]
  constructor
  · rintro ⟨slot, hslot, hstart, hend⟩
    exact ⟨slot, hslot, by omega, by omega⟩
  · rintro ⟨slot, hslot, hstart, hend⟩
    exact ⟨slot, hslot, by omega, by omega⟩

/-- The minutes of a schedule lie within one week. -/
theorem utcMinutes_bounds (h : minute ∈ utcMinutes offset availability) :
    -offset ≤ minute ∧ minute < minutesPerWeek - offset := by
  obtain ⟨slot, _, hstart, hend⟩ := mem_utcMinutes.mp h
  have hweekday := slot.weekday_mem
  have hendMinute := slot.endMinute_le
  simp only [minuteInterval, minutesPerDay, minutesPerWeek] at hstart hend ⊢
  omega

theorem utcMinutes_injOn (offset : Int) (availability : WeeklyAvailability context.zoneInfo) :
    Set.InjOn (fun minute : Int => minute % (minutesPerWeek : Int))
      (utcMinutes offset availability) := by
  intro first hfirst second hsecond heq
  have hfirstBounds := utcMinutes_bounds (Finset.mem_coe.mp hfirst)
  have hsecondBounds := utcMinutes_bounds (Finset.mem_coe.mp hsecond)
  simp only [minutesPerWeek] at hfirstBounds hsecondBounds heq
  omega

/-- A schedule and its re-expression denote the same weekly minutes. -/
theorem weeklyMinutes_reexpressed {first second : WeeklyAvailability context.zoneInfo}
    {firstOffset secondOffset : Int} (h : Reexpresses first second firstOffset secondOffset) :
    weeklyMinutes secondOffset second = weeklyMinutes firstOffset first := by
  ext minute
  simp only [weeklyMinutes, Finset.mem_image]
  constructor
  · rintro ⟨shifted, hshifted, rfl⟩
    rw [mem_utcMinutes_iff_local, h, Finset.mem_image] at hshifted
    obtain ⟨source, hsource, heq⟩ := hshifted
    refine ⟨source - firstOffset, ?_, ?_⟩
    · rw [mem_utcMinutes_iff_local, Int.sub_add_cancel]
      exact hsource
    · simp only [minutesPerWeek] at heq ⊢
      omega
  · rintro ⟨source, hsource, rfl⟩
    rw [mem_utcMinutes_iff_local] at hsource
    refine ⟨(source + firstOffset + (secondOffset - firstOffset)) % minutesPerWeek -
      secondOffset, ?_, ?_⟩
    · rw [mem_utcMinutes_iff_local, Int.sub_add_cancel, h]
      exact Finset.mem_image_of_mem _ hsource
    · simp only [minutesPerWeek]
      omega

end Minutes

section Instants

variable {availability : WeeklyAvailability context.zoneInfo} {offset : Int}

/-- The minute of the reference week in which an instant lies. -/
def minuteOf (referenceWeekStart instant : Int) : Int :=
  instant / microsecondsPerMinute - referenceWeekStart * minutesPerDay

theorem localMinute_fixed (h : FixedOffset context availability.timezone offset)
    (referenceWeekStart : Int) (weekday minute : Nat) :
    localMinute context availability.timezone referenceWeekStart weekday minute =
      (referenceWeekStart * minutesPerDay +
        (((weekday : Int) - 1) * minutesPerDay + minute - offset)) * microsecondsPerMinute := by
  unfold localMinute
  dsimp only
  split
  · rename_i hmidnight
    rw [h, hmidnight]
    congr 1
    simp only [minutesPerDay]
    omega
  · rw [h]
    congr 1
    simp only [minutesPerDay]
    omega

/-- An instant is available exactly when its minute is. -/
theorem mem_availableInstants (h : FixedOffset context availability.timezone offset)
    (referenceWeekStart instant : Int) :
    instant ∈ availableInstants referenceWeekStart (some availability) ↔
      minuteOf referenceWeekStart instant ∈ utcMinutes offset availability := by
  rw [mem_utcMinutes, availableInstants, Set.mem_ofPred_eq]
  apply exists_congr
  intro slot
  apply and_congr_right
  intro _
  simp only [slotInterval, localMinute_fixed h, minuteInterval, minuteOf]
  have hpositive : (0 : Int) < microsecondsPerMinute := by decide
  rw [← Int.le_ediv_iff_mul_le hpositive, ← Int.ediv_lt_iff_lt_mul hpositive]
  constructor
  · rintro ⟨hstart, hend⟩
    exact ⟨by omega, by omega⟩
  · rintro ⟨hstart, hend⟩
    exact ⟨by omega, by omega⟩

/-- Every minute has the same number of instants. -/
theorem ncard_minutes (referenceWeekStart : Int) (minutes : Finset Int) :
    {instant | minuteOf referenceWeekStart instant ∈ minutes}.ncard = 60000000 * minutes.card := by
  have hpositive : (0 : Int) < microsecondsPerMinute := by decide
  let instants (minute : Int) : Finset Int :=
    Finset.Ico ((referenceWeekStart * minutesPerDay + minute) * microsecondsPerMinute)
      ((referenceWeekStart * minutesPerDay + minute + 1) * microsecondsPerMinute)
  have hmem : ∀ instant minute, instant ∈ instants minute ↔
      minuteOf referenceWeekStart instant = minute := by
    intro instant minute
    rw [Finset.mem_Ico, ← Int.le_ediv_iff_mul_le hpositive, ← Int.ediv_lt_iff_lt_mul hpositive]
    unfold minuteOf
    omega
  have hset : {instant | minuteOf referenceWeekStart instant ∈ minutes} =
      (minutes.biUnion instants : Set Int) := by
    ext instant
    simp [hmem]
  rw [hset, Set.ncard_coe_finset, Finset.card_biUnion]
  · have hcard : ∀ minute ∈ minutes, (instants minute).card = 60000000 := by
      intro minute _
      rw [Int.card_Ico]
      simp only [microsecondsPerMinute]
      omega
    rw [Finset.sum_const_nat hcard, mul_comm]
  · intro first _ second _ hne
    rw [Function.onFun, Finset.disjoint_left]
    intro instant hfirst hsecond
    exact hne (((hmem instant first).mp hfirst).symm.trans ((hmem instant second).mp hsecond))

variable {left right : WeeklyAvailability context.zoneInfo} {leftOffset rightOffset : Int}

/-- In fixed-offset zones the similarity is the share of the common minutes of the reference
week. -/
theorem availabilitySimilarity_fixed (hleft : FixedOffset context left.timezone leftOffset)
    (hright : FixedOffset context right.timezone rightOffset) (referenceWeekStart : Int) :
    (availabilitySimilarity context (some left) (some right) referenceWeekStart).val =
      commonShare (utcMinutes leftOffset left) (utcMinutes rightOffset right) := by
  have hexact := availabilitySimilarity_ncard context (some left) (some right)
    referenceWeekStart
  have hinter : availableInstants referenceWeekStart (some left) ∩
      availableInstants referenceWeekStart (some right) =
        {instant | minuteOf referenceWeekStart instant ∈
          utcMinutes leftOffset left ∩ utcMinutes rightOffset right} := by
    ext instant
    simp [mem_availableInstants hleft, mem_availableInstants hright]
  have hunion : availableInstants referenceWeekStart (some left) ∪
      availableInstants referenceWeekStart (some right) =
        {instant | minuteOf referenceWeekStart instant ∈
          utcMinutes leftOffset left ∪ utcMinutes rightOffset right} := by
    ext instant
    simp [mem_availableInstants hleft, mem_availableInstants hright]
  rw [hexact, hinter, hunion, ncard_minutes, ncard_minutes, commonShare]
  push_cast
  rw [mul_div_mul_left _ _ (by norm_num)]

end Instants

section Recurrence

variable {left right other : WeeklyAvailability context.zoneInfo}
  {leftOffset rightOffset otherOffset : Int}

/-- The share of the weekly minutes is that of the minutes of the reference week exactly where
no minutes are whole weeks apart. -/
theorem commonShare_weekly_iff :
    commonShare (utcMinutes leftOffset left) (utcMinutes rightOffset right) =
        commonShare (weeklyMinutes leftOffset left) (weeklyMinutes rightOffset right) ↔
      ¬WeeksApart (utcMinutes leftOffset left) (utcMinutes rightOffset right) := by
  unfold weeklyMinutes
  rw [commonShare_image_iff (utcMinutes_injOn leftOffset left)
    (utcMinutes_injOn rightOffset right)]
  unfold WeeksApart
  push Not
  rfl

theorem availabilitySimilarity_weekly_iff
    (hleft : FixedOffset context left.timezone leftOffset)
    (hright : FixedOffset context right.timezone rightOffset) (referenceWeekStart : Int) :
    (availabilitySimilarity context (some left) (some right) referenceWeekStart).val =
        commonShare (weeklyMinutes leftOffset left) (weeklyMinutes rightOffset right) ↔
      ¬WeeksApart (utcMinutes leftOffset left) (utcMinutes rightOffset right) := by
  rw [availabilitySimilarity_fixed hleft hright]
  exact commonShare_weekly_iff

theorem weekly_similarity_exact (context : ScoringContext)
    (left right : WeeklyAvailability context.zoneInfo) (leftOffset rightOffset : Int)
    (referenceWeekStart : Int) (hleft : FixedOffset context left.timezone leftOffset)
    (hright : FixedOffset context right.timezone rightOffset) :
    (availabilitySimilarity context (some left) (some right) referenceWeekStart).val =
        commonShare (utcMinutes leftOffset left) (utcMinutes rightOffset right) ∧
      (availabilitySimilarity context (some left) (some right) referenceWeekStart).val ≤
        commonShare (weeklyMinutes leftOffset left) (weeklyMinutes rightOffset right) ∧
      ((availabilitySimilarity context (some left) (some right) referenceWeekStart).val =
          commonShare (weeklyMinutes leftOffset left) (weeklyMinutes rightOffset right) ↔
        ¬WeeksApart (utcMinutes leftOffset left) (utcMinutes rightOffset right)) ∧
      ∀ (other : WeeklyAvailability context.zoneInfo) (otherOffset : Int),
        FixedOffset context other.timezone otherOffset →
        Reexpresses left other leftOffset otherOffset →
        ¬WeeksApart (utcMinutes leftOffset left) (utcMinutes rightOffset right) →
        (availabilitySimilarity context (some other) (some right) referenceWeekStart =
            availabilitySimilarity context (some left) (some right) referenceWeekStart ↔
          ¬WeeksApart (utcMinutes otherOffset other) (utcMinutes rightOffset right)) := by
  refine ⟨availabilitySimilarity_fixed hleft hright _, ?_,
    availabilitySimilarity_weekly_iff hleft hright _, ?_⟩
  · rw [availabilitySimilarity_fixed hleft hright]
    exact commonShare_le_image (utcMinutes_injOn leftOffset left)
      (utcMinutes_injOn rightOffset right)
  · intro other otherOffset hother hreexpresses hapart
    have hweekly := (availabilitySimilarity_weekly_iff hleft hright referenceWeekStart).mpr
      hapart
    rw [← weeklyMinutes_reexpressed hreexpresses] at hweekly
    rw [Subtype.ext_iff, hweekly]
    exact availabilitySimilarity_weekly_iff hother hright referenceWeekStart

end Recurrence

namespace RecurrenceWitness

/-- A database of two zones. -/
def twoZones (timezone : String) : Bool :=
  timezone == "Asia/Bangkok" || timezone == "UTC"

/-- One of them is seven hours ahead of the other. -/
def offsetOf (timezone : String) : Int :=
  if timezone = "Asia/Bangkok" then 420 else 0

def fixedZones : ScoringContext where
  unicode := ⟨id, id, fun _ => false⟩
  zoneInfo := twoZones
  toUtc timezone localMinute := (localMinute - offsetOf timezone) * microsecondsPerMinute
  publicNumber := id

def oneSlot (timezone : {timezone : String // ValidTimezone twoZones timezone})
    (slot : WeeklyAvailabilitySlot) (hpositive : slot.startMinute < slot.endMinute) :
    WeeklyAvailability fixedZones.zoneInfo where
  timezone := timezone.val
  slots := [slot]
  timezone_valid := timezone.property
  normal := ⟨List.pairwise_singleton _ _, by simpa using hpositive, rfl⟩

def bangkok : {timezone : String // ValidTimezone twoZones timezone} :=
  ⟨"Asia/Bangkok", by decide, by decide, by decide, by decide⟩

def utc : {timezone : String // ValidTimezone twoZones timezone} :=
  ⟨"UTC", by decide, by decide, by decide, by decide⟩

/-- The first hour of Monday in Bangkok. -/
def mondayNight : WeeklyAvailability fixedZones.zoneInfo :=
  oneSlot bangkok ⟨1, 0, 60, by decide, by decide, by decide, by decide⟩ (by decide)

/-- The same hour in UTC, where it is still Sunday. -/
def sundayEvening : WeeklyAvailability fixedZones.zoneInfo :=
  oneSlot utc ⟨7, 1020, 1080, by decide, by decide, by decide, by decide⟩ (by decide)

/-- The second hour of Tuesday in Bangkok. -/
def tuesdayNight : WeeklyAvailability fixedZones.zoneInfo :=
  oneSlot bangkok ⟨2, 60, 120, by decide, by decide, by decide, by decide⟩ (by decide)

theorem fixedOffset_zones (timezone : String) :
    FixedOffset fixedZones timezone (offsetOf timezone) :=
  fun _ => rfl

theorem mem_oneSlot {timezone : {timezone : String // ValidTimezone twoZones timezone}}
    {slot : WeeklyAvailabilitySlot} {hpositive : slot.startMinute < slot.endMinute}
    {offset minute : Int} :
    minute ∈ utcMinutes offset (oneSlot timezone slot hpositive) ↔
      (minuteInterval offset slot).1 ≤ minute ∧ minute < (minuteInterval offset slot).2 := by
  rw [mem_utcMinutes]
  simp [oneSlot]

theorem reexpresses_sundayEvening : Reexpresses mondayNight sundayEvening 420 0 := by
  unfold Reexpresses
  ext minute
  simp only [sundayEvening, mondayNight, mem_oneSlot, Finset.mem_image, minuteInterval,
    minutesPerDay, minutesPerWeek]
  constructor
  · rintro ⟨hstart, hend⟩
    exact ⟨minute - 9660, by omega, by omega⟩
  · rintro ⟨source, hsource, rfl⟩
    omega

/-- Two distinct weeks meet in no minute. -/
theorem mondayNight_inter_sundayEvening :
    utcMinutes 420 mondayNight ∩ utcMinutes 0 sundayEvening = ∅ := by
  ext minute
  simp only [Finset.mem_inter, Finset.notMem_empty, iff_false, sundayEvening, mondayNight,
    mem_oneSlot, minuteInterval, minutesPerDay]
  omega

theorem sundayEvening_nonempty : (utcMinutes 0 sundayEvening).Nonempty := by
  refine ⟨9660, ?_⟩
  simp only [sundayEvening, mem_oneSlot, minuteInterval, minutesPerDay]
  omega

theorem weekly_similarity_tuesdayNight :
    (availabilitySimilarity fixedZones (some mondayNight) (some tuesdayNight) 4).val =
      commonShare (weeklyMinutes 420 mondayNight) (weeklyMinutes 420 tuesdayNight) := by
  have hexact := weekly_similarity_exact fixedZones mondayNight tuesdayNight 420 420 4
    (fixedOffset_zones "Asia/Bangkok") (fixedOffset_zones "Asia/Bangkok")
  refine hexact.2.2.1.mpr ?_
  rintro ⟨first, hfirst, second, hsecond, hsame, hne⟩
  simp only [mondayNight, tuesdayNight, mem_oneSlot, minuteInterval, minutesPerDay,
    minutesPerWeek] at hfirst hsecond hsame
  omega

/-- The hour and its re-expression in UTC: the same weekly minutes, but nothing in common
before and everything in common after it is rewritten. -/
theorem similarity_depends_on_timezone :
    FixedOffset fixedZones mondayNight.timezone 420 ∧
      FixedOffset fixedZones sundayEvening.timezone 0 ∧
      Reexpresses mondayNight sundayEvening 420 0 ∧
      (availabilitySimilarity fixedZones (some mondayNight) (some sundayEvening) 4).val = 0 ∧
      (availabilitySimilarity fixedZones (some sundayEvening) (some sundayEvening) 4).val =
        1 ∧
      commonShare (weeklyMinutes 420 mondayNight) (weeklyMinutes 0 sundayEvening) = 1 := by
  have hbangkok : FixedOffset fixedZones mondayNight.timezone 420 :=
    fixedOffset_zones "Asia/Bangkok"
  have hutc : FixedOffset fixedZones sundayEvening.timezone 0 := fixedOffset_zones "UTC"
  refine ⟨hbangkok, hutc, reexpresses_sundayEvening, ?_, ?_, ?_⟩
  · rw [availabilitySimilarity_fixed hbangkok hutc, commonShare,
      mondayNight_inter_sundayEvening, Finset.card_empty, Nat.cast_zero, zero_div]
  · rw [availabilitySimilarity_fixed hutc hutc]
    exact commonShare_eq_one_iff.mpr ⟨rfl, sundayEvening_nonempty⟩
  · rw [← weeklyMinutes_reexpressed reexpresses_sundayEvening]
    exact commonShare_eq_one_iff.mpr ⟨rfl, sundayEvening_nonempty.image _⟩

end RecurrenceWitness

end BuddyWeb
