/-
Exactly which schedules survive an edit that does not touch them.
-/
import BuddyWeb.Events.ScheduleForm

namespace BuddyWeb

section Texts

theorem exists_four {α : Type} {entries : List α} (h : entries.length = 4) :
    ∃ a b c d, entries = [a, b, c, d] := by
  match entries, h with
  | [a, b, c, d], _ => exact ⟨a, b, c, d, rfl⟩

/-- The text of a year of four digits. -/
theorem intText_year {year : Int} (h : 1000 ≤ year ∧ year ≤ 9999) :
    ∃ a b c d, intText year = [a, b, c, d] ∧
      (∀ char ∈ [a, b, c, d], char.isDigit = true) ∧ digitsValue [a, b, c, d] = year := by
  have htext : intText year = Nat.toDigits 10 year.natAbs := if_neg (by omega)
  have hatMost : (Nat.toDigits 10 year.natAbs).length ≤ 4 :=
    (Nat.length_toDigits_le_iff (by decide) (by decide)).mpr (by omega)
  have hmore : ¬ (Nat.toDigits 10 year.natAbs).length ≤ 3 := by
    rw [Nat.length_toDigits_le_iff (by decide) (by decide)]
    omega
  obtain ⟨a, b, c, d, hdigits⟩ := exists_four (Nat.le_antisymm hatMost (Nat.lt_of_not_le hmore))
  refine ⟨a, b, c, d, htext.trans hdigits, ?_, ?_⟩
  · intro char hchar
    rw [← hdigits] at hchar
    exact Nat.isDigit_of_mem_toDigits (by decide) (by decide) hchar
  · rw [digitsValue, ← hdigits, Nat.ofDigitChars_ten_toDigits]
    omega

/-- The text of any other year is longer or shorter. -/
theorem intText_length_ne {year : Int} (hlow : 100 ≤ year)
    (h : ¬ (1000 ≤ year ∧ year ≤ 9999)) : (intText year).length ≠ 4 := by
  have htext : intText year = Nat.toDigits 10 year.natAbs := if_neg (by omega)
  rw [htext]
  intro hlength
  by_cases hshort : year < 1000
  · have hthree := (@Nat.length_toDigits_le_iff 10 year.natAbs 3 (by decide) (by decide)).mpr
      (by omega)
    omega
  · have hfour := (@Nat.length_toDigits_le_iff 10 year.natAbs 4 (by decide) (by decide)).mp
      (by omega)
    omega

def isTwoDigits (part : Nat) : Bool :=
  match padTwo part with
  | [first, second] =>
      first.isDigit && second.isDigit && digitsValue [first, second] == part
  | _ => false

theorem isTwoDigits_below_hundred : (List.range 100).all isTwoDigits = true := by
  decide +kernel

theorem padTwo_digits {part : Int} (h : 0 ≤ part ∧ part ≤ 99) :
    ∃ first second, padTwo part = [first, second] ∧ first.isDigit = true ∧
      second.isDigit = true ∧ digitsValue [first, second] = part := by
  have hnat : (part.toNat : Int) = part := Int.toNat_of_nonneg h.1
  have hdigits := List.all_eq_true.mp isTwoDigits_below_hundred part.toNat
    (List.mem_range.mpr (by omega))
  rw [isTwoDigits, hnat] at hdigits
  split at hdigits
  · rename_i first second hpad
    simp only [Bool.and_eq_true, beq_iff_eq] at hdigits
    exact ⟨first, second, hpad, hdigits.1.1, hdigits.1.2, hdigits.2⟩
  · cases hdigits

theorem localParts_of_length {chars : List Char} (h : chars.length ≠ 16) :
    localParts chars = none := by
  unfold localParts
  split
  · exact absurd rfl h
  · rfl

/-- A local time is read back when its year has four digits, and refused otherwise. -/
theorem localParts_localText {parts : CivilMinute} (hrange : parts.InRange)
    (hlow : 100 ≤ parts.year) :
    localParts (localText parts) =
      if 1000 ≤ parts.year ∧ parts.year ≤ 9999 then some parts else none := by
  obtain ⟨hmonthRange, hdayRange, hhourRange, hminuteRange⟩ := hrange
  have hmonthDigits : 0 ≤ parts.month ∧ parts.month ≤ 99 := by omega
  have hdayDigits : 0 ≤ parts.day ∧ parts.day ≤ 99 := by omega
  have hhourDigits : 0 ≤ parts.hour ∧ parts.hour ≤ 99 := by omega
  have hminuteDigits : 0 ≤ parts.minute ∧ parts.minute ≤ 99 := by omega
  obtain ⟨m₁, m₂, hmonth, hm₁, hm₂, hmonthValue⟩ := padTwo_digits hmonthDigits
  obtain ⟨d₁, d₂, hday, hd₁, hd₂, hdayValue⟩ := padTwo_digits hdayDigits
  obtain ⟨h₁, h₂, hhour, hh₁, hh₂, hhourValue⟩ := padTwo_digits hhourDigits
  obtain ⟨n₁, n₂, hminute, hn₁, hn₂, hminuteValue⟩ := padTwo_digits hminuteDigits
  by_cases hyears : 1000 ≤ parts.year ∧ parts.year ≤ 9999
  · obtain ⟨y₁, y₂, y₃, y₄, hyear, hdigits, hyearValue⟩ := intText_year hyears
    rw [if_pos hyears, localText, hyear, hmonth, hday, hhour, hminute]
    simp only [List.forall_mem_cons] at hdigits
    simp [localParts, hdigits, hm₁, hm₂, hd₁, hd₂, hh₁, hh₂, hn₁, hn₂, hyearValue,
      hmonthValue, hdayValue, hhourValue, hminuteValue]
  · rw [if_neg hyears]
    apply localParts_of_length
    have hlength := intText_length_ne hlow hyears
    rw [localText, hmonth, hday, hhour, hminute]
    simp
    omega

end Texts

namespace ZoneOffsets

variable (zone : ZoneOffsets)

/-- Around an instant the zone has two offsets at most. -/
theorem exists_two_offsets (center : Int) :
    ∃ first second, ∀ instant, center - 2160 ≤ instant → instant ≤ center + 2160 →
      zone.offset instant = first ∨ zone.offset instant = second := by
  obtain ⟨change, hbefore, hafter⟩ := zone.changesOnce (center - 2160)
  refine ⟨zone.offset (center - 2160), zone.offset (center - 2160 + 4320), ?_⟩
  intro instant hlow hhigh
  by_cases hearly : instant < change
  · exact Or.inl (hbefore instant hlow hearly)
  · exact Or.inr (hafter instant (by omega) (by omega))

/-- What three passes make of a local time. -/
def solved (wall : Int) : Int :=
  wall - zone.offset (wall - zone.offset (wall - zone.offset wall))

/-- The offset read at the local time is that of the instant, or no other instant has this
local time. -/
def ReadBack (instant : Int) : Prop :=
  zone.offset (zone.wallTime instant) = zone.offset instant ∨
    ∀ other, zone.wallTime other = zone.wallTime instant → other = instant

/-- Near a local time a third offset does not occur. -/
theorem offset_eq_of_ne {center first second third : Int}
    (hfirst : center - 2160 ≤ first ∧ first ≤ center + 2160)
    (hsecond : center - 2160 ≤ second ∧ second ≤ center + 2160)
    (hthird : center - 2160 ≤ third ∧ third ≤ center + 2160)
    (hne : zone.offset first ≠ zone.offset second)
    (hother : zone.offset third ≠ zone.offset first) :
    zone.offset third = zone.offset second := by
  obtain ⟨one, two, htwo⟩ := zone.exists_two_offsets center
  have hfirstValue := htwo first hfirst.1 hfirst.2
  have hsecondValue := htwo second hsecond.1 hsecond.2
  have hthirdValue := htwo third hthird.1 hthird.2
  omega

/-- An instant is near its local time. -/
theorem near_wallTime (instant : Int) :
    zone.wallTime instant - 2160 ≤ instant ∧ instant ≤ zone.wallTime instant + 2160 := by
  have hbounded := zone.bounded instant
  unfold wallTime
  omega

theorem near_back (center instant : Int) :
    center - 2160 ≤ center - zone.offset instant ∧
      center - zone.offset instant ≤ center + 2160 := by
  have hbounded := zone.bounded instant
  omega

theorem solved_eq_iff (instant : Int) :
    zone.solved (zone.wallTime instant) = instant ↔ zone.ReadBack instant := by
  have hwall : zone.wallTime instant = instant + zone.offset instant := rfl
  have hnear := zone.near_wallTime instant
  have hcenter : zone.wallTime instant - 2160 ≤ zone.wallTime instant ∧
      zone.wallTime instant ≤ zone.wallTime instant + 2160 := by omega
  constructor
  · intro hsolved
    by_contra hnot
    simp only [ReadBack, not_or, not_forall] at hnot
    obtain ⟨hread, other, hother, hne⟩ := hnot
    have hotherWall : zone.wallTime other = other + zone.offset other := rfl
    have hotherNear := zone.near_wallTime other
    rw [hother] at hotherNear
    -- the other instant has the offset which is read at the local time
    have hoffset : zone.offset other = zone.offset (zone.wallTime instant) :=
      zone.offset_eq_of_ne hnear hcenter hotherNear (Ne.symm hread) (by omega)
    have hfirst : zone.wallTime instant - zone.offset (zone.wallTime instant) = other := by
      omega
    have hsecond : zone.wallTime instant - zone.offset other = other := by omega
    rw [solved, hfirst, hsecond, hsecond] at hsolved
    exact hne hsolved
  · intro hback
    have hself : zone.wallTime instant - zone.offset instant = instant := by omega
    by_cases hread : zone.offset (zone.wallTime instant) = zone.offset instant
    · rw [solved, hread, hself, hself, hself]
    · have hunique := hback.resolve_left hread
      have hpassNear := zone.near_back (zone.wallTime instant) (zone.wallTime instant)
      -- the first pass lands where the offset of the instant is read
      have hpass : zone.offset (zone.wallTime instant - zone.offset (zone.wallTime instant)) =
          zone.offset instant := by
        apply zone.offset_eq_of_ne hcenter hnear hpassNear hread
        intro hsame
        have hpassWall : zone.wallTime
            (zone.wallTime instant - zone.offset (zone.wallTime instant)) =
              zone.wallTime instant := by
          unfold wallTime at hsame ⊢
          omega
        have hequal := hunique _ hpassWall
        omega
      rw [solved, hpass, hself]
      omega

end ZoneOffsets

section Passes

variable {zone : ZoneOffsets}

/-- One pass moves a timestamp to where its own offset leads. -/
theorem settle_pass {wall timestamp : Int} (hyear : 1000 ≤ (civilOfMinute wall).year)
    (hnear : wall - 2160 ≤ timestamp) :
    timestamp + (wall - minuteOfCivil (zoneParts timestamp zone)) =
      wall - zone.offset timestamp := by
  have hbounded := zone.bounded timestamp
  have hlow : wall - 14400 ≤ zone.wallTime timestamp := by
    unfold ZoneOffsets.wallTime
    omega
  rw [zoneParts, minuteOfCivil_civilOfMinute (le_year_of_near hyear hlow),
    ZoneOffsets.wallTime]
  omega

theorem settle_eq_solved {wall : Int} (hyear : 1000 ≤ (civilOfMinute wall).year) :
    settle zone wall 3 wall = zone.solved wall := by
  rw [settle, settle_pass hyear (by omega), settle,
    settle_pass hyear (zone.near_back wall _).1, settle,
    settle_pass hyear (zone.near_back wall _).1, settle, ZoneOffsets.solved]

variable {zones : KnownZones} {timezone : String}

/-- The local time has a year of four digits and leads back to the instant. -/
structure ZoneOffsets.Recovers (zone : ZoneOffsets) (instant : Int) : Prop where
  year : 1000 ≤ (zoneParts instant zone).year ∧ (zoneParts instant zone).year ≤ 9999
  readBack : zone.ReadBack instant

theorem localText_ne_nil (parts : CivilMinute) : String.ofList (localText parts) ≠ "" := by
  intro hempty
  have hchars := congrArg String.toList hempty
  simp [localText] at hchars

theorem isoToZonedLocal_of_known (hzone : zones timezone = some zone) (instant : Int) :
    isoToZonedLocal zones (some instant) timezone =
      String.ofList (localText (zoneParts instant zone)) := by
  unfold isoToZonedLocal
  split
  · rename_i _ _ known hinstant hknown
    cases hinstant
    have hsame : known = zone := Option.some.inj (hknown.symm.trans hzone)
    rw [hsame]
  · rename_i hnone
    exact absurd hzone (hnone instant zone rfl)

theorem submittedInstant_of_shown (hzone : zones timezone = some zone)
    (htrim : jsTrim timezone = timezone) {instant : Int}
    (hlow : 100 ≤ (zoneParts instant zone).year) :
    submittedInstant zones (isoToZonedLocal zones (some instant) timezone) timezone =
        some instant ↔ zone.Recovers instant := by
  have hshown := isoToZonedLocal_of_known hzone instant
  have hrange : (zoneParts instant zone).InRange := civilOfMinute_inRange _
  have hread := localParts_localText hrange hlow
  rw [submittedInstant, hshown, if_neg (localText_ne_nil _), htrim, zonedLocalToIso,
    String.toList_ofList, hzone]
  by_cases hyears : 1000 ≤ (zoneParts instant zone).year ∧ (zoneParts instant zone).year ≤ 9999
  · have hparts : localParts (localText (zoneParts instant zone)) =
        some (zoneParts instant zone) := by
      rw [hread, if_pos hyears]
    have hminute : minuteOfCivil (zoneParts instant zone) = zone.wallTime instant :=
      minuteOfCivil_civilOfMinute hlow
    simp only [hparts, hminute, settle_eq_solved hyears.1]
    constructor
    · intro hsolved
      split at hsolved
      · exact ⟨hyears, (zone.solved_eq_iff instant).mp (Option.some.inj hsolved)⟩
      · cases hsolved
    · intro hrecovers
      rw [(zone.solved_eq_iff instant).mpr hrecovers.readBack, if_pos rfl]
  · have hparts : localParts (localText (zoneParts instant zone)) = none := by
      rw [hread, if_neg hyears]
    simp only [hparts]
    constructor
    · intro hnone
      cases hnone
    · intro hrecovers
      exact absurd hrecovers.year hyears

end Passes

namespace StoredEvent

variable {zones : KnownZones} (event : StoredEvent zones)

/-- What the edit page submits when nobody touched the form. -/
def resubmitted : EventDraftPayload :=
  eventFormPayload zones (eventToFormValues zones event.toAdminEvent)

/-- The submitted schedule is the stored one. -/
structure KeepsSchedule : Prop where
  startDate : event.resubmitted.startDate = event.startDate
  endDate : event.resubmitted.endDate = event.endDate
  registrationDeadline : event.resubmitted.registrationDeadline = event.registrationDeadline

theorem jsTrim_timezone : jsTrim event.timezone = event.timezone := by
  have hself : trimEnds isJsSpace event.timezone.toList = event.timezone.toList := by
    rw [trimEnds_eq_self_iff]
    constructor
    · intro hne
      simp [event.timezone_plain _ (List.head_mem hne)]
    · intro hne
      simp [event.timezone_plain _ (List.getLast_mem hne)]
  rw [jsTrim, hself, String.ofList_toList]

/-- One field of the schedule is kept exactly when its instant, if any, is recovered. -/
theorem submittedInstant_eq_iff {stored : Option Int}
    (hyears : ∀ instant, stored = some instant → 1000 ≤ (civilOfMinute instant).year) :
    submittedInstant zones (isoToZonedLocal zones stored event.timezone) event.timezone =
        stored ↔ ∀ instant, stored = some instant → event.zone.Recovers instant := by
  cases stored with
  | none =>
    have hshown : isoToZonedLocal zones none event.timezone = "" := rfl
    have hnone : submittedInstant zones "" event.timezone = none := if_pos rfl
    rw [hshown, hnone]
    simp
  | some instant =>
    have hbounded := event.zone.bounded instant
    have hlow : 100 ≤ (zoneParts instant event.zone).year := by
      apply le_year_of_near (hyears instant rfl)
      unfold ZoneOffsets.wallTime
      omega
    rw [submittedInstant_of_shown event.zone_known event.jsTrim_timezone hlow]
    constructor
    · intro hrecovers other hother
      cases hother
      exact hrecovers
    · intro hrecovers
      exact hrecovers instant rfl

/-- An untouched form keeps the schedule exactly when each instant of it has a local year of
four digits, and either the offset at its local time is its own or its local time is not
repeated. -/
theorem keepsSchedule_iff (zones : KnownZones) (event : StoredEvent zones) :
    event.KeepsSchedule ↔ ∀ instant, (event.startDate = some instant ∨
      event.endDate = some instant ∨ event.registrationDeadline = some instant) →
        event.zone.Recovers instant := by
  have hstart := event.submittedInstant_eq_iff fun instant hinstant =>
    (event.years instant (Or.inl hinstant)).1
  have hend := event.submittedInstant_eq_iff fun instant hinstant =>
    (event.years instant (Or.inr (Or.inl hinstant))).1
  have hdeadline := event.submittedInstant_eq_iff fun instant hinstant =>
    (event.years instant (Or.inr (Or.inr hinstant))).1
  constructor
  · intro hkeeps instant hscheduled
    rcases hscheduled with hinstant | hinstant | hinstant
    · exact hstart.mp hkeeps.startDate instant hinstant
    · exact hend.mp hkeeps.endDate instant hinstant
    · exact hdeadline.mp hkeeps.registrationDeadline instant hinstant
  · intro hrecovers
    constructor
    · exact hstart.mpr fun instant hinstant => hrecovers instant (Or.inl hinstant)
    · exact hend.mpr fun instant hinstant => hrecovers instant (Or.inr (Or.inl hinstant))
    · exact hdeadline.mpr fun instant hinstant =>
        hrecovers instant (Or.inr (Or.inr hinstant))

section RepeatedHour

/-- Central Europe around the end of summer time on 25 October 2026 at 01:00 UTC. -/
def berlinAutumn : ZoneOffsets where
  offset instant := if instant < 29881500 then 120 else 60
  bounded := by
    intro instant
    split <;> omega
  changesOnce := by
    intro start
    refine ⟨29881500, ?_, ?_⟩
    · intro instant hstart hbefore
      rw [if_pos hbefore, if_pos (by omega)]
    · intro instant hchange hend
      rw [if_neg (by omega), if_neg (by omega)]

def berlinZones : KnownZones :=
  fun name => if name = "Europe/Berlin" then some berlinAutumn else none

/-- It starts at the first of the two times 02:30. -/
def repeatedHourEvent : StoredEvent berlinZones where
  titleEn := some "Autumn night"
  titleDe := some "Herbstnacht"
  descriptionEn := none
  descriptionDe := none
  startDate := some 29881470
  endDate := none
  timezone := "Europe/Berlin"
  locationEn := none
  locationDe := none
  category := none
  organizer := none
  registrationUrl := none
  registrationEnabled := false
  maxParticipants := none
  registrationDeadline := none
  zone := berlinAutumn
  zone_known := if_pos rfl
  timezone_plain := by
    have hplain : "Europe/Berlin".toList.all (fun char => !isJsSpace char) = true := by
      decide +kernel
    intro char hchar
    simpa using List.all_eq_true.mp hplain char hchar
  years := by
    have hyear : (civilOfMinute 29881470).year = 2026 := by decide +kernel
    rintro instant (hinstant | hinstant | hinstant)
    · cases hinstant
      omega
    · cases hinstant
    · cases hinstant

/-- An event at the first of two equal local times is moved to the second. -/
theorem not_keepsSchedule_repeatedHour : ¬ repeatedHourEvent.KeepsSchedule := by
  intro hkeeps
  have hmoved : repeatedHourEvent.resubmitted.startDate = some 29881530 := by
    decide +kernel
  have hstart := hkeeps.startDate
  rw [hmoved] at hstart
  exact absurd hstart (by decide)

end RepeatedHour

end StoredEvent

end BuddyWeb
