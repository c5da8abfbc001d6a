/-
The solver of the event editor finds an instant for every local time that has one.
-/
import BuddyWeb.Events.ScheduleRoundTrip

namespace BuddyWeb

namespace ZoneOffsets

variable (zone : ZoneOffsets)

/-- The local time falls into the gap which a change of the offset opens. -/
def Skips (wall : Int) : Prop :=
  ∃ change, change + zone.offset (change - 1) ≤ wall ∧ wall < change + zone.offset change

/-- Around a local time the offsets before and after the one change. -/
theorem exists_change (wall : Int) :
    ∃ change before after,
      (-2160 ≤ before ∧ before ≤ 2160) ∧ (-2160 ≤ after ∧ after ≤ 2160) ∧
      (∀ instant, wall - 2160 ≤ instant → instant < change → zone.offset instant = before) ∧
      ∀ instant, change ≤ instant → instant ≤ wall + 2160 → zone.offset instant = after := by
  obtain ⟨change, hbefore, hafter⟩ := zone.changesOnce (wall - 2160)
  refine ⟨change, _, _, zone.bounded (wall - 2160), zone.bounded (wall - 2160 + 4320),
    hbefore, ?_⟩
  intro instant hchange hend
  exact hafter instant hchange (by omega)

/-- A local time has no instant exactly when it is skipped. -/
theorem skips_iff (wall : Int) :
    zone.Skips wall ↔ ∀ instant, zone.wallTime instant ≠ wall := by
  obtain ⟨change, before, after, hbeforeBound, hafterBound, hbefore, hafter⟩ :=
    zone.exists_change wall
  constructor
  · rintro ⟨gap, hlow, hhigh⟩ instant hwall
    have hgapBefore := zone.bounded (gap - 1)
    have hgapAfter := zone.bounded gap
    have hnear := zone.near_wallTime instant
    have hinstant : instant + zone.offset instant = wall := hwall
    rw [hwall] at hnear
    -- the offset changes at the gap, which is the one change around the local time
    have hgap : gap = change := by
      by_contra hne
      rcases Int.lt_or_gt_of_ne hne with hless | hgreater
      · have hfirst := hbefore (gap - 1) (by omega) (by omega)
        have hsecond := hbefore gap (by omega) hless
        omega
      · have hfirst := hafter (gap - 1) (by omega) (by omega)
        have hsecond := hafter gap (by omega) (by omega)
        omega
    subst hgap
    by_cases hearly : instant < gap
    · have hoffset := hbefore instant hnear.1 hearly
      have hfirst := hbefore (gap - 1) (by omega) (by omega)
      omega
    · have hoffset := hafter instant (by omega) hnear.2
      have hsecond := hafter gap (by omega) (by omega)
      omega
  · intro hnone
    have hfirst : change ≤ wall - before := by
      by_contra hless
      have hoffset := hbefore (wall - before) (by omega) (by omega)
      apply hnone (wall - before)
      unfold wallTime
      omega
    have hsecond : wall - after < change := by
      by_contra hless
      have hoffset := hafter (wall - after) (by omega) (by omega)
      apply hnone (wall - after)
      unfold wallTime
      omega
    refine ⟨change, ?_, ?_⟩
    · rw [hbefore (change - 1) (by omega) (by omega)]
      omega
    · rw [hafter change (by omega) (by omega)]
      omega

/-- Three passes end at an instant with the local time, if there is one. -/
theorem wallTime_solved {instant : Int} :
    zone.wallTime (zone.solved (zone.wallTime instant)) = zone.wallTime instant := by
  obtain ⟨change, before, after, hbeforeBound, hafterBound, hbefore, hafter⟩ :=
    zone.exists_change (zone.wallTime instant)
  have hnear := zone.near_wallTime instant
  have hinstant : zone.wallTime instant = instant + zone.offset instant := rfl
  generalize zone.wallTime instant = wall at *
  have hoffset : ∀ other, wall - 2160 ≤ other → other ≤ wall + 2160 →
      zone.offset other = if other < change then before else after := by
    intro other hlow hhigh
    split
    · exact hbefore other hlow ‹_›
    · exact hafter other (by omega) hhigh
  have hself := hoffset instant hnear.1 hnear.2
  have hstart := hoffset wall (by omega) (by omega)
  -- the passes move between the two candidates and stop at one that is right
  have hfirst := hoffset (wall - before) (by omega) (by omega)
  have hsecond := hoffset (wall - after) (by omega) (by omega)
  have hpasses : zone.solved wall = wall - before ∧ wall - before < change ∨
      zone.solved wall = wall - after ∧ change ≤ wall - after := by
    unfold solved
    split at hstart <;> rw [hstart]
    · split at hfirst
      · rw [hfirst, hfirst]
        omega
      · rw [hfirst]
        split at hsecond
        · omega
        · rw [hsecond]
          omega
    · split at hsecond
      · rw [hsecond]
        split at hfirst
        · rw [hfirst]
          omega
        · omega
      · rw [hsecond, hsecond]
        omega
  unfold wallTime
  rcases hpasses with ⟨hsolved, hplace⟩ | ⟨hsolved, hplace⟩
  · rw [hsolved, hfirst, if_pos hplace]
    omega
  · rw [hsolved, hsecond, if_neg (by omega)]
    omega

end ZoneOffsets

section Solver

variable {zones : KnownZones} {zone : ZoneOffsets} {value timezone : String}
  {desired : CivilMinute}

/-- The passes of the solver for a local time. -/
def solvedInstant (zone : ZoneOffsets) (desired : CivilMinute) : Int :=
  settle zone (minuteOfCivil desired) 3 (minuteOfCivil desired)

theorem zoneParts_eq_iff (hyear : 1000 ≤ desired.year) {instant : Int} :
    zoneParts instant zone = desired ↔
      civilOfMinute (minuteOfCivil desired) = desired ∧
        zone.wallTime instant = minuteOfCivil desired := by
  constructor
  · intro hparts
    have hcivil : civilOfMinute (zone.wallTime instant) = desired := hparts
    have hlow : 100 ≤ (civilOfMinute (zone.wallTime instant)).year := by
      rw [hcivil]
      omega
    have hwall := minuteOfCivil_civilOfMinute hlow
    rw [hcivil] at hwall
    rw [hwall]
    exact ⟨hcivil, rfl⟩
  · rintro ⟨hcivil, hwall⟩
    rw [zoneParts, hwall, hcivil]

/-- A date of the calendar is read back, any other is moved. -/
theorem civilOfMinute_minuteOfCivil_eq_iff (hyear : 1000 ≤ desired.year) :
    civilOfMinute (minuteOfCivil desired) = desired ↔
      ∃ minute, civilOfMinute minute = desired := by
  constructor
  · intro hcivil
    exact ⟨_, hcivil⟩
  · rintro ⟨minute, hcivil⟩
    have hlow : 100 ≤ (civilOfMinute minute).year := by
      rw [hcivil]
      omega
    have hminute := minuteOfCivil_civilOfMinute hlow
    rw [hcivil] at hminute
    rw [hminute, hcivil]

theorem zoneParts_solvedInstant (hyear : 1000 ≤ desired.year) {instant : Int}
    (hinstant : zoneParts instant zone = desired) :
    zoneParts (solvedInstant zone desired) zone = desired := by
  obtain ⟨hcivil, hwall⟩ := (zoneParts_eq_iff hyear).mp hinstant
  apply (zoneParts_eq_iff hyear).mpr
  refine ⟨hcivil, ?_⟩
  rw [solvedInstant, settle_eq_solved (by rwa [hcivil]), ← hwall, zone.wallTime_solved]

theorem zonedLocalToIso_of_known (hzone : zones timezone = some zone)
    (hform : localParts value.toList = some desired) :
    zonedLocalToIso zones value timezone =
      if zoneParts (solvedInstant zone desired) zone = desired then
        some (solvedInstant zone desired)
      else none := by
  unfold zonedLocalToIso
  split
  · rename_i read known hread hknown
    have hdesired : read = desired := Option.some.inj (hread.symm.trans hform)
    have hsame : known = zone := Option.some.inj (hknown.symm.trans hzone)
    rw [hdesired, hsame, solvedInstant]
  · rename_i hnone
    exact absurd hzone (hnone desired zone hform)

/-- No instant shows an impossible date or a skipped local time, and every other local time is
shown by some instant. -/
theorem not_exists_zoneParts_iff (hyear : 1000 ≤ desired.year) :
    (∀ instant, zoneParts instant zone ≠ desired) ↔
      (∀ minute, civilOfMinute minute ≠ desired) ∨ zone.Skips (minuteOfCivil desired) := by
  rw [zone.skips_iff]
  constructor
  · intro hnone
    by_cases hcivil : ∃ minute, civilOfMinute minute = desired
    · right
      intro instant hwall
      exact hnone instant ((zoneParts_eq_iff hyear).mpr
        ⟨(civilOfMinute_minuteOfCivil_eq_iff hyear).mpr hcivil, hwall⟩)
    · left
      intro minute hminute
      exact hcivil ⟨minute, hminute⟩
  · intro hnone instant hparts
    obtain ⟨hcivil, hwall⟩ := (zoneParts_eq_iff hyear).mp hparts
    rcases hnone with himpossible | hskipped
    · exact himpossible _ hcivil
    · exact hskipped instant hwall

/-- The three passes end at an instant with the given local time whenever there is one, and
the result is null exactly when there is none: the time is skipped or the date impossible. -/
theorem zonedLocalToIso_exact (hzone : zones timezone = some zone)
    (hform : localParts value.toList = some desired)
    (hyear : 1000 ≤ desired.year ∧ desired.year ≤ 9999) :
    ((∃ instant, zoneParts instant zone = desired) →
      zoneParts (solvedInstant zone desired) zone = desired ∧
        zonedLocalToIso zones value timezone = some (solvedInstant zone desired)) ∧
    (zonedLocalToIso zones value timezone = none ↔
      ∀ instant, zoneParts instant zone ≠ desired) ∧
    (zonedLocalToIso zones value timezone = none ↔
      (∀ minute, civilOfMinute minute ≠ desired) ∨ zone.Skips (minuteOfCivil desired)) := by
  have hresult := zonedLocalToIso_of_known hzone hform
  have hnone : zonedLocalToIso zones value timezone = none ↔
      ∀ instant, zoneParts instant zone ≠ desired := by
    constructor
    · intro hnone instant hinstant
      rw [hresult, if_pos (zoneParts_solvedInstant hyear.1 hinstant)] at hnone
      cases hnone
    · intro hall
      rw [hresult, if_neg (hall _)]
  refine ⟨?_, hnone, ?_⟩
  · rintro ⟨instant, hinstant⟩
    have hsolved := zoneParts_solvedInstant hyear.1 hinstant
    rw [hresult, if_pos hsolved]
    exact ⟨hsolved, rfl⟩
  · rw [hnone]
    exact not_exists_zoneParts_iff hyear.1

/-- The repeated 02:30 is solved as the second of its two instants. -/
theorem zonedLocalToIso_exact_repeatedHour :
    zonedLocalToIso StoredEvent.berlinZones "2026-10-25T02:30" "Europe/Berlin" =
      some 29881530 := by
  have hzone : StoredEvent.berlinZones "Europe/Berlin" = some StoredEvent.berlinAutumn :=
    if_pos rfl
  have hform : localParts "2026-10-25T02:30".toList = some ⟨2026, 10, 25, 2, 30⟩ := by
    decide +kernel
  have hinstant : zoneParts 29881470 StoredEvent.berlinAutumn = ⟨2026, 10, 25, 2, 30⟩ := by
    decide +kernel
  have hsolved : solvedInstant StoredEvent.berlinAutumn ⟨2026, 10, 25, 2, 30⟩ = 29881530 := by
    decide +kernel
  have hexact := (zonedLocalToIso_exact hzone hform (by decide)).1 ⟨_, hinstant⟩
  rw [hexact.2, hsolved]

end Solver

end BuddyWeb
