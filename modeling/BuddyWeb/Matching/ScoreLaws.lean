/-
The laws of the score of an eligible pair: its value and bounds, its symmetry, and what it
does not depend on.
-/
import Mathlib.Algebra.Order.Floor.Ring
import Mathlib.Data.Rat.Floor
import BuddyWeb.Matching.AvailabilitySimilarity
import BuddyWeb.Matching.ScoreAgreement

namespace BuddyWeb

section Slots

variable (context : ScoringContext)

/-- The merged intervals of a list of slots, in whatever order and however often each
occurs. -/
def mergedSlots (timezone : String) (referenceWeekStart : Int)
    (slots : List WeeklyAvailabilitySlot) : List (Int × Int) :=
  mergeIntervals (((slots.map (slotInterval context timezone referenceWeekStart)).filter
    fun interval => interval.1 < interval.2).insertionSort
      fun first second => intervalBefore first second)

theorem mergedUtcIntervals_some (referenceWeekStart : Int)
    (availability : WeeklyAvailability context.zoneInfo) :
    mergedUtcIntervals context referenceWeekStart (some availability) =
      mergedSlots context availability.timezone referenceWeekStart availability.slots :=
  rfl

variable {context} {timezone : String} {referenceWeekStart : Int}
  {first second : List WeeklyAvailabilitySlot}

theorem mergedSlots_positive (timezone : String) (referenceWeekStart : Int)
    (slots : List WeeklyAvailabilitySlot) :
    ∀ interval ∈ ((slots.map (slotInterval context timezone referenceWeekStart)).filter
      fun interval => interval.1 < interval.2).insertionSort
        fun first second => intervalBefore first second, interval.1 < interval.2 := by
  intro interval hinterval
  rw [List.mem_insertionSort, List.mem_filter] at hinterval
  simpa using hinterval.2

/-- The merged intervals depend on the set of the slots only. -/
theorem mergedSlots_congr (h : ∀ slot, slot ∈ first ↔ slot ∈ second) :
    mergedSlots context timezone referenceWeekStart first =
      mergedSlots context timezone referenceWeekStart second := by
  apply Separated.eq_of_covered_eq
  · exact mergeIntervals_separated (mergedSlots_positive _ _ _)
  · exact mergeIntervals_separated (mergedSlots_positive _ _ _)
  · rw [mergedSlots, covered_mergeIntervals (mergedSlots_positive _ _ _) (sorted_starts _),
      mergedSlots, covered_mergeIntervals (mergedSlots_positive _ _ _) (sorted_starts _)]
    ext instant
    simp only [mem_covered, List.mem_insertionSort, List.mem_filter, List.mem_map, h]

end Slots

variable {context : ScoringContext}

/-- Availabilities with the same slots in the same timezone. -/
def SameSlots : Option (WeeklyAvailability context.zoneInfo) →
    Option (WeeklyAvailability context.zoneInfo) → Prop
  | none, none => True
  | some first, some second =>
      first.timezone = second.timezone ∧ ∀ slot, slot ∈ first.slots ↔ slot ∈ second.slots
  | _, _ => False

/-- Profiles of one student whose lists have the same entries, in any order and any
number. -/
structure Rearranged (first second : SafeMatchingProfile context.zoneInfo) : Prop where
  id : first.id = second.id
  studentType : first.studentType = second.studentType
  major : first.major = second.major
  interests : ∀ value, value ∈ first.preferences.interests ↔
    value ∈ second.preferences.interests
  languages : ∀ value, value ∈ first.preferences.languages ↔
    value ∈ second.preferences.languages
  activities : ∀ value, value ∈ first.preferences.activities ↔
    value ∈ second.preferences.activities
  availability : SameSlots first.preferences.availability second.preferences.availability

section Rearranged

theorem toFinset_filterMap_congr {α β : Type} [DecidableEq β] {first second : List α}
    {f : α → Option β} (h : ∀ value, value ∈ first ↔ value ∈ second) :
    (first.filterMap f).toFinset = (second.filterMap f).toFinset := by
  ext result
  simp only [List.mem_toFinset, List.mem_filterMap, h]

theorem SameSlots.merged {first second : Option (WeeklyAvailability context.zoneInfo)}
    (h : SameSlots first second) (referenceWeekStart : Int) :
    mergedUtcIntervals context referenceWeekStart first =
      mergedUtcIntervals context referenceWeekStart second := by
  cases first with
  | none =>
      cases second with
      | none => rfl
      | some second => exact h.elim
  | some first =>
      cases second with
      | none => exact h.elim
      | some second =>
          rw [mergedUtcIntervals_some, mergedUtcIntervals_some, h.1]
          exact mergedSlots_congr h.2

theorem availabilitySimilarity_congr
    {left right left' right' : Option (WeeklyAvailability context.zoneInfo)}
    (hleft : SameSlots left left') (hright : SameSlots right right')
    (referenceWeekStart : Int) :
    availabilitySimilarity context left right referenceWeekStart =
      availabilitySimilarity context left' right' referenceWeekStart := by
  have hmergedLeft := hleft.merged referenceWeekStart
  have hmergedRight := hright.merged referenceWeekStart
  simp only [availabilitySimilarity, hmergedLeft, hmergedRight]

theorem pairSimilarities_rearranged
    {current candidate current' candidate' : SafeMatchingProfile context.zoneInfo}
    (hcurrent : Rearranged current current') (hcandidate : Rearranged candidate candidate')
    (referenceWeekStart : Int) :
    pairSimilarities current candidate referenceWeekStart =
      pairSimilarities current' candidate' referenceWeekStart := by
  simp only [pairSimilarities, preferenceIdentities, languageIdentities,
    toFinset_filterMap_congr hcurrent.interests, toFinset_filterMap_congr hcandidate.interests,
    toFinset_filterMap_congr hcurrent.activities,
    toFinset_filterMap_congr hcandidate.activities,
    toFinset_filterMap_congr hcurrent.languages, toFinset_filterMap_congr hcandidate.languages,
    hcurrent.major, hcandidate.major,
    availabilitySimilarity_congr hcurrent.availability hcandidate.availability]

end Rearranged

/-- Rounding half up adds a half and rounds down. -/
theorem roundHalfUp_eq_floor (value : ℚ) : roundHalfUp value = ⌊value + 1 / 2⌋ := by
  have hden : (0 : Int) < value.den := Int.natCast_pos.mpr value.den_pos
  have hdenRat : (0 : ℚ) < value.den := by exact_mod_cast hden
  have hsplit := Int.mul_ediv_add_emod value.num value.den
  have hremainder := Int.emod_nonneg value.num hden.ne'
  have hless := Int.emod_lt_of_pos value.num hden
  have hvalue : value * value.den = value.num := Rat.mul_den_eq_num value
  symm
  rw [Int.floor_eq_iff]
  have hwhole : (value.den : ℚ) * (value.num / value.den : Int) +
      (value.num % value.den : Int) = value.num := by
    exact_mod_cast hsplit
  unfold roundHalfUp
  dsimp only
  split
  · rename_i hhalf
    have hhalfRat : (value.den : ℚ) ≤ (value.num % value.den : Int) * 2 := by
      exact_mod_cast hhalf
    have hlessRat : ((value.num % value.den : Int) : ℚ) < value.den := by exact_mod_cast hless
    push_cast
    constructor
    · nlinarith
    · nlinarith
  · rename_i hhalf
    have hhalfRat : ((value.num % value.den : Int) : ℚ) * 2 < value.den := by
      exact_mod_cast not_le.mp hhalf
    have hremainderRat : (0 : ℚ) ≤ (value.num % value.den : Int) := by
      exact_mod_cast hremainder
    push_cast
    constructor
    · nlinarith
    · nlinarith

/-- The exact score is the weighted sum of the five similarities. -/
theorem PairSimilarities.points_eq (similarities : PairSimilarities) :
    similarities.breakdown.points =
      similarities.interests.val * 40 + similarities.activities.val * 35 +
        similarities.availability.val * 15 + similarities.languages.val * 5 +
          similarities.major.val * 5 :=
  rfl

section Pair

variable {current candidate : EligibleMatchingPrincipal}
  {currentProfile candidateProfile : SafeMatchingProfile context.zoneInfo}
  {referenceWeekStart : Int}

theorem scoreEligiblePair_eligible (hmonday : isMonday referenceWeekStart = true)
    (heligible : requireEligibleSafePair current candidate currentProfile candidateProfile =
      .ok ()) :
    scoreEligiblePair current candidate currentProfile candidateProfile referenceWeekStart =
      .ok (compatibilityScore (pairSimilarities currentProfile candidateProfile
        referenceWeekStart) referenceWeekStart hmonday) := by
  rw [scoreEligiblePair, dif_pos hmonday, heligible]
  rfl

theorem requireEligibleSafePair_comm :
    requireEligibleSafePair candidate current candidateProfile currentProfile =
      requireEligibleSafePair current candidate currentProfile candidateProfile := by
  simp only [requireEligibleSafePair, matchingPairIsEligible_comm candidate current]
  congr 1
  rw [eq_iff_iff]
  tauto

/-- The check of a pair reads nothing but identities and types. -/
theorem requireEligibleSafePair_congr
    {currentProfile' candidateProfile' : SafeMatchingProfile context.zoneInfo}
    (hcurrent : currentProfile.id = currentProfile'.id ∧
      currentProfile.studentType = currentProfile'.studentType)
    (hcandidate : candidateProfile.id = candidateProfile'.id ∧
      candidateProfile.studentType = candidateProfile'.studentType) :
    requireEligibleSafePair current candidate currentProfile' candidateProfile' =
      requireEligibleSafePair current candidate currentProfile candidateProfile := by
  rw [requireEligibleSafePair, requireEligibleSafePair, hcurrent.1, hcurrent.2, hcandidate.1,
    hcandidate.2]

end Pair

/-- The five similarities of a breakdown in terms of what the two profiles select. -/
structure ComparesProfiles (current candidate : SafeMatchingProfile context.zoneInfo)
    (referenceWeekStart : Int) (breakdown : CompatibilityBreakdown) : Prop where
  interests : breakdown.interests.similarity.val =
    commonShare (preferenceIdentities context current.preferences.interests)
      (preferenceIdentities context candidate.preferences.interests)
  activities : breakdown.activities.similarity.val =
    commonShare (preferenceIdentities context current.preferences.activities)
      (preferenceIdentities context candidate.preferences.activities)
  availability : breakdown.availability.similarity.val =
    ((availableInstants referenceWeekStart current.preferences.availability ∩
        availableInstants referenceWeekStart candidate.preferences.availability).ncard : ℚ) /
      (availableInstants referenceWeekStart current.preferences.availability ∪
        availableInstants referenceWeekStart candidate.preferences.availability).ncard
  languages : breakdown.languages.similarity.val =
    if languageIdentities context current.preferences.languages ∩
      languageIdentities context candidate.preferences.languages = ∅ then 0 else 1
  major : breakdown.major.similarity.val =
    if ∃ key ∈ normalizedMajor context current.major,
      key ∈ normalizedMajor context candidate.major then 1 else 0

section Similarities

variable {κ : Type} [DecidableEq κ]

theorem jaccard_val (left right : Finset κ) :
    (jaccard left right).val = commonShare left right := by
  unfold jaccard commonShare
  split
  · rename_i hempty
    simp [hempty, noSimilarity]
  · rfl

theorem exactOverlap_val (left right : Finset κ) :
    (exactOverlap left right).val = if left ∩ right = ∅ then 0 else 1 := by
  unfold exactOverlap
  by_cases hempty : left ∩ right = ∅
  · rw [if_pos hempty, if_neg (Finset.not_nonempty_iff_eq_empty.mpr hempty)]
    rfl
  · rw [if_neg hempty, if_pos (Finset.nonempty_iff_ne_empty.mpr hempty)]
    rfl

theorem majorSimilarity_val (left right : Option String) :
    (majorSimilarity context left right).val =
      if ∃ key ∈ normalizedMajor context left, key ∈ normalizedMajor context right
        then 1 else 0 := by
  unfold majorSimilarity
  cases normalizedMajor context left with
  | none => simp [noSimilarity]
  | some leftKey =>
      cases normalizedMajor context right with
      | none => simp [noSimilarity]
      | some rightKey =>
          by_cases hsame : leftKey = rightKey
          · simp [hsame, fullSimilarity]
          · simp [hsame, Ne.symm hsame, noSimilarity]

end Similarities

theorem comparesProfiles (current candidate : SafeMatchingProfile context.zoneInfo)
    (referenceWeekStart : Int) :
    ComparesProfiles current candidate referenceWeekStart
      (pairSimilarities current candidate referenceWeekStart).breakdown where
  interests := jaccard_val _ _
  activities := jaccard_val _ _
  availability := availabilitySimilarity_ncard context _ _ referenceWeekStart
  languages := exactOverlap_val _ _
  major := majorSimilarity_val _ _

/-- Projections of one stored profile in any locale. -/
def SameStoredProfile (first second : SafeMatchingProfile context.zoneInfo) : Prop :=
  ∃ (catalog : Catalog) (record : ProfileRecord) (avatar : SafeMatchingAvatar)
    (locale locale' : CatalogLocale),
    projectSafeProfile context.zoneInfo catalog locale (record.orderCustoms (·.normalizedKey))
        avatar = .ok (some first) ∧
      projectSafeProfile context.zoneInfo catalog locale'
        (record.orderCustoms (·.normalizedKey)) avatar = .ok (some second)

theorem SameStoredProfile.scored {first second : SafeMatchingProfile context.zoneInfo}
    (h : SameStoredProfile first second) :
    ScoresAlike first second ∧ first.id = second.id ∧
      first.studentType = second.studentType := by
  obtain ⟨catalog, record, avatar, locale, locale', hfirst, hsecond⟩ := h
  have hscored := scoredFrom_of_projectSafeProfile hfirst
  have hscored' := scoredFrom_of_projectSafeProfile hsecond
  refine ⟨hscored.alike hscored', hscored.id.trans hscored'.id.symm, ?_⟩
  exact Option.some.inj (hscored.studentType.symm.trans hscored'.studentType)

theorem score_laws (context : ScoringContext) (current candidate : EligibleMatchingPrincipal)
    (currentProfile candidateProfile : SafeMatchingProfile context.zoneInfo)
    (referenceWeekStart : Int) (hmonday : isMonday referenceWeekStart = true)
    (heligible : requireEligibleSafePair current candidate currentProfile candidateProfile =
      .ok ()) :
    ∃ score,
      scoreEligiblePair current candidate currentProfile candidateProfile referenceWeekStart =
          .ok score ∧
        scoreEligiblePair candidate current candidateProfile currentProfile
          referenceWeekStart = .ok score ∧
        (∀ currentProfile' candidateProfile', Rearranged currentProfile currentProfile' →
          Rearranged candidateProfile candidateProfile' →
          scoreEligiblePair current candidate currentProfile' candidateProfile'
            referenceWeekStart = .ok score) ∧
        (∀ timezone slots slots', (∀ slot, slot ∈ slots ↔ slot ∈ slots') →
          mergedSlots context timezone referenceWeekStart slots =
            mergedSlots context timezone referenceWeekStart slots') ∧
        (∀ currentProfile' candidateProfile', SameStoredProfile currentProfile currentProfile' →
          SameStoredProfile candidateProfile candidateProfile' →
          scoreEligiblePair current candidate currentProfile' candidateProfile'
            referenceWeekStart = .ok score) ∧
        score.breakdown =
          (pairSimilarities currentProfile candidateProfile referenceWeekStart).breakdown ∧
        ComparesProfiles currentProfile candidateProfile referenceWeekStart score.breakdown ∧
        score.preciseScore =
          score.breakdown.interests.similarity.val * 40 +
            score.breakdown.activities.similarity.val * 35 +
            score.breakdown.availability.similarity.val * 15 +
            score.breakdown.languages.similarity.val * 5 +
            score.breakdown.major.similarity.val * 5 ∧
        (0 ≤ score.preciseScore ∧ score.preciseScore ≤ 100) ∧
        score.score = ⌊score.preciseScore + 1 / 2⌋ ∧ 0 ≤ score.score ∧ score.score ≤ 100 := by
  refine ⟨_, scoreEligiblePair_eligible hmonday heligible, ?_, ?_, ?_, ?_, rfl,
    comparesProfiles _ _ _, ?_, ?_, ?_, ?_⟩
  · rw [scoreEligiblePair_eligible hmonday (requireEligibleSafePair_comm.trans heligible),
      pairSimilarities_comm]
  · intro currentProfile' candidateProfile' hcurrent hcandidate
    have heligible' := (requireEligibleSafePair_congr ⟨hcurrent.id, hcurrent.studentType⟩
      ⟨hcandidate.id, hcandidate.studentType⟩).trans heligible
    rw [scoreEligiblePair_eligible hmonday heligible',
      pairSimilarities_rearranged hcurrent hcandidate]
  · intro timezone slots slots' h
    exact mergedSlots_congr h
  · intro currentProfile' candidateProfile' hcurrent hcandidate
    obtain ⟨hcurrentAlike, hcurrentIdentity⟩ := hcurrent.scored
    obtain ⟨hcandidateAlike, hcandidateIdentity⟩ := hcandidate.scored
    have heligible' := (requireEligibleSafePair_congr hcurrentIdentity
      hcandidateIdentity).trans heligible
    rw [scoreEligiblePair_eligible hmonday heligible',
      pairSimilarities_congr hcurrentAlike hcandidateAlike]
  · exact PairSimilarities.points_eq _
  · exact PairSimilarities.points_mem _
  · exact roundHalfUp_eq_floor _
  · exact roundHalfUp_mem (PairSimilarities.points_mem _)

section Sample

def sampleAvatar : SafeMatchingAvatar := ⟨1, 1, 1, by decide, by decide⟩

theorem bangkok_validTimezone :
    ValidTimezone ScoreWitness.context.zoneInfo "Asia/Bangkok" :=
  ⟨by decide, by decide, by decide, by decide⟩

theorem monday_mem : 1 ≤ 1 ∧ 1 ≤ 7 := by decide

/-- Two hours of a Monday. -/
def mondaySlot (startHour : Nat) (hday : startHour + 2 ≤ 24) : WeeklyAvailabilitySlot where
  weekday := 1
  startMinute := 60 * startHour
  endMinute := 60 * startHour + 120
  weekday_mem := monday_mem
  startMinute_le := by omega
  endMinute_le := by omega
  nonzero := by omega

theorem mondaySlot_normal (startHour : Nat) (hday : startHour + 2 ≤ 24) :
    NormalSlots [mondaySlot startHour hday] :=
  ⟨List.pairwise_singleton _ _, by simp [mondaySlot], rfl⟩

/-- Two free hours in a week. -/
def sampleAvailability (startHour : Nat) (hday : startHour + 2 ≤ 24) :
    WeeklyAvailability ScoreWitness.context.zoneInfo where
  timezone := "Asia/Bangkok"
  slots := [mondaySlot startHour hday]
  timezone_valid := bangkok_validTimezone
  normal := mondaySlot_normal startHour hday

/-- A profile with one custom interest and a major. -/
def sampleProfile (id : Nat) (studentType : StudentType) (activities : List Nat)
    (availability : WeeklyAvailability ScoreWitness.context.zoneInfo) :
    SafeMatchingProfile ScoreWitness.context.zoneInfo where
  id := id
  displayName := none
  fullName := none
  studentType := studentType
  bio := none
  major := some "Law"
  studyYear := none
  nationality := none
  homeUniversity := none
  avatar := sampleAvatar
  preferences :=
    { interests := [⟨none, none, "Chess", true⟩]
      languages := [⟨some "de", "German", .fluent, false⟩]
      activities := activities.map fun activity => ⟨some activity, none, "Activity", false⟩
      availability := some availability }

/-- A Vietnamese student who is free on Monday from eight to ten. -/
def localStudent : SafeMatchingProfile ScoreWitness.context.zoneInfo :=
  sampleProfile 17 .vietnamese [1, 2] (sampleAvailability 8 (by decide))

/-- An international student who is free on Monday from nine to eleven. -/
def guestStudent : SafeMatchingProfile ScoreWitness.context.zoneInfo :=
  sampleProfile 18 .international [2] (sampleAvailability 9 (by decide))

/-- One interest, half of the activities, a third of the time, a language and the major in
common: 40, 17.5, 5, 5 and 5 points. -/
theorem score_laws_law_students :
    ∃ score, scoreEligiblePair ⟨7, 17, .vietnamese, none⟩ ⟨8, 18, .international, none⟩
        localStudent guestStudent 4 = .ok score ∧
      scoreEligiblePair ⟨8, 18, .international, none⟩ ⟨7, 17, .vietnamese, none⟩
        guestStudent localStudent 4 = .ok score ∧
      score.preciseScore = 145 / 2 ∧ score.score = 73 := by
  obtain ⟨score, hscore, hsymm, _, _, _, hbreakdown, _, hprecise, _, hrounded, _⟩ :=
    score_laws ScoreWitness.context ⟨7, 17, .vietnamese, none⟩ ⟨8, 18, .international, none⟩
      localStudent guestStudent 4 (by decide) (by rfl)
  have hvalue : score.preciseScore = 145 / 2 := by
    rw [hprecise, hbreakdown]
    decide +kernel
  refine ⟨score, hscore, hsymm, hvalue, ?_⟩
  rw [hrounded, hvalue]
  norm_num

end Sample

end BuddyWeb
