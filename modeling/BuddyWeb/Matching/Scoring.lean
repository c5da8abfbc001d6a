/-
The compatibility score of two eligible students: five signals, each with an exact
similarity and its weighted points.
-/
import Mathlib.Algebra.Order.Field.Rat
import Mathlib.Data.Rat.Cast.Order
import Mathlib.Tactic.Linarith
import Mathlib.Tactic.Positivity
import BuddyWeb.Lib.Intervals
import BuddyWeb.Matching.Eligibility

namespace BuddyWeb

/-- What the scores read besides the profiles. -/
structure ScoringContext where
  unicode : UnicodeData
  zoneInfo : String → Bool
  /-- The microsecond in UTC at which a local minute, counted from 1970, begins. -/
  toUtc : String → Int → Int
  /-- `round(float(value), 6)`. -/
  publicNumber : ℚ → ℚ

/-- Fixed percentage points, never renormalized. -/
structure CompatibilityWeights where
  interests : Nat := 40
  activities : Nat := 35
  availability : Nat := 15
  languages : Nat := 5
  major : Nat := 5
  total : interests + activities + availability + languages + major = 100 := by decide

def compatibilityWeights : CompatibilityWeights := {}

/-- A similarity between zero and one. -/
abbrev Similarity : Type :=
  {value : ℚ // 0 ≤ value ∧ value ≤ 1}

structure CompatibilitySignalBreakdown where
  similarity : Similarity
  weight : Nat
  points : ℚ
  points_eq : points = similarity.val * weight
  deriving DecidableEq

structure CompatibilityBreakdown where
  interests : CompatibilitySignalBreakdown
  activities : CompatibilitySignalBreakdown
  availability : CompatibilitySignalBreakdown
  languages : CompatibilitySignalBreakdown
  major : CompatibilitySignalBreakdown
  deriving DecidableEq

def CompatibilityBreakdown.points (breakdown : CompatibilityBreakdown) : ℚ :=
  breakdown.interests.points + breakdown.activities.points +
    breakdown.availability.points + breakdown.languages.points + breakdown.major.points

/-- The day, counted from Thursday 1 January 1970, is a Monday. -/
def isMonday (day : Int) : Bool :=
  (day + 3) % 7 = 0

/-- The exact score for the ranking and the integer score for display. -/
structure CompatibilityScore where
  preciseScore : ℚ
  score : Int
  breakdown : CompatibilityBreakdown
  referenceWeekStart : Int
  preciseScore_eq : preciseScore = breakdown.points
  preciseScore_mem : 0 ≤ preciseScore ∧ preciseScore ≤ 100
  score_mem : 0 ≤ score ∧ score ≤ 100
  monday : isMonday referenceWeekStart = true
  deriving DecidableEq

section Signals

variable (context : ScoringContext)

/-- What two selections are compared by. -/
inductive SignalIdentity (κ : Type)
  | custom (key : String)
  | catalog (key : κ)
  deriving DecidableEq, Repr

def normalizedCustomKey (label : String) : Option String :=
  (normalizePreferenceKey context.unicode label).toOption

def preferenceIdentity (value : SafeMatchingPreference) : Option (SignalIdentity Nat) :=
  if value.isCustom then (normalizedCustomKey context value.label).map .custom
  else value.id.map .catalog

def preferenceIdentities (values : List SafeMatchingPreference) :
    Finset (SignalIdentity Nat) :=
  (values.filterMap (preferenceIdentity context)).toFinset

def languageIdentity (value : SafeMatchingLanguage) : Option (SignalIdentity String) :=
  if value.isCustom then (normalizedCustomKey context value.label).map .custom
  else value.code.map fun code => .catalog (context.unicode.casefold code)

def languageIdentities (values : List SafeMatchingLanguage) :
    Finset (SignalIdentity String) :=
  (values.filterMap (languageIdentity context)).toFinset

def noSimilarity : Similarity := ⟨0, by decide⟩

def fullSimilarity : Similarity := ⟨1, by decide⟩

section Sets

variable {κ : Type} [DecidableEq κ]

theorem ratio_mem {part whole : ℚ} (hpart : 0 ≤ part) (hle : part ≤ whole) :
    0 ≤ part / whole ∧ part / whole ≤ 1 :=
  ⟨div_nonneg hpart (hpart.trans hle), div_le_one_of_le₀ hle (hpart.trans hle)⟩

/-- The common selections among all those of either side. -/
def jaccard (left right : Finset κ) : Similarity :=
  if left ∪ right = ∅ then noSimilarity
  else ⟨(left ∩ right).card / (left ∪ right).card, ratio_mem (Nat.cast_nonneg _)
    (Nat.cast_le.mpr (Finset.card_le_card
      (Finset.inter_subset_left.trans Finset.subset_union_left)))⟩

def exactOverlap (left right : Finset κ) : Similarity :=
  if (left ∩ right).Nonempty then fullSimilarity else noSimilarity

theorem jaccard_comm (left right : Finset κ) : jaccard left right = jaccard right left := by
  simp only [jaccard, Finset.union_comm right left, Finset.inter_comm right left]

theorem exactOverlap_comm (left right : Finset κ) :
    exactOverlap left right = exactOverlap right left := by
  simp only [exactOverlap, Finset.inter_comm right left]

end Sets

def normalizedMajor (value : Option String) : Option String :=
  value.bind (normalizedCustomKey context)

def majorSimilarity (left right : Option String) : Similarity :=
  match normalizedMajor context left, normalizedMajor context right with
  | some leftKey, some rightKey =>
      if leftKey = rightKey then fullSimilarity else noSimilarity
  | _, _ => noSimilarity

theorem majorSimilarity_comm (left right : Option String) :
    majorSimilarity context left right = majorSimilarity context right left := by
  unfold majorSimilarity
  cases normalizedMajor context left <;> cases normalizedMajor context right <;>
    simp [eq_comm]

/-- The instant of a local minute of a weekday in the reference week. -/
def localMinute (timezone : String) (referenceWeekStart : Int) (weekday minute : Nat) :
    Int :=
  let localDate := referenceWeekStart + ((weekday : Int) - 1)
  if minute = minutesPerDay then context.toUtc timezone ((localDate + 1) * minutesPerDay)
  else context.toUtc timezone (localDate * minutesPerDay + minute)

def slotInterval (timezone : String) (referenceWeekStart : Int)
    (slot : WeeklyAvailabilitySlot) : Int × Int :=
  (localMinute context timezone referenceWeekStart slot.weekday slot.startMinute,
    localMinute context timezone referenceWeekStart slot.weekday slot.endMinute)

/-- The comparison of tuples by which the intervals are sorted. -/
def intervalBefore (first second : Int × Int) : Bool :=
  first.1 < second.1 || first.1 = second.1 && first.2 ≤ second.2

def mergedUtcIntervals (referenceWeekStart : Int) :
    Option (WeeklyAvailability context.zoneInfo) → List (Int × Int)
  | none => []
  | some availability =>
      mergeIntervals (((availability.slots.map
        (slotInterval context availability.timezone referenceWeekStart)).filter
          fun interval => interval.1 < interval.2).insertionSort
            fun first second => intervalBefore first second)

theorem mergedUtcIntervals_separated (referenceWeekStart : Int)
    (availability : Option (WeeklyAvailability context.zoneInfo)) :
    Separated (mergedUtcIntervals context referenceWeekStart availability) := by
  cases availability with
  | none => exact .nil
  | some availability =>
      refine mergeIntervals_separated fun interval hinterval => ?_
      rw [List.mem_insertionSort, List.mem_filter] at hinterval
      simpa using hinterval.2

/-- The common time of two lists of intervals within the time of either. -/
def coveredShare (left right : {intervals : List (Int × Int) // Separated intervals}) :
    Similarity :=
  let intersection := intersectionLength left.val right.val
  let union := totalLength left.val + totalLength right.val - intersection
  if union = 0 then noSimilarity
  else ⟨intersection / union, ratio_mem
    (Int.cast_nonneg (intersectionLength_nonneg _ _)) (Int.cast_le.mpr (by
      have hleft := intersectionLength_le_left left.property right.property
      have hright := intersectionLength_le_right left.property right.property
      omega))⟩

theorem coveredShare_comm
    (left right : {intervals : List (Int × Int) // Separated intervals}) :
    coveredShare left right = coveredShare right left := by
  simp only [coveredShare, intersectionLength_comm left.property right.property,
    add_comm (totalLength left.val)]

def availabilitySimilarity (left right : Option (WeeklyAvailability context.zoneInfo))
    (referenceWeekStart : Int) : Similarity :=
  coveredShare ⟨_, mergedUtcIntervals_separated context referenceWeekStart left⟩
    ⟨_, mergedUtcIntervals_separated context referenceWeekStart right⟩

end Signals

/-- The similarities of a pair in the five signals. -/
structure PairSimilarities where
  interests : Similarity
  activities : Similarity
  availability : Similarity
  languages : Similarity
  major : Similarity

def signal (similarity : Similarity) (weight : Nat) : CompatibilitySignalBreakdown where
  similarity := similarity
  weight := weight
  points := similarity.val * weight
  points_eq := rfl

def PairSimilarities.breakdown (similarities : PairSimilarities) :
    CompatibilityBreakdown where
  interests := signal similarities.interests compatibilityWeights.interests
  activities := signal similarities.activities compatibilityWeights.activities
  availability := signal similarities.availability compatibilityWeights.availability
  languages := signal similarities.languages compatibilityWeights.languages
  major := signal similarities.major compatibilityWeights.major

/-- The points add up to at most the total weight. -/
theorem PairSimilarities.points_mem (similarities : PairSimilarities) :
    0 ≤ similarities.breakdown.points ∧ similarities.breakdown.points ≤ 100 := by
  have hinterests := similarities.interests.property
  have hactivities := similarities.activities.property
  have havailability := similarities.availability.property
  have hlanguages := similarities.languages.property
  have hmajor := similarities.major.property
  simp only [CompatibilityBreakdown.points, PairSimilarities.breakdown, signal,
    compatibilityWeights, Nat.cast_ofNat]
  constructor <;> linarith

def roundHalfUp (value : ℚ) : Int :=
  let whole := value.num / value.den
  let remainder := value.num % value.den
  whole + if value.den ≤ remainder * 2 then 1 else 0

/-- Rounding stays between the integers which bound a value. -/
theorem roundHalfUp_mem {value : ℚ} {high : Nat} (hvalue : 0 ≤ value ∧ value ≤ high) :
    0 ≤ roundHalfUp value ∧ roundHalfUp value ≤ high := by
  have hden : (0 : Int) < value.den := Int.natCast_pos.mpr value.den_pos
  have hlow : 0 ≤ value.num := Rat.num_nonneg.mpr hvalue.1
  have hhigh : value.num ≤ high * value.den := by
    have hdiv := hvalue.2
    rw [← Rat.num_div_den value, div_le_iff₀ (by exact_mod_cast hden)] at hdiv
    exact_mod_cast hdiv
  have hquotient : value.num / value.den ≤ high :=
    Int.ediv_le_of_le_mul hden hhigh
  have hsplit := Int.mul_ediv_add_emod value.num value.den
  have hremainder := Int.emod_nonneg value.num hden.ne'
  unfold roundHalfUp
  constructor
  · have hwhole := Int.ediv_nonneg hlow hden.le
    simp only
    split <;> omega
  · simp only
    split
    · rename_i hhalf
      -- A full quotient leaves no remainder to round up.
      rcases hquotient.lt_or_eq with hlt | heq
      · omega
      · rw [heq, mul_comm] at hsplit
        omega
    · omega

def compatibilityScore (similarities : PairSimilarities) (referenceWeekStart : Int)
    (hmonday : isMonday referenceWeekStart = true) : CompatibilityScore where
  preciseScore := similarities.breakdown.points
  score := roundHalfUp similarities.breakdown.points
  breakdown := similarities.breakdown
  referenceWeekStart := referenceWeekStart
  preciseScore_eq := rfl
  preciseScore_mem := similarities.points_mem
  score_mem := roundHalfUp_mem similarities.points_mem
  monday := hmonday

section Pair

variable {context : ScoringContext}

def pairSimilarities (current candidate : SafeMatchingProfile context.zoneInfo)
    (referenceWeekStart : Int) : PairSimilarities where
  interests := jaccard (preferenceIdentities context current.preferences.interests)
    (preferenceIdentities context candidate.preferences.interests)
  activities := jaccard (preferenceIdentities context current.preferences.activities)
    (preferenceIdentities context candidate.preferences.activities)
  availability := availabilitySimilarity context current.preferences.availability
    candidate.preferences.availability referenceWeekStart
  languages := exactOverlap (languageIdentities context current.preferences.languages)
    (languageIdentities context candidate.preferences.languages)
  major := majorSimilarity context current.major candidate.major

def referenceWeekMessage : String :=
  "Compatibility reference week must begin on Monday."

def ineligiblePairMessage : String :=
  "Compatibility scoring requires an eligible REC-001 pair."

def requireEligibleSafePair (current candidate : EligibleMatchingPrincipal)
    (currentProfile candidateProfile : SafeMatchingProfile context.zoneInfo) :
    Except String Unit :=
  ensure (current.profileId = currentProfile.id ∧
      candidate.profileId = candidateProfile.id ∧
      current.studentType = currentProfile.studentType ∧
      candidate.studentType = candidateProfile.studentType ∧
      matchingPairIsEligible current candidate = true) ineligiblePairMessage

/-- The score of an eligible pair in a reference week. -/
def scoreEligiblePair (current candidate : EligibleMatchingPrincipal)
    (currentProfile candidateProfile : SafeMatchingProfile context.zoneInfo)
    (referenceWeekStart : Int) : Except String CompatibilityScore :=
  if hmonday : isMonday referenceWeekStart = true then
    (requireEligibleSafePair current candidate currentProfile candidateProfile).map
      fun _ => compatibilityScore
        (pairSimilarities currentProfile candidateProfile referenceWeekStart)
        referenceWeekStart hmonday
  else .error referenceWeekMessage

/-- Profiles which no signal tells apart. -/
structure ScoresAlike (first second : SafeMatchingProfile context.zoneInfo) : Prop where
  interests : preferenceIdentities context first.preferences.interests =
    preferenceIdentities context second.preferences.interests
  activities : preferenceIdentities context first.preferences.activities =
    preferenceIdentities context second.preferences.activities
  languages : languageIdentities context first.preferences.languages =
    languageIdentities context second.preferences.languages
  availability : first.preferences.availability = second.preferences.availability
  major : first.major = second.major

theorem pairSimilarities_comm (current candidate : SafeMatchingProfile context.zoneInfo)
    (referenceWeekStart : Int) :
    pairSimilarities current candidate referenceWeekStart =
      pairSimilarities candidate current referenceWeekStart := by
  unfold pairSimilarities
  congr 1
  · exact jaccard_comm _ _
  · exact jaccard_comm _ _
  · exact coveredShare_comm _ _
  · exact exactOverlap_comm _ _
  · exact majorSimilarity_comm _ _ _

theorem pairSimilarities_congr
    {current candidate current' candidate' : SafeMatchingProfile context.zoneInfo}
    (hcurrent : ScoresAlike current current') (hcandidate : ScoresAlike candidate candidate')
    (referenceWeekStart : Int) :
    pairSimilarities current candidate referenceWeekStart =
      pairSimilarities current' candidate' referenceWeekStart := by
  simp only [pairSimilarities, hcurrent.interests, hcurrent.activities, hcurrent.languages,
    hcurrent.availability, hcurrent.major, hcandidate.interests, hcandidate.activities,
    hcandidate.languages, hcandidate.availability, hcandidate.major]

theorem scoreEligiblePair_eq_ok_iff {current candidate : EligibleMatchingPrincipal}
    {currentProfile candidateProfile : SafeMatchingProfile context.zoneInfo}
    {referenceWeekStart : Int} {score : CompatibilityScore} :
    scoreEligiblePair current candidate currentProfile candidateProfile referenceWeekStart =
        .ok score ↔
      ∃ hmonday, (current.profileId = currentProfile.id ∧
          candidate.profileId = candidateProfile.id ∧
          current.studentType = currentProfile.studentType ∧
          candidate.studentType = candidateProfile.studentType ∧
          matchingPairIsEligible current candidate = true) ∧
        compatibilityScore (pairSimilarities currentProfile candidateProfile
          referenceWeekStart) referenceWeekStart hmonday = score := by
  unfold scoreEligiblePair
  split
  · rename_i hmonday
    simp [requireEligibleSafePair, hmonday]
  · rename_i hmonday
    simp [hmonday]

end Pair

section Explanation

variable (context : ScoringContext)

/-- The declared bounds of a public number. -/
def checkPublicNumber (name : String) (high : Nat) (value : ℚ) : List FieldError :=
  if value < 0 then [⟨[.field name], .greaterThanEqual 0⟩]
  else if high < value then [⟨[.field name], .lessThanEqual high⟩]
  else []

def publicSignal (signal : CompatibilitySignalBreakdown) :
    Validated CompatibilitySignalExplanation :=
  let similarity := context.publicNumber signal.similarity.val
  let points := context.publicNumber signal.points
  acceptWithout ⟨similarity, signal.weight, points⟩
    (checkPublicNumber "similarity" 1 similarity ++
      checkBounds [.field "weight"] 0 100 signal.weight ++
      checkPublicNumber "points" 100 points)

def projectCompatibilityExplanation (score : CompatibilityScore) :
    Validated CompatibilityExplanation := do
  let interests ← publicSignal context score.breakdown.interests
  let activities ← publicSignal context score.breakdown.activities
  let availability ← publicSignal context score.breakdown.availability
  let languages ← publicSignal context score.breakdown.languages
  let major ← publicSignal context score.breakdown.major
  return ⟨interests, activities, availability, languages, major⟩

end Explanation

end BuddyWeb
