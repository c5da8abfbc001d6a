/-
The pages of the ranked recommendations are a partition of the eligible candidates in the
order of their exact scores.
-/
import Mathlib.Data.Int.ConditionallyCompleteOrder
import Mathlib.Order.ConditionallyCompleteLattice.Basic
import BuddyWeb.Lib.Pages
import BuddyWeb.Lib.TableHistory
import BuddyWeb.Matching.ScoreAgreement
import BuddyWeb.Matching.ScoreLaws

namespace BuddyWeb

variable {context : ScoringContext}

section Scores

/-- What `round(float(value), 6)` is known for: it keeps the order and the integers of the
scale. -/
structure RoundsInOrder (publicNumber : ℚ → ℚ) : Prop where
  monotone : Monotone publicNumber
  integers : ∀ value : Nat, value ≤ 100 → publicNumber value = value

theorem RoundsInOrder.mem {publicNumber : ℚ → ℚ} (h : RoundsInOrder publicNumber) {value : ℚ}
    {high : Nat} (hhigh : high ≤ 100) (hvalue : 0 ≤ value ∧ value ≤ high) :
    0 ≤ publicNumber value ∧ publicNumber value ≤ high := by
  constructor
  · calc (0 : ℚ) = publicNumber (0 : Nat) := by rw [h.integers 0 (by decide), Nat.cast_zero]
      _ ≤ publicNumber value := h.monotone (by simpa using hvalue.1)
  · calc publicNumber value ≤ publicNumber high := h.monotone hvalue.2
      _ = high := h.integers high hhigh

/-- The public explanation of a score. -/
def publicExplanation (context : ScoringContext) (breakdown : CompatibilityBreakdown) :
    CompatibilityExplanation :=
  let shown (signal : CompatibilitySignalBreakdown) : CompatibilitySignalExplanation :=
    ⟨context.publicNumber signal.similarity.val, signal.weight,
      context.publicNumber signal.points⟩
  ⟨shown breakdown.interests, shown breakdown.activities, shown breakdown.availability,
    shown breakdown.languages, shown breakdown.major⟩

theorem checkPublicNumber_eq_nil {name : String} {high : Nat} {value : ℚ}
    (h : 0 ≤ value ∧ value ≤ high) : checkPublicNumber name high value = [] := by
  rw [checkPublicNumber, if_neg (not_lt.mpr h.1), if_neg (not_lt.mpr h.2)]

theorem publicSignal_signal (hnumbers : RoundsInOrder context.publicNumber)
    (similarity : Similarity) {weight : Nat} (hweight : weight ≤ 100) :
    publicSignal context (signal similarity weight) =
      .ok ⟨context.publicNumber similarity.val, weight,
        context.publicNumber (similarity.val * weight)⟩ := by
  have hsimilarity := hnumbers.mem (by decide : 1 ≤ 100) (by simpa using similarity.property)
  have hweightRat : (weight : ℚ) ≤ 100 := by exact_mod_cast hweight
  have hpoints : 0 ≤ similarity.val * weight ∧ similarity.val * weight ≤ (100 : Nat) := by
    have hnonneg : (0 : ℚ) ≤ weight := Nat.cast_nonneg weight
    constructor
    · exact mul_nonneg similarity.property.1 hnonneg
    · have hless := mul_le_mul_of_nonneg_right similarity.property.2 hnonneg
      push_cast
      linarith
  have hbounds : checkBounds [.field "weight"] 0 100 (weight : Int) = [] :=
    checkBounds_eq_nil_iff.mpr ⟨Int.natCast_nonneg weight, by exact_mod_cast hweight⟩
  simp only [publicSignal, signal]
  rw [checkPublicNumber_eq_nil hsimilarity, hbounds,
    checkPublicNumber_eq_nil (hnumbers.mem le_rfl hpoints)]
  rfl

/-- Every score has a public explanation. -/
theorem projectCompatibilityExplanation_scored
    (hnumbers : RoundsInOrder context.publicNumber) (similarities : PairSimilarities)
    (referenceWeekStart : Int) (hmonday : isMonday referenceWeekStart = true) :
    projectCompatibilityExplanation context
        (compatibilityScore similarities referenceWeekStart hmonday) =
      .ok (publicExplanation context similarities.breakdown) := by
  simp only [projectCompatibilityExplanation, compatibilityScore, PairSimilarities.breakdown]
  rw [publicSignal_signal hnumbers _ (by decide), publicSignal_signal hnumbers _ (by decide),
    publicSignal_signal hnumbers _ (by decide), publicSignal_signal hnumbers _ (by decide),
    publicSignal_signal hnumbers _ (by decide)]
  rfl

theorem roundHalfUp_monotone : Monotone roundHalfUp := by
  intro first second hle
  rw [roundHalfUp_eq_floor, roundHalfUp_eq_floor]
  exact Int.floor_le_floor (by linarith)

end Scores

section Pool

/-- A stored profile which the candidate query selects. -/
def isEligibleCandidate (db : MatchingDatabase) (current : EligibleMatchingPrincipal)
    (record : ProfileRecord) : Bool :=
  (db.users.get? record.profile.userId).any fun owner =>
    eligibleCandidateConditions db.catalog db.photos db.buddyMatches current owner record

def eligibleCandidates (db : MatchingDatabase) (current : EligibleMatchingPrincipal) :
    List ProfileRecord :=
  db.profiles.rows.filter (isEligibleCandidate db current)

variable {db : MatchingDatabase} {tables : StudentTables} {current : EligibleMatchingPrincipal}
  {locale : CatalogLocale} {record : ProfileRecord}

theorem isEligibleCandidate_spec (h : isEligibleCandidate db current record = true) :
    record.profile.userId ≠ current.userId ∧ record.profile.id ≠ current.profileId ∧
      record.profile.studentType.isSome = true ∧
      record.profile.studentType ≠ some current.studentType ∧
      countReadyAvatars db.photos record.profile.id = 1 := by
  cases howner : db.users.get? record.profile.userId with
  | none => simp [isEligibleCandidate, howner] at h
  | some owner =>
      rw [isEligibleCandidate, howner, Option.any_some, eligibleCandidateConditions_iff] at h
      obtain ⟨_, _, _, huser, hprofile, htype, hother, _, _, _, havatar, _⟩ := h
      exact ⟨huser, hprofile, htype, hother, havatar⟩

theorem flatMap_eq_self {α : Type} {f : α → List α} {entries : List α}
    (h : ∀ entry ∈ entries, f entry = [entry]) : entries.flatMap f = entries := by
  induction entries with
  | nil => rfl
  | cons head tail ih =>
      rw [List.flatMap_cons, h head List.mem_cons_self,
        ih fun entry hentry => h entry (List.mem_cons_of_mem head hentry)]
      rfl

/-- A profile with one ready avatar is one row of the avatar join. -/
theorem joinedRows_records {filter : ProfileRecord → Bool}
    (h : ∀ record ∈ tables.profiles.rows, filter record = true →
      countReadyAvatars tables.photos record.profile.id = 1) :
    (joinedRows tables filter).map Prod.fst =
      (tables.profiles.rows.filter filter).insertionSort
        fun first second => first.profile.id ≤ second.profile.id := by
  rw [joinedRows, List.map_flatMap]
  apply flatMap_eq_self
  intro record hrecord
  rw [List.mem_insertionSort, List.mem_filter] at hrecord
  have hone := h record hrecord.1 hrecord.2
  obtain ⟨photo, hphoto⟩ := List.length_eq_one_iff.mp hone
  rw [avatarRows, StudentTables.readyAvatars, hphoto]
  rfl

theorem projectSafeProfile_isSome {zoneInfo : String → Bool} {catalog : Catalog}
    {avatar : SafeMatchingAvatar} {value : Option (SafeMatchingProfile zoneInfo)}
    (htype : record.profile.studentType.isSome = true)
    (h : projectSafeProfile zoneInfo catalog locale record avatar = .ok value) :
    ∃ profile, value = some profile := by
  unfold projectSafeProfile at h
  split at h
  · rename_i hnone
    simp [hnone] at htype
  · simp only [except_bind_eq_ok_iff, except_functor_map_eq_ok_iff] at h
    obtain ⟨_, _, profile, _, rfl⟩ := h
    exact ⟨profile, rfl⟩

/-- Rows with a student type have one projection each. -/
theorem projectSafeRows_forall₂ {rows : List (ProfileRecord × ProfilePhoto)}
    {profiles : List (SafeMatchingProfile context.zoneInfo)}
    (hrows : ∀ row ∈ rows, row.1.profile.studentType.isSome = true)
    (h : projectSafeRows context tables locale rows = .ok profiles) :
    List.Forall₂ (fun row profile => ScoredFrom context tables.catalog row.1 profile) rows
      profiles := by
  simp only [projectSafeRows, projectSafeProfiles, except_bind_eq_ok_iff,
    except_map_eq_ok_iff] at h
  obtain ⟨ordered, hordered, values, hvalues, rfl⟩ := h
  have hfirst := forall₂_of_mapM hordered
  have hsecond := forall₂_of_mapM hvalues
  clear hordered hvalues
  induction hfirst generalizing values with
  | nil =>
      cases hsecond
      exact .nil
  | @cons row entry rest entries hrow hrest ih =>
      cases hsecond with
      | @cons _ value _ others hvalue hothers =>
          simp only [except_bind_eq_ok_iff, except_pure_eq_ok_iff] at hrow
          obtain ⟨avatar, _, rfl⟩ := hrow
          have htype : (row.1.orderCustoms (·.normalizedKey)).profile.studentType.isSome =
            true := hrows row List.mem_cons_self
          obtain ⟨profile, rfl⟩ := projectSafeProfile_isSome htype hvalue
          exact .cons (scoredFrom_of_projectSafeProfile hvalue)
            (ih (fun other hother => hrows other (List.mem_cons_of_mem row hother)) others
              hothers)

/-- What the scorer is given for a selected row. -/
structure CandidateOf (context : ScoringContext) (db : MatchingDatabase)
    (current : EligibleMatchingPrincipal) (row : ProfileRecord × ProfilePhoto)
    (candidate : EligibleMatchingCandidate context) : Prop where
  scored : ScoredFrom context db.catalog row.1 candidate.profile
  principal : candidate =
    eligibleMatchingCandidate context current row candidate.profile

/-- The loaded pool has one candidate for each selected row. -/
theorem loadMatchingScoringProfiles_pool {candidateLimit : Nat}
    {currentProfile : SafeMatchingProfile context.zoneInfo}
    {candidates : List (EligibleMatchingCandidate context)}
    (h : loadMatchingScoringProfiles context db.toStudentTables db.buddyMatches current locale
      candidateLimit = .ok (some (currentProfile, candidates))) :
    (currentProfile.id = current.profileId ∧
        currentProfile.studentType = current.studentType) ∧
      List.Forall₂ (CandidateOf context db current)
        (eligibleCandidateRows db.toStudentTables db.buddyMatches current candidateLimit)
        candidates := by
  have hselected : ∀ row ∈ eligibleCandidateRows db.toStudentTables db.buddyMatches current
      candidateLimit, row.1.profile.studentType.isSome = true := fun row hrow =>
    (isEligibleCandidate_spec (mem_joinedRows (List.mem_of_mem_take hrow)).2).2.2.1
  unfold loadMatchingScoringProfiles at h
  simp only at h
  split at h
  · simp at h
  · rename_i hone
    obtain ⟨own, hown⟩ := List.length_eq_one_iff.mp (not_ne_iff.mp hone)
    have hfilter := (mem_joinedRows (hown ▸ List.mem_singleton_self own)).2
    simp only [Bool.and_eq_true, decide_eq_true_eq] at hfilter
    rw [hown] at h
    simp only [except_map_eq_ok_iff] at h
    obtain ⟨projected, hprojected, hresult⟩ := h
    have hpairs := projectSafeRows_forall₂ (by
      intro row hrow
      rcases List.mem_append.mp hrow with hmem | hmem
      · rw [List.mem_singleton.mp hmem, hfilter.1.2]
        rfl
      · exact hselected row hmem) hprojected
    cases hpairs with
    | @cons _ first _ rest hfirst hrest =>
        simp only at hresult
        split at hresult
        · simp at hresult
        · rename_i hid
          obtain ⟨rfl, rfl⟩ := Prod.mk.inj (Option.some.inj hresult)
          refine ⟨⟨not_ne_iff.mp hid, ?_⟩, ?_⟩
          · exact Option.some.inj (hfirst.studentType.symm.trans hfilter.1.2)
          · exact forall₂_zipWith hrest fun row profile hscored => ⟨hscored, rfl⟩

/-- A pool below the limit of the query is the whole pool. -/
theorem eligibleCandidateRows_records {limit : Nat}
    (hlength : (eligibleCandidateRows db.toStudentTables db.buddyMatches current limit).length <
      limit) :
    ((eligibleCandidateRows db.toStudentTables db.buddyMatches current limit).map Prod.fst).Perm
      (eligibleCandidates db current) := by
  have hwhole : eligibleCandidateRows db.toStudentTables db.buddyMatches current limit =
      joinedRows db.toStudentTables (isEligibleCandidate db current) := by
    rw [eligibleCandidateRows, List.length_take] at hlength
    exact List.take_of_length_le (by omega)
  rw [hwhole, joinedRows_records fun record _ hrecord =>
    (isEligibleCandidate_spec hrecord).2.2.2.2]
  exact List.perm_insertionSort _ _

/-- The scorer accepts the pair of the current student and a selected one. -/
theorem CandidateOf.eligible {row : ProfileRecord × ProfilePhoto}
    {candidate : EligibleMatchingCandidate context}
    {currentProfile : SafeMatchingProfile context.zoneInfo}
    (h : CandidateOf context db current row candidate)
    (hcurrent : currentProfile.id = current.profileId ∧
      currentProfile.studentType = current.studentType)
    (hrow : isEligibleCandidate db current row.1 = true) :
    requireEligibleSafePair current candidate.principal currentProfile candidate.profile =
      .ok () := by
  obtain ⟨huser, hprofile, _, hother, _⟩ := isEligibleCandidate_spec hrow
  rw [h.scored.studentType, ne_eq, Option.some_inj] at hother
  have hprincipal : candidate.principal = ⟨row.1.profile.userId, row.1.profile.id,
      candidate.profile.studentType, current.semesterId⟩ :=
    congrArg EligibleMatchingCandidate.principal h.principal
  rw [requireEligibleSafePair, hprincipal]
  exact ensure_of_true _ ⟨hcurrent.1.symm, h.scored.id.symm, hcurrent.2.symm, rfl,
    matchingPairIsEligible_iff.mpr ⟨huser.symm, hprofile.symm, fun hsame => hother hsame.symm⟩⟩

end Pool

section Ranking

theorem rankedBefore_iff
    {first second : CompatibilityScore × SafeMatchingProfile context.zoneInfo} :
    rankedBefore first second = true ↔
      second.1.preciseScore < first.1.preciseScore ∨
        first.1.preciseScore = second.1.preciseScore ∧ first.2.id ≤ second.2.id := by
  simp [rankedBefore]

instance : Std.Total fun first second : CompatibilityScore × SafeMatchingProfile context.zoneInfo =>
    rankedBefore first second = true where
  total first second := by
    simp only [rankedBefore_iff]
    rcases lt_trichotomy first.1.preciseScore second.1.preciseScore with hlt | heq | hgt
    · exact Or.inr (Or.inl hlt)
    · rcases le_total first.2.id second.2.id with hle | hle
      · exact Or.inl (Or.inr ⟨heq, hle⟩)
      · exact Or.inr (Or.inr ⟨heq.symm, hle⟩)
    · exact Or.inl (Or.inl hgt)

instance : IsTrans (CompatibilityScore × SafeMatchingProfile context.zoneInfo)
    fun first second => rankedBefore first second = true where
  trans first second third hfirst hsecond := by
    simp only [rankedBefore_iff] at hfirst hsecond ⊢
    rcases hfirst with hgt | ⟨heq, hle⟩
    · rcases hsecond with hgt' | ⟨heq', _⟩
      · exact Or.inl (hgt'.trans hgt)
      · exact Or.inl (heq' ▸ hgt)
    · rcases hsecond with hgt' | ⟨heq', hle'⟩
      · exact Or.inl (heq ▸ hgt')
      · exact Or.inr ⟨heq.trans heq', hle.trans hle'⟩

end Ranking

section Pages

variable {db : MatchingDatabase} {current : EligibleMatchingPrincipal} {locale : CatalogLocale}
  {referenceWeekStart : Int} {currentProfile : SafeMatchingProfile context.zoneInfo}

/-- The exact score by which a profile is ranked. -/
def preciseScoreOf (currentProfile : SafeMatchingProfile context.zoneInfo)
    (referenceWeekStart : Int) (profile : SafeMatchingProfile context.zoneInfo) : ℚ :=
  (pairSimilarities currentProfile profile referenceWeekStart).breakdown.points

def rankedEntry (currentProfile : SafeMatchingProfile context.zoneInfo)
    (hmonday : isMonday referenceWeekStart = true)
    (profile : SafeMatchingProfile context.zoneInfo) :
    CompatibilityScore × SafeMatchingProfile context.zoneInfo :=
  (compatibilityScore (pairSimilarities currentProfile profile referenceWeekStart)
    referenceWeekStart hmonday, profile)

def rankedPool (currentProfile : SafeMatchingProfile context.zoneInfo)
    (hmonday : isMonday referenceWeekStart = true)
    (candidates : List (EligibleMatchingCandidate context)) :
    List (CompatibilityScore × SafeMatchingProfile context.zoneInfo) :=
  (candidates.map fun candidate =>
    rankedEntry currentProfile hmonday candidate.profile).insertionSort
      fun first second => rankedBefore first second

/-- The entry of the list for a ranked profile. -/
def shownEntry (context : ScoringContext)
    (scored : CompatibilityScore × SafeMatchingProfile context.zoneInfo) :
    MatchingRecommendation context :=
  ⟨scored.2, scored.1.score, publicExplanation context scored.1.breakdown⟩

theorem mem_rankedPool {hmonday : isMonday referenceWeekStart = true}
    {candidates : List (EligibleMatchingCandidate context)}
    {scored : CompatibilityScore × SafeMatchingProfile context.zoneInfo} :
    scored ∈ rankedPool currentProfile hmonday candidates ↔
      ∃ candidate ∈ candidates,
        rankedEntry currentProfile hmonday candidate.profile = scored := by
  rw [rankedPool, List.mem_insertionSort, List.mem_map]

/-- What one request answers. -/
theorem listRankedMatchingRecommendations_page (hnumbers : RoundsInOrder context.publicNumber)
    {page pageSize : Nat} (hpage : 1 ≤ page) (hsize : 1 ≤ pageSize ∧ pageSize ≤ maxPageSize)
    (hmonday : isMonday referenceWeekStart = true)
    {candidates : List (EligibleMatchingCandidate context)}
    (hload : loadMatchingScoringProfiles context db.toStudentTables db.buddyMatches current
      locale (maxRecommendationCandidates + 1) = .ok (some (currentProfile, candidates)))
    (hcapacity : candidates.length ≤ maxRecommendationCandidates) :
    listRankedMatchingRecommendations context db current locale page pageSize
        referenceWeekStart =
      .ok (listResponse ((pageOf (rankedPool currentProfile hmonday candidates) page
        pageSize).map (shownEntry context)) page pageSize candidates.length
          referenceWeekStart) := by
  obtain ⟨hcurrent, hpairs⟩ := loadMatchingScoringProfiles_pool hload
  have hscored : candidates.mapM (scoreCandidate current currentProfile referenceWeekStart) =
      .ok (candidates.map fun candidate =>
        rankedEntry currentProfile hmonday candidate.profile) := by
    apply mapM_eq_ok_map
    intro candidate hcandidate
    obtain ⟨row, hrow, hpair⟩ := exists_left_of_forall₂ hpairs hcandidate
    have helig := hpair.eligible hcurrent (mem_joinedRows (List.mem_of_mem_take hrow)).2
    rw [scoreCandidate, scoreEligiblePair_eligible hmonday helig]
    rfl
  have hitems : (pageOf (rankedPool currentProfile hmonday candidates) page pageSize).mapM
      matchingRecommendation = .ok ((pageOf (rankedPool currentProfile hmonday candidates) page
        pageSize).map (shownEntry context)) := by
    apply mapM_eq_ok_map
    intro scored hscored
    obtain ⟨candidate, _, rfl⟩ := mem_rankedPool.mp (window_subset _ _ _ hscored)
    rw [matchingRecommendation, rankedEntry,
      projectCompatibilityExplanation_scored hnumbers _ _ hmonday]
    rfl
  have hvalid : validatePage "Recommendation" page pageSize referenceWeekStart = .ok () := by
    rw [validatePage, ensure_of_true _ hpage, ensure_of_true _ hsize, ensure_of_true _ hmonday]
    rfl
  simp only [listRankedMatchingRecommendations, except_bind_eq_ok_iff, mapError_eq_ok_iff,
    require_eq_ok_iff, except_pure_eq_ok_iff]
  exact ⟨(), hvalid, _, hload, _, rfl, (), ensure_of_true _ hcapacity, _, hscored, _, hitems,
    by rw [List.length_map]⟩

/-- Ranked profiles with different identifiers are in strict order. -/
theorem rankedPool_ordered {hmonday : isMonday referenceWeekStart = true}
    {candidates : List (EligibleMatchingCandidate context)}
    (hnodup : (candidates.map (·.profile.id)).Nodup) :
    (rankedPool currentProfile hmonday candidates).Pairwise fun first second =>
      second.1.preciseScore < first.1.preciseScore ∨
        first.1.preciseScore = second.1.preciseScore ∧ first.2.id < second.2.id := by
  have hsorted : (rankedPool currentProfile hmonday candidates).Pairwise fun first second =>
      rankedBefore first second = true := List.pairwise_insertionSort _ _
  have hids : ((rankedPool currentProfile hmonday candidates).map (·.2.id)).Nodup := by
    have hperm := ((List.perm_insertionSort (fun first second => rankedBefore first second = true)
      (candidates.map fun candidate => rankedEntry currentProfile hmonday
        candidate.profile)).map (·.2.id)).nodup_iff
    rw [rankedPool, hperm, List.map_map]
    exact hnodup
  have hdistinct := List.pairwise_map.mp hids
  refine hsorted.imp₂ ?_ hdistinct
  intro first second hbefore hne
  rcases rankedBefore_iff.mp hbefore with hgt | ⟨heq, hle⟩
  · exact Or.inl hgt
  · exact Or.inr ⟨heq, lt_of_le_of_ne hle hne⟩

/-- The items of all pages, one page after the other. -/
def concatenatedItems {α : Type} (responses : Nat → ListResponse α) : List α :=
  (List.range (responses 1).totalPages).flatMap fun index => (responses (index + 1)).items

/-- The pages are those of one ranking of the eligible candidates. -/
structure RankedPages (context : ScoringContext) (db : MatchingDatabase)
    (current : EligibleMatchingPrincipal) (currentProfile : SafeMatchingProfile context.zoneInfo)
    (pageSize : Nat) (referenceWeekStart : Int)
    (responses : Nat → ListResponse (MatchingRecommendation context)) : Prop where
  complete : ((concatenatedItems responses).map (·.profile.id)).Perm
    ((eligibleCandidates db current).map (·.profile.id))
  once : ((concatenatedItems responses).map (·.profile.id)).Nodup
  profiles : ∀ item ∈ concatenatedItems responses,
    ∃ record ∈ eligibleCandidates db current, ScoredFrom context db.catalog record item.profile
  scored : ∀ item ∈ concatenatedItems responses,
    item.score = roundHalfUp (preciseScoreOf currentProfile referenceWeekStart item.profile)
  ordered : (concatenatedItems responses).Pairwise fun first second =>
    preciseScoreOf currentProfile referenceWeekStart second.profile <
        preciseScoreOf currentProfile referenceWeekStart first.profile ∨
      preciseScoreOf currentProfile referenceWeekStart first.profile =
          preciseScoreOf currentProfile referenceWeekStart second.profile ∧
        first.profile.id < second.profile.id
  displayed : (concatenatedItems responses).Pairwise fun first second =>
    second.score ≤ first.score
  counted : ∀ page, (responses page).total = (eligibleCandidates db current).length ∧
    (responses page).totalPages =
      ⌈((eligibleCandidates db current).length : ℚ) / pageSize⌉₊
  past : ∀ page, (responses page).totalPages < page → (responses page).items = []

/-- A loaded pool is the list of the eligible candidates. -/
theorem pool_ids {candidates : List (EligibleMatchingCandidate context)}
    (hload : loadMatchingScoringProfiles context db.toStudentTables db.buddyMatches current
      locale (maxRecommendationCandidates + 1) = .ok (some (currentProfile, candidates)))
    (hcapacity : candidates.length ≤ maxRecommendationCandidates) :
    (candidates.map (·.profile.id)).Perm
      ((eligibleCandidates db current).map (·.profile.id)) := by
  obtain ⟨_, hpairs⟩ := loadMatchingScoringProfiles_pool hload
  have hlength := hpairs.length_eq
  have hrecords := eligibleCandidateRows_records
    (lt_of_le_of_lt (hlength.trans_le hcapacity) (Nat.lt_succ_self _))
  have hids : candidates.map (·.profile.id) =
      ((eligibleCandidateRows db.toStudentTables db.buddyMatches current
        (maxRecommendationCandidates + 1)).map Prod.fst).map (·.profile.id) := by
    rw [List.map_map]
    exact map_eq_of_forall₂ hpairs fun row candidate hpair => hpair.scored.id
  rw [hids]
  exact hrecords.map _

theorem eligibleCandidates_nodup :
    ((eligibleCandidates db current).map (·.profile.id)).Nodup :=
  (List.filter_sublist.map _).nodup db.profiles.nodup

/-- The response of a page over a ranking. -/
def rankedResponse (context : ScoringContext)
    (ranked : List (CompatibilityScore × SafeMatchingProfile context.zoneInfo))
    (pageSize : Nat) (referenceWeekStart : Int) (page : Nat) :
    ListResponse (MatchingRecommendation context) :=
  listResponse ((pageOf ranked page pageSize).map (shownEntry context)) page pageSize
    ranked.length referenceWeekStart

theorem concatenatedItems_ranked
    {ranked : List (CompatibilityScore × SafeMatchingProfile context.zoneInfo)}
    {pageSize : Nat} (hsize : 1 ≤ pageSize) :
    concatenatedItems (rankedResponse context ranked pageSize referenceWeekStart) =
      ranked.map (shownEntry context) := by
  have hpages : concatenatedItems (rankedResponse context ranked pageSize
      referenceWeekStart) = (List.range (windowCount ranked.length pageSize)).flatMap
        fun index => (window ranked pageSize index).map (shownEntry context) := rfl
  rw [hpages, ← List.map_flatMap, flatMap_windows hsize]

theorem rankedResponse_totalPages
    {ranked : List (CompatibilityScore × SafeMatchingProfile context.zoneInfo)}
    {pageSize page : Nat} :
    (rankedResponse context ranked pageSize referenceWeekStart page).totalPages =
      windowCount ranked.length pageSize :=
  rfl

/-- An entry of the ranking shows a selected profile with the score of its rank. -/
theorem rankedPool_entry {hmonday : isMonday referenceWeekStart = true}
    {candidates : List (EligibleMatchingCandidate context)}
    (hload : loadMatchingScoringProfiles context db.toStudentTables db.buddyMatches current
      locale (maxRecommendationCandidates + 1) = .ok (some (currentProfile, candidates)))
    {scored : CompatibilityScore × SafeMatchingProfile context.zoneInfo}
    (hscored : scored ∈ rankedPool currentProfile hmonday candidates) :
    (∃ record ∈ eligibleCandidates db current,
        ScoredFrom context db.catalog record scored.2) ∧
      scored.1.preciseScore = preciseScoreOf currentProfile referenceWeekStart scored.2 ∧
      scored.1.score = roundHalfUp scored.1.preciseScore := by
  obtain ⟨candidate, hcandidate, rfl⟩ := mem_rankedPool.mp hscored
  obtain ⟨_, hpairs⟩ := loadMatchingScoringProfiles_pool hload
  obtain ⟨row, hrow, hpair⟩ := exists_left_of_forall₂ hpairs hcandidate
  obtain ⟨hrecord, heligible⟩ := mem_joinedRows (List.mem_of_mem_take hrow)
  exact ⟨⟨row.1, List.mem_filter.mpr ⟨hrecord, heligible⟩, hpair.scored⟩, rfl, rfl⟩

theorem rankedPages_pool {pageSize : Nat} (hsize : 1 ≤ pageSize)
    {hmonday : isMonday referenceWeekStart = true}
    {candidates : List (EligibleMatchingCandidate context)}
    (hload : loadMatchingScoringProfiles context db.toStudentTables db.buddyMatches current
      locale (maxRecommendationCandidates + 1) = .ok (some (currentProfile, candidates)))
    (hcapacity : candidates.length ≤ maxRecommendationCandidates) :
    RankedPages context db current currentProfile pageSize referenceWeekStart
      (rankedResponse context (rankedPool currentProfile hmonday candidates) pageSize
        referenceWeekStart) := by
  have hids := pool_ids hload hcapacity
  have hnodup := hids.nodup_iff.mpr eligibleCandidates_nodup
  have hperm : ((rankedPool currentProfile hmonday candidates).map (·.2.id)).Perm
      ((eligibleCandidates db current).map (·.profile.id)) := by
    have hsorted := (List.perm_insertionSort
      (fun first second => rankedBefore first second = true)
      (candidates.map fun candidate => rankedEntry currentProfile hmonday
        candidate.profile)).map (·.2.id)
    rw [List.map_map] at hsorted
    exact hsorted.trans hids
  have htotal : (rankedPool currentProfile hmonday candidates).length =
      (eligibleCandidates db current).length := by
    simpa using hperm.length_eq
  have hentry : ∀ scored ∈ rankedPool currentProfile hmonday candidates, _ :=
    fun scored hscored => rankedPool_entry hload hscored
  have hordered : (rankedPool currentProfile hmonday candidates).Pairwise _ :=
    rankedPool_ordered hnodup
  exact {
    complete := by
      rw [concatenatedItems_ranked hsize, List.map_map]
      exact hperm
    once := by
      rw [concatenatedItems_ranked hsize, List.map_map]
      exact hperm.nodup_iff.mpr eligibleCandidates_nodup
    profiles := by
      rw [concatenatedItems_ranked hsize]
      intro item hitem
      obtain ⟨scored, hscored, rfl⟩ := List.mem_map.mp hitem
      exact (hentry scored hscored).1
    scored := by
      rw [concatenatedItems_ranked hsize]
      intro item hitem
      obtain ⟨scored, hscored, rfl⟩ := List.mem_map.mp hitem
      obtain ⟨_, hprecise, hrounded⟩ := hentry scored hscored
      exact hrounded.trans (congrArg roundHalfUp hprecise)
    ordered := by
      rw [concatenatedItems_ranked hsize, List.pairwise_map]
      refine hordered.imp_of_mem fun hfirst hsecond hbefore => ?_
      rw [(hentry _ hfirst).2.1, (hentry _ hsecond).2.1] at hbefore
      exact hbefore
    displayed := by
      rw [concatenatedItems_ranked hsize, List.pairwise_map]
      refine hordered.imp_of_mem fun hfirst hsecond hbefore => ?_
      have hprecise := hbefore.elim le_of_lt fun hsame => hsame.1.ge
      rw [shownEntry, shownEntry, (hentry _ hfirst).2.2, (hentry _ hsecond).2.2]
      exact roundHalfUp_monotone hprecise
    counted := fun page => by
      refine ⟨htotal, ?_⟩
      rw [rankedResponse_totalPages, windowCount_eq_ceil hsize, htotal]
    past := fun page hpage => by
      rw [rankedResponse_totalPages] at hpage
      have hnone : window (rankedPool currentProfile hmonday candidates) pageSize (page - 1) =
          [] := window_eq_nil hsize (by omega)
      change (window _ pageSize (page - 1)).map _ = []
      rw [hnone]
      rfl }

theorem ranked_pages_partition (context : ScoringContext) (db : MatchingDatabase)
    (current : EligibleMatchingPrincipal) (locale : CatalogLocale) (pageSize : Nat)
    (referenceWeekStart : Int) (hnumbers : RoundsInOrder context.publicNumber)
    (hsize : 1 ≤ pageSize ∧ pageSize ≤ maxPageSize)
    (hmonday : isMonday referenceWeekStart = true)
    (currentProfile : SafeMatchingProfile context.zoneInfo)
    (candidates : List (EligibleMatchingCandidate context))
    (hload : loadMatchingScoringProfiles context db.toStudentTables db.buddyMatches current
      locale (maxRecommendationCandidates + 1) = .ok (some (currentProfile, candidates)))
    (hcapacity : candidates.length ≤ maxRecommendationCandidates) :
    ∃ responses : Nat → ListResponse (MatchingRecommendation context),
      (∀ page, 1 ≤ page →
        listRankedMatchingRecommendations context db current locale page pageSize
          referenceWeekStart = .ok (responses page)) ∧
        RankedPages context db current currentProfile pageSize referenceWeekStart
          responses := by
  refine ⟨rankedResponse context (rankedPool currentProfile hmonday candidates) pageSize
    referenceWeekStart, fun page hpage => ?_, rankedPages_pool hsize.1 hload hcapacity⟩
  rw [listRankedMatchingRecommendations_page hnumbers hpage hsize hmonday hload hcapacity]
  simp [rankedResponse, rankedPool]

end Pages

namespace ScoreWitness

/-- The pages of length one for the Vietnamese student of the sample database. -/
theorem ranked_pages_partition_students :
    ∃ sender ∈ eligiblePrincipalOf ScoreWitness.context.unicode database 7,
      ∃ currentProfile responses,
        (∀ page, 1 ≤ page → listRankedMatchingRecommendations ScoreWitness.context database
          sender .de page 1 monday = .ok (responses page)) ∧
        RankedPages ScoreWitness.context database sender currentProfile 1 monday responses := by
  have hloads : ∃ sender ∈ eligiblePrincipalOf ScoreWitness.context.unicode database 7,
      ∃ loaded ∈ (loadMatchingScoringProfiles ScoreWitness.context database.toStudentTables
        database.buddyMatches sender .de (maxRecommendationCandidates + 1)).toOption,
      ∃ pool ∈ loaded, pool.2.length ≤ maxRecommendationCandidates := by
    decide +kernel
  obtain ⟨sender, hsender, loaded, hloaded, ⟨currentProfile, candidates⟩, rfl, hlength⟩ :=
    hloads
  exact ⟨sender, hsender, currentProfile,
    ranked_pages_partition ScoreWitness.context database sender .de 1 monday
      ⟨monotone_id, fun _ _ => rfl⟩ (by decide) (by decide) currentProfile candidates
      (ok_of_toOption hloaded) hlength⟩

end ScoreWitness

end BuddyWeb
