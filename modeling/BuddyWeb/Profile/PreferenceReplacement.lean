/-
The four preference replacements with what they return, the read which follows them, and the
three single groups next to the combined write.
-/
import BuddyWeb.Lib.SortByKey
import BuddyWeb.Lib.TableHistory
import BuddyWeb.Profile.OptimisticConcurrency
import BuddyWeb.Matching.CustomIdentity

namespace BuddyWeb

@[ext]
structure CustomPreferenceSelection where
  label : String
  label_nonempty : label ≠ ""
  label_le : label.length ≤ maxDisplayLabelLength
  deriving Repr

instance : DecidableEq CustomPreferenceSelection := fun _ _ =>
  decidable_of_iff _ CustomPreferenceSelection.ext_iff.symm

structure CustomLanguageSelection extends CustomPreferenceSelection where
  proficiency : LanguageProficiency
  deriving DecidableEq, Repr

structure ProfileCatalogSelections where
  interestIds : List Nat
  customInterests : List CustomPreferenceSelection
  languages : List ProfileLanguageSelection
  customLanguages : List CustomLanguageSelection
  activityIds : List Nat
  customActivities : List CustomPreferenceSelection
  deriving DecidableEq, Repr

structure ProfilePreferenceSnapshot extends ProfileCatalogSelections where
  version : Nat
  deriving DecidableEq, Repr

structure ProfileInterestMutation where
  version : Nat
  interestIds : List Nat
  customInterests : List CustomPreferenceSelection
  deriving DecidableEq, Repr

structure ProfileLanguageMutation where
  version : Nat
  languages : List ProfileLanguageSelection
  customLanguages : List CustomLanguageSelection
  deriving DecidableEq, Repr

structure ProfileActivityMutation where
  version : Nat
  activityIds : List Nat
  customActivities : List CustomPreferenceSelection
  deriving DecidableEq, Repr

/-- `_custom_rows`: the rows of one kind in the order of their keys. -/
def readCustomRows (customs : List ProfileCustomPreference) (kind : PreferenceKind) :
    List ProfileCustomPreference :=
  (customRows customs kind).insertionSort fun first second =>
    first.normalizedKey ≤ second.normalizedKey

def customLabelSelections (rows : List ProfileCustomPreference) :
    List CustomPreferenceSelection :=
  rows.map fun row => ⟨row.displayLabel, row.displayLabel_nonempty, row.displayLabel_le⟩

def customLanguageSelections (rows : List ProfileCustomPreference) :
    List CustomLanguageSelection :=
  rows.filterMap fun row => row.proficiency.map fun proficiency =>
    ⟨⟨row.displayLabel, row.displayLabel_nonempty, row.displayLabel_le⟩, proficiency⟩

def readCatalogSelections (record : ProfileRecord) : ProfileCatalogSelections where
  interestIds := record.readInterestIds
  customInterests := customLabelSelections (readCustomRows record.customs .interest)
  languages := record.readLanguages
  customLanguages := customLanguageSelections (readCustomRows record.customs .language)
  activityIds := record.readActivityIds
  customActivities := customLabelSelections (readCustomRows record.customs .activity)

def getOwnCatalogSelections (owner : User) (record : ProfileRecord) :
    Except ProfileError ProfileCatalogSelections := do
  ensure (owner.isAvailable = true ∧ record.profile.userId = owner.id ∧
    record.profile.deletedAt = none) .accessDenied
  return readCatalogSelections record

/-- The read, with the record which it leaves: a first read stages a draft. -/
def getOwnPreferenceSnapshot (context : ProfileContext) (owner : User)
    (stored : Option ProfileRecord) :
    Except ProfileError (ProfileRecord × ProfilePreferenceSnapshot) := do
  let record ← getOrCreateOwnProfileForUpdate context owner stored
  let selections ← getOwnCatalogSelections owner record
  return (record, ⟨selections, record.profile.version⟩)

def customLabelOutput (values : List PreparedCustomPreference) :
    List CustomPreferenceSelection :=
  values.map fun value => ⟨value.displayLabel, value.displayLabel_nonempty, value.displayLabel_le⟩

def customLanguageOutput (values : List PreparedCustomPreference) :
    List CustomLanguageSelection :=
  values.filterMap fun value => value.proficiency.map fun proficiency =>
    ⟨⟨value.displayLabel, value.displayLabel_nonempty, value.displayLabel_le⟩, proficiency⟩

section Mutations

variable (context : ProfileContext) (owner : User) (stored : Option ProfileRecord)

/-- `replace_own_interests` with its result, which names the prepared values. -/
def interestMutation (version : Nat) (group : InterestGroup) :
    Except ProfileError (ProfileRecord × ProfileInterestMutation) := do
  let record ← replaceOwnInterests context owner stored version group
  let (ids, customs) ← prepareInterests context group
  return (record, ⟨record.profile.version, ids, customLabelOutput customs⟩)

def languageMutation (version : Nat) (group : LanguageGroup) :
    Except ProfileError (ProfileRecord × ProfileLanguageMutation) := do
  let record ← replaceOwnLanguages context owner stored version group
  let (languages, customs) ← prepareLanguages context group
  return (record, ⟨record.profile.version, languages, customLanguageOutput customs⟩)

def activityMutation (version : Nat) (group : ActivityGroup) :
    Except ProfileError (ProfileRecord × ProfileActivityMutation) := do
  let record ← replaceOwnActivities context owner stored version group
  let (ids, customs) ← prepareActivities context group
  return (record, ⟨record.profile.version, ids, customLabelOutput customs⟩)

def preferenceMutation (update : ProfilePreferenceUpdate) :
    Except ProfileError (ProfileRecord × ProfilePreferenceSnapshot) := do
  let record ← replaceOwnPreferences context owner stored update
  let (interestIds, customInterests) ← prepareInterests context update.interests
  let (languages, customLanguages) ← prepareLanguages context update.languages
  let (activityIds, customActivities) ← prepareActivities context update.activities
  return (record,
    { version := record.profile.version
      interestIds := interestIds
      customInterests := customLabelOutput customInterests
      languages := languages
      customLanguages := customLanguageOutput customLanguages
      activityIds := activityIds
      customActivities := customLabelOutput customActivities })

end Mutations

/-- A request for one preference group. -/
inductive GroupWrite
  | interests (group : InterestGroup)
  | languages (group : LanguageGroup)
  | activities (group : ActivityGroup)

/-- One group is written at the version which its owner has read. -/
def GroupWrite.run (context : ProfileContext) (owner : User) (stored : Option ProfileRecord)
    (version : Nat) : GroupWrite → Except ProfileError ProfileRecord
  | .interests group => replaceOwnInterests context owner stored version group
  | .languages group => replaceOwnLanguages context owner stored version group
  | .activities group => replaceOwnActivities context owner stored version group

/-- Groups written one after another, each at the version which the one before left. -/
def writeGroups (context : ProfileContext) (owner : User) (record : ProfileRecord) :
    List GroupWrite → Except ProfileError ProfileRecord
  | [] => .ok record
  | write :: rest => do
      let record ← write.run context owner (some record) record.profile.version
      writeGroups context owner record rest

section Prepared

variable {unicode : UnicodeData} {prepared : List PreparedCustomPreference}

/-- Prepared values are in the order of their keys. -/
def InKeyOrder (prepared : List PreparedCustomPreference) : Prop :=
  prepared.Pairwise fun first second => first.normalizedKey ≤ second.normalizedKey

theorem normalizeCustom_inKeyOrder {values : List (String × Option LanguageProficiency)}
    {keys : List String} (h : normalizeCustom unicode values keys = .ok prepared) :
    InKeyOrder prepared := by
  obtain ⟨unsorted, _, rfl⟩ := except_map_eq_ok_iff.mp h
  exact pairwise_insertionSort_key PreparedCustomPreference.normalizedKey unsorted

/-- The signature of the custom values of a request, in the order of the request. -/
def requestedSignature (unicode : UnicodeData)
    (values : List (String × Option LanguageProficiency)) : CustomSignature :=
  values.map fun value =>
    (unicode.casefold (collapseWhitespace (unicode.nfkc value.1)),
      collapseWhitespace value.1, value.2)

theorem normalizePreferenceIdentity_eq {label : String} {identity : PreferenceIdentity}
    (h : normalizePreferenceIdentity unicode label = .ok identity) :
    identity.normalizedKey = unicode.casefold (collapseWhitespace (unicode.nfkc label)) ∧
      identity.displayLabel = collapseWhitespace label := by
  dsimp only [normalizePreferenceIdentity] at h
  split_ifs at h
  obtain rfl := Except.ok.inj h
  exact ⟨rfl, rfl⟩

/-- The loop prepares every value of the request, in its order. -/
theorem normalizeCustomLoop_signature {catalogKeys seen : List String}
    {values : List (String × Option LanguageProficiency)}
    (h : normalizeCustomLoop unicode catalogKeys seen values = .ok prepared) :
    preparedSignature prepared = requestedSignature unicode values := by
  induction values generalizing seen prepared with
  | nil =>
      obtain rfl := Except.ok.inj h
      rfl
  | cons head rest ih =>
      rcases head with ⟨label, proficiency⟩
      simp only [normalizeCustomLoop] at h
      split at h
      · exact absurd h (by simp)
      · rename_i identity hidentity
        obtain ⟨hkey, hlabel⟩ := normalizePreferenceIdentity_eq hidentity
        split at h
        · exact absurd h (by simp)
        · obtain ⟨tail, htail, rfl⟩ := except_map_eq_ok_iff.mp h
          exact congrArg₂ List.cons (Prod.ext hkey (Prod.ext hlabel rfl)) (ih htail)

theorem normalizeCustom_signature {values : List (String × Option LanguageProficiency)}
    {keys : List String} (h : normalizeCustom unicode values keys = .ok prepared) :
    (preparedSignature prepared).Perm (requestedSignature unicode values) := by
  obtain ⟨unsorted, hunsorted, rfl⟩ := except_map_eq_ok_iff.mp h
  rw [← normalizeCustomLoop_signature hunsorted]
  exact (List.perm_insertionSort _ _).map _

variable {context : ProfileContext}

theorem prepareItems_perm {catalog : List CatalogItem} {message : String} {requested : List Nat}
    {inputs : List CustomPreferenceInput} {ids : List Nat} (hrequested : requested.Nodup)
    (h : prepareItems unicode catalog message requested inputs = .ok (ids, prepared)) :
    ids.Perm requested ∧ (preparedSignature prepared).Perm
      (requestedSignature unicode (inputs.map fun item => (item.label, none))) := by
  simp only [prepareItems, except_bind_eq_ok_iff, except_pure_eq_ok_iff, Prod.mk.injEq] at h
  obtain ⟨_, _, keys, _, custom, hcustom, rfl, rfl⟩ := h
  rw [hrequested.dedup]
  exact ⟨List.perm_insertionSort _ _, normalizeCustom_signature hcustom⟩

theorem prepareLanguages_perm {group : LanguageGroup}
    {languages : List ProfileLanguageSelection}
    (h : prepareLanguages context group = .ok (languages, prepared)) :
    languages.Perm group.selected ∧ (preparedSignature prepared).Perm
      (requestedSignature context.unicode
        (group.customs.map fun item => (item.label, some item.proficiency))) := by
  simp only [prepareLanguages, except_bind_eq_ok_iff, except_pure_eq_ok_iff,
    Prod.mk.injEq] at h
  obtain ⟨_, _, keys, _, custom, hcustom, rfl, rfl⟩ := h
  exact ⟨List.perm_insertionSort _ _, normalizeCustom_signature hcustom⟩

theorem prepareItems_sorted {catalog : List CatalogItem} {message : String} {requested : List Nat}
    {inputs : List CustomPreferenceInput} {ids : List Nat}
    (h : prepareItems unicode catalog message requested inputs = .ok (ids, prepared)) :
    ids.insertionSort (· ≤ ·) = ids ∧ ids.Nodup ∧ InKeyOrder prepared := by
  simp only [prepareItems, except_bind_eq_ok_iff, except_pure_eq_ok_iff, Prod.mk.injEq] at h
  obtain ⟨_, _, keys, _, custom, hcustom, rfl, rfl⟩ := h
  refine ⟨?_, ?_, normalizeCustom_inKeyOrder hcustom⟩
  · exact insertionSort_key_idem (id : Nat → Nat) _
  · exact (List.perm_insertionSort _ _).nodup_iff.mpr (List.nodup_dedup _)

theorem prepareLanguages_sorted {group : LanguageGroup}
    {languages : List ProfileLanguageSelection}
    (h : prepareLanguages context group = .ok (languages, prepared)) :
    (languages.insertionSort fun first second => first.languageCode ≤ second.languageCode) =
        languages ∧ InKeyOrder prepared := by
  simp only [prepareLanguages, except_bind_eq_ok_iff, except_pure_eq_ok_iff,
    Prod.mk.injEq] at h
  obtain ⟨_, _, keys, _, custom, hcustom, rfl, rfl⟩ := h
  exact ⟨insertionSort_key_idem ProfileLanguageSelection.languageCode _,
    normalizeCustom_inKeyOrder hcustom⟩

/-- The rows of prepared values have the signature of the values. -/
theorem rowSignature_customModels (kind : PreferenceKind) (h : InKeyOrder prepared) :
    rowSignature (customModels kind prepared) = preparedSignature prepared := by
  have hkeys : (customModels kind prepared).map ProfileCustomPreference.normalizedKey =
      prepared.map PreparedCustomPreference.normalizedKey := by
    rw [customModels, List.map_map]
    rfl
  rw [rowSignature, insertionSort_of_map_key _ hkeys h, customModels, List.map_map]
  rfl

end Prepared

/-- What the tables and the lookup by owner guarantee of a stored profile. -/
structure ProfileRecord.OwnedBy (record : ProfileRecord) (owner : User) : Prop where
  owner : record.profile.userId = owner.id
  undeleted : record.profile.deletedAt = none
  activities : record.activityIds.Nodup

theorem ownedBy_draft (owner : User) (id : Nat) :
    (ProfileRecord.draft id owner.id).OwnedBy owner :=
  ⟨rfl, rfl, List.nodup_nil⟩

/-- The record holds prepared values of one group: the test of each replacement. -/
def HoldsInterests (record : ProfileRecord)
    (prepared : List Nat × List PreparedCustomPreference) : Prop :=
  prepared.1 = record.readInterestIds ∧
    preparedSignature prepared.2 = rowSignature (customRows record.customs .interest)

def HoldsLanguages (record : ProfileRecord)
    (prepared : List ProfileLanguageSelection × List PreparedCustomPreference) : Prop :=
  prepared.1 = record.readLanguages ∧
    preparedSignature prepared.2 = rowSignature (customRows record.customs .language)

def HoldsActivities (record : ProfileRecord)
    (prepared : List Nat × List PreparedCustomPreference) : Prop :=
  prepared.1 = record.readActivityIds ∧
    preparedSignature prepared.2 = rowSignature (customRows record.customs .activity)

/-- A write of some groups leaves the rows of the others. -/
structure Rewrites (written : PreferenceKind → Prop) (before after : ProfileRecord) : Prop where
  interests : ¬ written .interest → after.interestIds = before.interestIds
  languages : ¬ written .language → after.languages = before.languages
  activities : ¬ written .activity → after.activityIds = before.activityIds
  customs : ∀ kind, ¬ written kind → customRows after.customs kind = customRows before.customs kind
  owner : after.profile.userId = before.profile.userId
  deletedAt : after.profile.deletedAt = before.profile.deletedAt

namespace Rewrites

variable {written : PreferenceKind → Prop} {before after : ProfileRecord}

theorem refl (written : PreferenceKind → Prop) (record : ProfileRecord) :
    Rewrites written record record :=
  ⟨fun _ => rfl, fun _ => rfl, fun _ => rfl, fun _ _ => rfl, rfl, rfl⟩

theorem holdsInterests (h : Rewrites written before after) (hkind : ¬ written .interest)
    {prepared : List Nat × List PreparedCustomPreference}
    (hholds : HoldsInterests before prepared) : HoldsInterests after prepared := by
  rw [HoldsInterests, ProfileRecord.readInterestIds, h.interests hkind, h.customs _ hkind]
  exact hholds

theorem holdsLanguages (h : Rewrites written before after) (hkind : ¬ written .language)
    {prepared : List ProfileLanguageSelection × List PreparedCustomPreference}
    (hholds : HoldsLanguages before prepared) : HoldsLanguages after prepared := by
  rw [HoldsLanguages, ProfileRecord.readLanguages, h.languages hkind, h.customs _ hkind]
  exact hholds

theorem holdsActivities (h : Rewrites written before after) (hkind : ¬ written .activity)
    {prepared : List Nat × List PreparedCustomPreference}
    (hholds : HoldsActivities before prepared) : HoldsActivities after prepared := by
  rw [HoldsActivities, ProfileRecord.readActivityIds, h.activities hkind, h.customs _ hkind]
  exact hholds

end Rewrites

section Writes

variable {context : ProfileContext} {owner : User} {stored : Option ProfileRecord}
  {version : Nat} {held record : ProfileRecord}

theorem getOrCreate_ownedBy (hstored : ∀ old ∈ stored, old.OwnedBy owner)
    (h : getOrCreateOwnProfileForUpdate context owner stored = .ok held) :
    owner.isAvailable = true ∧ held.OwnedBy owner := by
  simp only [getOrCreateOwnProfileForUpdate, requireProfileOwner, except_bind_eq_ok_iff,
    ensure_eq_ok_iff, except_pure_eq_ok_iff] at h
  obtain ⟨_, havailable, rfl⟩ := h
  refine ⟨havailable, ?_⟩
  cases stored with
  | none => exact ownedBy_draft owner _
  | some old => exact hstored old rfl

theorem getOrCreate_eq (h : getOrCreateOwnProfileForUpdate context owner stored = .ok held) :
    held = stored.getD (.draft context.freshProfileId owner.id) := by
  simp only [getOrCreateOwnProfileForUpdate, except_bind_eq_ok_iff,
    except_pure_eq_ok_iff] at h
  obtain ⟨_, _, rfl⟩ := h
  rfl

theorem getOrCreate_of_available (havailable : owner.isAvailable = true)
    (record : ProfileRecord) :
    getOrCreateOwnProfileForUpdate context owner (some record) = .ok record := by
  simp only [getOrCreateOwnProfileForUpdate, requireProfileOwner, except_bind_eq_ok_iff,
    ensure_eq_ok_iff, except_pure_eq_ok_iff]
  exact ⟨(), havailable, rfl⟩

/-- The activity relation after its replacement is read as the requested one. -/
theorem readActivityIds_replaced {requested : List Nat} (hheld : held.OwnedBy owner)
    (hsorted : requested.insertionSort (· ≤ ·) = requested) (hnodup : requested.Nodup) :
    (replaceProfileActivityIds held.readActivityIds requested).insertionSort (· ≤ ·) =
      requested := by
  unfold replaceProfileActivityIds
  split
  · rename_i hsame
    have hread : held.readActivityIds.Nodup := readActivityIds_nodup hheld.activities
    have hperm : held.readActivityIds.Perm requested :=
      (List.perm_ext_iff_of_nodup hread hnodup).mpr fun id => ⟨@hsame.2 id, @hsame.1 id⟩
    have hsortedPerm : (held.readActivityIds.insertionSort (· ≤ ·)).Perm
        (requested.insertionSort (· ≤ ·)) :=
      (List.perm_insertionSort _ _).trans (hperm.trans (List.perm_insertionSort _ _).symm)
    rw [hsortedPerm.eq_of_pairwise' List.sortedLE_insertionSort.pairwise
      List.sortedLE_insertionSort.pairwise, hsorted]
  · rw [hnodup.dedup, hsorted, hsorted]

theorem replaceOwnInterests_spec {group : InterestGroup}
    (h : replaceOwnInterests context owner stored version group = .ok record) :
    ∃ held prepared, getOrCreateOwnProfileForUpdate context owner stored = .ok held ∧
      prepareInterests context group = .ok prepared ∧ HoldsInterests record prepared ∧
      Rewrites (· = .interest) held record := by
  simp only [replaceOwnInterests, except_bind_eq_ok_iff] at h
  obtain ⟨held, hheld, _, _, ⟨ids, customs⟩, hprepared, hresult⟩ := h
  obtain ⟨hsorted, _, horder⟩ := prepareItems_sorted hprepared
  refine ⟨held, (ids, customs), hheld, hprepared, ?_⟩
  split at hresult
  · rename_i hunchanged
    obtain rfl := Except.ok.inj hresult
    exact ⟨hunchanged, .refl _ _⟩
  · obtain rfl := Except.ok.inj hresult
    constructor
    · constructor
      · exact hsorted.symm
      · simp only [ProfileRecord.bumpVersion, customRows_replaceCustomKind, if_true]
        exact (rowSignature_customModels .interest horder).symm
    · refine ⟨by simp, fun _ => rfl, fun _ => rfl, fun kind hkind => ?_, rfl, rfl⟩
      simp only [ProfileRecord.bumpVersion, customRows_replaceCustomKind]
      rw [if_neg (Ne.symm hkind)]

theorem replaceOwnLanguages_spec {group : LanguageGroup}
    (h : replaceOwnLanguages context owner stored version group = .ok record) :
    ∃ held prepared, getOrCreateOwnProfileForUpdate context owner stored = .ok held ∧
      prepareLanguages context group = .ok prepared ∧ HoldsLanguages record prepared ∧
      Rewrites (· = .language) held record := by
  simp only [replaceOwnLanguages, except_bind_eq_ok_iff] at h
  obtain ⟨held, hheld, _, _, ⟨languages, customs⟩, hprepared, hresult⟩ := h
  obtain ⟨hsorted, horder⟩ := prepareLanguages_sorted hprepared
  refine ⟨held, (languages, customs), hheld, hprepared, ?_⟩
  split at hresult
  · rename_i hunchanged
    obtain rfl := Except.ok.inj hresult
    exact ⟨hunchanged, .refl _ _⟩
  · obtain rfl := Except.ok.inj hresult
    constructor
    · constructor
      · exact hsorted.symm
      · simp only [ProfileRecord.bumpVersion, customRows_replaceCustomKind, if_true]
        exact (rowSignature_customModels .language horder).symm
    · refine ⟨fun _ => rfl, by simp, fun _ => rfl, fun kind hkind => ?_, rfl, rfl⟩
      simp only [ProfileRecord.bumpVersion, customRows_replaceCustomKind]
      rw [if_neg (Ne.symm hkind)]

theorem replaceOwnActivities_spec {group : ActivityGroup}
    (hstored : ∀ old ∈ stored, old.OwnedBy owner)
    (h : replaceOwnActivities context owner stored version group = .ok record) :
    ∃ held prepared, getOrCreateOwnProfileForUpdate context owner stored = .ok held ∧
      prepareActivities context group = .ok prepared ∧ HoldsActivities record prepared ∧
      Rewrites (· = .activity) held record ∧ record.activityIds.Nodup := by
  simp only [replaceOwnActivities, except_bind_eq_ok_iff] at h
  obtain ⟨held, hheld, _, _, ⟨ids, customs⟩, hprepared, hresult⟩ := h
  obtain ⟨hsorted, hnodup, horder⟩ := prepareItems_sorted hprepared
  obtain ⟨_, howned⟩ := getOrCreate_ownedBy hstored hheld
  refine ⟨held, (ids, customs), hheld, hprepared, ?_⟩
  split at hresult
  · rename_i hunchanged
    obtain rfl := Except.ok.inj hresult
    exact ⟨hunchanged, .refl _ _, howned.activities⟩
  · obtain rfl := Except.ok.inj hresult
    refine ⟨⟨?_, ?_⟩, ⟨fun _ => rfl, fun _ => rfl, by simp, fun kind hkind => ?_, rfl, rfl⟩, ?_⟩
    · exact (readActivityIds_replaced howned hsorted hnodup).symm
    · simp only [ProfileRecord.bumpVersion, customRows_replaceCustomKind, if_true]
      exact (rowSignature_customModels .activity horder).symm
    · simp only [ProfileRecord.bumpVersion, customRows_replaceCustomKind]
      rw [if_neg (Ne.symm hkind)]
    · exact replaceProfileActivityIds_nodup (readActivityIds_nodup howned.activities)

theorem replaceOwnPreferences_spec {update : ProfilePreferenceUpdate}
    (hstored : ∀ old ∈ stored, old.OwnedBy owner)
    (h : replaceOwnPreferences context owner stored update = .ok record) :
    ∃ held interests languages activities,
      getOrCreateOwnProfileForUpdate context owner stored = .ok held ∧
      prepareInterests context update.interests = .ok interests ∧
      prepareLanguages context update.languages = .ok languages ∧
      prepareActivities context update.activities = .ok activities ∧
      HoldsInterests record interests ∧ HoldsLanguages record languages ∧
      HoldsActivities record activities ∧ Rewrites (fun _ => True) held record ∧
      record.activityIds.Nodup := by
  simp only [replaceOwnPreferences, except_bind_eq_ok_iff] at h
  obtain ⟨held, hheld, _, _, ⟨interestIds, interestCustoms⟩, hinterests,
    ⟨languages, languageCustoms⟩, hlanguages, ⟨activityIds, activityCustoms⟩, hactivities,
    hresult⟩ := h
  obtain ⟨hinterestsSorted, _, hinterestOrder⟩ := prepareItems_sorted hinterests
  obtain ⟨hlanguagesSorted, hlanguageOrder⟩ := prepareLanguages_sorted hlanguages
  obtain ⟨hactivitiesSorted, hnodup, hactivityOrder⟩ := prepareItems_sorted hactivities
  obtain ⟨_, howned⟩ := getOrCreate_ownedBy hstored hheld
  refine ⟨held, _, _, _, hheld, hinterests, hlanguages, hactivities, ?_⟩
  split at hresult
  · rename_i hunchanged
    obtain rfl := Except.ok.inj hresult
    obtain ⟨hinterest, hlanguage, hactivity, hinterestCustom, hlanguageCustom,
      hactivityCustom⟩ := hunchanged
    exact ⟨⟨hinterest, hinterestCustom⟩, ⟨hlanguage, hlanguageCustom⟩,
      ⟨hactivity, hactivityCustom⟩, .refl _ _, howned.activities⟩
  · obtain rfl := Except.ok.inj hresult
    refine ⟨⟨hinterestsSorted.symm, ?_⟩, ⟨hlanguagesSorted.symm, ?_⟩, ⟨?_, ?_⟩,
      ⟨by simp, by simp, by simp, by simp, rfl, rfl⟩, ?_⟩
    · simp only [ProfileRecord.bumpVersion, customRows_append, customRows_customModels]
      simpa using (rowSignature_customModels .interest hinterestOrder).symm
    · simp only [ProfileRecord.bumpVersion, customRows_append, customRows_customModels]
      simpa using (rowSignature_customModels .language hlanguageOrder).symm
    · exact (readActivityIds_replaced howned hactivitiesSorted hnodup).symm
    · simp only [ProfileRecord.bumpVersion, customRows_append, customRows_customModels]
      simpa using (rowSignature_customModels .activity hactivityOrder).symm
    · exact replaceProfileActivityIds_nodup (readActivityIds_nodup howned.activities)

end Writes

section Reads

variable {values : List PreparedCustomPreference} {rows : List ProfileCustomPreference}
  {record : ProfileRecord}

/-- Values and rows with one signature are, place by place, the same custom preference. -/
theorem forall₂_of_signature (h : preparedSignature values = rowSignature rows) :
    List.Forall₂ (fun (value : PreparedCustomPreference) (row : ProfileCustomPreference) =>
        (value.normalizedKey, value.displayLabel, value.proficiency) =
          (row.normalizedKey, row.displayLabel, row.proficiency)) values
      (rows.insertionSort fun first second => first.normalizedKey ≤ second.normalizedKey) := by
  rw [preparedSignature, rowSignature, ← List.forall₂_eq_eq_eq, List.forall₂_map_left_iff,
    List.forall₂_map_right_iff] at h
  exact h

/-- The labels which are read are those of the signature. -/
theorem labels_customLabelSelections (customs : List ProfileCustomPreference)
    (kind : PreferenceKind) :
    (customLabelSelections (readCustomRows customs kind)).map (·.label) =
      (rowSignature (customRows customs kind)).map (·.2.1) := by
  rw [customLabelSelections, readCustomRows, rowSignature, List.map_map, List.map_map]
  rfl

theorem entries_customLanguageSelections (customs : List ProfileCustomPreference)
    (kind : PreferenceKind) :
    (customLanguageSelections (readCustomRows customs kind)).map
        (fun custom => (custom.label, custom.proficiency)) =
      (rowSignature (customRows customs kind)).filterMap fun entry =>
        entry.2.2.map fun proficiency => (entry.2.1, proficiency) := by
  rw [customLanguageSelections, readCustomRows, rowSignature, List.map_filterMap,
    List.filterMap_map]
  refine List.filterMap_congr fun row _ => ?_
  rw [Option.map_map]
  rfl

theorem customLabelOutput_eq {kind : PreferenceKind} {customs : List ProfileCustomPreference}
    (h : preparedSignature values = rowSignature (customRows customs kind)) :
    customLabelOutput values = customLabelSelections (readCustomRows customs kind) := by
  refine (map_eq_of_forall₂ (forall₂_of_signature h) fun value row hsame => ?_).symm
  have hlabel : value.displayLabel = row.displayLabel := congrArg (·.2.1) hsame
  exact CustomPreferenceSelection.ext hlabel.symm

theorem customLanguageOutput_eq {kind : PreferenceKind}
    {customs : List ProfileCustomPreference}
    (h : preparedSignature values = rowSignature (customRows customs kind)) :
    customLanguageOutput values = customLanguageSelections (readCustomRows customs kind) := by
  have hpairs := forall₂_of_signature h
  clear h
  unfold customLanguageOutput customLanguageSelections readCustomRows
  generalize ((customRows customs kind).insertionSort fun first second =>
    first.normalizedKey ≤ second.normalizedKey) = sorted at hpairs ⊢
  induction hpairs with
  | nil => rfl
  | @cons value row _ _ hsame _ ih =>
      have hlabel : value.displayLabel = row.displayLabel := congrArg (·.2.1) hsame
      have hproficiency : value.proficiency = row.proficiency := congrArg (·.2.2) hsame
      have hhead : (value.proficiency.map fun proficiency =>
          (⟨⟨value.displayLabel, value.displayLabel_nonempty, value.displayLabel_le⟩,
            proficiency⟩ : CustomLanguageSelection)) = row.proficiency.map fun proficiency =>
          ⟨⟨row.displayLabel, row.displayLabel_nonempty, row.displayLabel_le⟩, proficiency⟩ := by
        rw [hproficiency]
        simp only [hlabel]
      rw [List.filterMap_cons, List.filterMap_cons, hhead, ih]

/-- Rows with the signature of prepared values keep apart from the catalog as those do. -/
theorem keysApart_of_signature {unicode : UnicodeData}
    {labels : List (CatalogLabel × CatalogLabel)} {kind : PreferenceKind}
    (hapart : KeysApart unicode labels (customModels kind values))
    (h : preparedSignature values = rowSignature rows) : KeysApart unicode labels rows := by
  obtain ⟨keys, hkeys, hnodup, hfresh⟩ := hapart
  have hmodels : (customModels kind values).map (·.normalizedKey) =
      (preparedSignature values).map Prod.fst := by
    rw [customModels, preparedSignature, List.map_map, List.map_map]
    rfl
  have hsorted : (rowSignature rows).map Prod.fst =
      (rows.insertionSort fun first second =>
        first.normalizedKey ≤ second.normalizedKey).map (·.normalizedKey) := by
    rw [rowSignature, List.map_map]
    rfl
  have hperm : ((customModels kind values).map (·.normalizedKey)).Perm
      (rows.map (·.normalizedKey)) := by
    rw [hmodels, h, hsorted]
    exact (List.perm_insertionSort _ _).map _
  refine ⟨keys, hkeys, hperm.nodup_iff.mp hnodup, fun row hrow => ?_⟩
  have hmem : row.normalizedKey ∈ (customModels kind values).map (·.normalizedKey) :=
    hperm.mem_iff.mpr (List.mem_map.mpr ⟨row, hrow, rfl⟩)
  obtain ⟨custom, hcustom, hkey⟩ := List.mem_map.mp hmem
  exact hkey ▸ hfresh custom hcustom

end Reads

def activityLabels (catalog : Catalog) : List (CatalogLabel × CatalogLabel) :=
  (listSelectableActivities catalog).map fun item => (item.labelEn, item.labelDe)

theorem prepareActivities_keysApart {context : ProfileContext} {group : ActivityGroup}
    {result : List Nat × List PreparedCustomPreference}
    (h : prepareActivities context group = .ok result) (kind : PreferenceKind) :
    KeysApart context.unicode (activityLabels context.catalog)
      (customModels kind result.2) := by
  simp only [prepareActivities, prepareItems, except_bind_eq_ok_iff,
    except_pure_eq_ok_iff] at h
  obtain ⟨_, _, keys, hkeys, prepared, hprepared, rfl⟩ := h
  exact keysApart_customModels kind hkeys hprepared

section Repeats

variable {context : ProfileContext} {owner : User} {record : ProfileRecord}

/-- A group which the record holds is not written again. -/
theorem replaceOwnInterests_of_holds (havailable : owner.isAvailable = true)
    {group : InterestGroup} {prepared : List Nat × List PreparedCustomPreference}
    (hprepared : prepareInterests context group = .ok prepared)
    (hholds : HoldsInterests record prepared) :
    replaceOwnInterests context owner (some record) record.profile.version group =
      .ok record := by
  simp only [replaceOwnInterests, requireVersion, except_bind_eq_ok_iff, ensure_eq_ok_iff]
  refine ⟨record, getOrCreate_of_available havailable record, (), rfl, prepared, hprepared, ?_⟩
  rw [if_pos ⟨hholds.1, hholds.2⟩]
  rfl

theorem replaceOwnLanguages_of_holds (havailable : owner.isAvailable = true)
    {group : LanguageGroup}
    {prepared : List ProfileLanguageSelection × List PreparedCustomPreference}
    (hprepared : prepareLanguages context group = .ok prepared)
    (hholds : HoldsLanguages record prepared) :
    replaceOwnLanguages context owner (some record) record.profile.version group =
      .ok record := by
  simp only [replaceOwnLanguages, requireVersion, except_bind_eq_ok_iff, ensure_eq_ok_iff]
  refine ⟨record, getOrCreate_of_available havailable record, (), rfl, prepared, hprepared, ?_⟩
  rw [if_pos ⟨hholds.1, hholds.2⟩]
  rfl

theorem replaceOwnActivities_of_holds (havailable : owner.isAvailable = true)
    {group : ActivityGroup} {prepared : List Nat × List PreparedCustomPreference}
    (hprepared : prepareActivities context group = .ok prepared)
    (hholds : HoldsActivities record prepared) :
    replaceOwnActivities context owner (some record) record.profile.version group =
      .ok record := by
  simp only [replaceOwnActivities, requireVersion, except_bind_eq_ok_iff, ensure_eq_ok_iff]
  refine ⟨record, getOrCreate_of_available havailable record, (), rfl, prepared, hprepared, ?_⟩
  rw [if_pos ⟨hholds.1, hholds.2⟩]
  rfl

theorem replaceOwnPreferences_of_holds (havailable : owner.isAvailable = true)
    {update : ProfilePreferenceUpdate}
    {interests activities : List Nat × List PreparedCustomPreference}
    {languages : List ProfileLanguageSelection × List PreparedCustomPreference}
    (hinterests : prepareInterests context update.interests = .ok interests)
    (hlanguages : prepareLanguages context update.languages = .ok languages)
    (hactivities : prepareActivities context update.activities = .ok activities)
    (hholdsInterests : HoldsInterests record interests)
    (hholdsLanguages : HoldsLanguages record languages)
    (hholdsActivities : HoldsActivities record activities) :
    replaceOwnPreferences context owner (some record)
      { update with version := record.profile.version } = .ok record := by
  simp only [replaceOwnPreferences, requireVersion, except_bind_eq_ok_iff, ensure_eq_ok_iff]
  refine ⟨record, getOrCreate_of_available havailable record, (), rfl, interests, hinterests,
    languages, hlanguages, activities, hactivities, ?_⟩
  rw [if_pos ⟨hholdsInterests.1, hholdsLanguages.1, hholdsActivities.1, hholdsInterests.2,
    hholdsLanguages.2, hholdsActivities.2⟩]
  rfl

end Repeats

namespace GroupWrite

variable {context : ProfileContext} {owner : User} {held record : ProfileRecord}

def kind : GroupWrite → PreferenceKind
  | .interests _ => .interest
  | .languages _ => .language
  | .activities _ => .activity

/-- The values of the group are accepted. -/
def Accepted (context : ProfileContext) : GroupWrite → Prop
  | .interests group => ∃ prepared, prepareInterests context group = .ok prepared
  | .languages group => ∃ prepared, prepareLanguages context group = .ok prepared
  | .activities group => ∃ prepared, prepareActivities context group = .ok prepared

/-- The record holds the values of the group. -/
def Held (context : ProfileContext) (record : ProfileRecord) : GroupWrite → Prop
  | .interests group => ∃ prepared, prepareInterests context group = .ok prepared ∧
      HoldsInterests record prepared
  | .languages group => ∃ prepared, prepareLanguages context group = .ok prepared ∧
      HoldsLanguages record prepared
  | .activities group => ∃ prepared, prepareActivities context group = .ok prepared ∧
      HoldsActivities record prepared

/-- The rows of the group are those of its request, up to their order. -/
def Stored (context : ProfileContext) (record : ProfileRecord) : GroupWrite → Prop
  | .interests group => record.interestIds.Perm group.selected ∧
      (rowSignature (customRows record.customs .interest)).Perm
        (requestedSignature context.unicode (group.customs.map fun item => (item.label, none)))
  | .languages group => record.languages.Perm group.selected ∧
      (rowSignature (customRows record.customs .language)).Perm
        (requestedSignature context.unicode
          (group.customs.map fun item => (item.label, some item.proficiency)))
  | .activities group => record.activityIds.Perm group.selected ∧
      (rowSignature (customRows record.customs .activity)).Perm
        (requestedSignature context.unicode (group.customs.map fun item => (item.label, none)))

/-- The selections which are read are those of the request, labels with single blanks. -/
def Returned (selections : ProfileCatalogSelections) : GroupWrite → Prop
  | .interests group => selections.interestIds.Perm group.selected ∧
      (selections.customInterests.map (·.label)).Perm
        (group.customs.map fun item => collapseWhitespace item.label)
  | .languages group => selections.languages.Perm group.selected ∧
      (selections.customLanguages.map fun custom => (custom.label, custom.proficiency)).Perm
        (group.customs.map fun item => (collapseWhitespace item.label, item.proficiency))
  | .activities group => selections.activityIds.Perm group.selected ∧
      (selections.customActivities.map (·.label)).Perm
        (group.customs.map fun item => collapseWhitespace item.label)

theorem Held.stored {write : GroupWrite} (h : write.Held context record) :
    write.Stored context record := by
  cases write with
  | interests group =>
      obtain ⟨⟨ids, customs⟩, hprepared, hids, hcustoms⟩ := h
      obtain ⟨hperm, hsignature⟩ :=
        prepareItems_perm (by simpa using group.selected_nodup) hprepared
      exact ⟨(List.perm_insertionSort _ _).symm.trans ((List.Perm.of_eq hids.symm).trans hperm),
        (List.Perm.of_eq hcustoms.symm).trans hsignature⟩
  | languages group =>
      obtain ⟨⟨languages, customs⟩, hprepared, hlanguages, hcustoms⟩ := h
      obtain ⟨hperm, hsignature⟩ := prepareLanguages_perm hprepared
      exact ⟨(List.perm_insertionSort _ _).symm.trans
        ((List.Perm.of_eq hlanguages.symm).trans hperm),
        (List.Perm.of_eq hcustoms.symm).trans hsignature⟩
  | activities group =>
      obtain ⟨⟨ids, customs⟩, hprepared, hids, hcustoms⟩ := h
      obtain ⟨hperm, hsignature⟩ :=
        prepareItems_perm (by simpa using group.selected_nodup) hprepared
      exact ⟨(List.perm_insertionSort _ _).symm.trans ((List.Perm.of_eq hids.symm).trans hperm),
        (List.Perm.of_eq hcustoms.symm).trans hsignature⟩

/-- Stored rows are read back as they were requested. -/
theorem Stored.returned {write : GroupWrite} (h : write.Stored context record) :
    write.Returned (readCatalogSelections record) := by
  cases write with
  | interests group =>
      refine ⟨(List.perm_insertionSort _ _).trans h.1, ?_⟩
      have hlabels := h.2.map fun entry => entry.2.1
      rw [← labels_customLabelSelections, requestedSignature, List.map_map,
        List.map_map] at hlabels
      exact hlabels
  | languages group =>
      refine ⟨(List.perm_insertionSort _ _).trans h.1, ?_⟩
      have hentries := h.2.filterMap fun entry =>
        entry.2.2.map fun proficiency => (entry.2.1, proficiency)
      rw [← entries_customLanguageSelections, requestedSignature, List.map_map,
        List.filterMap_map] at hentries
      simp only [Function.comp_def, Option.map_some, List.filterMap_eq_map'] at hentries
      exact hentries
  | activities group =>
      refine ⟨(List.perm_insertionSort _ _).trans h.1, ?_⟩
      have hlabels := h.2.map fun entry => entry.2.1
      rw [← labels_customLabelSelections, requestedSignature, List.map_map,
        List.map_map] at hlabels
      exact hlabels

theorem Held.rewrites {write : GroupWrite} {written : PreferenceKind → Prop}
    (h : write.Held context held) (hrewrites : Rewrites written held record)
    (hkind : ¬ written write.kind) : write.Held context record := by
  cases write with
  | interests group =>
      obtain ⟨prepared, hprepared, hholds⟩ := h
      exact ⟨prepared, hprepared, hrewrites.holdsInterests hkind hholds⟩
  | languages group =>
      obtain ⟨prepared, hprepared, hholds⟩ := h
      exact ⟨prepared, hprepared, hrewrites.holdsLanguages hkind hholds⟩
  | activities group =>
      obtain ⟨prepared, hprepared, hholds⟩ := h
      exact ⟨prepared, hprepared, hrewrites.holdsActivities hkind hholds⟩

/-- An accepted group is written at the version which was read. -/
theorem run_of_accepted {write : GroupWrite} (held : ProfileRecord)
    (havailable : owner.isAvailable = true)
    (haccepted : write.Accepted context) :
    ∃ record, write.run context owner (some held) held.profile.version = .ok record := by
  have hheld : getOrCreateOwnProfileForUpdate context owner (some held) = .ok held :=
    getOrCreate_of_available havailable held
  cases write with
  | interests group =>
      obtain ⟨prepared, hprepared⟩ := haccepted
      by_cases hholds : HoldsInterests held prepared
      · exact ⟨held, replaceOwnInterests_of_holds havailable hprepared hholds⟩
      · simp only [run, replaceOwnInterests, requireVersion, except_bind_eq_ok_iff,
          ensure_eq_ok_iff]
        exact ⟨_, held, hheld, (), rfl, prepared, hprepared, if_neg hholds⟩
  | languages group =>
      obtain ⟨prepared, hprepared⟩ := haccepted
      by_cases hholds : HoldsLanguages held prepared
      · exact ⟨held, replaceOwnLanguages_of_holds havailable hprepared hholds⟩
      · simp only [run, replaceOwnLanguages, requireVersion, except_bind_eq_ok_iff,
          ensure_eq_ok_iff]
        exact ⟨_, held, hheld, (), rfl, prepared, hprepared, if_neg hholds⟩
  | activities group =>
      obtain ⟨prepared, hprepared⟩ := haccepted
      by_cases hholds : HoldsActivities held prepared
      · exact ⟨held, replaceOwnActivities_of_holds havailable hprepared hholds⟩
      · simp only [run, replaceOwnActivities, requireVersion, except_bind_eq_ok_iff,
          ensure_eq_ok_iff]
        exact ⟨_, held, hheld, (), rfl, prepared, hprepared, if_neg hholds⟩

/-- The record after one group holds it, and the other groups as before. -/
theorem run_spec {write : GroupWrite} (howned : held.OwnedBy owner)
    (hrun : write.run context owner (some held) held.profile.version = .ok record) :
    write.Held context record ∧ Rewrites (· = write.kind) held record ∧
      record.OwnedBy owner := by
  have hstored : ∀ old ∈ some held, old.OwnedBy owner := by
    rintro old ⟨⟩
    exact howned
  cases write with
  | interests group =>
      obtain ⟨found, prepared, hfound, hprepared, hholds, hrewrites⟩ :=
        replaceOwnInterests_spec hrun
      obtain rfl := getOrCreate_some hfound
      refine ⟨⟨prepared, hprepared, hholds⟩, hrewrites, ?_⟩
      exact ⟨hrewrites.owner.trans howned.owner, hrewrites.deletedAt.trans howned.undeleted,
        hrewrites.activities (by simp) ▸ howned.activities⟩
  | languages group =>
      obtain ⟨found, prepared, hfound, hprepared, hholds, hrewrites⟩ :=
        replaceOwnLanguages_spec hrun
      obtain rfl := getOrCreate_some hfound
      refine ⟨⟨prepared, hprepared, hholds⟩, hrewrites, ?_⟩
      exact ⟨hrewrites.owner.trans howned.owner, hrewrites.deletedAt.trans howned.undeleted,
        hrewrites.activities (by simp) ▸ howned.activities⟩
  | activities group =>
      obtain ⟨found, prepared, hfound, hprepared, hholds, hrewrites, hnodup⟩ :=
        replaceOwnActivities_spec hstored hrun
      obtain rfl := getOrCreate_some hfound
      exact ⟨⟨prepared, hprepared, hholds⟩, hrewrites, hrewrites.owner.trans howned.owner,
        hrewrites.deletedAt.trans howned.undeleted, hnodup⟩

theorem rewrites_cons {kinds : List PreferenceKind} {kind : PreferenceKind}
    {before middle after : ProfileRecord} (hfirst : Rewrites (· = kind) before middle)
    (hrest : Rewrites (· ∈ kinds) middle after) : Rewrites (· ∈ kind :: kinds) before after := by
  have hsplit : ∀ {other}, ¬ other ∈ kind :: kinds → ¬ other = kind ∧ ¬ other ∈ kinds := by
    intro other hother
    rwa [List.mem_cons, not_or] at hother
  refine ⟨fun h => ?_, fun h => ?_, fun h => ?_, fun other h => ?_,
    hrest.owner.trans hfirst.owner, hrest.deletedAt.trans hfirst.deletedAt⟩
  · exact (hrest.interests (hsplit h).2).trans (hfirst.interests (hsplit h).1)
  · exact (hrest.languages (hsplit h).2).trans (hfirst.languages (hsplit h).1)
  · exact (hrest.activities (hsplit h).2).trans (hfirst.activities (hsplit h).1)
  · exact (hrest.customs other (hsplit h).2).trans (hfirst.customs other (hsplit h).1)

/-- Accepted groups of different kinds are all held after they were written in any order. -/
theorem writeGroups_spec (order : List GroupWrite) (held : ProfileRecord)
    (hkinds : (order.map kind).Nodup) (haccepted : ∀ write ∈ order, write.Accepted context)
    (havailable : owner.isAvailable = true) (howned : held.OwnedBy owner) :
    ∃ final, writeGroups context owner held order = .ok final ∧
      (∀ write ∈ order, write.Held context final) ∧
      Rewrites (· ∈ order.map kind) held final := by
  induction order generalizing held with
  | nil => exact ⟨held, rfl, by simp, .refl _ _⟩
  | cons write rest ih =>
      rw [List.map_cons, List.nodup_cons] at hkinds
      obtain ⟨record, hrun⟩ := run_of_accepted held havailable
        (haccepted write List.mem_cons_self)
      obtain ⟨hheld, hrewrites, hrecord⟩ := run_spec howned hrun
      obtain ⟨final, hfinal, hrest, hrestRewrites⟩ := ih record hkinds.2
        (fun other hother => haccepted other (List.mem_cons_of_mem _ hother)) hrecord
      refine ⟨final, ?_, ?_, rewrites_cons hrewrites hrestRewrites⟩
      · rw [writeGroups, hrun]
        exact hfinal
      · intro other hother
        rcases List.mem_cons.mp hother with rfl | hother
        · exact hheld.rewrites hrestRewrites hkinds.1
        · exact hrest other hother

end GroupWrite

/-- Two records store the same selections: they read the same, with the same custom keys. -/
def SameSelections (first second : ProfileRecord) : Prop :=
  readCatalogSelections first = readCatalogSelections second ∧
    ∀ kind, rowSignature (customRows first.customs kind) =
      rowSignature (customRows second.customs kind)

section Faithful

variable {context : ProfileContext} {owner : User} {stored : Option ProfileRecord}
  {record : ProfileRecord}

theorem getOwnPreferenceSnapshot_of_owned (havailable : owner.isAvailable = true)
    (howned : record.OwnedBy owner) :
    getOwnPreferenceSnapshot context owner (some record) =
      .ok (record, ⟨readCatalogSelections record, record.profile.version⟩) := by
  have hheld : getOrCreateOwnProfileForUpdate context owner (some record) = .ok record :=
    getOrCreate_of_available havailable record
  simp only [getOwnPreferenceSnapshot, getOwnCatalogSelections, except_bind_eq_ok_iff,
    ensure_eq_ok_iff]
  exact ⟨record, hheld, _, ⟨(), ⟨havailable, howned.owner, howned.undeleted⟩, rfl⟩, rfl⟩

theorem Rewrites.ownedBy {written : PreferenceKind → Prop} {held : ProfileRecord}
    (h : Rewrites written held record) (howned : held.OwnedBy owner)
    (hnodup : record.activityIds.Nodup) : record.OwnedBy owner :=
  ⟨h.owner.trans howned.owner, h.deletedAt.trans howned.undeleted, hnodup⟩

theorem interestMutation_faithful (hstored : ∀ old ∈ stored, old.OwnedBy owner) {version : Nat}
    {group : InterestGroup} {mutation : ProfileInterestMutation}
    (h : interestMutation context owner stored version group = .ok (record, mutation)) :
    (∃ snapshot, getOwnPreferenceSnapshot context owner (some record) = .ok (record, snapshot) ∧
        mutation = ⟨snapshot.version, snapshot.interestIds, snapshot.customInterests⟩ ∧
        (GroupWrite.interests group).Returned snapshot.toProfileCatalogSelections) ∧
      interestMutation context owner (some record) mutation.version group =
        .ok (record, mutation) ∧
      (GroupWrite.interests group).Stored context record ∧
      KeysApart context.unicode (interestLabels context.catalog)
        (customRows record.customs .interest) ∧
      ∀ kind, kind ≠ .interest → customRows record.customs kind =
        customRows (stored.getD (.draft context.freshProfileId owner.id)).customs kind := by
  simp only [interestMutation, except_bind_eq_ok_iff, except_pure_eq_ok_iff,
    Prod.mk.injEq] at h
  obtain ⟨written, hwritten, prepared, hprepared, rfl, rfl⟩ := h
  obtain ⟨held, found, hheld, hfound, hholds, hrewrites⟩ := replaceOwnInterests_spec hwritten
  obtain rfl := Except.ok.inj (hprepared.symm.trans hfound)
  obtain ⟨havailable, howned⟩ := getOrCreate_ownedBy hstored hheld
  have hrecord := hrewrites.ownedBy howned (hrewrites.activities (by simp) ▸ howned.activities)
  have hgroup : (GroupWrite.interests group).Stored context written :=
    GroupWrite.Held.stored ⟨prepared, hprepared, hholds⟩
  refine ⟨⟨_, getOwnPreferenceSnapshot_of_owned havailable hrecord, ?_, hgroup.returned⟩, ?_,
    hgroup, ?_, ?_⟩
  · rw [customLabelOutput_eq hholds.2, hholds.1]
    rfl
  · simp only [interestMutation, except_bind_eq_ok_iff, except_pure_eq_ok_iff]
    exact ⟨written, replaceOwnInterests_of_holds havailable hprepared hholds, prepared, hprepared,
      rfl⟩
  · exact keysApart_of_signature (prepareInterests_keysApart hprepared .interest) hholds.2
  · intro kind hkind
    rw [hrewrites.customs kind hkind, getOrCreate_eq hheld]

theorem languageMutation_faithful (hstored : ∀ old ∈ stored, old.OwnedBy owner) {version : Nat}
    {group : LanguageGroup} {mutation : ProfileLanguageMutation}
    (h : languageMutation context owner stored version group = .ok (record, mutation)) :
    (∃ snapshot, getOwnPreferenceSnapshot context owner (some record) = .ok (record, snapshot) ∧
        mutation = ⟨snapshot.version, snapshot.languages, snapshot.customLanguages⟩ ∧
        (GroupWrite.languages group).Returned snapshot.toProfileCatalogSelections) ∧
      languageMutation context owner (some record) mutation.version group =
        .ok (record, mutation) ∧
      (GroupWrite.languages group).Stored context record ∧
      KeysApart context.unicode (languageLabels context.catalog)
        (customRows record.customs .language) ∧
      ∀ kind, kind ≠ .language → customRows record.customs kind =
        customRows (stored.getD (.draft context.freshProfileId owner.id)).customs kind := by
  simp only [languageMutation, except_bind_eq_ok_iff, except_pure_eq_ok_iff,
    Prod.mk.injEq] at h
  obtain ⟨written, hwritten, prepared, hprepared, rfl, rfl⟩ := h
  obtain ⟨held, found, hheld, hfound, hholds, hrewrites⟩ := replaceOwnLanguages_spec hwritten
  obtain rfl := Except.ok.inj (hprepared.symm.trans hfound)
  obtain ⟨havailable, howned⟩ := getOrCreate_ownedBy hstored hheld
  have hrecord := hrewrites.ownedBy howned (hrewrites.activities (by simp) ▸ howned.activities)
  have hgroup : (GroupWrite.languages group).Stored context written :=
    GroupWrite.Held.stored ⟨prepared, hprepared, hholds⟩
  refine ⟨⟨_, getOwnPreferenceSnapshot_of_owned havailable hrecord, ?_, hgroup.returned⟩, ?_,
    hgroup, ?_, ?_⟩
  · rw [customLanguageOutput_eq hholds.2, hholds.1]
    rfl
  · simp only [languageMutation, except_bind_eq_ok_iff, except_pure_eq_ok_iff]
    exact ⟨written, replaceOwnLanguages_of_holds havailable hprepared hholds, prepared, hprepared,
      rfl⟩
  · exact keysApart_of_signature (prepareLanguages_keysApart hprepared .language) hholds.2
  · intro kind hkind
    rw [hrewrites.customs kind hkind, getOrCreate_eq hheld]

theorem activityMutation_faithful (hstored : ∀ old ∈ stored, old.OwnedBy owner) {version : Nat}
    {group : ActivityGroup} {mutation : ProfileActivityMutation}
    (h : activityMutation context owner stored version group = .ok (record, mutation)) :
    (∃ snapshot, getOwnPreferenceSnapshot context owner (some record) = .ok (record, snapshot) ∧
        mutation = ⟨snapshot.version, snapshot.activityIds, snapshot.customActivities⟩ ∧
        (GroupWrite.activities group).Returned snapshot.toProfileCatalogSelections) ∧
      activityMutation context owner (some record) mutation.version group =
        .ok (record, mutation) ∧
      (GroupWrite.activities group).Stored context record ∧
      KeysApart context.unicode (activityLabels context.catalog)
        (customRows record.customs .activity) ∧
      ∀ kind, kind ≠ .activity → customRows record.customs kind =
        customRows (stored.getD (.draft context.freshProfileId owner.id)).customs kind := by
  simp only [activityMutation, except_bind_eq_ok_iff, except_pure_eq_ok_iff,
    Prod.mk.injEq] at h
  obtain ⟨written, hwritten, prepared, hprepared, rfl, rfl⟩ := h
  obtain ⟨held, found, hheld, hfound, hholds, hrewrites, hnodup⟩ :=
    replaceOwnActivities_spec hstored hwritten
  obtain rfl := Except.ok.inj (hprepared.symm.trans hfound)
  obtain ⟨havailable, howned⟩ := getOrCreate_ownedBy hstored hheld
  have hrecord := hrewrites.ownedBy howned hnodup
  have hgroup : (GroupWrite.activities group).Stored context written :=
    GroupWrite.Held.stored ⟨prepared, hprepared, hholds⟩
  refine ⟨⟨_, getOwnPreferenceSnapshot_of_owned havailable hrecord, ?_, hgroup.returned⟩, ?_,
    hgroup, ?_, ?_⟩
  · rw [customLabelOutput_eq hholds.2, hholds.1]
    rfl
  · simp only [activityMutation, except_bind_eq_ok_iff, except_pure_eq_ok_iff]
    exact ⟨written, replaceOwnActivities_of_holds havailable hprepared hholds, prepared,
      hprepared, rfl⟩
  · exact keysApart_of_signature (prepareActivities_keysApart hprepared .activity) hholds.2
  · intro kind hkind
    rw [hrewrites.customs kind hkind, getOrCreate_eq hheld]

theorem preferenceMutation_faithful (hstored : ∀ old ∈ stored, old.OwnedBy owner)
    {update : ProfilePreferenceUpdate} {snapshot : ProfilePreferenceSnapshot}
    (h : preferenceMutation context owner stored update = .ok (record, snapshot)) :
    getOwnPreferenceSnapshot context owner (some record) = .ok (record, snapshot) ∧
      preferenceMutation context owner (some record)
          { update with version := snapshot.version } = .ok (record, snapshot) ∧
      (∀ write ∈ [.interests update.interests, .languages update.languages,
          .activities update.activities],
        GroupWrite.Stored context record write ∧
          write.Returned snapshot.toProfileCatalogSelections) ∧
      KeysApart context.unicode (interestLabels context.catalog)
        (customRows record.customs .interest) ∧
      KeysApart context.unicode (languageLabels context.catalog)
        (customRows record.customs .language) ∧
      KeysApart context.unicode (activityLabels context.catalog)
        (customRows record.customs .activity) := by
  simp only [preferenceMutation, except_bind_eq_ok_iff, except_pure_eq_ok_iff,
    Prod.mk.injEq] at h
  obtain ⟨written, hwritten, interests, hinterests, languages, hlanguages, activities,
    hactivities, rfl, rfl⟩ := h
  obtain ⟨held, foundInterests, foundLanguages, foundActivities, hheld, hfoundInterests,
    hfoundLanguages, hfoundActivities, hholdsInterests, hholdsLanguages, hholdsActivities,
    hrewrites, hnodup⟩ := replaceOwnPreferences_spec hstored hwritten
  obtain rfl := Except.ok.inj (hinterests.symm.trans hfoundInterests)
  obtain rfl := Except.ok.inj (hlanguages.symm.trans hfoundLanguages)
  obtain rfl := Except.ok.inj (hactivities.symm.trans hfoundActivities)
  obtain ⟨havailable, howned⟩ := getOrCreate_ownedBy hstored hheld
  have hrecord := hrewrites.ownedBy howned hnodup
  have hgroups : ∀ write ∈ [.interests update.interests, .languages update.languages,
      .activities update.activities], GroupWrite.Stored context written write := by
    intro write hwrite
    simp only [List.mem_cons, List.not_mem_nil, or_false] at hwrite
    rcases hwrite with rfl | rfl | rfl
    · exact GroupWrite.Held.stored ⟨interests, hinterests, hholdsInterests⟩
    · exact GroupWrite.Held.stored ⟨languages, hlanguages, hholdsLanguages⟩
    · exact GroupWrite.Held.stored ⟨activities, hactivities, hholdsActivities⟩
  have hsnapshot : getOwnPreferenceSnapshot context owner (some written) = .ok (written,
      { version := written.profile.version
        interestIds := interests.1
        customInterests := customLabelOutput interests.2
        languages := languages.1
        customLanguages := customLanguageOutput languages.2
        activityIds := activities.1
        customActivities := customLabelOutput activities.2 }) := by
    rw [getOwnPreferenceSnapshot_of_owned havailable hrecord,
      customLabelOutput_eq hholdsInterests.2, customLanguageOutput_eq hholdsLanguages.2,
      customLabelOutput_eq hholdsActivities.2,
      hholdsInterests.1, hholdsLanguages.1, hholdsActivities.1]
    rfl
  refine ⟨hsnapshot, ?_, fun write hwrite => ⟨hgroups write hwrite, ?_⟩, ?_, ?_, ?_⟩
  · simp only [preferenceMutation, except_bind_eq_ok_iff, except_pure_eq_ok_iff]
    exact ⟨written, replaceOwnPreferences_of_holds havailable hinterests hlanguages hactivities
      hholdsInterests hholdsLanguages hholdsActivities, interests, hinterests, languages,
      hlanguages, activities, hactivities, rfl⟩
  · have hread := (hgroups write hwrite).returned
    rw [getOwnPreferenceSnapshot_of_owned havailable hrecord] at hsnapshot
    exact congrArg (·.2.toProfileCatalogSelections) (Except.ok.inj hsnapshot) ▸ hread
  · exact keysApart_of_signature (prepareInterests_keysApart hinterests .interest)
      hholdsInterests.2
  · exact keysApart_of_signature (prepareLanguages_keysApart hlanguages .language)
      hholdsLanguages.2
  · exact keysApart_of_signature (prepareActivities_keysApart hactivities .activity)
      hholdsActivities.2

/-- Records which hold the same prepared values store the same selections. -/
theorem sameSelections_of_holds {first second : ProfileRecord}
    {interests activities : List Nat × List PreparedCustomPreference}
    {languages : List ProfileLanguageSelection × List PreparedCustomPreference}
    (hfirst : HoldsInterests first interests ∧ HoldsLanguages first languages ∧
      HoldsActivities first activities)
    (hsecond : HoldsInterests second interests ∧ HoldsLanguages second languages ∧
      HoldsActivities second activities) : SameSelections first second := by
  obtain ⟨⟨hinterests, hinterestCustoms⟩, ⟨hlanguages, hlanguageCustoms⟩, hactivities,
    hactivityCustoms⟩ := hfirst
  obtain ⟨⟨hinterests', hinterestCustoms'⟩, ⟨hlanguages', hlanguageCustoms'⟩, hactivities',
    hactivityCustoms'⟩ := hsecond
  constructor
  · rw [readCatalogSelections, readCatalogSelections, ← hinterests, ← hinterests',
      ← hlanguages, ← hlanguages', ← hactivities, ← hactivities',
      ← customLabelOutput_eq hinterestCustoms, ← customLabelOutput_eq hinterestCustoms',
      ← customLanguageOutput_eq hlanguageCustoms, ← customLanguageOutput_eq hlanguageCustoms',
      ← customLabelOutput_eq hactivityCustoms, ← customLabelOutput_eq hactivityCustoms']
  · intro kind
    cases kind with
    | interest => exact hinterestCustoms.symm.trans hinterestCustoms'
    | language => exact hlanguageCustoms.symm.trans hlanguageCustoms'
    | activity => exact hactivityCustoms.symm.trans hactivityCustoms'

/-- The three groups of an accepted combined write, one after another in any order. -/
theorem writeGroups_sameSelections (hstored : ∀ old ∈ stored, old.OwnedBy owner)
    {update : ProfilePreferenceUpdate}
    (h : replaceOwnPreferences context owner stored update = .ok record)
    {order : List GroupWrite} (horder : order.Perm
      [.interests update.interests, .languages update.languages,
        .activities update.activities]) :
    ∃ final, writeGroups context owner
        (stored.getD (.draft context.freshProfileId owner.id)) order = .ok final ∧
      SameSelections final record := by
  obtain ⟨held, interests, languages, activities, hheld, hinterests, hlanguages, hactivities,
    hholdsInterests, hholdsLanguages, hholdsActivities, _⟩ :=
    replaceOwnPreferences_spec hstored h
  obtain ⟨havailable, howned⟩ := getOrCreate_ownedBy hstored hheld
  obtain rfl := getOrCreate_eq hheld
  have hkinds : (order.map GroupWrite.kind).Nodup :=
    (horder.map GroupWrite.kind).nodup_iff.mpr (by simp [GroupWrite.kind])
  have haccepted : ∀ write ∈ order, write.Accepted context := by
    intro write hwrite
    have hmem := horder.mem_iff.mp hwrite
    simp only [List.mem_cons, List.not_mem_nil, or_false] at hmem
    rcases hmem with rfl | rfl | rfl
    · exact ⟨interests, hinterests⟩
    · exact ⟨languages, hlanguages⟩
    · exact ⟨activities, hactivities⟩
  obtain ⟨final, hfinal, hall, _⟩ :=
    GroupWrite.writeGroups_spec order _ hkinds haccepted havailable howned
  obtain ⟨foundInterests, hfoundInterests, hfinalInterests⟩ :=
    hall (.interests update.interests) (horder.mem_iff.mpr (by simp))
  obtain ⟨foundLanguages, hfoundLanguages, hfinalLanguages⟩ :=
    hall (.languages update.languages) (horder.mem_iff.mpr (by simp))
  obtain ⟨foundActivities, hfoundActivities, hfinalActivities⟩ :=
    hall (.activities update.activities) (horder.mem_iff.mpr (by simp))
  obtain rfl := Except.ok.inj (hinterests.symm.trans hfoundInterests)
  obtain rfl := Except.ok.inj (hlanguages.symm.trans hfoundLanguages)
  obtain rfl := Except.ok.inj (hactivities.symm.trans hfoundActivities)
  exact ⟨final, hfinal, sameSelections_of_holds
    ⟨hfinalInterests, hfinalLanguages, hfinalActivities⟩
    ⟨hholdsInterests, hholdsLanguages, hholdsActivities⟩⟩

end Faithful

/-- Every accepted replacement stores the requested selections, returns what is read next, is
repeated without a change, and keeps the custom keys apart; the combined one stores what its
three groups store. -/
theorem preference_replacement_faithful (context : ProfileContext) (owner : User)
    (stored : Option ProfileRecord) (hstored : ∀ old ∈ stored, old.OwnedBy owner) :
    (∀ version group record mutation,
      interestMutation context owner stored version group = .ok (record, mutation) →
      (∃ snapshot, getOwnPreferenceSnapshot context owner (some record) = .ok (record, snapshot) ∧
          mutation = ⟨snapshot.version, snapshot.interestIds, snapshot.customInterests⟩ ∧
          (GroupWrite.interests group).Returned snapshot.toProfileCatalogSelections) ∧
        interestMutation context owner (some record) mutation.version group =
          .ok (record, mutation) ∧
        (GroupWrite.interests group).Stored context record ∧
        KeysApart context.unicode (interestLabels context.catalog)
          (customRows record.customs .interest) ∧
        ∀ kind, kind ≠ .interest → customRows record.customs kind =
          customRows (stored.getD (.draft context.freshProfileId owner.id)).customs kind) ∧
      (∀ version group record mutation,
        languageMutation context owner stored version group = .ok (record, mutation) →
        (∃ snapshot,
            getOwnPreferenceSnapshot context owner (some record) = .ok (record, snapshot) ∧
            mutation = ⟨snapshot.version, snapshot.languages, snapshot.customLanguages⟩ ∧
            (GroupWrite.languages group).Returned snapshot.toProfileCatalogSelections) ∧
          languageMutation context owner (some record) mutation.version group =
            .ok (record, mutation) ∧
          (GroupWrite.languages group).Stored context record ∧
          KeysApart context.unicode (languageLabels context.catalog)
            (customRows record.customs .language) ∧
          ∀ kind, kind ≠ .language → customRows record.customs kind =
            customRows (stored.getD (.draft context.freshProfileId owner.id)).customs kind) ∧
      (∀ version group record mutation,
        activityMutation context owner stored version group = .ok (record, mutation) →
        (∃ snapshot,
            getOwnPreferenceSnapshot context owner (some record) = .ok (record, snapshot) ∧
            mutation = ⟨snapshot.version, snapshot.activityIds, snapshot.customActivities⟩ ∧
            (GroupWrite.activities group).Returned snapshot.toProfileCatalogSelections) ∧
          activityMutation context owner (some record) mutation.version group =
            .ok (record, mutation) ∧
          (GroupWrite.activities group).Stored context record ∧
          KeysApart context.unicode (activityLabels context.catalog)
            (customRows record.customs .activity) ∧
          ∀ kind, kind ≠ .activity → customRows record.customs kind =
            customRows (stored.getD (.draft context.freshProfileId owner.id)).customs kind) ∧
      ∀ update record snapshot,
        preferenceMutation context owner stored update = .ok (record, snapshot) →
        getOwnPreferenceSnapshot context owner (some record) = .ok (record, snapshot) ∧
          preferenceMutation context owner (some record)
              { update with version := snapshot.version } = .ok (record, snapshot) ∧
          (∀ write ∈ [.interests update.interests, .languages update.languages,
              .activities update.activities],
            GroupWrite.Stored context record write ∧
              write.Returned snapshot.toProfileCatalogSelections) ∧
          (KeysApart context.unicode (interestLabels context.catalog)
              (customRows record.customs .interest) ∧
            KeysApart context.unicode (languageLabels context.catalog)
              (customRows record.customs .language) ∧
            KeysApart context.unicode (activityLabels context.catalog)
              (customRows record.customs .activity)) ∧
          ∀ order : List GroupWrite, order.Perm [.interests update.interests,
              .languages update.languages, .activities update.activities] →
            ∃ final, writeGroups context owner
                (stored.getD (.draft context.freshProfileId owner.id)) order = .ok final ∧
              SameSelections final record := by
  refine ⟨?_, ?_, ?_, ?_⟩
  · intro version group record mutation h
    exact interestMutation_faithful hstored h
  · intro version group record mutation h
    exact languageMutation_faithful hstored h
  · intro version group record mutation h
    exact activityMutation_faithful hstored h
  · intro update record snapshot h
    obtain ⟨hread, hrepeat, hrequested, hapart⟩ := preferenceMutation_faithful hstored h
    refine ⟨hread, hrepeat, hrequested, hapart, fun order horder => ?_⟩
    simp only [preferenceMutation, except_bind_eq_ok_iff, except_pure_eq_ok_iff,
      Prod.mk.injEq] at h
    obtain ⟨written, hwritten, _, _, _, _, _, _, rfl, _⟩ := h
    exact writeGroups_sameSelections hstored hwritten horder

namespace PreferenceReplacementWitness

open WriteRunsWitness (student)

def update : ProfilePreferenceUpdate where
  version := 1
  interests := ⟨[], [⟨"Jazz"⟩], List.nodup_nil, by decide⟩
  languages := ⟨[], [⟨"Khmer", .beginner⟩], List.nodup_nil, by decide⟩
  activities := ⟨[3, 1], [⟨"Chess"⟩], by decide, by decide⟩

/-- A draft takes three groups at once, or one after another from the last to the first. -/
theorem preference_replacement_faithful_draft :
    ∃ record snapshot,
      preferenceMutation WriteRunsWitness.context student (some (.draft 1 7)) update =
          .ok (record, snapshot) ∧
        snapshot.activityIds = [1, 3] ∧
        getOwnPreferenceSnapshot WriteRunsWitness.context student (some record) =
          .ok (record, snapshot) ∧
        ∃ final, writeGroups WriteRunsWitness.context student (.draft 1 7)
            [.activities update.activities, .languages update.languages,
              .interests update.interests] = .ok final ∧
          SameSelections final record := by
  obtain ⟨⟨record, snapshot⟩, hwrite⟩ := exists_ok_of_toBool
    (preferenceMutation WriteRunsWitness.context student (some (.draft 1 7)) update)
    (by decide +kernel)
  have hids : ((preferenceMutation WriteRunsWitness.context student (some (.draft 1 7))
      update).toOption.map fun result => result.2.activityIds) = some [1, 3] := by decide +kernel
  rw [hwrite] at hids
  obtain ⟨hread, _, _, _, horders⟩ := (preference_replacement_faithful WriteRunsWitness.context
    student (some (.draft 1 7)) (by rintro old ⟨⟩; exact ownedBy_draft student 1)).2.2.2
    update record snapshot hwrite
  refine ⟨record, snapshot, hwrite, Option.some.inj hids, hread, ?_⟩
  apply horders
  exact (List.reverse_perm [GroupWrite.interests update.interests,
    .languages update.languages, .activities update.activities])

end PreferenceReplacementWitness

end BuddyWeb
