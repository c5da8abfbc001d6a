/-
What sanitation promises about an audit payload, and exactly when it keeps the promise.
-/
import BuddyWeb.Audit.Payloads
import Mathlib.Data.List.Forall2

namespace BuddyWeb

/-- A part of a kept value, the value itself included. -/
inductive AuditJson.Within (part : AuditJson) : AuditJson → Prop
  | refl : Within part part
  | item {value : AuditJson} {items : List AuditJson} (hvalue : value ∈ items)
      (hpart : Within part value) : Within part (.array items)
  | member {value : AuditJson} {key : String} {members : List (String × AuditJson)}
      (hvalue : (key, value) ∈ members) (hpart : Within part value) :
      Within part (.object members)

namespace AuditJson

/-- A key stands somewhere in a kept value. -/
def HasKey (json : AuditJson) (key : String) : Prop :=
  ∃ members, Within (.object members) json ∧ key ∈ members.map Prod.fst

theorem within_array_iff {part : AuditJson} {items : List AuditJson} :
    Within part (.array items) ↔
      part = .array items ∨ ∃ value ∈ items, Within part value := by
  constructor
  · intro h
    cases h with
    | refl => exact Or.inl rfl
    | item hvalue hpart => exact Or.inr ⟨_, hvalue, hpart⟩
  · rintro (rfl | ⟨value, hvalue, hpart⟩)
    · exact .refl
    · exact .item hvalue hpart

theorem within_object_iff {part : AuditJson} {members : List (String × AuditJson)} :
    Within part (.object members) ↔
      part = .object members ∨ ∃ member ∈ members, Within part member.2 := by
  constructor
  · intro h
    cases h with
    | refl => exact Or.inl rfl
    | member hvalue hpart => exact Or.inr ⟨_, hvalue, hpart⟩
  · rintro (rfl | ⟨member, hmember, hpart⟩)
    · exact .refl
    · exact .member hmember hpart

theorem hasKey_array_iff {items : List AuditJson} {key : String} :
    HasKey (.array items) key ↔ ∃ value ∈ items, HasKey value key := by
  constructor
  · rintro ⟨members, hwithin, hkey⟩
    rcases within_array_iff.mp hwithin with heq | ⟨value, hvalue, hpart⟩
    · cases heq
    · exact ⟨value, hvalue, members, hpart, hkey⟩
  · rintro ⟨value, hvalue, members, hpart, hkey⟩
    exact ⟨members, .item hvalue hpart, hkey⟩

theorem hasKey_object_iff {members : List (String × AuditJson)} {key : String} :
    HasKey (.object members) key ↔
      ∃ member ∈ members, member.1 = key ∨ HasKey member.2 key := by
  constructor
  · rintro ⟨inner, hwithin, hkey⟩
    rcases within_object_iff.mp hwithin with heq | ⟨member, hmember, hpart⟩
    · cases heq
      obtain ⟨member, hmember, heq⟩ := List.mem_map.mp hkey
      exact ⟨member, hmember, Or.inl heq⟩
    · exact ⟨member, hmember, Or.inr ⟨inner, hpart, hkey⟩⟩
  · rintro ⟨member, hmember, heq | ⟨inner, hpart, hkey⟩⟩
    · exact ⟨members, .refl, List.mem_map.mpr ⟨member, hmember, heq⟩⟩
    · exact ⟨inner, .member hmember hpart, hkey⟩

end AuditJson

section Property

/-- The value refers to no container, or to containers which correspond. -/
def ValuesAgree {ι κ : Type} (corresponds : ι → κ → Prop) :
    AuditValue ι → AuditValue κ → Prop
  | .scalar value, .scalar other => value = other
  | .object identity, .object other => corresponds identity other
  | _, _ => False

variable (tables : TextTables) (profileRestricted : Bool)

/-- The same key, and the same value unless the key has it redacted. -/
def EntriesAgree {ι κ : Type} (corresponds : ι → κ → Prop)
    (entry : AuditKey × AuditValue ι) (other : AuditKey × AuditValue κ) : Prop :=
  entry.1 = other.1 ∧
    (entry.1.redacts tables profileRestricted = true ∨
      ValuesAgree corresponds entry.2 other.2)

def ObjectsAgree {ι κ : Type} (corresponds : ι → κ → Prop) :
    AuditObject ι → AuditObject κ → Prop
  | .enumMember value, .enumMember other => ValuesAgree corresponds value other
  | .mapping mapping, .mapping other =>
      List.Forall₂ (EntriesAgree tables profileRestricted corresponds) mapping.entries
        other.entries
  | .sequence items, .sequence others => List.Forall₂ (ValuesAgree corresponds) items others
  | .other typeName, .other otherName => typeName = otherName
  | _, _ => False

/-- An object of either payload stands in another one at the same place, outside redacted
values. -/
inductive StandsIn {ι κ : Type} (heap : ι → AuditObject ι) (other : κ → AuditObject κ) :
    ι × κ → ι × κ → Prop
  | enumValue {identity nested : ι} {counterpart nested' : κ}
      (hobject : heap identity = .enumMember (.object nested))
      (hother : other counterpart = .enumMember (.object nested')) :
      StandsIn heap other (identity, counterpart) (nested, nested')
  | entry {identity nested : ι} {counterpart nested' : κ} {key key' : AuditKey}
      {mapping : AuditMapping ι} {otherMapping : AuditMapping κ}
      (hobject : heap identity = .mapping mapping)
      (hother : other counterpart = .mapping otherMapping)
      (hkept : key.redacts tables profileRestricted = false)
      (hentry : ((key, .object nested), (key', .object nested')) ∈
        mapping.entries.zip otherMapping.entries) :
      StandsIn heap other (identity, counterpart) (nested, nested')
  | item {identity nested : ι} {counterpart nested' : κ} {items : List (AuditValue ι)}
      {others : List (AuditValue κ)} (hobject : heap identity = .sequence items)
      (hother : other counterpart = .sequence others)
      (hitem : (.object nested, .object nested') ∈ items.zip others) :
      StandsIn heap other (identity, counterpart) (nested, nested')

/-- The payloads differ in values under redacted keys alone, and in which containers they share:
only a container which comes back below itself must have its counterpart come back there. -/
structure AgreeOutsideRedaction {ι κ : Type} (corresponds : ι → κ → Prop)
    (payload : AuditPayload ι) (other : AuditPayload κ) : Prop where
  root : corresponds payload.root other.root
  cycles : ∀ outer inner, corresponds outer.1 outer.2 →
    (∀ value, payload.heap outer.1 ≠ .enumMember value) →
      Relation.TransGen (StandsIn tables profileRestricted payload.heap other.heap) outer inner →
        (outer.1 = inner.1 ↔ outer.2 = inner.2)
  objects : ∀ identity counterpart, corresponds identity counterpart →
    ObjectsAgree tables profileRestricted corresponds (payload.heap identity)
      (other.heap counterpart)

/-- The part of a kept value which a path of positions leads to. -/
def AuditJson.part? : AuditJson → List Nat → Option AuditJson
  | json, [] => some json
  | .array items, index :: path => items[index]?.bind fun value => value.part? path
  | .object members, index :: path => members[index]?.bind fun member => member.2.part? path
  | _, _ :: _ => none

/-- A kept value as the value of a payload; the containers are known by their path. -/
def AuditJson.valueAt (path : List Nat) : AuditJson → AuditValue (List Nat)
  | .null => .scalar .null
  | .text value => .scalar (.text value)
  | .bool value => .scalar (.bool value)
  | .int value => .scalar (.int value)
  | .float value => .scalar (.float (.finite value))
  | .array _ | .object _ => .object path

@[simp]
theorem AuditJson.valueAt_array (path : List Nat) (items : List AuditJson) :
    valueAt path (.array items) = .object path :=
  rfl

@[simp]
theorem AuditJson.valueAt_object (path : List Nat) (members : List (String × AuditJson)) :
    valueAt path (.object members) = .object path :=
  rfl

def AuditJson.entriesAt (path : List Nat) (members : List (String × AuditJson)) :
    List (AuditKey × AuditValue (List Nat)) :=
  members.mapIdx fun index member => (.text member.1, member.2.valueAt (path ++ [index]))

theorem AuditJson.entriesAt_keys (path : List Nat) (members : List (String × AuditJson)) :
    (entriesAt path members).filterMap (fun entry => entry.1.text?) =
      members.map Prod.fst := by
  have hkeys : (entriesAt path members).map Prod.fst =
      members.map fun member => AuditKey.text member.1 := by
    apply List.ext_getElem
    · simp [entriesAt]
    · intro index hindex hindex'
      simp [entriesAt]
  calc (entriesAt path members).filterMap (fun entry => entry.1.text?)
      = ((entriesAt path members).map Prod.fst).filterMap AuditKey.text? := by
        rw [List.filterMap_map]
        rfl
    _ = members.filterMap fun member => some member.1 := by
        rw [hkeys, List.filterMap_map]
        rfl
    _ = members.map Prod.fst := congrFun List.filterMap_eq_map' members

/-- The containers of a kept value. -/
def AuditJson.heapOf (json : AuditJson) (path : List Nat) : AuditObject (List Nat) :=
  match json.part? path with
  | some (.object members) =>
      if h : (members.map Prod.fst).Nodup then
        .mapping ⟨entriesAt path members, by rwa [entriesAt_keys]⟩
      else .other "dict"
  | some (.array items) =>
      .sequence (items.mapIdx fun index value => value.valueAt (path ++ [index]))
  | _ => .other "object"

/-- The sanitized members as a payload again: a mapping, so no key comes twice. -/
def rebuiltPayload (members : List (String × AuditJson)) :
    Option (AuditPayload (List Nat)) :=
  if h : (members.map Prod.fst).Nodup then
    some ⟨(AuditJson.object members).heapOf, [], by
      simp [AuditJson.heapOf, AuditJson.part?, h]⟩
  else none

def IsSignedUrlText (text : String) : Prop :=
  isSignedUrl tables text.toList = .ok true

variable {ι : Type} [DecidableEq ι]

structure SanitizedSafely (payload : AuditPayload ι) : Prop where
  /-- What stands under a sensitive key or a key of profile content is the marker. -/
  redacted : ∀ members,
    sanitizeMapping tables profileRestricted (some payload) = .ok (some members) →
    ∀ inner, AuditJson.Within (.object inner) (.object members) →
      ∀ key value, (key, value) ∈ inner →
        (isSensitiveKey tables key.toList = true ∨
          isProfileContentKey tables key.toList = true) →
        value = .text redactedAuditValue
  /-- For a profile only operational keys keep their values. -/
  restricted : ∀ members,
    sanitizeMapping tables profileRestricted (some payload) = .ok (some members) →
    ∀ inner, AuditJson.Within (.object inner) (.object members) →
      ∀ key value, (key, value) ∈ inner → profileRestricted = true →
        isOperationalKey tables key.toList = false → value = .text redactedAuditValue
  /-- No text of the result is a signed URL, be it a value or a key. -/
  unsigned : ∀ members,
    sanitizeMapping tables profileRestricted (some payload) = .ok (some members) →
    (∀ text, AuditJson.Within (.text text) (.object members) →
      ¬ IsSignedUrlText tables text) ∧
    ∀ key, (AuditJson.object members).HasKey key → ¬ IsSignedUrlText tables key
  idempotent : ∀ members,
    sanitizeMapping tables profileRestricted (some payload) = .ok (some members) →
    ∃ again, rebuiltPayload members = some again ∧
      sanitizeMapping tables profileRestricted (some again) = .ok (some members)
  noninterference : ∀ (κ : Type) [DecidableEq κ] (other : AuditPayload κ)
    (corresponds : ι → κ → Prop),
    AgreeOutsideRedaction tables profileRestricted corresponds payload other →
    sanitizeMapping tables profileRestricted (some other) =
      sanitizeMapping tables profileRestricted (some payload)
  onlyValidation : ∀ error,
    sanitizeMapping tables profileRestricted (some payload) = .error error →
    ∃ message, error = .validation message

/-- The keys and texts which sanitation comes upon do not defeat it. -/
structure HarmlessTexts (payload : AuditPayload ι) : Prop where
  /-- A text which is no URL is found after something against the contract only. -/
  urls : ∀ before visit after,
    payload.visits tables profileRestricted = before ++ visit :: after →
    visit.urlError? tables ≠ none → ∃ earlier ∈ before, earlier.violation? ≠ none
  /-- Where nothing is against the contract, no key is a signed URL. -/
  keys : (∀ visit ∈ payload.visits tables profileRestricted, visit.violation? = none) →
    ∀ key, .key (.text key) ∈ payload.visits tables profileRestricted →
      ¬ IsSignedUrlText tables key

end Property

section Settled

variable (tables : TextTables) (profileRestricted : Bool)

/-- A kept value which sanitation leaves as it is when it may go down so many levels. -/
def Settled : Nat → AuditJson → Prop
  | 0, _ => False
  | _ + 1, .text value => isSignedUrl tables value.toList = .ok false
  | remaining + 1, .array items => ∀ value ∈ items, Settled remaining value
  | remaining + 1, .object members =>
      (members.map Prod.fst).Nodup ∧ ∀ member ∈ members,
        if isRedactedKey tables profileRestricted member.1 then
          member.2 = .text redactedAuditValue
        else Settled remaining member.2
  | _ + 1, _ => True

variable {tables profileRestricted}

theorem isSignedUrl_of_plain {text : List Char} (hslash : '/' ∉ text)
    (hquestion : '?' ∉ text) : isSignedUrl tables text = .ok false := by
  obtain ⟨result, hresult, hquery⟩ := urlsplit_of_plain tables.nfkc hslash hquestion
  rw [isSignedUrl, hresult]
  simp [hquery, bind, Except.bind, pure, Except.pure]

theorem settled_marker (remaining : Nat) :
    Settled tables profileRestricted (remaining + 1) (.text redactedAuditValue) :=
  isSignedUrl_of_plain (by decide +kernel) (by decide +kernel)

theorem settled_rendered (remaining : Nat) (text : RenderedText) :
    Settled tables profileRestricted (remaining + 1) (.text text.val) := by
  have hplain : ∀ char, isRenderedChar char = false → char ∉ text.val.toList := by
    intro char hchar hmem
    rw [text.property char hmem] at hchar
    cases hchar
  exact isSignedUrl_of_plain (hplain '/' (by decide)) (hplain '?' (by decide))

theorem Settled.succ {remaining : Nat} {json : AuditJson}
    (h : Settled tables profileRestricted remaining json) :
    Settled tables profileRestricted (remaining + 1) json := by
  induction remaining generalizing json with
  | zero => exact h.elim
  | succ remaining ih =>
      cases json with
      | null => trivial
      | text value => exact h
      | bool value => trivial
      | int value => trivial
      | float value => trivial
      | array items =>
          intro value hvalue
          exact ih (h value hvalue)
      | object members =>
          constructor
          · exact h.1
          · intro member hmember
            have hkept := h.2 member hmember
            by_cases hkey : isRedactedKey tables profileRestricted member.1 = true
            · simpa only [hkey, ↓reduceIte] using hkept
            · simp only [hkey] at hkept ⊢
              exact ih hkept

/-- Each part of a settled value is settled. -/
theorem Settled.within {remaining : Nat} {json part : AuditJson}
    (h : Settled tables profileRestricted remaining json)
    (hpart : AuditJson.Within part json) :
    ∃ fewer, Settled tables profileRestricted fewer part := by
  induction hpart generalizing remaining with
  | refl => exact ⟨remaining, h⟩
  | item hvalue _ ih =>
      cases remaining with
      | zero => exact h.elim
      | succ remaining => exact ih (h _ hvalue)
  | @member value key members hvalue _ ih =>
      cases remaining with
      | zero => exact h.elim
      | succ remaining =>
          have hkept := h.2 _ hvalue
          by_cases hkey : isRedactedKey tables profileRestricted key = true
          · simp only [hkey, ↓reduceIte] at hkept
            rw [hkept] at ih
            exact ih (settled_marker 0)
          · simp only [hkey] at hkept
            exact ih hkept

theorem Settled.redacted {remaining : Nat} {members : List (String × AuditJson)}
    (h : Settled tables profileRestricted remaining (.object members)) {key : String}
    {value : AuditJson} (hmember : (key, value) ∈ members)
    (hkey : isRedactedKey tables profileRestricted key = true) :
    value = .text redactedAuditValue := by
  cases remaining with
  | zero => exact h.elim
  | succ remaining =>
      have hkept := h.2 _ hmember
      rwa [if_pos hkey] at hkept

theorem Settled.unsigned {remaining : Nat} {text : String}
    (h : Settled tables profileRestricted remaining (.text text)) :
    ¬ IsSignedUrlText tables text := by
  cases remaining with
  | zero => exact h.elim
  | succ remaining =>
      intro hsigned
      rw [IsSignedUrlText, h] at hsigned
      cases hsigned

theorem sanitizeScalar_settled {value : AuditScalar} {json : AuditJson} (remaining : Nat)
    (h : sanitizeScalar tables value = .ok json) :
    Settled tables profileRestricted (remaining + 1) json := by
  cases value with
  | null => cases h; trivial
  | text value =>
      cases hsigned : isSignedUrl tables value.toList with
      | error error => simp [sanitizeScalar, hsigned] at h
      | ok signed =>
          cases signed with
          | true =>
              simp only [sanitizeScalar, hsigned, Except.ok.injEq] at h
              rw [← h]
              exact settled_marker remaining
          | false =>
              simp only [sanitizeScalar, hsigned, Except.ok.injEq] at h
              rw [← h]
              exact hsigned
  | bool value => cases h; trivial
  | int value => cases h; trivial
  | float value =>
      cases value with
      | finite value => cases h; trivial
      | infinity negative => cases h
      | nan => cases h
  | rendered kind text =>
      cases h
      exact settled_rendered remaining text

variable {ι : Type}

theorem sanitizeEntry_eq_ok_iff {sanitizeNested : AuditValue ι → Except AuditError AuditJson}
    {entry : AuditKey × AuditValue ι} {member : String × AuditJson} :
    sanitizeEntry tables profileRestricted sanitizeNested entry = .ok member ↔
      entry.1 = .text member.1 ∧
        if isRedactedKey tables profileRestricted member.1 then
          member.2 = .text redactedAuditValue
        else sanitizeNested entry.2 = .ok member.2 := by
  obtain ⟨key, value⟩ := entry
  obtain ⟨name, json⟩ := member
  cases key with
  | other => simp [sanitizeEntry]
  | text key =>
      by_cases hkey : isRedactedKey tables profileRestricted key = true
      · simp only [sanitizeEntry, hkey, ↓reduceIte, Except.ok.injEq, Prod.mk.injEq,
          AuditKey.text.injEq]
        constructor
        · rintro ⟨rfl, rfl⟩
          simp [hkey]
        · rintro ⟨rfl, h⟩
          simp only [hkey, ↓reduceIte] at h
          exact ⟨rfl, h.symm⟩
      · simp only [sanitizeEntry, hkey, Bool.false_eq_true, ↓reduceIte,
          except_map_eq_ok_iff, Prod.mk.injEq, AuditKey.text.injEq]
        constructor
        · rintro ⟨source, hsource, rfl, rfl⟩
          simp [hkey, hsource]
        · rintro ⟨rfl, h⟩
          simp only [hkey, Bool.false_eq_true, ↓reduceIte] at h
          exact ⟨json, h, rfl, rfl⟩

/-- The kept members have the keys of the mapping. -/
theorem sanitizeEntry_keys {sanitizeNested : AuditValue ι → Except AuditError AuditJson}
    {entries : List (AuditKey × AuditValue ι)} {members : List (String × AuditJson)}
    (h : entries.mapM (sanitizeEntry tables profileRestricted sanitizeNested) =
      .ok members) :
    entries.filterMap (fun entry => entry.1.text?) = members.map Prod.fst := by
  have hpairs := forall₂_of_mapM h
  induction hpairs with
  | nil => rfl
  | cons hhead htail ih =>
      have hkey := (sanitizeEntry_eq_ok_iff.mp hhead).1
      rw [List.filterMap_cons, hkey]
      simp only [AuditKey.text?, List.map_cons, List.cons.injEq, true_and]
      exact ih (mapM_of_forall₂ htail)

variable [DecidableEq ι] {heap : ι → AuditObject ι}

theorem sanitizeValue_settled {remaining : Nat} {seen : List ι} {value : AuditValue ι}
    {json : AuditJson}
    (h : sanitizeValue tables profileRestricted heap remaining seen value = .ok json) :
    Settled tables profileRestricted remaining json := by
  induction remaining generalizing seen value json with
  | zero => cases h
  | succ remaining ih =>
      cases value with
      | scalar value => exact sanitizeScalar_settled remaining h
      | object identity =>
          simp only [sanitizeValue] at h
          cases hobject : heap identity with
          | enumMember value =>
              simp only [hobject] at h
              exact (ih h).succ
          | mapping mapping =>
              by_cases hseen : identity ∈ seen
              · simp [hobject, hseen] at h
              · simp only [hobject, hseen, ↓reduceIte, except_map_eq_ok_iff] at h
                obtain ⟨members, hmembers, rfl⟩ := h
                constructor
                · rw [← sanitizeEntry_keys hmembers]
                  exact mapping.distinct
                · intro member hmember
                  obtain ⟨entry, _, hentry⟩ := exists_of_mem_mapM hmembers hmember
                  have hkept := (sanitizeEntry_eq_ok_iff.mp hentry).2
                  by_cases hkey : isRedactedKey tables profileRestricted member.1 = true
                  · simpa only [hkey, ↓reduceIte] using hkept
                  · simp only [hkey] at hkept ⊢
                    exact ih hkept
          | sequence items =>
              by_cases hseen : identity ∈ seen
              · simp [hobject, hseen] at h
              · simp only [hobject, hseen, ↓reduceIte, except_map_eq_ok_iff] at h
                obtain ⟨values, hvalues, rfl⟩ := h
                intro value hvalue
                obtain ⟨item, _, hitem⟩ := exists_of_mem_mapM hvalues hvalue
                exact ih hitem
          | other typeName =>
              by_cases hseen : identity ∈ seen <;> simp [hobject, hseen] at h

end Settled

section Errors

variable {tables : TextTables} {profileRestricted : Bool}

/-- What a visit makes sanitation raise. -/
def AuditVisit.error? (tables : TextTables) (visit : AuditVisit) : Option AuditError :=
  (visit.violation?.map .validation).or ((visit.urlError? tables).map .valueError)

theorem raised_isSignedUrl (tables : TextTables) (value : List Char) :
    raised (isSignedUrl tables value) = raised (urlsplit tables.nfkc value) := by
  rw [isSignedUrl]
  cases urlsplit tables.nfkc value with
  | error error => rfl
  | ok result => by_cases hquery : result.query = [] <;> simp [hquery, bind, Except.bind, pure,
      Except.pure]

theorem raised_sanitizeScalar (value : AuditScalar) :
    raised (sanitizeScalar tables value) = (AuditVisit.scalar value).error? tables := by
  cases value with
  | text value =>
      have hraised := raised_isSignedUrl tables value.toList
      cases hsplit : urlsplit tables.nfkc value.toList with
      | error error =>
          rw [hsplit, raised_error, raised_eq_some_iff] at hraised
          simp [sanitizeScalar, hraised, AuditVisit.error?, AuditVisit.violation?,
            AuditVisit.urlError?, hsplit]
      | ok result =>
          rw [hsplit, raised_ok, raised_eq_none_iff] at hraised
          obtain ⟨signed, hsigned⟩ := hraised
          cases signed <;> simp [sanitizeScalar, hsigned, AuditVisit.error?,
            AuditVisit.violation?, AuditVisit.urlError?, hsplit]
  | float value => cases value <;> rfl
  | null => rfl
  | bool value => rfl
  | int value => rfl
  | rendered kind text => rfl

variable {ι : Type}

theorem raised_sanitizeEntry {sanitizeNested : AuditValue ι → Except AuditError AuditJson}
    {entry : AuditKey × AuditValue ι} {nested : List AuditVisit}
    (hnested : raised (sanitizeNested entry.2) = nested.findSome? (·.error? tables)) :
    raised (sanitizeEntry tables profileRestricted sanitizeNested entry) =
      (AuditVisit.key entry.1 ::
        if entry.1.redacts tables profileRestricted then [] else nested).findSome?
          (·.error? tables) := by
  obtain ⟨key, value⟩ := entry
  cases key with
  | other => rfl
  | text key =>
      have hfirst : (AuditVisit.key (.text key)).error? tables = none := rfl
      rw [List.findSome?_cons, hfirst]
      by_cases hkey : isRedactedKey tables profileRestricted key = true
      · simp [sanitizeEntry, AuditKey.redacts, hkey]
      · simp only [sanitizeEntry, AuditKey.redacts, hkey, Bool.false_eq_true, ↓reduceIte,
          raised_map]
        exact hnested

variable [DecidableEq ι] {heap : ι → AuditObject ι}

/-- Sanitation raises what the first harmful visit has it raise. -/
theorem raised_sanitizeValue (remaining : Nat) (seen : List ι) (value : AuditValue ι) :
    raised (sanitizeValue tables profileRestricted heap remaining seen value) =
      (visits tables profileRestricted heap remaining seen value).findSome?
        (·.error? tables) := by
  induction remaining generalizing seen value with
  | zero => rfl
  | succ remaining ih =>
      cases value with
      | scalar value =>
          rw [sanitizeValue, visits, raised_sanitizeScalar, List.findSome?_singleton]
      | object identity =>
          simp only [sanitizeValue, visits]
          cases heap identity with
          | enumMember value => exact ih seen value
          | mapping mapping =>
              by_cases hseen : identity ∈ seen
              · simp [hseen, AuditVisit.error?, AuditVisit.violation?]
              · simp only [hseen, ↓reduceIte, raised_map, raised_mapM, findSome?_flatMap]
                congr 1
                funext entry
                exact raised_sanitizeEntry (ih (identity :: seen) entry.2)
          | sequence items =>
              by_cases hseen : identity ∈ seen
              · simp [hseen, AuditVisit.error?, AuditVisit.violation?]
              · simp only [hseen, ↓reduceIte, raised_map, raised_mapM, findSome?_flatMap]
                congr 1
                funext item
                exact ih (identity :: seen) item
          | other typeName =>
              by_cases hseen : identity ∈ seen <;>
                simp [hseen, AuditVisit.error?, AuditVisit.violation?]

/-- A scalar is kept as one without keys. -/
theorem sanitizeScalar_hasKey {value : AuditScalar} {json : AuditJson} {key : String}
    (h : sanitizeScalar tables value = .ok json) : ¬ json.HasKey key := by
  have hscalar : ∀ members, json ≠ .object members ∧ ∀ items, json ≠ .array items := by
    cases value with
    | text value =>
        cases hsigned : isSignedUrl tables value.toList with
        | error error => simp [sanitizeScalar, hsigned] at h
        | ok signed =>
            simp only [sanitizeScalar, hsigned] at h
            cases signed <;> cases h <;> simp
    | float value =>
        cases value with
        | finite value => cases h; simp
        | infinity negative => cases h
        | nan => cases h
    | null => cases h; simp
    | bool value => cases h; simp
    | int value => cases h; simp
    | rendered kind text => cases h; simp
  rintro ⟨members, hwithin, _⟩
  cases hwithin with
  | refl => exact (hscalar members).1 rfl
  | item hvalue _ => exact (hscalar []).2 _ rfl
  | member hvalue _ => exact (hscalar _).1 rfl

/-- The keys which stay are those sanitation comes upon. -/
theorem hasKey_iff_visited {remaining : Nat} {seen : List ι} {value : AuditValue ι}
    {json : AuditJson} {key : String}
    (h : sanitizeValue tables profileRestricted heap remaining seen value = .ok json) :
    .key (.text key) ∈ visits tables profileRestricted heap remaining seen value ↔
      json.HasKey key := by
  induction remaining generalizing seen value json with
  | zero => cases h
  | succ remaining ih =>
      cases value with
      | scalar value => simp [visits, sanitizeScalar_hasKey h]
      | object identity =>
          simp only [sanitizeValue] at h
          simp only [visits]
          cases hobject : heap identity with
          | enumMember value =>
              simp only [hobject] at h
              exact ih h
          | mapping mapping =>
              by_cases hseen : identity ∈ seen
              · simp [hobject, hseen] at h
              · simp only [hobject, hseen, ↓reduceIte, except_map_eq_ok_iff] at h
                obtain ⟨members, hmembers, rfl⟩ := h
                simp only [hseen, ↓reduceIte, List.mem_flatMap, AuditJson.hasKey_object_iff]
                apply exists_mem_iff_of_mapM hmembers
                intro entry member hentry
                obtain ⟨hname, hkept⟩ := sanitizeEntry_eq_ok_iff.mp hentry
                by_cases hkey : isRedactedKey tables profileRestricted member.1 = true
                · simp only [hkey, ↓reduceIte] at hkept
                  have hmarker : ¬ AuditJson.HasKey (.text redactedAuditValue) key := by
                    rintro ⟨inner, hwithin, _⟩
                    cases hwithin
                  simp [hname, AuditKey.redacts, hkey, hkept, hmarker, eq_comm]
                · simp only [hkey, Bool.false_eq_true, ↓reduceIte] at hkept
                  simp [hname, AuditKey.redacts, hkey, ← ih hkept, eq_comm]
          | sequence items =>
              by_cases hseen : identity ∈ seen
              · simp [hobject, hseen] at h
              · simp only [hobject, hseen, ↓reduceIte, except_map_eq_ok_iff] at h
                obtain ⟨values, hvalues, rfl⟩ := h
                simp only [hseen, ↓reduceIte, List.mem_flatMap, AuditJson.hasKey_array_iff]
                exact exists_mem_iff_of_mapM hvalues fun _ _ hitem => ih hitem
          | other typeName =>
              by_cases hseen : identity ∈ seen <;> simp [hobject, hseen] at h

end Errors

section Agreement

variable {tables : TextTables} {profileRestricted : Bool}
variable {ι κ : Type} {corresponds : ι → κ → Prop}

theorem sanitizeEntry_agree {sanitizeNested : AuditValue ι → Except AuditError AuditJson}
    {sanitizeOther : AuditValue κ → Except AuditError AuditJson}
    {entry : AuditKey × AuditValue ι} {other : AuditKey × AuditValue κ}
    (h : EntriesAgree tables profileRestricted corresponds entry other)
    (hnested : entry.1.redacts tables profileRestricted = false →
      ValuesAgree corresponds entry.2 other.2 → sanitizeNested entry.2 = sanitizeOther other.2) :
    sanitizeEntry tables profileRestricted sanitizeNested entry =
      sanitizeEntry tables profileRestricted sanitizeOther other := by
  obtain ⟨key, value⟩ := entry
  obtain ⟨otherKey, otherValue⟩ := other
  obtain ⟨hkey, hvalue⟩ := h
  change key = otherKey at hkey
  subst hkey
  cases key with
  | other => rfl
  | text key =>
      by_cases hredacted : isRedactedKey tables profileRestricted key = true
      · simp [sanitizeEntry, hredacted]
      · have hagree := hvalue.resolve_left hredacted
        have hkept : (AuditKey.text key).redacts tables profileRestricted = false :=
          Bool.not_eq_true _ ▸ hredacted
        simp [sanitizeEntry, hredacted, hnested hkept hagree]

section Paths

variable (tables profileRestricted) (corresponds)

/-- The containers on the way to two values, in either payload. -/
structure OnTheWay (heap : ι → AuditObject ι) (other : κ → AuditObject κ) (path : List (ι × κ))
    (value : AuditValue ι) (otherValue : AuditValue κ) : Prop where
  known : ∀ outer ∈ path, corresponds outer.1 outer.2 ∧
    ∀ value, heap outer.1 ≠ .enumMember value
  inside : ∀ identity counterpart, value = .object identity →
    otherValue = .object counterpart → ∀ outer ∈ path,
      Relation.TransGen (StandsIn tables profileRestricted heap other) outer
        (identity, counterpart)

variable {tables profileRestricted corresponds} {heap : ι → AuditObject ι}
  {other : κ → AuditObject κ} {path : List (ι × κ)} {identity : ι} {counterpart : κ}

theorem OnTheWay.root (value : AuditValue ι) (otherValue : AuditValue κ) :
    OnTheWay tables profileRestricted corresponds heap other [] value otherValue :=
  ⟨by simp, by simp⟩

/-- The value of an enum member keeps the way to the member. -/
theorem OnTheWay.enumMember {value : AuditValue ι} {otherValue : AuditValue κ}
    (h : OnTheWay tables profileRestricted corresponds heap other path (.object identity)
      (.object counterpart))
    (hobject : heap identity = .enumMember value)
    (hother : other counterpart = .enumMember otherValue) :
    OnTheWay tables profileRestricted corresponds heap other path value otherValue := by
  refine ⟨h.known, ?_⟩
  rintro nested nested' rfl rfl outer houter
  exact (h.inside identity counterpart rfl rfl outer houter).tail (.enumValue hobject hother)

/-- A container is on the way to what stands in it. -/
theorem OnTheWay.container {value : AuditValue ι} {otherValue : AuditValue κ}
    (h : OnTheWay tables profileRestricted corresponds heap other path (.object identity)
      (.object counterpart))
    (hcorresponds : corresponds identity counterpart)
    (hcontainer : ∀ value, heap identity ≠ .enumMember value)
    (hstands : ∀ nested nested', value = .object nested → otherValue = .object nested' →
      StandsIn tables profileRestricted heap other (identity, counterpart) (nested, nested')) :
    OnTheWay tables profileRestricted corresponds heap other ((identity, counterpart) :: path)
      value otherValue := by
  constructor
  · rw [List.forall_mem_cons]
    exact ⟨⟨hcorresponds, hcontainer⟩, h.known⟩
  · intro nested nested' hnested hnested'
    have hstep := hstands nested nested' hnested hnested'
    rw [List.forall_mem_cons]
    exact ⟨.single hstep, fun outer houter =>
      (h.inside identity counterpart rfl rfl outer houter).tail hstep⟩

/-- A container comes back below itself in both payloads or in neither. -/
theorem OnTheWay.mem_iff
    (h : OnTheWay tables profileRestricted corresponds heap other path (.object identity)
      (.object counterpart))
    (hcycles : ∀ outer inner, corresponds outer.1 outer.2 →
      (∀ value, heap outer.1 ≠ .enumMember value) →
        Relation.TransGen (StandsIn tables profileRestricted heap other) outer inner →
          (outer.1 = inner.1 ↔ outer.2 = inner.2)) :
    identity ∈ path.map Prod.fst ↔ counterpart ∈ path.map Prod.snd := by
  have hsame : ∀ outer ∈ path, outer.1 = identity ↔ outer.2 = counterpart := by
    intro outer houter
    obtain ⟨hcorresponds, hcontainer⟩ := h.known outer houter
    exact hcycles outer _ hcorresponds hcontainer
      (h.inside identity counterpart rfl rfl outer houter)
  simp only [List.mem_map]
  exact exists_congr fun outer => and_congr_right fun houter => hsame outer houter

end Paths

variable [DecidableEq ι] [DecidableEq κ]

/-- Sanitation does not tell payloads apart which agree outside redacted values. -/
theorem sanitizeValue_agree {heap : ι → AuditObject ι} {other : κ → AuditObject κ}
    (hcycles : ∀ outer inner, corresponds outer.1 outer.2 →
      (∀ value, heap outer.1 ≠ .enumMember value) →
        Relation.TransGen (StandsIn tables profileRestricted heap other) outer inner →
          (outer.1 = inner.1 ↔ outer.2 = inner.2))
    (hobjects : ∀ identity counterpart, corresponds identity counterpart →
      ObjectsAgree tables profileRestricted corresponds (heap identity)
        (other counterpart))
    {remaining : Nat} {path : List (ι × κ)} {value : AuditValue ι} {otherValue : AuditValue κ}
    (hpath : OnTheWay tables profileRestricted corresponds heap other path value otherValue)
    (hvalue : ValuesAgree corresponds value otherValue) :
    sanitizeValue tables profileRestricted heap remaining (path.map Prod.fst) value =
      sanitizeValue tables profileRestricted other remaining (path.map Prod.snd)
        otherValue := by
  induction remaining generalizing path value otherValue with
  | zero => rfl
  | succ remaining ih =>
      cases value with
      | scalar value =>
          cases otherValue with
          | scalar otherValue =>
              rw [show value = otherValue from hvalue]
              rfl
          | object counterpart => exact hvalue.elim
      | object identity =>
          cases otherValue with
          | scalar otherValue => exact hvalue.elim
          | object counterpart =>
              have hcorresponds : corresponds identity counterpart := hvalue
              have hobject := hobjects identity counterpart hcorresponds
              have hmem := hpath.mem_iff hcycles
              simp only [sanitizeValue]
              cases hfirst : heap identity with
              | enumMember value =>
                  cases hsecond : other counterpart with
                  | enumMember otherValue =>
                      rw [hfirst, hsecond] at hobject
                      exact ih (hpath.enumMember hfirst hsecond) hobject
                  | _ => rw [hfirst, hsecond] at hobject; exact hobject.elim
              | mapping mapping =>
                  cases hsecond : other counterpart with
                  | mapping otherMapping =>
                      rw [hfirst, hsecond] at hobject
                      obtain ⟨hlength, hzip⟩ := List.forall₂_iff_zip.mp hobject
                      have hentries : List.Forall₂ (fun entry otherEntry =>
                          sanitizeEntry tables profileRestricted (sanitizeValue tables
                            profileRestricted heap remaining
                              (identity :: path.map Prod.fst)) entry =
                          sanitizeEntry tables profileRestricted (sanitizeValue tables
                            profileRestricted other remaining
                              (counterpart :: path.map Prod.snd)) otherEntry)
                          mapping.entries otherMapping.entries := by
                        refine List.forall₂_iff_zip.mpr ⟨hlength, ?_⟩
                        rintro ⟨key, value⟩ ⟨key', otherValue⟩ hentry
                        refine sanitizeEntry_agree (hzip hentry) fun hkept hagree => ?_
                        refine ih (hpath.container hcorresponds (by simp [hfirst]) ?_) hagree
                        rintro nested nested' rfl rfl
                        exact .entry hfirst hsecond hkept hentry
                      simp only [hmem, mapM_eq_of_forall₂ hentries]
                  | _ => rw [hfirst, hsecond] at hobject; exact hobject.elim
              | sequence items =>
                  cases hsecond : other counterpart with
                  | sequence otherItems =>
                      rw [hfirst, hsecond] at hobject
                      obtain ⟨hlength, hzip⟩ := List.forall₂_iff_zip.mp hobject
                      have hitems : List.Forall₂ (fun item otherItem =>
                          sanitizeValue tables profileRestricted heap remaining
                              (identity :: path.map Prod.fst) item =
                            sanitizeValue tables profileRestricted other remaining
                              (counterpart :: path.map Prod.snd) otherItem)
                          items otherItems := by
                        refine List.forall₂_iff_zip.mpr ⟨hlength, fun {item otherItem} hitem => ?_⟩
                        refine ih (hpath.container hcorresponds (by simp [hfirst]) ?_)
                          (hzip hitem)
                        rintro nested nested' rfl rfl
                        exact .item hfirst hsecond hitem
                      simp only [hmem, mapM_eq_of_forall₂ hitems]
                  | _ => rw [hfirst, hsecond] at hobject; exact hobject.elim
              | other typeName =>
                  cases hsecond : other counterpart with
                  | other otherName =>
                      rw [hfirst, hsecond] at hobject
                      simp only [hmem, show typeName = otherName from hobject]
                  | _ => rw [hfirst, hsecond] at hobject; exact hobject.elim

theorem sanitizeMapping_agree {payload : AuditPayload ι} {other : AuditPayload κ}
    (h : AgreeOutsideRedaction tables profileRestricted corresponds payload other) :
    sanitizeMapping tables profileRestricted (some other) =
      sanitizeMapping tables profileRestricted (some payload) := by
  have hroot : ValuesAgree corresponds (.object payload.root) (.object other.root) := h.root
  have hvalues : sanitizeValue tables profileRestricted payload.heap (maxPayloadDepth + 1) []
      (.object payload.root) = sanitizeValue tables profileRestricted other.heap
        (maxPayloadDepth + 1) [] (.object other.root) :=
    sanitizeValue_agree h.cycles h.objects (.root _ _) hroot
  simp only [sanitizeMapping, hvalues]

end Agreement

section Idempotence

variable {tables : TextTables} {profileRestricted : Bool}

theorem AuditJson.part?_append (json : AuditJson) (path : List Nat) (index : Nat) :
    json.part? (path ++ [index]) = (json.part? path).bind fun part => part.part? [index] := by
  induction path generalizing json with
  | nil => rfl
  | cons first path ih =>
      cases json with
      | array items =>
          cases hvalue : items[first]? with
          | none => simp [AuditJson.part?, hvalue]
          | some value => simp [AuditJson.part?, hvalue, ih]
      | object members =>
          cases hmember : members[first]? with
          | none => simp [AuditJson.part?, hmember]
          | some member => simp [AuditJson.part?, hmember, ih]
      | _ => rfl

theorem AuditJson.part?_item {json : AuditJson} {path : List Nat} {items : List AuditJson}
    (h : json.part? path = some (.array items)) {index : Nat} (hindex : index < items.length) :
    json.part? (path ++ [index]) = some items[index] := by
  rw [AuditJson.part?_append, h]
  simp [AuditJson.part?, hindex]

theorem AuditJson.part?_member {json : AuditJson} {path : List Nat}
    {members : List (String × AuditJson)} (h : json.part? path = some (.object members))
    {index : Nat} (hindex : index < members.length) :
    json.part? (path ++ [index]) = some members[index].2 := by
  rw [AuditJson.part?_append, h]
  simp [AuditJson.part?, hindex]

theorem not_mem_of_length_lt {seen : List (List Nat)} {path : List Nat}
    (h : ∀ above ∈ seen, above.length < path.length) : path ∉ seen :=
  fun hmem => Nat.lt_irrefl _ (h path hmem)

/-- The containers around a part stay shorter paths one level down. -/
theorem length_lt_below {seen : List (List Nat)} {path : List Nat} (index : Nat)
    (h : ∀ above ∈ seen, above.length < path.length) :
    ∀ above ∈ path :: seen, above.length < (path ++ [index]).length := by
  intro above habove
  rw [List.length_append, List.length_singleton]
  rcases List.mem_cons.mp habove with heq | hmem
  · rw [heq]
    exact Nat.lt_succ_self _
  · exact Nat.lt_succ_of_lt (h above hmem)

/-- Sanitation leaves a settled value as it is. -/
theorem sanitizeValue_of_settled (root : AuditJson) {remaining : Nat} {json : AuditJson}
    {path : List Nat} {seen : List (List Nat)}
    (hsettled : Settled tables profileRestricted remaining json)
    (hpart : root.part? path = some json)
    (hseen : ∀ above ∈ seen, above.length < path.length) :
    sanitizeValue tables profileRestricted root.heapOf remaining seen (json.valueAt path) =
      .ok json := by
  induction remaining generalizing json path seen with
  | zero => exact hsettled.elim
  | succ remaining ih =>
      cases json with
      | null => rfl
      | bool value => rfl
      | int value => rfl
      | float value => rfl
      | text value =>
          have hplain : isSignedUrl tables value.toList = .ok false := hsettled
          simp [AuditJson.valueAt, sanitizeValue, sanitizeScalar, hplain]
      | array items =>
          have hitems : List.Forall₂ (fun item value =>
              sanitizeValue tables profileRestricted root.heapOf remaining (path :: seen)
                item = .ok value)
              (items.mapIdx fun index value => value.valueAt (path ++ [index])) items := by
            apply List.forall₂_of_length_eq_of_get (by simp)
            intro index hindex hindex'
            simp only [List.get_eq_getElem, List.getElem_mapIdx]
            exact ih (hsettled _ (List.getElem_mem hindex')) (AuditJson.part?_item hpart hindex')
              (length_lt_below index hseen)
          simp only [AuditJson.valueAt_array, sanitizeValue, AuditJson.heapOf, hpart,
            not_mem_of_length_lt hseen, ↓reduceIte, mapM_of_forall₂ hitems]
          rfl
      | object members =>
          have hmembers : List.Forall₂ (fun entry member =>
              sanitizeEntry tables profileRestricted (sanitizeValue tables profileRestricted
                root.heapOf remaining (path :: seen)) entry = .ok member)
              (AuditJson.entriesAt path members) members := by
            apply List.forall₂_of_length_eq_of_get (by simp [AuditJson.entriesAt])
            intro index hindex hindex'
            simp only [AuditJson.entriesAt, List.get_eq_getElem, List.getElem_mapIdx]
            rw [sanitizeEntry_eq_ok_iff]
            constructor
            · rfl
            · have hkept := hsettled.2 _ (List.getElem_mem hindex')
              by_cases hkey :
                  isRedactedKey tables profileRestricted members[index].1 = true
              · simpa only [hkey, ↓reduceIte] using hkept
              · simp only [hkey, Bool.false_eq_true, ↓reduceIte] at hkept ⊢
                exact ih hkept (AuditJson.part?_member hpart hindex')
                  (length_lt_below index hseen)
          simp only [AuditJson.valueAt_object, sanitizeValue, AuditJson.heapOf, hpart, hsettled.1,
            not_mem_of_length_lt hseen, ↓reduceIte, ↓reduceDIte, mapM_of_forall₂ hmembers]
          rfl

end Idempotence

section Safety

variable {tables : TextTables} {profileRestricted : Bool}
variable {ι : Type} [DecidableEq ι] {payload : AuditPayload ι}

/-- A payload is a mapping, so sanitation has no value to refuse afterwards. -/
theorem sanitizeMapping_eq_ok_iff {members : List (String × AuditJson)} :
    sanitizeMapping tables profileRestricted (some payload) = .ok (some members) ↔
      sanitizeValue tables profileRestricted payload.heap (maxPayloadDepth + 1) []
        (.object payload.root) = .ok (.object members) := by
  simp only [sanitizeMapping]
  split <;> simp_all

theorem sanitizeMapping_eq_error_iff {error : AuditError} :
    sanitizeMapping tables profileRestricted (some payload) = .error error ↔
      (payload.visits tables profileRestricted).findSome? (·.error? tables) =
        some error := by
  rw [AuditPayload.visits, ← raised_sanitizeValue, raised_eq_some_iff]
  obtain ⟨mapping, hroot⟩ := payload.root_mapping
  simp only [sanitizeMapping, sanitizeValue, hroot, List.not_mem_nil, ↓reduceIte]
  cases mapping.entries.mapM (sanitizeEntry tables profileRestricted
    (sanitizeValue tables profileRestricted payload.heap maxPayloadDepth [payload.root])) <;>
    simp [Except.map]

theorem AuditVisit.error?_of_violation {visit : AuditVisit} {message : String}
    (h : visit.violation? = some message) :
    visit.error? tables = some (.validation message) := by
  simp [AuditVisit.error?, h]

theorem AuditVisit.error?_of_no_violation {visit : AuditVisit}
    (h : visit.violation? = none) :
    visit.error? tables = (visit.urlError? tables).map .valueError := by
  simp [AuditVisit.error?, h]

/-- A text is never against the contract. -/
theorem AuditVisit.violation?_of_urlError {visit : AuditVisit}
    (h : visit.urlError? tables ≠ none) : visit.violation? = none := by
  cases visit with
  | scalar value =>
      cases value with
      | text value => rfl
      | _ => exact absurd rfl h
  | _ => exact absurd rfl h

/-- Sanitation keeps a mapping unless a visit makes it raise. -/
theorem exists_members_of_no_error
    (h : ∀ visit ∈ payload.visits tables profileRestricted, visit.error? tables = none) :
    ∃ members, sanitizeMapping tables profileRestricted (some payload) =
      .ok (some members) := by
  have hnone := List.findSome?_eq_none_iff.mpr h
  cases hresult : sanitizeMapping tables profileRestricted (some payload) with
  | error error =>
      rw [sanitizeMapping_eq_error_iff, hnone] at hresult
      cases hresult
  | ok result =>
      cases result with
      | none =>
          simp only [sanitizeMapping] at hresult
          split at hresult <;> cases hresult
      | some members => exact ⟨members, rfl⟩

theorem error?_eq_none_of_ok {members : List (String × AuditJson)}
    (h : sanitizeMapping tables profileRestricted (some payload) = .ok (some members)) :
    ∀ visit ∈ payload.visits tables profileRestricted, visit.error? tables = none := by
  apply List.findSome?_eq_none_iff.mp
  rw [AuditPayload.visits, ← raised_sanitizeValue, raised_eq_none_iff]
  exact ⟨_, sanitizeMapping_eq_ok_iff.mp h⟩

theorem mem_visits_iff_hasKey {members : List (String × AuditJson)} {key : String}
    (h : sanitizeMapping tables profileRestricted (some payload) = .ok (some members)) :
    .key (.text key) ∈ payload.visits tables profileRestricted ↔
      (AuditJson.object members).HasKey key :=
  hasKey_iff_visited (sanitizeMapping_eq_ok_iff.mp h)

/-- The first text which is no URL would be raised about. -/
theorem SanitizedSafely.urls (h : SanitizedSafely tables profileRestricted payload)
    {before after : List AuditVisit} {visit : AuditVisit}
    (hvisits : payload.visits tables profileRestricted = before ++ visit :: after)
    (hurl : visit.urlError? tables ≠ none) :
    ∃ earlier ∈ before, earlier.violation? ≠ none := by
  by_contra hnone
  push Not at hnone
  -- nothing before it is against the contract, so the first error is one of a URL
  obtain ⟨error, herror⟩ : ∃ error,
      (payload.visits tables profileRestricted).findSome? (·.error? tables) =
        some (.valueError error) := by
    rw [hvisits, List.findSome?_append]
    cases hbefore : before.findSome? (·.error? tables) with
    | some first =>
        obtain ⟨earlier, hearlier, herror⟩ := List.exists_of_findSome?_eq_some hbefore
        rw [AuditVisit.error?_of_no_violation (hnone earlier hearlier),
          Option.map_eq_some_iff] at herror
        obtain ⟨error, _, rfl⟩ := herror
        exact ⟨error, rfl⟩
    | none =>
        obtain ⟨error, herror⟩ := Option.ne_none_iff_exists'.mp hurl
        refine ⟨error, ?_⟩
        rw [Option.none_or, List.findSome?_cons,
          AuditVisit.error?_of_no_violation (AuditVisit.violation?_of_urlError hurl), herror]
        rfl
  obtain ⟨message, hmessage⟩ := h.onlyValidation _ (sanitizeMapping_eq_error_iff.mpr herror)
  cases hmessage

theorem SanitizedSafely.harmless (h : SanitizedSafely tables profileRestricted payload) :
    HarmlessTexts tables profileRestricted payload where
  urls _ _ _ hvisits hurl := h.urls hvisits hurl
  keys := by
    intro hcontract key hkey
    have hnoError : ∀ visit ∈ payload.visits tables profileRestricted,
        visit.error? tables = none := by
      intro visit hvisit
      rw [AuditVisit.error?_of_no_violation (hcontract visit hvisit), Option.map_eq_none_iff]
      by_contra hurl
      obtain ⟨before, after, hvisits⟩ := List.append_of_mem hvisit
      obtain ⟨earlier, hearlier, hviolation⟩ := h.urls hvisits hurl
      apply hviolation
      apply hcontract
      rw [hvisits]
      exact List.mem_append_left _ hearlier
    obtain ⟨members, hmembers⟩ := exists_members_of_no_error hnoError
    exact (h.unsigned members hmembers).2 key ((mem_visits_iff_hasKey hmembers).mp hkey)

/-- Every part of a sanitized payload is settled. -/
theorem settled_within {members : List (String × AuditJson)} {part : AuditJson}
    (h : sanitizeMapping tables profileRestricted (some payload) = .ok (some members))
    (hpart : AuditJson.Within part (.object members)) :
    ∃ levels, Settled tables profileRestricted levels part :=
  (sanitizeValue_settled (sanitizeMapping_eq_ok_iff.mp h)).within hpart

theorem sanitizeMapping_idempotent {members : List (String × AuditJson)}
    (h : sanitizeMapping tables profileRestricted (some payload) = .ok (some members)) :
    ∃ again, rebuiltPayload members = some again ∧
      sanitizeMapping tables profileRestricted (some again) = .ok (some members) := by
  have hsettled := sanitizeValue_settled (sanitizeMapping_eq_ok_iff.mp h)
  have hkeys : (members.map Prod.fst).Nodup := hsettled.1
  have hroot : (AuditJson.object members).part? [] = some (.object members) := rfl
  have hagain := sanitizeValue_of_settled (.object members) hsettled hroot
    (List.forall_mem_nil _)
  refine ⟨_, dif_pos hkeys, ?_⟩
  exact sanitizeMapping_eq_ok_iff.mpr hagain

theorem HarmlessTexts.onlyValidation (h : HarmlessTexts tables profileRestricted payload)
    {error : AuditError}
    (herror : sanitizeMapping tables profileRestricted (some payload) = .error error) :
    ∃ message, error = .validation message := by
  rw [sanitizeMapping_eq_error_iff, List.findSome?_eq_some_iff] at herror
  obtain ⟨before, visit, after, hvisits, hvisit, hbefore⟩ := herror
  cases hviolation : visit.violation? with
  | some message =>
      rw [AuditVisit.error?_of_violation hviolation, Option.some.injEq] at hvisit
      exact ⟨message, hvisit.symm⟩
  | none =>
      rw [AuditVisit.error?_of_no_violation hviolation, Option.map_eq_some_iff] at hvisit
      obtain ⟨url, hurl, _⟩ := hvisit
      obtain ⟨earlier, hearlier, hne⟩ := h.urls before visit after hvisits (by simp [hurl])
      obtain ⟨message, hmessage⟩ := Option.ne_none_iff_exists'.mp hne
      have hnone := hbefore earlier hearlier
      rw [AuditVisit.error?_of_violation hmessage] at hnone
      cases hnone

theorem HarmlessTexts.safe (h : HarmlessTexts tables profileRestricted payload) :
    SanitizedSafely tables profileRestricted payload where
  redacted := by
    intro members hmembers inner hinner key value hmember hkey
    obtain ⟨levels, hsettled⟩ := settled_within hmembers hinner
    apply hsettled.redacted hmember
    rcases hkey with hkey | hkey <;> simp [isRedactedKey, hkey]
  restricted := by
    intro members hmembers inner hinner key value hmember hrestricted hkey
    obtain ⟨levels, hsettled⟩ := settled_within hmembers hinner
    apply hsettled.redacted hmember
    simp [isRedactedKey, hrestricted, hkey]
  unsigned := by
    intro members hmembers
    constructor
    · intro text htext
      obtain ⟨levels, hsettled⟩ := settled_within hmembers htext
      exact hsettled.unsigned
    · intro key hkey
      apply h.keys
      · intro visit hvisit
        have hnone := error?_eq_none_of_ok hmembers visit hvisit
        rw [AuditVisit.error?, Option.or_eq_none_iff, Option.map_eq_none_iff] at hnone
        exact hnone.1
      · exact (mem_visits_iff_hasKey hmembers).mpr hkey
  idempotent _ hmembers := sanitizeMapping_idempotent hmembers
  noninterference _ _ _ _ hagree := sanitizeMapping_agree hagree
  onlyValidation _ herror := h.onlyValidation herror

/-- Sanitation is safe and total exactly when no text which is no URL reaches it before
something else stops it, and no key it keeps is a signed URL. -/
theorem sanitizedSafely_iff (tables : TextTables) (profileRestricted : Bool) {ι : Type}
    [DecidableEq ι] (payload : AuditPayload ι) :
    SanitizedSafely tables profileRestricted payload ↔
      HarmlessTexts tables profileRestricted payload :=
  ⟨SanitizedSafely.harmless, HarmlessTexts.safe⟩

end Safety

section MalformedHost

/-- The tables as far as ASCII goes. -/
def asciiTables : TextTables where
  nfkc := id
  casefold := List.map Char.toLower
  isAlnum := Char.isAlphanum

/-- A note with a host whose bracket is left open. -/
def openBracketPayload : AuditPayload Unit where
  heap _ := .mapping ⟨[(.text "note", .scalar (.text "http://["))], by decide⟩
  root := ()
  root_mapping := ⟨_, rfl⟩

theorem sanitizeMapping_openBracket :
    raised (sanitizeMapping asciiTables false (some openBracketPayload)) =
      some (.valueError .invalidIPv6Url) := by
  decide +kernel

/-- The error of splitting the URL leaves sanitation as it is. -/
theorem not_sanitizedSafely_openBracket :
    ¬ SanitizedSafely asciiTables false openBracketPayload := by
  intro h
  obtain ⟨message, hmessage⟩ :=
    h.onlyValidation _ (raised_eq_some_iff.mp sanitizeMapping_openBracket)
  cases hmessage

end MalformedHost

end BuddyWeb
