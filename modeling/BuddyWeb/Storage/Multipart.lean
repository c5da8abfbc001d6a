/-
The multipart reader of an image upload: which bodies it splits into parts, and where it
accepts more than its grammar.
-/
import BuddyWeb.Lib.Bytes
import BuddyWeb.Lib.ListSearch

namespace BuddyWeb

namespace Multipart

def maxPartHeadersBytes : Nat := 8 * 1024

def crlf : List Byte := [13, 10]

def emptyLine : List Byte := crlf ++ crlf

def dashes : List Byte := [45, 45]

inductive MultipartUploadError
  | malformedBody
  | partHeaders
  | closingBoundary
  | trailingData
  | malformedBoundary
  | partCount
  deriving DecidableEq, Repr

/-- The bytes from one position up to another. -/
def slice (body : List Byte) (first last : Nat) : List Byte :=
  (body.drop first).take (last - first)

/-- The loop over the parts; it has no result when its fuel runs out. -/
def partsLoop (body marker : List Byte) :
    Nat → Nat → List (List Byte × List Byte) →
      Option (Except MultipartUploadError (List (List Byte × List Byte)))
  | 0, _, _ => none
  | fuel + 1, cursor, parsed =>
      match findFrom body emptyLine cursor with
      | none => some (.error .partHeaders)
      | some headerEnd =>
          if maxPartHeadersBytes < headerEnd - cursor then some (.error .partHeaders)
          else
            match findFrom body (crlf ++ marker) (headerEnd + 4) with
            | none => some (.error .closingBoundary)
            | some nextMarker =>
                let parsed := parsed ++
                  [(slice body cursor headerEnd, slice body (headerEnd + 4) nextMarker)]
                let cursor := nextMarker + 2 + marker.length
                if slice body cursor (cursor + 2) = dashes then
                  if body.drop (cursor + 2) = [] ∨ body.drop (cursor + 2) = crlf then
                    some (.ok parsed)
                  else some (.error .trailingData)
                else if slice body cursor (cursor + 2) ≠ crlf then
                  some (.error .malformedBoundary)
                else partsLoop body marker fuel (cursor + 2) parsed

/-- `_parts`: the header block and the content of each part. -/
def parts (body boundary : List Byte) :
    Option (Except MultipartUploadError (List (List Byte × List Byte))) :=
  let marker := dashes ++ boundary
  if (marker ++ crlf).isPrefixOf body then
    match partsLoop body marker (body.length + 1) (marker.length + 2) [] with
    | some (.ok parsed) =>
        if parsed = [] ∨ 4 < parsed.length then some (.error .partCount) else some (.ok parsed)
    | other => other
  else some (.error .malformedBody)

section Grammar

/-- A part at the head of a text, as the scanner cuts it: the first empty line ends the header
block, and the first delimiter after it ends the content. -/
structure ScannedPart (marker text header content rest : List Byte) : Prop where
  text_eq : text = header ++ (emptyLine ++ (content ++ (crlf ++ marker ++ rest)))
  header_length : header.length ≤ maxPartHeadersBytes
  header_first : OccursFirst emptyLine text header.length
  content_first : OccursFirst (crlf ++ marker) (text.drop (header.length + 4)) content.length

/-- A part of the grammar: the delimiter that ends it is the first one after its start. -/
structure WholePart (marker text header content rest : List Byte) : Prop where
  text_eq : text = header ++ (emptyLine ++ (content ++ (crlf ++ marker ++ rest)))
  header_length : header.length ≤ maxPartHeadersBytes
  header_first : OccursFirst emptyLine text header.length
  delimiter_first : OccursFirst (crlf ++ marker) text (header.length + 4 + content.length)

/-- A sequence of parts up to the closing delimiter and at most one line break. -/
inductive PartSequence (part : List Byte → List Byte → List Byte → List Byte → Prop) :
    List Byte → List (List Byte × List Byte) → Prop
  | last {text header content tail : List Byte}
      (hpart : part text header content (dashes ++ tail)) (htail : tail = [] ∨ tail = crlf) :
      PartSequence part text [(header, content)]
  | more {text header content rest : List Byte} {following : List (List Byte × List Byte)}
      (hpart : part text header content (crlf ++ rest))
      (hrest : PartSequence part rest following) :
      PartSequence part text ((header, content) :: following)

/-- The delimiter line and one to four parts. -/
def MultipartBody (part : List Byte → List Byte → List Byte → List Byte → List Byte → Prop)
    (boundary body : List Byte) (parsed : List (List Byte × List Byte)) : Prop :=
  ∃ text, body = dashes ++ boundary ++ crlf ++ text ∧
    PartSequence (part (dashes ++ boundary)) text parsed ∧ parsed.length ≤ 4

/-- The reader ends, and accepts a body with exactly the parts of the grammar. -/
def MeetsGrammar (boundary body : List Byte) : Prop :=
  (∃ result, parts body boundary = some result) ∧
    ∀ parsed, parts body boundary = some (.ok parsed) ↔
      MultipartBody WholePart boundary body parsed

/-- As the scanner cuts the text, a delimiter starts in a header block or its empty line. -/
inductive HidesDelimiter (marker : List Byte) : List Byte → Prop
  | here {text header content rest : List Byte} {position : Nat}
      (hpart : ScannedPart marker text header content rest)
      (hposition : position < header.length + 4)
      (hdelimiter : crlf ++ marker <+: text.drop position) : HidesDelimiter marker text
  | later {text header content rest : List Byte}
      (hpart : ScannedPart marker text header content (crlf ++ rest))
      (hrest : HidesDelimiter marker rest) : HidesDelimiter marker text

/-- The scanner accepts the body although one of its header blocks hides a delimiter. -/
def AcceptsHidden (boundary body : List Byte) : Prop :=
  ∃ text parsed, body = dashes ++ boundary ++ crlf ++ text ∧
    PartSequence (ScannedPart (dashes ++ boundary)) text parsed ∧ parsed.length ≤ 4 ∧
    HidesDelimiter (dashes ++ boundary) text

end Grammar

section Scan

variable {body marker header content rest text : List Byte} {cursor : Nat}

theorem emptyLine_ne_nil : emptyLine ≠ [] := by decide

theorem delimiter_ne_nil : crlf ++ marker ≠ [] := by simp [crlf]

/-- The text of a part after its header block and empty line. -/
theorem drop_header (htext : text = header ++ (emptyLine ++ rest)) :
    text.drop (header.length + 4) = rest := by
  rw [htext, ← List.drop_drop, List.drop_left]
  rfl

theorem ScannedPart.unique (hpart : ScannedPart marker text header content rest)
    {header' content' rest' : List Byte}
    (hother : ScannedPart marker text header' content' rest') :
    header = header' ∧ content = content' ∧ rest = rest' := by
  have hheaders := hpart.header_first.unique hother.header_first
  have hboth := hpart.text_eq.symm.trans hother.text_eq
  obtain ⟨hheader, htail⟩ := List.append_inj hboth hheaders
  have hcontents := hpart.content_first.unique (hheaders ▸ hother.content_first)
  have hafter := List.append_cancel_left htail
  obtain ⟨hcontent, hend⟩ := List.append_inj hafter hcontents
  exact ⟨hheader, hcontent, List.append_cancel_left hend⟩

theorem WholePart.scanned (hpart : WholePart marker text header content rest) :
    ScannedPart marker text header content rest where
  text_eq := hpart.text_eq
  header_length := hpart.header_length
  header_first := hpart.header_first
  content_first := by
    constructor
    · rw [List.drop_drop]
      exact hpart.delimiter_first.1
    · intro earlier hearlier
      rw [List.drop_drop]
      exact hpart.delimiter_first.2 _ (by omega)

/-- A scanned part is one of the grammar unless a delimiter starts before its content. -/
theorem ScannedPart.whole (hpart : ScannedPart marker text header content rest)
    (hclean : ∀ position, position < header.length + 4 →
      ¬ crlf ++ marker <+: text.drop position) :
    WholePart marker text header content rest where
  text_eq := hpart.text_eq
  header_length := hpart.header_length
  header_first := hpart.header_first
  delimiter_first := by
    constructor
    · rw [← List.drop_drop]
      exact hpart.content_first.1
    · intro earlier hearlier
      by_cases hbefore : earlier < header.length + 4
      · exact hclean earlier hbefore
      · have hinner := hpart.content_first.2 (earlier - (header.length + 4)) (by omega)
        rw [List.drop_drop] at hinner
        have hposition : header.length + 4 + (earlier - (header.length + 4)) = earlier := by
          omega
        rwa [hposition] at hinner

theorem PartSequence.scanned {parsed : List (List Byte × List Byte)}
    (h : PartSequence (WholePart marker) text parsed) :
    PartSequence (ScannedPart marker) text parsed := by
  induction h with
  | last hpart htail => exact .last hpart.scanned htail
  | more hpart _ ih => exact .more hpart.scanned ih

theorem PartSequence.whole {parsed : List (List Byte × List Byte)}
    (h : PartSequence (ScannedPart marker) text parsed) (hclean : ¬ HidesDelimiter marker text) :
    PartSequence (WholePart marker) text parsed := by
  induction h with
  | last hpart htail =>
    apply PartSequence.last _ htail
    apply hpart.whole
    intro position hposition hdelimiter
    exact hclean (.here hpart hposition hdelimiter)
  | more hpart _ ih =>
    apply PartSequence.more
    · apply hpart.whole
      intro position hposition hdelimiter
      exact hclean (.here hpart hposition hdelimiter)
    · exact ih fun hrest => hclean (.later hpart hrest)

/-- A sequence of the grammar hides no delimiter. -/
theorem PartSequence.clean {parsed : List (List Byte × List Byte)}
    (h : PartSequence (WholePart marker) text parsed) : ¬ HidesDelimiter marker text := by
  intro hhides
  induction hhides generalizing parsed with
  | here hpart hposition hdelimiter =>
    cases h with
    | last hwhole _ =>
      obtain ⟨rfl, rfl, -⟩ := hpart.unique hwhole.scanned
      exact hwhole.delimiter_first.2 _ (by omega) hdelimiter
    | more hwhole _ =>
      obtain ⟨rfl, rfl, -⟩ := hpart.unique hwhole.scanned
      exact hwhole.delimiter_first.2 _ (by omega) hdelimiter
  | later hpart _ ih =>
    cases h with
    | last hwhole _ =>
      obtain ⟨-, -, hrest⟩ := hpart.unique hwhole.scanned
      cases hrest
    | more hwhole hfollowing =>
      obtain ⟨-, -, hrest⟩ := hpart.unique hwhole.scanned
      cases List.append_cancel_left hrest
      exact ih hfollowing

theorem slice_add (first length : Nat) :
    slice body first (first + length) = (body.drop first).take length := by
  rw [slice, Nat.add_sub_cancel_left]

/-- Where the two searches of a round end, for a scanned part. -/
theorem ScannedPart.finds (hpart : ScannedPart marker (body.drop cursor) header content rest) :
    findFrom body emptyLine cursor = some (cursor + header.length) ∧
      findFrom body (crlf ++ marker) (cursor + header.length + 4) =
        some (cursor + header.length + 4 + content.length) ∧
      slice body cursor (cursor + header.length) = header ∧
      slice body (cursor + header.length + 4) (cursor + header.length + 4 + content.length) =
        content ∧
      body.drop (cursor + header.length + 4 + content.length + 2 + marker.length) = rest := by
  have hcontent : body.drop (cursor + header.length + 4) =
      content ++ (crlf ++ marker ++ rest) := by
    rw [Nat.add_assoc, ← List.drop_drop]
    exact drop_header hpart.text_eq
  have hafter : body.drop (cursor + header.length + 4 + content.length) =
      crlf ++ marker ++ rest := by
    rw [← List.drop_drop, hcontent, List.drop_left]
  refine ⟨?_, ?_, ?_, ?_, ?_⟩
  · exact (findFrom_eq_some_iff emptyLine_ne_nil).mpr ⟨_, rfl, hpart.header_first⟩
  · refine (findFrom_eq_some_iff delimiter_ne_nil).mpr ⟨_, rfl, ?_⟩
    have hfirst := hpart.content_first
    rw [List.drop_drop, ← Nat.add_assoc] at hfirst
    exact hfirst
  · rw [slice_add, hpart.text_eq]
    exact List.take_left
  · rw [slice_add, hcontent]
    exact List.take_left
  · have hdelimiter : (crlf ++ marker).length = 2 + marker.length := by
      rw [List.length_append]
      rfl
    rw [Nat.add_assoc _ 2, ← List.drop_drop, hafter, ← hdelimiter, List.drop_left]

/-- What the two searches of a round find is a scanned part. -/
theorem exists_scannedPart {headerEnd nextMarker : Nat}
    (hheader : findFrom body emptyLine cursor = some headerEnd)
    (hlength : ¬ maxPartHeadersBytes < headerEnd - cursor)
    (hnext : findFrom body (crlf ++ marker) (headerEnd + 4) = some nextMarker) :
    ∃ header content rest, ScannedPart marker (body.drop cursor) header content rest ∧
      headerEnd = cursor + header.length ∧
      nextMarker = cursor + header.length + 4 + content.length := by
  obtain ⟨offset, rfl, hfirst⟩ := (findFrom_eq_some_iff emptyLine_ne_nil).mp hheader
  obtain ⟨header, after, htext, rfl⟩ := hfirst.split emptyLine_ne_nil
  obtain ⟨inner, rfl, hinner⟩ := (findFrom_eq_some_iff delimiter_ne_nil).mp hnext
  rw [Nat.add_assoc cursor, ← List.drop_drop] at hinner
  have hcontent := hinner
  rw [drop_header htext] at hcontent
  obtain ⟨content, rest, rfl, rfl⟩ := hcontent.split delimiter_ne_nil
  refine ⟨header, content, rest, ⟨htext, by omega, hfirst, hinner⟩, rfl, rfl⟩

end Scan

section Loop

variable {body marker : List Byte}

/-- A round of the loop on a scanned part. -/
theorem partsLoop_scanned {fuel cursor : Nat} {parsed : List (List Byte × List Byte)}
    {header content rest : List Byte}
    (hpart : ScannedPart marker (body.drop cursor) header content rest) :
    partsLoop body marker (fuel + 1) cursor parsed =
      if rest.take 2 = dashes then
        if rest.drop 2 = [] ∨ rest.drop 2 = crlf then
          some (.ok (parsed ++ [(header, content)]))
        else some (.error .trailingData)
      else if rest.take 2 ≠ crlf then some (.error .malformedBoundary)
      else partsLoop body marker fuel
        (cursor + header.length + 4 + content.length + 2 + marker.length + 2)
        (parsed ++ [(header, content)]) := by
  obtain ⟨hheader, hnext, hheaderBytes, hcontentBytes, hrest⟩ := hpart.finds
  have hlength : ¬ maxPartHeadersBytes < cursor + header.length - cursor := by
    have hbound := hpart.header_length
    omega
  rw [partsLoop, hheader]
  simp only [if_neg hlength, hnext, hheaderBytes, hcontentBytes, slice_add, hrest,
    ← List.drop_drop]

/-- Without a scanned part at the cursor the loop raises. -/
theorem partsLoop_unscanned {fuel cursor : Nat} {parsed : List (List Byte × List Byte)}
    (hnone : ∀ header content rest,
      ¬ ScannedPart marker (body.drop cursor) header content rest) :
    ∃ error, partsLoop body marker (fuel + 1) cursor parsed = some (.error error) := by
  rw [partsLoop]
  split
  · exact ⟨_, rfl⟩
  · rename_i headerEnd hheader
    split
    · exact ⟨_, rfl⟩
    · rename_i hlength
      split
      · exact ⟨_, rfl⟩
      · rename_i nextMarker hnext
        obtain ⟨header, content, rest, hpart, -⟩ := exists_scannedPart hheader hlength hnext
        exact absurd hpart (hnone header content rest)

theorem ScannedPart.length_lt {cursor : Nat} {header content rest : List Byte}
    (hpart : ScannedPart marker (body.drop cursor) header content (crlf ++ rest)) :
    cursor + header.length + 4 + content.length + 2 + marker.length + 2 ≤ body.length ∧
      body.drop (cursor + header.length + 4 + content.length + 2 + marker.length + 2) = rest := by
  have hrest := hpart.finds.2.2.2.2
  have hlength := congrArg List.length hrest
  rw [List.length_drop, List.length_append] at hlength
  have htwo : crlf.length = 2 := rfl
  constructor
  · omega
  · rw [← List.drop_drop, hrest]
    rfl

theorem take_two_eq {rest two : List Byte} (htwo : two.length = 2) :
    rest.take 2 = two ↔ ∃ tail, rest = two ++ tail := by
  constructor
  · intro h
    exact ⟨rest.drop 2, by rw [← h, List.take_append_drop]⟩
  · rintro ⟨tail, rfl⟩
    rw [← htwo]
    exact List.take_left

/-- How a sequence goes on after its first part. -/
theorem partSequence_iff {text header content rest : List Byte}
    {parsed : List (List Byte × List Byte)}
    (hpart : ScannedPart marker text header content rest) :
    PartSequence (ScannedPart marker) text parsed ↔
      (∃ tail, rest = dashes ++ tail ∧ (tail = [] ∨ tail = crlf) ∧
        parsed = [(header, content)]) ∨
      ∃ tail following, rest = crlf ++ tail ∧
        PartSequence (ScannedPart marker) tail following ∧
        parsed = (header, content) :: following := by
  constructor
  · intro h
    cases h with
    | last hother htail =>
      obtain ⟨rfl, rfl, rfl⟩ := hpart.unique hother
      exact Or.inl ⟨_, rfl, htail, rfl⟩
    | more hother hrest =>
      obtain ⟨rfl, rfl, rfl⟩ := hpart.unique hother
      exact Or.inr ⟨_, _, rfl, hrest, rfl⟩
  · rintro (⟨tail, rfl, htail, rfl⟩ | ⟨tail, following, rfl, hrest, rfl⟩)
    · exact .last hpart htail
    · exact .more hpart hrest

theorem partSequence_unscanned {text : List Byte} {parsed : List (List Byte × List Byte)}
    (hnone : ∀ header content rest, ¬ ScannedPart marker text header content rest) :
    ¬ PartSequence (ScannedPart marker) text parsed := by
  intro h
  cases h with
  | last hpart _ => exact hnone _ _ _ hpart
  | more hpart _ => exact hnone _ _ _ hpart

/-- With enough fuel the loop ends, and it accepts exactly the scanned sequences. -/
theorem partsLoop_spec (fuel cursor : Nat) (parsed : List (List Byte × List Byte))
    (hcursor : cursor ≤ body.length) (hfuel : body.length < fuel + cursor) :
    (∃ result, partsLoop body marker fuel cursor parsed = some result) ∧
      ∀ result, partsLoop body marker fuel cursor parsed = some (.ok result) ↔
        ∃ following, result = parsed ++ following ∧
          PartSequence (ScannedPart marker) (body.drop cursor) following := by
  induction fuel generalizing cursor parsed with
  | zero => omega
  | succ fuel ih =>
    by_cases hscanned : ∃ header content rest,
        ScannedPart marker (body.drop cursor) header content rest
    · obtain ⟨header, content, rest, hpart⟩ := hscanned
      rw [partsLoop_scanned hpart]
      have hdashes : dashes.length = 2 := rfl
      have hcrlf : crlf.length = 2 := rfl
      by_cases hclosing : rest.take 2 = dashes
      · obtain ⟨tail, rfl⟩ := (take_two_eq hdashes).mp hclosing
        have htail : (dashes ++ tail).drop 2 = tail := rfl
        rw [if_pos hclosing, htail]
        by_cases hend : tail = [] ∨ tail = crlf
        · rw [if_pos hend]
          refine ⟨⟨_, rfl⟩, ?_⟩
          intro result
          constructor
          · intro h
            cases h
            exact ⟨_, rfl, .last hpart hend⟩
          · rintro ⟨following, rfl, hfollowing⟩
            rcases (partSequence_iff hpart).mp hfollowing with
              ⟨_, _, _, rfl⟩ | ⟨other, _, hother, _⟩
            · rfl
            · cases hother
        · rw [if_neg hend]
          refine ⟨⟨_, rfl⟩, ?_⟩
          intro result
          constructor
          · intro h
            cases h
          · rintro ⟨following, rfl, hfollowing⟩
            rcases (partSequence_iff hpart).mp hfollowing with
              ⟨other, hother, hok, _⟩ | ⟨other, _, hother, _⟩
            · cases List.append_cancel_left hother
              exact absurd hok hend
            · cases hother
      · rw [if_neg hclosing]
        by_cases hnext : rest.take 2 = crlf
        · obtain ⟨tail, rfl⟩ := (take_two_eq hcrlf).mp hnext
          obtain ⟨hbound, hdrop⟩ := hpart.length_lt
          rw [if_neg (not_not.mpr hnext)]
          obtain ⟨hends, haccepts⟩ := ih _ (parsed ++ [(header, content)]) hbound (by omega)
          refine ⟨hends, ?_⟩
          intro result
          rw [haccepts result, hdrop]
          constructor
          · rintro ⟨following, rfl, hfollowing⟩
            exact ⟨(header, content) :: following, by simp, .more hpart hfollowing⟩
          · rintro ⟨following, rfl, hfollowing⟩
            rcases (partSequence_iff hpart).mp hfollowing with
              ⟨other, hother, _⟩ | ⟨other, more, hother, hmore, rfl⟩
            · cases hother
            · cases List.append_cancel_left hother
              exact ⟨more, by simp, hmore⟩
        · rw [if_pos hnext]
          refine ⟨⟨_, rfl⟩, ?_⟩
          intro result
          constructor
          · intro h
            cases h
          · rintro ⟨following, rfl, hfollowing⟩
            rcases (partSequence_iff hpart).mp hfollowing with
              ⟨other, rfl, _⟩ | ⟨other, _, rfl, _⟩
            · exact absurd rfl hclosing
            · exact absurd rfl hnext
    · have hnone : ∀ header content rest,
          ¬ ScannedPart marker (body.drop cursor) header content rest :=
        fun header content rest hpart => hscanned ⟨header, content, rest, hpart⟩
      obtain ⟨error, herror⟩ := @partsLoop_unscanned _ _ fuel _ parsed hnone
      rw [herror]
      refine ⟨⟨_, rfl⟩, ?_⟩
      intro result
      constructor
      · intro h
        cases h
      · rintro ⟨following, -, hfollowing⟩
        exact absurd hfollowing (partSequence_unscanned hnone)

end Loop

section Reader

variable {boundary body : List Byte}

theorem PartSequence.ne_nil {part : List Byte → List Byte → List Byte → List Byte → Prop}
    {text : List Byte} {parsed : List (List Byte × List Byte)}
    (h : PartSequence part text parsed) : parsed ≠ [] := by
  cases h with
  | last _ _ => exact List.cons_ne_nil _ _
  | more _ _ => exact List.cons_ne_nil _ _

/-- The reader ends on every body. -/
theorem exists_parts (body boundary : List Byte) : ∃ result, parts body boundary = some result := by
  rw [parts]
  split
  · rename_i hprefix
    have hlength := (List.isPrefixOf_iff_prefix.mp hprefix).length_le
    rw [List.length_append] at hlength
    have htwo : crlf.length = 2 := rfl
    obtain ⟨⟨result, hresult⟩, -⟩ := @partsLoop_spec body (dashes ++ boundary)
      (body.length + 1) ((dashes ++ boundary).length + 2) [] (by omega) (by omega)
    rw [hresult]
    cases result with
    | error error => exact ⟨_, rfl⟩
    | ok parsed =>
      dsimp only
      split
      · exact ⟨_, rfl⟩
      · exact ⟨_, rfl⟩
  · exact ⟨_, rfl⟩

/-- The reader accepts exactly the bodies which the scanner cuts into one to four parts. -/
theorem parts_eq_ok_iff {parsed : List (List Byte × List Byte)} :
    parts body boundary = some (.ok parsed) ↔ MultipartBody ScannedPart boundary body parsed := by
  rw [parts]
  by_cases hprefix : (dashes ++ boundary ++ crlf).isPrefixOf body = true
  · rw [if_pos hprefix]
    obtain ⟨text, htext⟩ := List.isPrefixOf_iff_prefix.mp hprefix
    have hmarker : (dashes ++ boundary).length + 2 = (dashes ++ boundary ++ crlf).length := by
      rw [@List.length_append _ (dashes ++ boundary) crlf]
      rfl
    have hlength : (dashes ++ boundary).length + 2 ≤ body.length := by
      rw [hmarker, ← htext]
      simp
    have hdrop : body.drop ((dashes ++ boundary).length + 2) = text := by
      rw [hmarker, ← htext]
      exact List.drop_left
    obtain ⟨-, haccepts⟩ := @partsLoop_spec body (dashes ++ boundary)
      (body.length + 1) ((dashes ++ boundary).length + 2) [] hlength (by omega)
    rw [hdrop] at haccepts
    constructor
    · intro h
      split at h
      · rename_i accepted hloop
        split at h
        · cases h
        · rename_i hcount
          cases h
          obtain ⟨following, hfollowing, hsequence⟩ := (haccepts parsed).mp hloop
          rw [List.nil_append] at hfollowing
          subst hfollowing
          exact ⟨text, htext.symm, hsequence, by omega⟩
      · rename_i hother
        exact absurd h (hother parsed)
    · rintro ⟨other, hother, hsequence, hcount⟩
      have hsame : other = text := List.append_cancel_left (hother.symm.trans htext.symm)
      subst hsame
      rw [(haccepts parsed).mpr ⟨parsed, rfl, hsequence⟩]
      have hne := hsequence.ne_nil
      have hfew : ¬ (parsed = [] ∨ 4 < parsed.length) := by
        rintro (hnil | hmany)
        · exact hne hnil
        · omega
      exact if_neg hfew
  · rw [if_neg hprefix]
    constructor
    · intro h
      cases h
    · rintro ⟨text, htext, -⟩
      exact absurd (List.isPrefixOf_iff_prefix.mpr ⟨text, htext.symm⟩) hprefix

/-- The reader follows the grammar exactly on the bodies of which it accepts no header block
that hides a delimiter. -/
theorem meetsGrammar_iff (boundary body : List Byte) :
    MeetsGrammar boundary body ↔ ¬ AcceptsHidden boundary body := by
  constructor
  · rintro ⟨-, hgrammar⟩ ⟨text, parsed, hbody, hsequence, hcount, hhides⟩
    have haccepted : parts body boundary = some (.ok parsed) :=
      parts_eq_ok_iff.mpr ⟨text, hbody, hsequence, hcount⟩
    obtain ⟨other, hother, hwhole, -⟩ := (hgrammar parsed).mp haccepted
    have hsame : other = text := List.append_cancel_left (hother.symm.trans hbody)
    subst hsame
    exact hwhole.clean hhides
  · intro hclean
    refine ⟨exists_parts body boundary, ?_⟩
    intro parsed
    rw [parts_eq_ok_iff]
    constructor
    · rintro ⟨text, hbody, hsequence, hcount⟩
      refine ⟨text, hbody, hsequence.whole ?_, hcount⟩
      intro hhides
      exact hclean ⟨text, parsed, hbody, hsequence, hcount, hhides⟩
    · rintro ⟨text, hbody, hsequence, hcount⟩
      exact ⟨text, hbody, hsequence.scanned, hcount⟩

def asciiText (text : String) : List Byte :=
  text.toList.map fun char => Fin.ofNat 256 char.toNat

/-- A body whose first header block is not ended before the second delimiter. -/
def hiddenBody : List Byte :=
  asciiText "--b\r\nA: 1\r\n--b\r\nB: 2\r\n\r\nC\r\n--b--"

/-- Both header blocks are read as one part. -/
theorem not_meetsGrammar_hiddenBody : ¬ MeetsGrammar [98] hiddenBody := by
  rintro ⟨-, hgrammar⟩
  have hparts : parts hiddenBody [98] =
      some (.ok [(asciiText "A: 1\r\n--b\r\nB: 2", asciiText "C")]) := by
    decide +kernel
  obtain ⟨text, hbody, hsequence, -⟩ := (hgrammar _).mp hparts
  have htext : text = hiddenBody.drop 5 := by
    rw [hbody]
    rfl
  have hdelimiter : crlf ++ (dashes ++ [98]) <+: (hiddenBody.drop 5).drop 4 :=
    List.isPrefixOf_iff_prefix.mp (by decide +kernel)
  rw [← htext] at hdelimiter
  have hearly : 4 < (asciiText "A: 1\r\n--b\r\nB: 2").length + 4 + (asciiText "C").length := by
    decide +kernel
  cases hsequence with
  | last hpart _ => exact hpart.delimiter_first.2 4 hearly hdelimiter
  | more _ hrest => exact hrest.ne_nil rfl

end Reader

end Multipart

end BuddyWeb
