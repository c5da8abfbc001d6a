/-
When the parts of an answer pass their models: fixed texts, verified entries, citations of the
guide, and selected passages.
-/
import BuddyWeb.Chatbot.Service
import BuddyWeb.Chatbot.SourceFacts
import BuddyWeb.Lib.Outcome

namespace BuddyWeb

section Messages

/-- Fits an answer with room to spare. -/
def isShortText (text : List Char) : Bool := Nat.ble 1 text.length && Nat.ble text.length 300

theorem isShortText.bounds {text : List Char} (h : isShortText text = true) :
    1 ≤ text.length ∧ text.length ≤ 300 := by
  simpa [isShortText] using h

/-- Written as literals of at most a hundred characters each. -/
inductive IsPieced : Nat → List Char → Prop
  | literal {chars : List Char}
      (h : (Nat.ble 1 chars.length && Nat.ble chars.length 100) = true) :
      IsPieced 1 (String.ofList chars).toList
  | append {count more : Nat} {first second : List Char} (hfirst : IsPieced count first)
      (hsecond : IsPieced more second) : IsPieced (count + more) (first ++ second)

theorem IsPieced.bounds {count : Nat} {text : List Char} (h : IsPieced count text) :
    1 ≤ text.length ∧ text.length ≤ 100 * count := by
  induction h with
  | literal h =>
    rw [Bool.and_eq_true, Nat.ble_eq, Nat.ble_eq] at h
    rw [String.toList_ofList]
    omega
  | append _ _ ihfirst ihsecond =>
    rw [List.length_append]
    omega

theorem IsPieced.isShortText {count : Nat} {text : List Char} (h : IsPieced count text)
    (hcount : count ≤ 3) : isShortText text = true := by
  have hbounds := h.bounds
  rw [BuddyWeb.isShortText, Bool.and_eq_true, Nat.ble_eq, Nat.ble_eq]
  omega

/-- The fixed texts in a language. -/
def fixedMessages (language : Language) : List (List Char) :=
  [conditional language, fallbackMessage language, multiFallback language,
    clarifyMessage language, restrictedMessage language, unavailableMessage language,
    conflictCaution language, unverifiedCaution language, ownerCaution language,
    sensitiveNotice language, timeNotice language, tooLongMessage language]

theorem isShortText_languagePrompt : isShortText languagePrompt = true :=
  (IsPieced.literal (by decide +kernel)).isShortText (by decide)

-- The literals are compared with their lists of characters.
set_option maxRecDepth 4000 in
theorem isShortText_fixedMessages (language : Language) :
    ∀ message ∈ fixedMessages language, isShortText message = true := by
  have hone {text : List Char} (h : IsPieced 1 text) := h.isShortText (by decide)
  have htwo {text : List Char} (h : IsPieced (1 + 1) text) := h.isShortText (by decide)
  have hthree {text : List Char} (h : IsPieced (1 + 1 + 1) text) := h.isShortText (by decide)
  simp only [fixedMessages, List.forall_mem_cons]
  cases language with
  | en =>
    refine ⟨hone (.literal ?_),
      htwo (.append (.literal ?_) (.literal ?_)),
      hone (.literal ?_),
      htwo (.append (.literal ?_) (.literal ?_)),
      hthree (.append (.append (.literal ?_) (.literal ?_)) (.literal ?_)),
      hone (.literal ?_),
      htwo (.append (.literal ?_) (.literal ?_)),
      hthree (.append (.append (.literal ?_) (.literal ?_)) (.literal ?_)),
      htwo (.append (.literal ?_) (.literal ?_)),
      hone (.literal ?_),
      hone (.literal ?_),
      htwo (.append (.literal ?_) (.literal ?_)),
      List.forall_mem_nil _⟩ <;>
      decide +kernel
  | de =>
    refine ⟨hone (.literal ?_),
      htwo (.append (.literal ?_) (.literal ?_)),
      htwo (.append (.literal ?_) (.literal ?_)),
      htwo (.append (.literal ?_) (.literal ?_)),
      hthree (.append (.append (.literal ?_) (.literal ?_)) (.literal ?_)),
      htwo (.append (.literal ?_) (.literal ?_)),
      hthree (.append (.append (.literal ?_) (.literal ?_)) (.literal ?_)),
      hthree (.append (.append (.literal ?_) (.literal ?_)) (.literal ?_)),
      hthree (.append (.append (.literal ?_) (.literal ?_)) (.literal ?_)),
      htwo (.append (.literal ?_) (.literal ?_)),
      hone (.literal ?_),
      htwo (.append (.literal ?_) (.literal ?_)),
      List.forall_mem_nil _⟩ <;>
      decide +kernel

theorem fixedMessage_bounds {language : Language} {message : List Char}
    (h : message ∈ fixedMessages language) : 1 ≤ message.length ∧ message.length ≤ 300 :=
  isShortText.bounds (isShortText_fixedMessages language message h)

end Messages

variable {tables : WordTables}

section Answers

theorem Answer.exists_validate_iff {language : AnswerLanguage} {outcome : AnswerOutcome}
    {text : List Char} {citations : List (Citation tables)} :
    (∃ answer, Answer.validate language outcome text citations = .ok answer) ↔
      (1 ≤ text.length ∧ text.length ≤ maxAnswer) ∧ citations.length ≤ 3 := by
  unfold Answer.validate
  split
  · rename_i hvalid
    exact ⟨fun _ => hvalid, fun _ => ⟨_, rfl⟩⟩
  · rename_i hinvalid
    simp [hinvalid]

theorem Answer.validate_eq_ok {language : AnswerLanguage} {outcome : AnswerOutcome}
    {text : List Char} {citations : List (Citation tables)} {answer : Answer tables}
    (h : Answer.validate language outcome text citations = .ok answer) :
    answer.outcome = outcome ∧ answer.text = text ∧ answer.citations = citations := by
  unfold Answer.validate at h
  split at h
  · simp only [Except.ok.injEq] at h
    rw [← h]
    exact ⟨rfl, rfl, rfl⟩
  · simp at h

theorem exists_plainReply {language : AnswerLanguage} {outcome : AnswerOutcome}
    {text : List Char} (h : 1 ≤ text.length ∧ text.length ≤ 300) :
    ∃ reply : Reply tables, plainReply language outcome text = .ok reply := by
  have hmax : maxAnswer = 1800 := rfl
  obtain ⟨answer, hanswer⟩ := (@Answer.exists_validate_iff tables language outcome text []).mpr
    ⟨⟨h.1, by omega⟩, Nat.zero_le _⟩
  exact ⟨{ answer := answer }, by simp [plainReply, hanswer]⟩

theorem exists_messageReply {language : Language} {outcome : AnswerOutcome}
    {message : List Char} (h : message ∈ fixedMessages language) :
    ∃ reply : Reply tables, plainReply language.answer outcome message = .ok reply :=
  exists_plainReply (fixedMessage_bounds h)

/-- A reply without citations. -/
theorem plainReply_eq_ok {language : AnswerLanguage} {outcome : AnswerOutcome}
    {text : List Char} {reply : Reply tables}
    (h : plainReply language outcome text = .ok reply) :
    reply.answer.outcome = outcome ∧ reply.answer.citations = [] ∧ reply.cited = [] := by
  simp only [plainReply, except_bind_eq_ok_iff, except_pure_eq_ok_iff] at h
  obtain ⟨answer, hanswer, hreply⟩ := h
  have hfields := Answer.validate_eq_ok hanswer
  rw [← hreply]
  exact ⟨hfields.1, hfields.2.2, rfl⟩

end Answers

section Verified

theorem citationStatus_isSome {status : Verification} :
    (citationStatus status).isSome = status.isAuthoritative := by
  cases status <;> rfl

theorem citationStatus_isUndated {status : Verification} {cited : CitationStatus}
    (h : citationStatus status = some cited) :
    cited.isUndated = false ∧ cited.isOwner = false := by
  cases status <;> cases h <;> exact ⟨rfl, rfl⟩

/-- What a verified entry is shown with. -/
def verifiedText (entry : Entry tables) (language : Language) (guessed : Bool) : List Char :=
  (if guessed then conditional language else []) ++ (entry.localized language).answer

theorem exists_verifiedReply_iff {entry : Entry tables} (hentry : entry.authoritative = true)
    (language : Language) (guessed : Bool) :
    (∃ reply, verifiedReply entry language guessed = .ok reply) ↔
      (verifiedText entry language guessed).length ≤ maxAnswer := by
  obtain ⟨status, hstatus⟩ := Option.isSome_iff_exists.mp
    (citationStatus_isSome.trans hentry)
  have hplain := citationStatus_isUndated hstatus
  have hdate : entry.verifiedOn.isNone = false := by
    rw [← Bool.not_eq_true, Option.isNone_iff_eq_none]
    exact entry.verified_date hentry
  have hcitation : ∃ citation : Citation tables,
      Citation.validate entry.id entry.sources entry.verifiedOn status none = .ok citation := by
    rw [Citation.validate, dif_pos ⟨hplain.1.trans hdate.symm, hplain.2⟩]
    exact ⟨_, rfl⟩
  obtain ⟨citation, hcitation⟩ := hcitation
  have hpos := (entry.localized language).answer_length.1
  have hanswer := @Answer.exists_validate_iff tables language.answer .answer
    (verifiedText entry language guessed) [citation]
  rw [verifiedReply, hstatus]
  simp only [hcitation, except_bind_eq_ok_iff, except_pure_eq_ok_iff, Except.ok.injEq,
    exists_eq_left']
  constructor
  · rintro ⟨reply, answer, hvalid, _⟩
    exact (hanswer.mp ⟨answer, hvalid⟩).1.2
  · intro hlength
    have hone : 1 ≤ (verifiedText entry language guessed).length := by
      rw [verifiedText, List.length_append]
      omega
    obtain ⟨answer, hvalid⟩ := hanswer.mpr ⟨⟨hone, hlength⟩, by simp⟩
    exact ⟨_, answer, hvalid, rfl⟩

/-- A reply with the citation of the entry alone. -/
theorem verifiedReply_eq_ok {entry : Entry tables} {language : Language} {guessed : Bool}
    {reply : Reply tables} (h : verifiedReply entry language guessed = .ok reply) :
    reply.answer.outcome = .answer ∧ reply.cited = [] ∧
      ∃ status citation, citationStatus entry.status = some status ∧
        Citation.validate entry.id entry.sources entry.verifiedOn status none = .ok citation ∧
        reply.answer.citations = [citation] := by
  unfold verifiedReply at h
  cases hstatus : citationStatus entry.status with
  | none => simp [hstatus] at h
  | some status =>
    simp only [hstatus, except_bind_eq_ok_iff, except_pure_eq_ok_iff] at h
    obtain ⟨citation, hcitation, answer, hanswer, hreply⟩ := h
    have hfields := Answer.validate_eq_ok hanswer
    rw [← hreply]
    exact ⟨hfields.1, rfl, status, citation, rfl, hcitation, hfields.2.2⟩

theorem exists_verifiedReply {entry : Entry tables} (hentry : entry.authoritative = true)
    (language : Language) : ∃ reply, verifiedReply entry language false = .ok reply :=
  (exists_verifiedReply_iff hentry language false).mpr
    (by simpa [verifiedText] using (entry.localized language).answer_length.2)

end Verified

section Passages

theorem startsWith_guideReference (passage : Passage) :
    startsWith "historical:" (guideReference passage) = true ∧
      startsWith "https://" (guideReference passage) = false ∧
      startsWith "apps/" (guideReference passage) = false ∧
      startsWith "docs/" (guideReference passage) = false :=
  ⟨rfl, rfl, rfl, rfl⟩

theorem isStableReference_guideReference (nfkc : List Char → List Char) (passage : Passage) :
    isStableReference nfkc (guideReference passage) = true := by
  have hstarts := startsWith_guideReference passage
  simp [isStableReference, hstarts]

theorem toString_length {number : Nat} (h : number < 1000000) :
    (toString number).toList.length ≤ 6 := by
  have hpower : 10 ^ 6 = 1000000 := by decide
  rw [← hpower] at h
  rw [String.length_toList]
  exact (Nat.length_repr_le_iff (by decide)).mpr h

theorem guideReference_length {passage : Passage} (hstart : passage.startLine < 1000000)
    (hend : passage.endLine < 1000000) :
    1 ≤ (guideReference passage).length ∧ (guideReference passage).length ≤ 300 := by
  have hfirst := toString_length hstart
  have hlast := toString_length hend
  have hopening : "historical:systemPrompt.txt#L".toList.length = 29 := rfl
  have hrange : "-L".toList.length = 2 := rfl
  unfold guideReference
  rw [List.length_append, List.length_append, List.length_append, hopening, hrange]
  omega

variable {libraries : SourceLibraries}

theorem exists_passageCitation {named : List Char → Prop} {snapshot : Snapshot}
    (h : snapshot.Accepted libraries named)
    (hnamed : ∀ name, named name → 1 ≤ name.length ∧ name.length ≤ 160) {passage : Passage}
    (hpassage : passage ∈ snapshot.passages) :
    ∃ citation : Citation tables, passageCitation snapshot passage = .ok citation := by
  have hlines := h.lines passage hpassage
  have hsection := hnamed _ (h.passages passage hpassage).sectionNamed
  have hreference := @guideReference_length passage (by omega) (by omega)
  have htitle : (1 ≤ guideTitle.length ∧ guideTitle.length ≤ 160) ∧
      isNonblank guideTitle = true := by
    decide +kernel
  have hsource : ∃ source : Source tables,
      Source.validate guideTitle (guideReference passage) = .ok source := by
    rw [Source.validate, dif_pos ⟨htitle.1, htitle.2, hreference,
      isStableReference_guideReference _ passage⟩]
    exact ⟨_, rfl⟩
  have hprovenance : ∃ provenance, SourceProvenance.validate snapshot.version
      passage.startLine passage.endLine passage.sectionName = .ok provenance := by
    rw [SourceProvenance.validate, dif_pos ⟨h.version, hlines.1, by omega, hsection,
      hlines.2.1⟩]
    exact ⟨_, rfl⟩
  obtain ⟨source, hsource⟩ := hsource
  obtain ⟨provenance, hprovenance⟩ := hprovenance
  by_cases hconflict : passage.policy = .conflicted
  · exact ⟨_, by
      rw [passageCitation, hsource, hprovenance, if_pos hconflict]
      rfl⟩
  · exact ⟨_, by
      rw [passageCitation, hsource, hprovenance, if_neg hconflict]
      rfl⟩

/-- What `passagesReply` shows when it quotes. -/
def quotedText (tables : WordTables) (text : List Char) (language : Language)
    (passages : List Passage) : List Char :=
  let caution := fullCaution tables text language passages
    (if passages.any (·.policy == .conflicted) then conflictCaution language
    else ownerCaution language)
  let opening := if confidence tables text = .medium then conditional language else []
  opening ++ caution ++ "\n\n".toList ++ joinParagraphs (passages.map quoteOf)

/-- The quotes, unless they are too long. -/
def quotedOrNotice (tables : WordTables) (text : List Char) (language : Language)
    (passages : List Passage) : List Char :=
  if maxAnswer < (quotedText tables text language passages).length then tooLongMessage language
  else quotedText tables text language passages

theorem quotedOrNotice_bounds (text : List Char) (language : Language)
    (passages : List Passage) :
    1 ≤ (quotedOrNotice tables text language passages).length ∧
      (quotedOrNotice tables text language passages).length ≤ maxAnswer := by
  have hmax : maxAnswer = 1800 := rfl
  have hnotice := @fixedMessage_bounds language (tooLongMessage language)
    (by simp [fixedMessages])
  have hpos : 1 ≤ (quotedText tables text language passages).length := by
    have hbreak : "\n\n".toList.length = 2 := rfl
    simp only [quotedText, List.length_append]
    omega
  unfold quotedOrNotice
  split <;> omega

/-- The three replies to selected passages. -/
theorem passagesReply_eq (text : List Char) (language : Language) (snapshot : Snapshot)
    (passages : List Passage) :
    (passagesReply text language snapshot passages : Except AskError (Reply tables)) = (do
      let citations ← passages.mapM (passageCitation snapshot)
      let conflicted := passages.any (·.policy == .conflicted)
      if conflicted ∧ referenceQuery tables text = false then
        let answer ← Answer.validate language.answer .conflicted (conflictCaution language)
          citations
        pure { answer := answer, cited := passages }
      else if conflicted = false ∧ (sensitiveQuery tables text || currentQuery tables text) ∧
          referenceQuery tables text = false then
        plainReply language.answer .insufficient (unverifiedCaution language)
      else
        let answer ← Answer.validate language.answer
          (if conflicted then .conflicted else .ownerProvided)
          (quotedOrNotice tables text language passages) citations
        pure { answer := answer, cited := passages }) := rfl

theorem exists_passagesReply {text : List Char} {language : Language} {snapshot : Snapshot}
    {passages : List Passage} (hlength : passages.length ≤ 3)
    (hcitations : ∀ passage ∈ passages, ∃ citation : Citation tables,
      passageCitation snapshot passage = .ok citation) :
    ∃ reply : Reply tables, passagesReply text language snapshot passages = .ok reply := by
  have hmax : maxAnswer = 1800 := rfl
  obtain ⟨citations, hmapped, hcount⟩ := exists_mapM_ok hcitations
  have hvalid : ∀ outcome shown, 1 ≤ shown.length → shown.length ≤ maxAnswer →
      ∃ answer, Answer.validate language.answer outcome shown citations = .ok answer :=
    fun outcome shown hpos hfits =>
      Answer.exists_validate_iff.mpr ⟨⟨hpos, hfits⟩, by omega⟩
  have hcaution := @fixedMessage_bounds language (conflictCaution language)
    (by simp [fixedMessages])
  have hquoted := @quotedOrNotice_bounds tables text language passages
  simp only [passagesReply_eq, hmapped, except_bind_eq_ok_iff, Except.ok.injEq,
    exists_eq_left']
  by_cases hblocked : passages.any (·.policy == .conflicted) = true ∧
      referenceQuery tables text = false
  · obtain ⟨answer, hanswer⟩ := hvalid .conflicted _ hcaution.1 (by omega)
    simp only [if_pos hblocked, hanswer]
    exact ⟨_, rfl⟩
  · simp only [if_neg hblocked]
    by_cases hunverified : passages.any (·.policy == .conflicted) = false ∧
        (sensitiveQuery tables text || currentQuery tables text) = true ∧
        referenceQuery tables text = false
    · simp only [if_pos hunverified]
      exact exists_messageReply (by simp [fixedMessages])
    · obtain ⟨answer, hanswer⟩ := hvalid
        (if passages.any (·.policy == .conflicted) then .conflicted else .ownerProvided) _
        hquoted.1 hquoted.2
      simp only [if_neg hunverified, hanswer]
      exact ⟨_, rfl⟩

/-- Passages without a conflict which `passagesReply` keeps back. -/
def isWithheld (tables : WordTables) (text : List Char) (passages : List Passage) : Bool :=
  !passages.any (·.policy == .conflicted) &&
    (sensitiveQuery tables text || currentQuery tables text) && !referenceQuery tables text

/-- The reply cites every passage, or keeps all of them back. -/
theorem passagesReply_eq_ok {text : List Char} {language : Language} {snapshot : Snapshot}
    {passages : List Passage} {reply : Reply tables}
    (h : passagesReply text language snapshot passages = .ok reply) :
    if isWithheld tables text passages then
      reply.answer.outcome = .insufficient ∧ reply.answer.citations = [] ∧ reply.cited = []
    else
      reply.answer.outcome =
        (if passages.any (·.policy == .conflicted) then .conflicted else .ownerProvided) ∧
      passages.mapM (passageCitation snapshot) = .ok reply.answer.citations ∧
      reply.cited = passages := by
  simp only [passagesReply_eq, except_bind_eq_ok_iff] at h
  obtain ⟨citations, hmapped, h⟩ := h
  unfold isWithheld
  cases hconflict : passages.any (·.policy == .conflicted) with
  | true =>
    simp only [hconflict, true_and, Bool.true_eq_false, false_and, if_false, Bool.not_true,
      Bool.false_and, Bool.false_eq_true, if_true] at h ⊢
    split at h
    · simp only [except_bind_eq_ok_iff, except_pure_eq_ok_iff] at h
      obtain ⟨answer, hanswer, hreply⟩ := h
      have hfields := Answer.validate_eq_ok hanswer
      rw [← hreply, hmapped, hfields.2.2]
      exact ⟨hfields.1, rfl, rfl⟩
    · simp only [except_bind_eq_ok_iff, except_pure_eq_ok_iff] at h
      obtain ⟨answer, hanswer, hreply⟩ := h
      have hfields := Answer.validate_eq_ok hanswer
      rw [← hreply, hmapped, hfields.2.2]
      exact ⟨hfields.1, rfl, rfl⟩
  | false =>
    simp only [hconflict, Bool.false_eq_true, false_and, if_false, true_and, Bool.not_false,
      Bool.true_and] at h ⊢
    split at h
    · rename_i hwithheld
      rw [hwithheld.1, hwithheld.2]
      exact plainReply_eq_ok h
    · rename_i hwithheld
      simp only [except_bind_eq_ok_iff, except_pure_eq_ok_iff] at h
      obtain ⟨answer, hanswer, hreply⟩ := h
      have hfields := Answer.validate_eq_ok hanswer
      rw [if_neg (by simpa using hwithheld), ← hreply, hmapped, hfields.2.2]
      exact ⟨hfields.1, rfl, rfl⟩

end Passages

end BuddyWeb
