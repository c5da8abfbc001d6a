/-
When `ask` answers: each reply fits its model, except a guessed entry whose answer leaves no
room for the opening.
-/
import BuddyWeb.Chatbot.Replies
import BuddyWeb.Chatbot.RetrievalFacts

namespace BuddyWeb

section Paragraphs

theorem joinParagraphs_append {texts more : List (List Char)} (htexts : texts ≠ [])
    (hmore : more ≠ []) :
    (joinParagraphs (texts ++ more)).length =
      (joinParagraphs texts).length + 2 + (joinParagraphs more).length := by
  induction texts with
  | nil => exact absurd rfl htexts
  | cons text rest ih =>
    cases rest with
    | nil =>
      simp only [joinParagraphs, List.cons_append, List.nil_append,
        List.intercalate_cons_of_ne_nil hmore, List.intercalate_singleton, List.length_append,
        List.length_cons, List.length_nil]
    | cons next rest =>
      have hrest := ih (by simp)
      simp only [joinParagraphs, List.cons_append, List.intercalate_cons_cons,
        List.length_append, List.length_cons, List.length_nil] at hrest ⊢
      omega

theorem joinParagraphs_pos {texts : List (List Char)} (htexts : texts ≠ [])
    (hpos : ∀ text ∈ texts, 1 ≤ text.length) : 1 ≤ (joinParagraphs texts).length := by
  cases texts with
  | nil => exact absurd rfl htexts
  | cons text rest =>
    have htext := hpos text List.mem_cons_self
    cases rest with
    | nil => simpa [joinParagraphs] using htext
    | cons next rest =>
      rw [joinParagraphs, List.intercalate_cons_cons, List.length_append, List.length_append]
      omega

end Paragraphs

variable {tables : WordTables} {φ : Type} {ops : ScoreOps φ} {language : Language}

section Parts

namespace MergedParts

/-- The merged parts fit an answer, also with the note about missing parts. -/
structure Fits (language : Language) (merged : MergedParts tables) : Prop where
  citations_le : merged.citations.length ≤ 3
  texts_fit : merged.texts ≠ [] →
    (joinParagraphs (merged.texts ++ [multiFallback language])).length ≤ maxAnswer
  texts_pos : ∀ text ∈ merged.texts, 1 ≤ text.length

theorem cite_length {citations : List (Citation tables)} (h : citations.length ≤ 3)
    (citation : Citation tables) : (cite citations citation).length ≤ 3 := by
  unfold cite
  split
  · split
    · rw [List.length_map]
      exact h
    · rw [List.length_append, List.length_singleton]
      omega
  · exact h

theorem foldl_cite_length (added : List (Citation tables)) {citations : List (Citation tables)}
    (h : citations.length ≤ 3) : (added.foldl cite citations).length ≤ 3 := by
  induction added generalizing citations with
  | nil => exact h
  | cons citation rest ih => exact ih (cite_length h citation)

theorem Fits.add {merged : MergedParts tables} (h : merged.Fits language)
    (reply : Reply tables) : (merged.add language reply).Fits language := by
  have hmissing : ({ merged with missing := true } : MergedParts tables).Fits language :=
    ⟨h.citations_le, h.texts_fit, h.texts_pos⟩
  unfold MergedParts.add
  split
  · exact hmissing
  · split
    · exact h
    · split
      · exact hmissing
      · split
        · exact hmissing
        · rename_i hfits
          refine ⟨foldl_cite_length _ h.citations_le, fun _ => ?_, ?_⟩
          · simpa [joined] using hfits
          · rw [List.forall_mem_append]
            exact ⟨h.texts_pos, by simpa using reply.answer.text_length.1⟩

theorem fits_foldl (replies : List (Reply tables)) {merged : MergedParts tables}
    (h : merged.Fits language) :
    (replies.foldl (MergedParts.add · language) merged).Fits language := by
  induction replies generalizing merged with
  | nil => exact h
  | cons reply rest ih => exact ih (h.add reply)

theorem fits_start : ({} : MergedParts tables).Fits language :=
  ⟨Nat.zero_le _, fun h => absurd rfl h, by simp⟩

/-- The texts with the note when parts are missing. -/
def allTexts (language : Language) (merged : MergedParts tables) : List (List Char) :=
  if merged.missing then merged.texts ++ [multiFallback language] else merged.texts

theorem Fits.allTexts_bounds {merged : MergedParts tables} (h : merged.Fits language)
    (htexts : merged.texts ≠ []) :
    1 ≤ (joinParagraphs (merged.allTexts language)).length ∧
      (joinParagraphs (merged.allTexts language)).length ≤ maxAnswer := by
  have happend := joinParagraphs_append htexts (List.cons_ne_nil (multiFallback language) [])
  have hfit := h.texts_fit htexts
  have hpos := joinParagraphs_pos htexts h.texts_pos
  unfold allTexts
  split <;> omega

end MergedParts

/-- An answer to parts succeeds when each of its parts does. -/
theorem exists_sourceParts_iff {retriever : Retriever tables} {parts : List (List Char)}
    {snapshot : Option Snapshot} :
    (∃ reply, sourceParts ops retriever parts language snapshot = .ok reply) ↔
      (parts.length ≤ 3 → ∀ part ∈ parts, ∃ reply,
        sourceAnswer ops retriever part language snapshot = .ok reply) := by
  unfold sourceParts
  split
  · rename_i hmany
    exact ⟨fun _ hfew => absurd hmany (Nat.not_lt_of_le hfew), fun _ =>
      exists_messageReply (by simp [fixedMessages])⟩
  · rename_i hfew
    simp only [except_bind_eq_ok_iff]
    constructor
    · rintro ⟨reply, replies, hreplies, _⟩ _ part hpart
      exact exists_ok_of_mapM hreplies part hpart
    · intro hparts
      obtain ⟨replies, hreplies, _⟩ := exists_mapM_ok (hparts (Nat.le_of_not_lt hfew))
      have hfits := MergedParts.fits_foldl replies (@MergedParts.fits_start tables language)
      generalize hmerged : replies.foldl (MergedParts.add · language) {} = merged at hfits
      by_cases htexts : merged.texts = []
      · obtain ⟨reply, hreply⟩ := @exists_messageReply tables language .clarification
          (multiFallback language) (by simp [fixedMessages])
        exact ⟨reply, replies, hreplies, by simpa only [hmerged, if_pos htexts] using hreply⟩
      · obtain ⟨answer, hanswer⟩ := (@Answer.exists_validate_iff tables language.answer
          merged.outcome _ merged.citations).mpr
            ⟨hfits.allTexts_bounds htexts, hfits.citations_le⟩
        refine ⟨{ answer := answer, cited := merged.cited }, replies, hreplies, ?_⟩
        simp only [hmerged, if_neg htexts]
        exact except_bind_eq_ok_iff.mpr ⟨answer, hanswer, rfl⟩

end Parts

section Entries

/-- What a service knows: entries which may be shown, historical ones without an index only. -/
structure Retriever.Knows (retriever : Retriever tables) (indexed : Bool) : Prop where
  authoritative : ∀ entry ∈ retriever.entries, entry.authoritative = true
  historical : ∀ entry ∈ retriever.historicalEntries,
    entry.historicalReference = true ∧ indexed = false

theorem ofEntries_knows (entries : List (Entry tables)) (index : Option (Option Snapshot)) :
    (Retriever.ofEntries (entries.filter fun entry =>
      !(index.isSome && entry.historicalReference))).Knows index.isSome := by
  refine ⟨fun entry hentry => (List.mem_filter.mp hentry).2, ?_⟩
  intro entry hentry
  obtain ⟨hkept, hhistorical⟩ := List.mem_filter.mp hentry
  have hindex := (List.mem_filter.mp hkept).2
  exact ⟨hhistorical, by simpa [hhistorical] using hindex⟩

variable {retriever : Retriever tables}

theorem Retriever.Knows.hit_authoritative (h : retriever.Knows true) {entry : Entry tables}
    (hentry : entry ∈ retriever.entries ∨ entry ∈ retriever.historicalEntries) :
    entry.authoritative = true := by
  rcases hentry with hentry | hhistorical
  · exact h.authoritative entry hentry
  · exact absurd (h.historical entry hhistorical).2 (by simp)

theorem historicalReference_verifiedOn {entry : Entry tables}
    (h : entry.historicalReference = true) : entry.verifiedOn = none := by
  obtain ⟨known, _, hknown⟩ := List.any_eq_true.mp h
  simp only [Bool.and_eq_true, beq_iff_eq] at hknown
  exact hknown.1.2

/-- A shown hit has a citation. -/
theorem exists_hitCitation {entry : Entry tables}
    (h : entry.authoritative = true ∨ entry.historicalReference = true) :
    ∃ status, hitStatus entry = some status ∧ ∃ citation : Citation tables,
      Citation.validate entry.id entry.sources entry.verifiedOn status none = .ok citation := by
  unfold hitStatus
  by_cases hhistorical : entry.historicalReference = true
  · refine ⟨.historicalReference, if_pos hhistorical, ?_⟩
    rw [Citation.validate,
      dif_pos ⟨by rw [historicalReference_verifiedOn hhistorical]; rfl, rfl⟩]
    exact ⟨_, rfl⟩
  · have hentry := h.resolve_right hhistorical
    obtain ⟨status, hstatus⟩ := Option.isSome_iff_exists.mp
      (citationStatus_isSome.trans hentry)
    have hplain := citationStatus_isUndated hstatus
    have hdate : entry.verifiedOn.isNone = false := by
      rw [← Bool.not_eq_true, Option.isNone_iff_eq_none]
      exact entry.verified_date hentry
    refine ⟨status, by rw [if_neg hhistorical, hstatus], ?_⟩
    rw [Citation.validate, dif_pos ⟨hplain.1.trans hdate.symm, hplain.2⟩]
    exact ⟨_, rfl⟩

namespace GatheredHits

/-- The gathered texts fit an answer with the reserve. -/
structure Fits (reserve : Nat) (gathered : GatheredHits tables) : Prop where
  texts_fit : gathered.texts ≠ [] →
    (joinParagraphs gathered.texts).length + reserve ≤ maxAnswer
  texts_pos : ∀ text ∈ gathered.texts, 1 ≤ text.length

/-- There is space for the note, or the only text needs none. -/
def HasRoom (language : Language) (reserve count : Nat) (gathered : GatheredHits tables) : Prop :=
  (multiFallback language).length + 2 ≤ reserve ∨
    count + gathered.texts.length ≤ 1 ∧ reserve = 0

end GatheredHits

theorem exists_gatherHits {reserve : Nat} {hits : List (Hit tables φ)}
    {gathered : GatheredHits tables}
    (hhits : ∀ hit ∈ hits, hit.entry.authoritative = true ∨
      hit.entry.historicalReference = true)
    (hfits : gathered.Fits reserve) (hroom : gathered.HasRoom language reserve hits.length)
    (hmissing : gathered.missing = true → (multiFallback language).length + 2 ≤ reserve)
    (hcount : gathered.citations.length + hits.length ≤ 3) :
    ∃ result : GatheredHits tables, gatherHits language reserve gathered hits = .ok result ∧
      result.Fits reserve ∧ result.citations.length ≤ 3 ∧
      (result.missing = true → (multiFallback language).length + 2 ≤ reserve) := by
  induction hits generalizing gathered with
  | nil => exact ⟨gathered, rfl, hfits, hcount, hmissing⟩
  | cons hit rest ih =>
    obtain ⟨hhit, hrest⟩ := List.forall_mem_cons.mp hhits
    have hanswer := (hit.entry.localized language).answer_length
    rw [List.length_cons] at hcount
    simp only [gatherHits]
    split
    · rename_i hover
      refine ⟨_, rfl, ⟨hfits.texts_fit, hfits.texts_pos⟩, by simp only; omega, fun _ => ?_⟩
      rcases hroom with hroom | ⟨hone, hnone⟩
      · exact hroom
      · rw [List.length_cons] at hone
        have hempty : gathered.texts = [] := List.length_eq_zero_iff.mp (by omega)
        rw [hempty, List.nil_append, joinParagraphs, List.intercalate_singleton] at hover
        omega
    · rename_i hover
      obtain ⟨status, hstatus, citation, hcitation⟩ := exists_hitCitation hhit
      have hshown : ¬ (hit.entry.authoritative = false ∧
          hit.entry.historicalReference = false) := by
        rintro ⟨hplain, hold⟩
        rcases hhit with hhit | hhit
        · rw [hplain] at hhit
          cases hhit
        · rw [hold] at hhit
          cases hhit
      rw [if_neg hshown, hstatus]
      simp only [hcitation]
      refine ih hrest ⟨fun _ => Nat.le_of_not_lt hover, ?_⟩ ?_ hmissing ?_
      · rw [List.forall_mem_append]
        exact ⟨hfits.texts_pos, by simpa using hanswer.1⟩
      · rcases hroom with hroom | ⟨hone, hnone⟩
        · exact Or.inl hroom
        · rw [List.length_cons] at hone
          refine Or.inr ⟨?_, hnone⟩
          rw [List.length_append, List.length_singleton]
          omega
      · rw [List.length_append, List.length_singleton]
        omega

theorem GatheredHits.Fits.allTexts_bounds {reserve : Nat} {gathered : GatheredHits tables}
    (h : gathered.Fits reserve)
    (hmissing : gathered.missing = true → (multiFallback language).length + 2 ≤ reserve)
    (htexts : gathered.texts ≠ []) :
    1 ≤ (joinParagraphs (if gathered.missing then gathered.texts ++ [multiFallback language]
      else gathered.texts)).length ∧
    (joinParagraphs (if gathered.missing then gathered.texts ++ [multiFallback language]
      else gathered.texts)).length ≤ maxAnswer := by
  have hfit := h.texts_fit htexts
  have hpos := joinParagraphs_pos htexts h.texts_pos
  split
  · rename_i hgap
    have hreserved := hmissing hgap
    have happend := joinParagraphs_append htexts (List.cons_ne_nil (multiFallback language) [])
    have hnote : (joinParagraphs [multiFallback language]).length =
        (multiFallback language).length := by
      rw [joinParagraphs, List.intercalate_singleton]
    omega
  · omega

theorem exists_entriesReply {indexed : Bool} (h : retriever.Knows indexed) (text : List Char) :
    ∃ reply, entriesReply ops retriever text language = .ok reply := by
  have hmany := @fixedMessage_bounds language (multiFallback language) (by simp [fixedMessages])
  have hknown : ∀ hit ∈ retriever.retrieve ops text language,
      hit.entry.authoritative = true ∨ hit.entry.historicalReference = true :=
    fun hit hhit => (Retriever.mem_of_mem_retrieve hhit).imp (h.authoritative _)
      fun hhistorical => (h.historical _ hhistorical).1
  have hlength := @Retriever.retrieve_length _ _ ops retriever language text
  unfold entriesReply
  generalize retriever.retrieve ops text language = hits at hknown hlength ⊢
  dsimp only
  by_cases hnone : hits = []
  · rw [if_pos hnone]
    split
    · exact exists_messageReply (by simp [fixedMessages])
    · split
      · exact exists_messageReply (by simp [fixedMessages])
      · exact exists_messageReply (by simp [fixedMessages])
  · rw [if_neg hnone]
    generalize hselected : (if 1 < (splitQuestions text).length then hits else hits.take 1) =
      selected
    have hchosen : ∀ hit ∈ selected, hit ∈ hits := by
      rw [← hselected]
      split
      · exact fun _ hhit => hhit
      · exact fun _ hhit => List.mem_of_mem_take hhit
    generalize hstart : (decide (1 < (splitQuestions text).length) &&
      (splitQuestions text).any fun part => (retriever.retrieve ops part language).isEmpty) =
        missing
    generalize hreserve : (if 1 < (splitQuestions text).length then
      (multiFallback language).length + 2 else 0) = reserve
    obtain ⟨gathered, hgathered, hfits, hcount, hmissing⟩ :=
      @exists_gatherHits tables φ language reserve selected { missing := missing }
        (fun hit hhit => hknown hit (hchosen hit hhit)) ⟨by simp, by simp⟩
        (by
          by_cases hparts : 1 < (splitQuestions text).length
          · rw [if_pos hparts] at hreserve
            exact Or.inl (Nat.le_of_eq hreserve)
          · rw [if_neg hparts] at hreserve hselected
            refine Or.inr ⟨?_, hreserve.symm⟩
            rw [← hselected]
            simp)
        (by
          intro hgap
          change missing = true at hgap
          rw [hgap, Bool.and_eq_true, decide_eq_true_iff] at hstart
          rw [if_pos hstart.1] at hreserve
          exact Nat.le_of_eq hreserve)
        (by
          rw [← hselected]
          split
          · simpa using hlength
          · have htake := List.length_take_le 1 hits
            simp only [List.length_nil]
            omega)
    simp only [hgathered, except_bind_eq_ok_iff, Except.ok.injEq, exists_eq_left']
    by_cases htexts : gathered.texts = []
    · simp only [if_pos htexts]
      exact exists_messageReply (by simp [fixedMessages])
    · simp only [if_neg htexts]
      obtain ⟨answer, hanswer⟩ := (@Answer.exists_validate_iff tables language.answer
        (if gathered.citations.any (·.status == .historicalReference) then .historicalReference
        else .answer) _ gathered.citations).mpr ⟨hfits.allTexts_bounds hmissing htexts, hcount⟩
      exact ⟨{ answer := answer }, except_bind_eq_ok_iff.mpr ⟨answer, hanswer, rfl⟩⟩

end Entries

section Guesses

variable {retriever : Retriever tables} {snapshot : Option Snapshot}

/-- When `_source_answer` guesses an entry: nothing is retrieved for words which are enough, the
question is of medium confidence, and its topic has one candidate. -/
structure Guesses (ops : ScoreOps φ) (retriever : Retriever tables) (text : List Char)
    (language : Language) (entry : Entry tables) : Prop where
  noHit : 1 < (tokens tables text).length → retriever.retrieve ops text language = []
  notAmbiguous : retriever.ambiguous ops text language = false
  content : contentTokens tables text ≠ []
  oneTopic : (topics tables text).length ≤ 1
  candidate : intentCandidates retriever text language ((topics tables text).headD "") = [entry]
  medium : confidence tables text = .medium

theorem sourceRoute_eq_guess_iff {text : List Char} {entry : Entry tables} :
    sourceRoute ops retriever text language snapshot = .verified entry true ↔
      Guesses ops retriever text language entry := by
  constructor
  · intro h
    unfold sourceRoute at h
    dsimp only at h
    split at h
    · simp at h
    · rename_i hhead
      split at h
      · cases h
      · rename_i hambiguous
        split at h
        · cases h
        · rename_i hcontent
          split at h
          · cases h
          · rename_i htopics
            split at h
            · rename_i guessed hcandidate
              simp only [SourceRoute.verified.injEq, decide_eq_true_eq] at h
              refine ⟨fun htokens => ?_, Bool.not_eq_true _ ▸ hambiguous, hcontent,
                Nat.le_of_not_lt htopics, h.1 ▸ hcandidate, h.2⟩
              rw [if_pos (Or.inr htokens)] at hhead
              exact List.head?_eq_none_iff.mp hhead
            · cases h
            · split at h
              · cases h
              · split at h
                · cases h
                · split at h
                  · cases h
                  · cases h
  · intro h
    have hhead : (if Confidence.medium = .high ∨ 1 < (tokens tables text).length then
        (retriever.retrieve ops text language).head? else none) = none := by
      split
      · rename_i hwords
        rw [h.noHit (hwords.resolve_left (by simp)), List.head?_nil]
      · rfl
    unfold sourceRoute
    simp only [hhead, h.notAmbiguous, Bool.false_eq_true, if_false, if_neg h.content,
      if_neg (Nat.not_lt_of_le h.oneTopic), h.candidate, h.medium, decide_true]

/-- A part is answered unless a guess is too long with its opening. -/
theorem exists_sourceAnswer_iff {libraries : SourceLibraries} {retriever : Retriever tables}
    (hknows : retriever.Knows true) {snapshot : Option Snapshot}
    (hsnapshot : ∀ parsed, snapshot = some parsed →
      ∃ raw, parseSource libraries raw = .ok parsed) (text : List Char) :
    (∃ reply, sourceAnswer ops retriever text language snapshot = .ok reply) ↔
      ∀ entry, Guesses ops retriever text language entry →
        (verifiedText entry language true).length ≤ maxAnswer := by
  have hsound := @sourceRoute_sound tables φ ops retriever snapshot text language
  unfold sourceAnswer
  constructor
  · intro hreply entry hguess
    rw [sourceRoute_eq_guess_iff.mpr hguess] at hreply hsound
    exact (exists_verifiedReply_iff (hknows.hit_authoritative hsound) language true).mp hreply
  · intro hfits
    cases hroute : sourceRoute ops retriever text language snapshot with
    | verified entry guessed =>
      rw [hroute] at hsound
      have hentry := hknows.hit_authoritative hsound
      cases guessed with
      | false => exact exists_verifiedReply hentry language
      | true =>
        exact (exists_verifiedReply_iff hentry language true).mpr
          (hfits entry (sourceRoute_eq_guess_iff.mp hroute))
    | clarification => exact exists_messageReply (by simp [fixedMessages])
    | unavailable => exact exists_messageReply (by simp [fixedMessages])
    | insufficient => exact exists_messageReply (by simp [fixedMessages])
    | passages parsed chosen =>
      rw [hroute] at hsound
      obtain ⟨hparsed, _, hselection⟩ := hsound
      obtain ⟨raw, hraw⟩ := hsnapshot parsed hparsed
      have haccepted := parseSource_accepted hraw fun text _ =>
        namesSections_length libraries.tables (splitLines [] text)
      refine exists_passagesReply (Nat.le_trans hselection.length_le (by decide)) ?_
      intro passage hpassage
      exact exists_passageCitation haccepted (fun _ hname => hname)
        (hselection.known passage hpassage)

end Guesses

section Service

namespace ChatbotService

variable (service : ChatbotService tables) (ops : ScoreOps φ) (text : List Char)

/-- The contract of `ask`: an error exactly for what is no question, and an answer which fits
its model for every question. -/
def KeepsContract : Prop :=
  (service.ask ops text = .error .invalidQuestion ↔ isQuestionText text = false) ∧
    (isQuestionText text = true → ∃ reply, service.ask ops text = .ok reply ∧
      (1 ≤ reply.answer.text.length ∧ reply.answer.text.length ≤ maxAnswer) ∧
      reply.answer.citations.length ≤ 3)

/-- The question, or one of at most three parts of it, is answered by a guessed entry whose
answer has no room for the opening. -/
def GuessesOverlong : Prop :=
  isQuestionText text = true ∧ service.directEntry ops text = none ∧
    isRestricted tables text = false ∧ service.sourceIndex ≠ none ∧
    (splitQuestions text).length ≤ 3 ∧
    ∃ language retriever entry, service.languageOf text = some language ∧
      service.retriever = some retriever ∧
      (∃ part ∈ splitQuestions text, Guesses ops retriever part language entry) ∧
      maxAnswer < (conditional language).length + (entry.localized language).answer.length

variable {service ops text}

theorem ask_of_question (h : isQuestionText text = true) :
    service.ask ops text = service.answerTo ops text := by
  rw [ask, Question.validate, dif_pos h]

theorem ask_of_not_question (h : isQuestionText text = false) :
    service.ask ops text = .error .invalidQuestion := by
  rw [ask, Question.validate, dif_neg (by simp [h])]

theorem keepsContract_iff :
    service.KeepsContract ops text ↔
      (isQuestionText text = true → ∃ reply, service.answerTo ops text = .ok reply) := by
  unfold KeepsContract
  cases hquestion : isQuestionText text with
  | false => simp [ask_of_not_question hquestion]
  | true =>
    rw [ask_of_question hquestion]
    constructor
    · rintro ⟨_, hreply⟩ htrue
      obtain ⟨reply, hreply, _⟩ := hreply htrue
      exact ⟨reply, hreply⟩
    · intro hreply
      obtain ⟨reply, hreply⟩ := hreply rfl
      rw [hreply]
      exact ⟨by simp, fun _ =>
        ⟨reply, rfl, reply.answer.text_length, reply.answer.citations_length⟩⟩

theorem splitQuestions_of_single (h : ¬ 1 < (splitQuestions text).length) :
    splitQuestions text = [text] := by
  unfold splitQuestions at h ⊢
  dsimp only at h ⊢
  split
  · rename_i hmany
    rw [if_pos hmany] at h
    exact absurd hmany h
  · rfl

theorem mem_of_directEntry {entry : Entry tables} {language : Language}
    {retriever : Retriever tables} (hretriever : service.retriever = some retriever)
    (h : service.directEntry ops text = some (entry, language)) :
    service.sourceIndex ≠ none ∧
      (entry ∈ retriever.entries ∨ entry ∈ retriever.historicalEntries) := by
  unfold directEntry at h
  split at h
  · rename_i index known detected hindex hknown _
    rw [hretriever] at hknown
    rw [← Option.some.inj hknown] at h
    split at h
    · obtain ⟨hit, hhit, hpair⟩ := Option.map_eq_some_iff.mp h
      have hentry : hit.entry = entry := congrArg Prod.fst hpair
      rw [← hentry]
      exact ⟨by simp [hindex], Retriever.mem_of_mem_retrieve (List.mem_of_mem_head? hhit)⟩
    · cases h
  · cases h

variable {libraries : SourceLibraries} {retriever : Retriever tables}
  {parsed : Option Snapshot}

/-- With an index: the answer in a language fails only for a guess which is too long. -/
theorem exists_answerIn_iff (hretriever : service.retriever = some retriever)
    (hindex : service.sourceIndex = some parsed) (hknows : retriever.Knows true)
    (hparsed : ∀ snapshot, parsed = some snapshot →
      ∃ raw, parseSource libraries raw = .ok snapshot) {language : Language} :
    (∃ reply, service.answerIn ops text language = .ok reply) ↔
      (isRestricted tables text = false → (splitQuestions text).length ≤ 3 →
        ∀ part ∈ splitQuestions text, ∀ entry, Guesses ops retriever part language entry →
          (verifiedText entry language true).length ≤ maxAnswer) := by
  have hpart := fun part => @exists_sourceAnswer_iff tables φ ops language libraries retriever
    hknows parsed hparsed part
  unfold answerIn
  cases hrestricted : isRestricted tables text with
  | true => simpa using exists_messageReply (by simp [fixedMessages])
  | false =>
    simp only [hretriever, hindex, Bool.false_eq_true, if_false, true_imp_iff]
    by_cases hmany : 1 < (splitQuestions text).length
    · simp only [if_pos hmany, exists_sourceParts_iff, hpart]
    · have hsingle := splitQuestions_of_single hmany
      simp only [if_neg hmany, hpart]
      rw [hsingle]
      simp

theorem exists_answerTo_iff (hretriever : service.retriever = some retriever)
    (hknows : retriever.Knows true) :
    (∃ reply, service.answerTo ops text = .ok reply) ↔
      (service.directEntry ops text = none → ∀ language, service.languageOf text = some language →
        ∃ reply, service.answerIn ops text language = .ok reply) := by
  unfold answerTo
  cases hdirect : service.directEntry ops text with
  | some found =>
    obtain ⟨entry, language⟩ := found
    have hentry := (mem_of_directEntry hretriever hdirect).2
    simpa using exists_verifiedReply (hknows.hit_authoritative hentry) language
  | none =>
    cases hlanguage : service.languageOf text with
    | none => simpa using exists_plainReply (isShortText.bounds isShortText_languagePrompt)
    | some language => simp

theorem exists_answerTo_of_no_index (hretriever : service.retriever = some retriever)
    (hindex : service.sourceIndex = none) (hknows : retriever.Knows false) :
    ∃ reply, service.answerTo ops text = .ok reply := by
  have hdirect : service.directEntry ops text = none := by simp [directEntry, hindex]
  unfold answerTo
  rw [hdirect]
  cases hlanguage : service.languageOf text with
  | none => exact exists_plainReply (isShortText.bounds isShortText_languagePrompt)
  | some language =>
    simp only [answerIn, hretriever, hindex]
    split
    · exact exists_messageReply (by simp [fixedMessages])
    · exact exists_entriesReply hknows text

/-- Without an index every question is answered, with one a guess can be too long. -/
theorem keepsContract_iff_of_index (hretriever : service.retriever = some retriever)
    (hindex : service.sourceIndex = some parsed) (hknows : retriever.Knows true)
    (hparsed : ∀ snapshot, parsed = some snapshot →
      ∃ raw, parseSource libraries raw = .ok snapshot) :
    service.KeepsContract ops text ↔ ¬ service.GuessesOverlong ops text := by
  rw [keepsContract_iff, exists_answerTo_iff hretriever hknows]
  constructor
  · rintro h ⟨hquestion, hdirect, hrestricted, _, hfew, language, other, entry, hlanguage,
      hsome, ⟨part, hpart, hguess⟩, hlong⟩
    rw [hretriever] at hsome
    rw [← Option.some.inj hsome] at hguess
    have hfits := (exists_answerIn_iff hretriever hindex hknows hparsed).mp
      (h hquestion hdirect language hlanguage) hrestricted hfew part hpart entry hguess
    rw [verifiedText, if_pos rfl, List.length_append] at hfits
    omega
  · intro h hquestion hdirect language hlanguage
    refine (exists_answerIn_iff hretriever hindex hknows hparsed).mpr ?_
    intro hrestricted hfew part hpart entry hguess
    by_contra hlong
    rw [verifiedText, if_pos rfl, List.length_append, Nat.not_le] at hlong
    exact h ⟨hquestion, hdirect, hrestricted, by simp [hindex], hfew, language, _, entry,
      hlanguage, hretriever, ⟨part, hpart, hguess⟩, hlong⟩

end ChatbotService

end Service

section Campus

/-- Scores as fractions, with the tangent of the logarithm at one in its place. -/
def fractionOps : ScoreOps Rat where
  ofNat := fun number => number
  ofDecimal := fun part whole => mkRat part whole
  add := (· + ·)
  sub := (· - ·)
  mul := (· * ·)
  div := (· / ·)
  log := (· - 1)
  lt := fun first second => decide (first < second)
  eq := fun first second => decide (first = second)

def campusQuestion : List Char := "the campus".toList

/-- Words of questions and passages of which the intents know the campus alone. -/
structure CampusWords where
  words : Words
  known : ∀ intent ∈ intents, (intent.tokens latinTables).filter (words.contains ·) =
    if intent.name = "campus" then ["campus".toList] else []

def campusWords : CampusWords where
  words := ["the", "campus", "has", "many", "pretty", "trees", "api", "key"].map String.toList
  known := by
    -- One evaluation for each intent: the kernel keeps the terms of a whole declaration.
    unfold intents
    repeat' refine List.forall_mem_cons.mpr ⟨by decide +kernel, ?_⟩
    exact List.forall_mem_nil _

theorem meets_campusWords {query : Words} (h : ∀ word ∈ query, word ∈ campusWords.words)
    {intent : Intent} (hintent : intent ∈ intents) :
    query.meets (intent.tokens latinTables) =
      (intent.name == "campus" && decide ("campus".toList ∈ query)) := by
  have hknown := campusWords.known intent hintent
  rw [Bool.eq_iff_iff, Words.meets, List.any_eq_true, Bool.and_eq_true, beq_iff_eq,
    decide_eq_true_iff]
  constructor
  · rintro ⟨word, hword, hcontains⟩
    have hmem : word ∈ (intent.tokens latinTables).filter (campusWords.words.contains ·) :=
      List.mem_filter.mpr ⟨List.contains_iff_mem.mp hcontains,
        List.contains_iff_mem.mpr (h word hword)⟩
    rw [hknown] at hmem
    split at hmem
    · rename_i hname
      rw [← List.mem_singleton.mp hmem]
      exact ⟨hname, hword⟩
    · simp at hmem
  · rintro ⟨hname, hword⟩
    rw [if_pos hname] at hknown
    have hmem : "campus".toList ∈ (intent.tokens latinTables).filter
        (campusWords.words.contains ·) := by
      rw [hknown]
      exact List.mem_singleton_self _
    exact ⟨_, hword, List.contains_iff_mem.mpr (List.mem_of_mem_filter hmem)⟩

theorem topics_campusWords {text : List Char}
    (h : ∀ word ∈ tokens latinTables text, word ∈ campusWords.words) :
    topics latinTables text =
      if "campus".toList ∈ tokens latinTables text then ["campus"] else [] := by
  have hfound : (intents.filter fun intent =>
      (tokens latinTables text).meets (intent.tokens latinTables)).map Intent.name =
        if "campus".toList ∈ tokens latinTables text then ["campus"] else [] := by
    rw [List.filter_congr fun intent hintent => meets_campusWords h hintent]
    split
    · rename_i hword
      simp only [hword, decide_true, Bool.and_true]
      simp [intents]
    · rename_i hword
      simp only [hword, decide_false, Bool.and_false, List.filter_false, List.map_nil]
  rw [topics, hfound]
  split <;> simp

/-- What the words of a question about the campus say. -/
structure AsksCampus (question : List Char) : Prop where
  isQuestionText : isQuestionText question = true
  single : splitQuestions question = [question]
  language : detectLanguage latinTables question = some .en
  words : words latinTables question = ["the".toList, "campus".toList]
  tokens : tokens latinTables question = ["the".toList, "campus".toList]
  confidence : confidence latinTables question = .medium
  plain : (sensitiveQuery latinTables question || currentQuery latinTables question) = false
  unrestricted : isRestricted latinTables question = false

theorem asks_campusQuestion : AsksCampus campusQuestion := by
  constructor <;> decide +kernel

/-- The stop words know the article, and the topic knows the other word. -/
theorem vocabularies_campus : (stopWords latinTables).contains "the".toList = true ∧
    (stopWords latinTables).contains "campus".toList = false ∧
    Words.without ["campus".toList] (vocabulary latinTables "campus") = [] := by
  decide +kernel

theorem contentTokens_campusQuestion :
    contentTokens latinTables campusQuestion = ["campus".toList] := by
  have hstop := List.contains_iff_mem.mp vocabularies_campus.1
  have hthe : (filler latinTables).contains "the".toList = true := by
    rw [List.contains_iff_mem, filler, Words.without, List.mem_filter]
    exact ⟨List.mem_dedup.mpr (List.mem_append_left _
      (List.mem_dedup.mpr (List.mem_append_left _ hstop))), by simp⟩
  have hcampus : (filler latinTables).contains "campus".toList = false := by
    rw [← Bool.not_eq_true, List.contains_iff_mem, filler, Words.without, List.mem_filter]
    simp
  simp only [contentTokens, asks_campusQuestion.tokens, Words.without, List.filter_cons, hthe,
    hcampus, Bool.not_true, Bool.not_false, Bool.false_eq_true, if_false, if_true,
    List.filter_nil, List.length_singleton, Nat.lt_irrefl]

theorem terms_campusQuestion : terms latinTables campusQuestion = ["campus".toList] := by
  have hnormal : normalizeWord "campus".toList = ["campus".toList] := by decide +kernel
  simp only [terms, asks_campusQuestion.words, Words.without, List.filter_cons,
    vocabularies_campus.1, vocabularies_campus.2.1, Bool.not_true, Bool.not_false,
    Bool.false_eq_true, if_false, if_true, List.filter_nil, List.flatMap_cons, List.flatMap_nil,
    hnormal]
  decide +kernel

/-- No single word is close to an alias. -/
theorem aliasScore_single (word : List Char) (aliases : List Words)
    (h : ∀ alias_ ∈ aliases, Words.same [word] alias_ = false) :
    Retriever.aliasScore ops [word] aliases = ops.ofNat 0 := by
  unfold Retriever.aliasScore
  induction aliases with
  | nil => rfl
  | cons alias_ rest ih =>
    obtain ⟨halias, hrest⟩ := List.forall_mem_cons.mp h
    have hshared : ¬ 2 ≤ (Words.shared [word] alias_).length := by
      have hfilter := List.length_filter_le (alias_.contains ·) [word]
      rw [List.length_singleton] at hfilter
      exact Nat.not_le_of_lt (Nat.lt_succ_of_le hfilter)
    rw [List.foldl_cons, halias]
    simpa [hshared] using ih hrest

/-- Verified knowledge about the campus, with the longest answer an entry may have. -/
def campusKnowledge : LocalizedKnowledge where
  questions := ["Which services exist?".toList]
  answer := List.replicate 1800 'a'
  keywords := []
  questions_length := by decide
  question_bounds := by decide +kernel
  answer_length := by
    rw [List.length_replicate]
    decide
  answer_nonblank := by decide +kernel
  keywords_length := Nat.zero_le _

def campusSource : Source latinTables :=
  ⟨"Campus services".toList, "docs/campus.md".toList, by decide +kernel, by decide +kernel,
    by decide +kernel, by decide +kernel⟩

def campusEntry : Entry latinTables where
  id := "campus-resources".toList
  category := .campusServices
  status := .verifiedCode
  verifiedOn := some ⟨2025, 1, 1, by decide, by decide, by decide⟩
  sources := [campusSource]
  en := campusKnowledge
  de := campusKnowledge
  id_pattern := by decide +kernel
  sources_length := by decide
  verified_date := by decide
  verified_sources := by decide +kernel

def briefKnowledge : LocalizedKnowledge where
  __ := campusKnowledge
  answer := "There are many.".toList
  answer_length := by decide +kernel
  answer_nonblank := by decide +kernel

/-- The same entry with a short answer. -/
def briefEntry : Entry latinTables where
  __ := campusEntry
  en := briefKnowledge
  de := briefKnowledge

/-- Either entry, as the intents and the questions know it. -/
structure IsCampusEntry (entry : Entry latinTables) : Prop where
  id : entry.id = "campus-resources".toList
  verified : entry.authoritative = true
  current : entry.historicalReference = false
  questions : (entry.localized .en).questions = ["Which services exist?".toList]

theorem isCampusEntry_campusEntry : IsCampusEntry campusEntry :=
  ⟨rfl, rfl, by decide +kernel, rfl⟩

theorem isCampusEntry_briefEntry : IsCampusEntry briefEntry :=
  ⟨rfl, rfl, by decide +kernel, rfl⟩

theorem entries_of_authoritative {entry : Entry tables} (h : entry.authoritative = true) :
    (Retriever.ofEntries [entry]).entries = [entry] := by
  rw [Retriever.ofEntries, List.filter_cons_of_pos h, List.filter_nil]

theorem topics_campusQuestion : topics latinTables campusQuestion = ["campus"] := by
  rw [topics_campusWords (by rw [asks_campusQuestion.tokens]; simp [campusWords]),
    asks_campusQuestion.tokens, if_pos (by simp)]

theorem IsCampusEntry.candidates {entry : Entry latinTables} (h : IsCampusEntry entry) :
    intentCandidates (Retriever.ofEntries [entry]) campusQuestion .en "campus" = [entry] := by
  have hfind : intents.find? (fun intent => intent.name == "campus") =
      some ⟨"campus", ["facilities", "facility", "services", "resources", "campus"],
        ["einrichtungen", "einrichtung", "dienste", "angebote", "campus"],
        ["campus-resources"]⟩ := by
    simp [intents]
  have hcovered : (contentTokens latinTables campusQuestion).without
      (vocabulary latinTables "campus") = [] := by
    rw [contentTokens_campusQuestion]
    exact vocabularies_campus.2.2
  have hid : (["campus-resources"].map String.toList).contains entry.id = true := by
    rw [h.id]
    simp
  rw [intentCandidates, asks_campusQuestion.plain, hfind, hcovered,
    entries_of_authoritative h.verified]
  simp only [Bool.false_eq_true, if_false, hid, Words.isWithin, List.all_nil, Bool.and_true,
    List.filter_cons_of_pos, List.filter_nil]

theorem IsCampusEntry.guesses {entry : Entry latinTables} (h : IsCampusEntry entry) :
    Guesses fractionOps (Retriever.ofEntries [entry]) campusQuestion .en entry := by
  have hexact : (words latinTables campusQuestion).same
      (words latinTables "Which services exist?".toList) = false := by
    decide +kernel
  have hscore : Words.same ["campus".toList]
      (terms latinTables "Which services exist?".toList) = false := by
    decide +kernel
  have hnil := fun includeAmbiguous => @Retriever.retrieveVerified_eq_nil latinTables Rat
    fractionOps (Retriever.ofEntries [entry]) .en campusQuestion
    (by
      rw [entries_of_authoritative h.verified, List.forall_mem_singleton, h.questions,
        List.forall_mem_singleton]
      exact hexact)
    (by
      rw [entries_of_authoritative h.verified, List.forall_mem_singleton, h.questions,
        terms_campusQuestion, List.map_singleton, aliasScore_single]
      · rfl
      · rw [List.forall_mem_singleton]
        exact hscore) includeAmbiguous
  have hhistorical : (Retriever.ofEntries [entry]).historicalEntries = [] := by
    simp [Retriever.ofEntries, h.current]
  have hretrieve := Retriever.retrieve_eq_nil hnil hhistorical asks_campusQuestion.single
  refine ⟨fun _ => hretrieve.1, hretrieve.2, ?_, ?_, ?_, asks_campusQuestion.confidence⟩
  · rw [contentTokens_campusQuestion]
    simp
  · rw [topics_campusQuestion]
    decide
  · rw [topics_campusQuestion]
    exact h.candidates

/-- A service with a guide which cannot be read, and one entry. -/
def campusService : ChatbotService latinTables := .ofEntries [campusEntry] (some none)

theorem campusService_guessesOverlong :
    campusService.GuessesOverlong fractionOps campusQuestion := by
  have hkept : [campusEntry].filter (fun entry =>
      !((some (none : Option Snapshot)).isSome && entry.historicalReference)) =
        [campusEntry] := by
    simp [isCampusEntry_campusEntry.current]
  have hretriever : campusService.retriever = some (Retriever.ofEntries [campusEntry]) := by
    rw [campusService, ChatbotService.ofEntries, hkept]
  have hasks := asks_campusQuestion
  have hindex : campusService.sourceIndex = some none := rfl
  refine ⟨hasks.isQuestionText, ?_, hasks.unrestricted, by simp [hindex], ?_, .en, _, campusEntry,
    ?_, hretriever, ⟨campusQuestion, ?_, isCampusEntry_campusEntry.guesses⟩, ?_⟩
  · simp [ChatbotService.directEntry, hindex, hretriever, hasks.language, hasks.confidence]
  · rw [hasks.single]
    decide
  · simp [ChatbotService.languageOf, hindex, languageFor, hasks.language]
  · rw [hasks.single]
    exact List.mem_singleton_self _
  · have hopening := (@fixedMessage_bounds .en (conditional .en) (by simp [fixedMessages])).1
    have hanswer : (campusEntry.localized .en).answer.length = 1800 := List.length_replicate
    rw [hanswer, maxAnswer]
    omega

end Campus

section Contract

/-- `ask` keeps its contract exactly when it guesses no entry which is too long. -/
theorem ofEntries_keepsContract_iff {libraries : SourceLibraries}
    (entries : List (Entry libraries.tables)) (index : Option (Option Snapshot))
    (hindex : ∀ snapshot, index = some (some snapshot) →
      ∃ raw, parseSource libraries raw = .ok snapshot) (ops : ScoreOps φ) (text : List Char) :
    (ChatbotService.ofEntries entries index).KeepsContract ops text ↔
      ¬ (ChatbotService.ofEntries entries index).GuessesOverlong ops text := by
  have hknows := ofEntries_knows entries index
  have hretriever : (ChatbotService.ofEntries entries index).retriever = some _ := rfl
  have hsource : (ChatbotService.ofEntries entries index).sourceIndex = index := rfl
  cases index with
  | none =>
    rw [ChatbotService.keepsContract_iff]
    refine iff_of_true (fun _ =>
      ChatbotService.exists_answerTo_of_no_index hretriever hsource hknows) ?_
    rintro ⟨_, _, _, hnone, _⟩
    exact hnone hsource
  | some parsed =>
    exact ChatbotService.keepsContract_iff_of_index hretriever hsource hknows
      fun snapshot hsome => hindex snapshot (by rw [hsome])

/-- Answers which leave room for the opening are guessed in full. -/
theorem not_guessesOverlong_of_short {entries : List (Entry tables)}
    {index : Option (Option Snapshot)} {text : List Char}
    (h : ∀ entry ∈ entries, ∀ language,
      (conditional language).length + (entry.localized language).answer.length ≤ maxAnswer) :
    ¬ (ChatbotService.ofEntries entries index).GuessesOverlong ops text := by
  rintro ⟨_, _, _, _, _, language, retriever, entry, _, hretriever, ⟨part, _, hguess⟩, hlong⟩
  have hcandidate : entry ∈ intentCandidates retriever part language
      ((topics tables part).headD "") := by
    rw [hguess.candidate]
    exact List.mem_singleton_self _
  have hknown := mem_intentCandidates hcandidate
  rw [← Option.some.inj hretriever] at hknown
  have hentry : entry ∈ entries := List.mem_of_mem_filter (List.mem_of_mem_filter hknown)
  exact absurd (h entry hentry language) (Nat.not_le_of_lt hlong)

/-- The brief entry is guessed, with the opening before its answer. -/
theorem ofEntries_keepsContract_iff_campusQuestion :
    Guesses fractionOps (Retriever.ofEntries [briefEntry]) campusQuestion .en briefEntry ∧
      (@ChatbotService.ofEntries latinTables [briefEntry] (some none)).KeepsContract fractionOps
        campusQuestion := by
  have hshort : ∀ entry ∈ [briefEntry], ∀ language,
      (conditional language).length + (entry.localized language).answer.length ≤ maxAnswer := by
    rw [List.forall_mem_singleton]
    intro language
    cases language <;> decide +kernel
  exact ⟨isCampusEntry_briefEntry.guesses, (@ofEntries_keepsContract_iff _ dormLibraries
    [briefEntry] (some none) (by simp) fractionOps campusQuestion).mpr
      (not_guessesOverlong_of_short hshort)⟩

/-- The answer fits the entry, and not the guess. -/
theorem not_keepsContract_campusQuestion :
    ¬ campusService.KeepsContract fractionOps campusQuestion := by
  have hknows := ofEntries_knows [campusEntry] (some none)
  intro h
  refine (@ChatbotService.keepsContract_iff_of_index _ _ campusService fractionOps
    campusQuestion dormLibraries _ none rfl rfl hknows (by simp)).mp h ?_
  exact campusService_guessesOverlong

end Contract

end BuddyWeb
