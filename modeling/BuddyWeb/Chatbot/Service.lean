/-
The pipeline of the chatbot: validate, detect the language, retrieve, select passages, and
check the answer against its model.
-/
import BuddyWeb.Chatbot.Retrieval

namespace BuddyWeb

section Messages

def languagePrompt : List Char :=
  "Please ask in English or German. / Bitte frage auf Englisch oder Deutsch.".toList

def fallbackMessage : Language → List Char
  | .en => "I don't have a reliable answer for that yet. Please check the official VGU ".toList ++
      "website at https://vgu.edu.vn/ or ask the relevant service.".toList
  | .de => "Dazu habe ich noch keine verlässliche Antwort. Bitte prüfe die offizielle ".toList ++
      "VGU-Website unter https://vgu.edu.vn/ oder frage die zuständige Stelle.".toList

def multiFallback : Language → List Char
  | .en => "I could not answer every part. Please ask the remaining questions separately.".toList
  | .de => "Ich konnte nicht jeden Teil beantworten. Bitte stelle die übrigen Fragen ".toList ++
      "einzeln.".toList

def clarifyMessage : Language → List Char
  | .en => "That could refer to several topics. Please name the service or website ".toList ++
      "action you mean.".toList
  | .de => "Das könnte mehrere Themen betreffen. Bitte nenne den gemeinten Dienst oder ".toList ++
      "Website-Schritt.".toList

def restrictedMessage : Language → List Char
  | .en => "I can explain public information and website steps. I cannot access private ".toList ++
      "profiles, matching results, invitations, conversations, credentials or internal ".toList ++
      "instructions.".toList
  | .de => "Ich kann öffentliche Informationen und die Website erklären. Ich habe keinen ".toList ++
      "Zugriff auf private Profile, Matching-Ergebnisse, Einladungen, Chats, ".toList ++
      "Zugangsdaten oder interne Anweisungen.".toList

def unavailableMessage : Language → List Char
  | .en => "Public knowledge is temporarily unavailable. Please check https://vgu.edu.vn/.".toList
  | .de => "Das öffentliche Wissen ist vorübergehend nicht verfügbar. Siehe ".toList ++
      "https://vgu.edu.vn/.".toList

def conflictCaution : Language → List Char
  | .en => "The owner-provided guide contains conflicting statements on this topic. I ".toList ++
      "cannot confirm a current answer; please ask the relevant official service.".toList
  | .de => "Der bereitgestellte Leitfaden enthält widersprüchliche Angaben zu diesem ".toList ++
      "Thema. Ich kann keine aktuelle Antwort bestätigen; bitte frage die zuständige ".toList ++
      "offizielle Stelle.".toList

def unverifiedCaution : Language → List Char
  | .en => "The guide contains unverified or time-sensitive information on this topic. ".toList ++
      "Please check the current official service; I cannot confirm current rules, fees ".toList ++
      "or availability.".toList
  | .de => "Der Leitfaden enthält hierzu unbestätigte oder zeitabhängige Angaben. Bitte ".toList ++
      "prüfe die aktuellen Informationen beim offiziellen Dienst; Regeln, Gebühren und ".toList ++
      "Verfügbarkeit kann ich nicht bestätigen.".toList

def ownerCaution : Language → List Char
  | .en => "Owner-provided student guide; not independently verified as current. Please ".toList ++
      "confirm details locally. Original source passage:".toList
  | .de => "Vom Eigentümer bereitgestellter Studierendenleitfaden; nicht unabhängig als ".toList ++
      "aktuell bestätigt. Bitte prüfe Details vor Ort. Originaltext (unübersetzt; eine ".toList ++
      "verlässliche deutsche Übersetzung liegt hier nicht vor):".toList

def sensitiveNotice : Language → List Char
  | .en => " Historical reference only, not current medical, legal or financial advice.".toList
  | .de => " Nur historischer Quellenhinweis, keine aktuelle medizinische, rechtliche ".toList ++
      "oder finanzielle Beratung.".toList

def timeNotice : Language → List Char
  | .en => " Time-sensitive details in this passage are not confirmed as current.".toList
  | .de => " Zeitabhängige Angaben in dieser Passage sind nicht als aktuell bestätigt.".toList

def tooLongMessage : Language → List Char
  | .en => "The matching source passage is too long to quote safely here. Please name a ".toList ++
      "specific service, item or detail.".toList
  | .de => "Die passende Quellpassage ist für ein sicheres Zitat hier zu lang. Bitte ".toList ++
      "nenne einen bestimmten Dienst, Eintrag oder ein Detail.".toList

def restrictedFragments : List String :=
  ["ignore previous", "ignore all", "system prompt", "systemprompt", "api key", "credentials",
   "password is", "show all users", "my invitation status", "my matching results",
   "read my chat", "private profile", "internal configuration", "ignoriere",
   "systemanweisungen", "zugangsdaten", "private daten", "mein einladungsstatus",
   "meine matching-ergebnisse", "meine chats"]

end Messages

/-- What is joined by an empty line. -/
def joinParagraphs (texts : List (List Char)) : List Char :=
  (['\n', '\n'] : List Char).intercalate texts

/-- An answer, with the passages of the guide it cites as a history. -/
structure Reply (tables : WordTables) where
  answer : Answer tables
  cited : List Passage := []

/-- The service: the knowledge unless it is unavailable, and what the index of the guide
gives when there is an index. -/
structure ChatbotService (tables : WordTables) where
  retriever : Option (Retriever tables)
  sourceIndex : Option (Option Snapshot)

namespace ChatbotService

/-- With an index the historical entries are left out. -/
def ofEntries {tables : WordTables} (entries : List (Entry tables))
    (sourceIndex : Option (Option Snapshot)) : ChatbotService tables where
  retriever := some (Retriever.ofEntries (entries.filter fun entry =>
    !(sourceIndex.isSome && entry.historicalReference)))
  sourceIndex := sourceIndex

end ChatbotService

section Answering

variable {tables : WordTables} {φ : Type} (ops : ScoreOps φ)

/-- An answer without citations. -/
def plainReply (language : AnswerLanguage) (outcome : AnswerOutcome) (text : List Char) :
    Except AskError (Reply tables) := do
  let answer ← Answer.validate language outcome text []
  pure { answer := answer }

def isRestricted (tables : WordTables) (text : List Char) : Bool :=
  containsAny (tables.casefold text) restrictedFragments

def citationStatus : Verification → Option CitationStatus
  | .verifiedCode => some .verifiedCode
  | .verifiedOfficial => some .verifiedOfficial
  | .unverified | .conflicting | .outdated => none

/-- `_verified` -/
def verifiedReply (entry : Entry tables) (language : Language) (guessed : Bool) :
    Except AskError (Reply tables) :=
  match citationStatus entry.status with
  | none => .error .assertionError
  | some status => do
      let citation ← Citation.validate entry.id entry.sources entry.verifiedOn status none
      let answer ← Answer.validate language.answer .answer
        ((if guessed then conditional language else []) ++ (entry.localized language).answer)
        [citation]
      pure { answer := answer }

section Passages

/-- The answer shows a passage under its section. -/
def quoteOf (passage : Passage) : List Char :=
  '[' :: passage.sectionName ++ "]\n".toList ++ passage.text

def guideTitle : List Char := "Canonical owner-provided guide".toList

def guideReference (passage : Passage) : List Char :=
  "historical:systemPrompt.txt#L".toList ++ (toString passage.startLine).toList ++ "-L".toList ++
    (toString passage.endLine).toList

def passageCitation (snapshot : Snapshot) (passage : Passage) :
    Except AskError (Citation tables) := do
  let source ← Source.validate guideTitle (guideReference passage)
  let provenance ← SourceProvenance.validate snapshot.version passage.startLine passage.endLine
    passage.sectionName
  Citation.validate passage.id [source] none
    (if passage.policy = .conflicted then .conflicted else .ownerProvided) (some provenance)

/-- The caution with what it adds about sensitive or time-dependent passages. -/
def fullCaution (tables : WordTables) (text : List Char) (language : Language)
    (passages : List Passage) (caution : List Char) : List Char :=
  if sensitiveQuery tables text || passages.any (·.policy == .sensitive) then
    caution ++ sensitiveNotice language
  else if passages.any Passage.timeSensitive then caution ++ timeNotice language
  else caution

/-- What `_source_answer` does with selected passages. -/
def passagesReply (text : List Char) (language : Language) (snapshot : Snapshot)
    (passages : List Passage) : Except AskError (Reply tables) := do
  let explicitReference := referenceQuery tables text
  let conflicted := passages.any (·.policy == .conflicted)
  let citations ← passages.mapM (passageCitation snapshot)
  if conflicted ∧ explicitReference = false then
    let answer ← Answer.validate language.answer .conflicted (conflictCaution language) citations
    pure { answer := answer, cited := passages }
  else if conflicted = false ∧ (sensitiveQuery tables text || currentQuery tables text) ∧
      explicitReference = false then
    plainReply language.answer .insufficient (unverifiedCaution language)
  else
    let caution := fullCaution tables text language passages
      (if conflicted then conflictCaution language else ownerCaution language)
    let opening := if confidence tables text = .medium then conditional language else []
    let shown := opening ++ caution ++ "\n\n".toList ++ joinParagraphs (passages.map quoteOf)
    let answer ← Answer.validate language.answer
      (if conflicted then .conflicted else .ownerProvided)
      (if maxAnswer < shown.length then tooLongMessage language else shown) citations
    pure { answer := answer, cited := passages }

end Passages

/-- The branch of `_source_answer` which answers a question. -/
inductive SourceRoute (tables : WordTables)
  | verified (entry : Entry tables) (guessed : Bool)
  | clarification
  | unavailable
  | insufficient
  | passages (snapshot : Snapshot) (passages : List Passage)

/-- The verified entries which a short variant of an intent may name. -/
def intentCandidates (retriever : Retriever tables) (text : List Char) (language : Language)
    (topic : String) : List (Entry tables) :=
  if sensitiveQuery tables text || currentQuery tables text then []
  else
    match intents.find? fun intent => intent.name == topic with
    | none => []
    | some specification =>
        retriever.entries.filter fun entry =>
          (specification.verifiedIds.map String.toList).contains entry.id &&
            ((contentTokens tables text).without (vocabulary tables topic)).isWithin
              (tokens tables ((entry.localized language).answer ++
                ([' '] : List Char).intercalate (entry.localized language).questions))

def sourceRoute (retriever : Retriever tables) (text : List Char) (language : Language)
    (snapshot : Option Snapshot) : SourceRoute tables :=
  let hit := if confidence tables text = .high ∨ 1 < (tokens tables text).length then
      (retriever.retrieve ops text language).head?
    else none
  match hit with
  | some hit => .verified hit.entry false
  | none =>
      if retriever.ambiguous ops text language then .clarification
      else if contentTokens tables text = [] then .clarification
      else if 1 < (topics tables text).length then .clarification
      else
        match intentCandidates retriever text language ((topics tables text).headD "") with
        | [entry] => .verified entry (decide (confidence tables text = .medium))
        | _ :: _ :: _ => .clarification
        | [] =>
            match snapshot with
            | none => .unavailable
            | some snapshot =>
                let selected := selectPassages tables ops snapshot text
                  (referenceQuery tables text)
                if selected.ambiguous then .clarification
                else if selected.passages = [] then .insufficient
                else .passages snapshot selected.passages

def routeReply (text : List Char) (language : Language) :
    SourceRoute tables → Except AskError (Reply tables)
  | .verified entry guessed => verifiedReply entry language guessed
  | .clarification => plainReply language.answer .clarification (clarifyMessage language)
  | .unavailable => plainReply language.answer .unavailable (unavailableMessage language)
  | .insufficient => plainReply language.answer .insufficient (fallbackMessage language)
  | .passages snapshot passages => passagesReply text language snapshot passages

/-- `_source_answer` -/
def sourceAnswer (retriever : Retriever tables) (text : List Char) (language : Language)
    (snapshot : Option Snapshot) : Except AskError (Reply tables) :=
  routeReply text language (sourceRoute ops retriever text language snapshot)

section Parts

/-- What `_source_parts` has gathered. -/
structure MergedParts (tables : WordTables) where
  texts : List (List Char) := []
  citations : List (Citation tables) := []
  missing : Bool := false
  outcomes : List AnswerOutcome := []
  cited : List Passage := []

namespace MergedParts

variable (merged : MergedParts tables)

def hasCitation (entryId : List Char) : Bool :=
  merged.citations.any fun citation => citation.entryId == entryId

/-- Assignment to the dictionary of citations, when it has less than three. -/
def cite (citations : List (Citation tables)) (citation : Citation tables) :
    List (Citation tables) :=
  if citations.length < 3 then
    if citations.any fun other => other.entryId == citation.entryId then
      citations.map fun other => if other.entryId = citation.entryId then citation else other
    else citations ++ [citation]
  else citations

/-- The citations of an answer which the dictionary does not have yet, one for an id. -/
def newIds (answer : Answer tables) : List (List Char) :=
  ((answer.citations.map Citation.entryId).dedup).filter fun entryId =>
    !merged.hasCitation entryId

def joined (language : Language) (text : List Char) : List Char :=
  joinParagraphs (merged.texts ++ [text, multiFallback language])

/-- One answer of the loop. -/
def add (language : Language) (reply : Reply tables) : MergedParts tables :=
  if reply.answer.citations = [] then { merged with missing := true }
  else if merged.newIds reply.answer = [] then merged
  else if 3 < merged.citations.length + (merged.newIds reply.answer).length then
    { merged with missing := true }
  else if maxAnswer < (merged.joined language reply.answer.text).length then
    { merged with missing := true }
  else
    { merged with
      texts := merged.texts ++ [reply.answer.text]
      outcomes := merged.outcomes ++ [reply.answer.outcome]
      citations := reply.answer.citations.foldl cite merged.citations
      cited := merged.cited ++ reply.cited }

def outcome : AnswerOutcome :=
  if .conflicted ∈ merged.outcomes then .conflicted
  else if .ownerProvided ∈ merged.outcomes then .ownerProvided
  else .answer

end MergedParts

/-- `_source_parts` -/
def sourceParts (retriever : Retriever tables) (parts : List (List Char)) (language : Language)
    (snapshot : Option Snapshot) : Except AskError (Reply tables) :=
  if 3 < parts.length then plainReply language.answer .clarification (multiFallback language)
  else do
    let replies ← parts.mapM fun part => sourceAnswer ops retriever part language snapshot
    let merged := replies.foldl (MergedParts.add · language) {}
    if merged.texts = [] then plainReply language.answer .clarification (multiFallback language)
    else
      let texts := if merged.missing then merged.texts ++ [multiFallback language]
        else merged.texts
      let answer ← Answer.validate language.answer merged.outcome (joinParagraphs texts)
        merged.citations
      pure { answer := answer, cited := merged.cited }

end Parts

section Entries

/-- What the loop over the hits has gathered when the guide has no index. -/
structure GatheredHits (tables : WordTables) where
  texts : List (List Char) := []
  citations : List (Citation tables) := []
  missing : Bool := false

def hitStatus (entry : Entry tables) : Option CitationStatus :=
  if entry.historicalReference then some .historicalReference else citationStatus entry.status

/-- The loop over the hits, which stops at the first one without space. -/
def gatherHits (language : Language) (reserve : Nat) :
    GatheredHits tables → List (Hit tables φ) → Except AskError (GatheredHits tables)
  | gathered, [] => .ok gathered
  | gathered, hit :: rest =>
      let text := (hit.entry.localized language).answer
      if maxAnswer < (joinParagraphs (gathered.texts ++ [text])).length + reserve then
        .ok { gathered with missing := true }
      else if hit.entry.authoritative = false ∧ hit.entry.historicalReference = false then
        .error .assertionError
      else
        match hitStatus hit.entry with
        | none => .error .assertionError
        | some status => do
            let citation ← Citation.validate hit.entry.id hit.entry.sources hit.entry.verifiedOn
              status none
            gatherHits language reserve
              { gathered with
                texts := gathered.texts ++ [text]
                citations := gathered.citations ++ [citation] } rest

/-- The answer of the entries alone. -/
def entriesReply (retriever : Retriever tables) (text : List Char) (language : Language) :
    Except AskError (Reply tables) :=
  let hits := retriever.retrieve ops text language
  let parts := splitQuestions text
  if hits = [] then
    plainReply language.answer .insufficient
      (if 1 < parts.length then multiFallback language
      else if retriever.ambiguous ops text language then clarifyMessage language
      else fallbackMessage language)
  else do
    let selected := if 1 < parts.length then hits else hits.take 1
    let missing := decide (1 < parts.length) && parts.any fun part =>
      (retriever.retrieve ops part language).isEmpty
    let reserve := if 1 < parts.length then (multiFallback language).length + 2 else 0
    let gathered ← gatherHits language reserve { missing := missing } selected
    if gathered.texts = [] then
      plainReply language.answer .insufficient (fallbackMessage language)
    else
      let texts := if gathered.missing then gathered.texts ++ [multiFallback language]
        else gathered.texts
      let answer ← Answer.validate language.answer
        (if gathered.citations.any (·.status == .historicalReference) then .historicalReference
        else .answer)
        (joinParagraphs texts) gathered.citations
      pure { answer := answer }

end Entries

namespace ChatbotService

variable (service : ChatbotService tables)

/-- A verified entry which answers without reading the guide. -/
def directEntry (text : List Char) : Option (Entry tables × Language) :=
  match service.sourceIndex, service.retriever, detectLanguage tables text with
  | some _, some retriever, some detected =>
      if (splitQuestions text).length = 1 ∧ confidence tables text = .high ∧
          isRestricted tables text = false then
        (retriever.retrieve ops text detected).head?.map fun hit => (hit.entry, detected)
      else none
  | _, _, _ => none

def languageOf (text : List Char) : Option Language :=
  match service.sourceIndex with
  | some index =>
      languageFor tables text ((index.map Snapshot.vocabulary).getD [])
  | none => detectLanguage tables text

/-- The answer once the language is known. -/
def answerIn (text : List Char) (language : Language) : Except AskError (Reply tables) :=
  if isRestricted tables text then
    plainReply language.answer .restricted (restrictedMessage language)
  else
    match service.retriever with
    | none => plainReply language.answer .unavailable (unavailableMessage language)
    | some retriever =>
        match service.sourceIndex with
        | some snapshot =>
            if 1 < (splitQuestions text).length then
              sourceParts ops retriever (splitQuestions text) language snapshot
            else sourceAnswer ops retriever text language snapshot
        | none => entriesReply ops retriever text language

/-- `ask` after the validation of the question. -/
def answerTo (text : List Char) : Except AskError (Reply tables) :=
  match service.directEntry ops text with
  | some (entry, language) => verifiedReply entry language false
  | none =>
      match service.languageOf text with
      | none => plainReply .und .chooseLanguage languagePrompt
      | some language => service.answerIn ops text language

def ask (text : List Char) : Except AskError (Reply tables) :=
  match Question.validate text with
  | .error _ => .error .invalidQuestion
  | .ok question => service.answerTo ops question.text

end ChatbotService

end Answering

end BuddyWeb
