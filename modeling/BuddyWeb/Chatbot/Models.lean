/-
The contracts of public knowledge and of answers: what a value of each model is checked for.
-/
import BuddyWeb.Chatbot.Words
import BuddyWeb.Lib.Bytes
import BuddyWeb.Lib.UrlSplit

namespace BuddyWeb

def maxQuestion : Nat := 500

def maxAnswer : Nat := 1800

/-- A text with more than white space. -/
def isNonblank (text : List Char) : Bool := !(trimEnds isPySpace text).isEmpty

/-- `startswith` -/
def startsWith (beginning : String) (text : List Char) : Bool :=
  beginning.toList.isPrefixOf text

section Urls

namespace SplitResult

/-- The part of the network location after the last `@`, with the part before it. -/
def hostinfo (url : SplitResult) : List Char :=
  (url.netloc.reverse.takeWhile (· != '@')).reverse

def userinfo (url : SplitResult) : List Char :=
  url.netloc.take (url.netloc.length - url.hostinfo.length - 1)

def hostname (url : SplitResult) : List Char :=
  match partitionAt '[' url.hostinfo with
  | (_, some bracketed) => (partitionAt ']' bracketed).1
  | (_, none) => (partitionAt ':' url.hostinfo).1

def portText (url : SplitResult) : List Char :=
  match partitionAt '[' url.hostinfo with
  | (_, some bracketed) =>
      (partitionAt ':' ((partitionAt ']' bracketed).2.getD [])).2.getD []
  | (_, none) => (partitionAt ':' url.hostinfo).2.getD []

def username (url : SplitResult) : List Char := (partitionAt ':' url.userinfo).1

def password (url : SplitResult) : List Char := (partitionAt ':' url.userinfo).2.getD []

end SplitResult

/-- What `stable_public_reference` accepts. -/
def isStableReference (nfkc : List Char → List Char) (reference : List Char) : Bool :=
  if startsWith "https://" reference then
    match urlsplit nfkc reference with
    | .ok url =>
        !url.hostname.isEmpty && url.username.isEmpty && url.password.isEmpty &&
          url.query.isEmpty
    | .error _ => false
  else if startsWith "apps/" reference || startsWith "docs/" reference then
    !(reference.splitOn '/').contains "..".toList && !reference.contains '\\' &&
      !reference.contains ':'
  else startsWith "historical:" reference

end Urls

section Dates

def daysInMonth (year month : Nat) : Nat :=
  if month = 2 then
    if year % 4 = 0 ∧ (year % 100 ≠ 0 ∨ year % 400 = 0) then 29 else 28
  else if month = 4 ∨ month = 6 ∨ month = 9 ∨ month = 11 then 30
  else 31

/-- `datetime.date` -/
structure CalendarDate where
  year : Nat
  month : Nat
  day : Nat
  year_bounds : 1 ≤ year ∧ year ≤ 9999
  month_bounds : 1 ≤ month ∧ month ≤ 12
  day_bounds : 1 ≤ day ∧ day ≤ daysInMonth year month
  deriving DecidableEq, Repr

end Dates

section Knowledge

structure LocalizedKnowledge where
  questions : List (List Char)
  answer : List Char
  keywords : List (List Char)
  questions_length : 1 ≤ questions.length ∧ questions.length ≤ 15
  question_bounds : ∀ question ∈ questions,
    1 ≤ question.length ∧ question.length ≤ maxQuestion ∧ isNonblank question = true
  answer_length : 1 ≤ answer.length ∧ answer.length ≤ maxAnswer
  answer_nonblank : isNonblank answer = true
  keywords_length : keywords.length ≤ 30

structure Source (tables : WordTables) where
  title : List Char
  reference : List Char
  title_length : 1 ≤ title.length ∧ title.length ≤ 160
  title_nonblank : isNonblank title = true
  reference_length : 1 ≤ reference.length ∧ reference.length ≤ 300
  reference_stable : isStableReference tables.nfkc reference = true
  deriving DecidableEq

inductive KnowledgeCategory
  | vgu
  | buddyProgram
  | studentLife
  | campusServices
  | transportation
  | accommodation
  | buddywebGuide
  | faq
  deriving DecidableEq, Repr

inductive Verification
  | verifiedOfficial
  | verifiedCode
  | unverified
  | conflicting
  | outdated
  deriving DecidableEq, Repr

def Verification.isAuthoritative : Verification → Bool
  | verifiedOfficial | verifiedCode => true
  | unverified | conflicting | outdated => false

/-- `^[a-z][a-z0-9-]{2,79}$` -/
def isEntryId : List Char → Bool
  | [] => false
  | head :: tail =>
      isAsciiLower head && decide (2 ≤ tail.length) && decide (tail.length ≤ 79) &&
        tail.all fun char => isAsciiLower char || ('0' ≤ char && char ≤ '9') || char == '-'

structure Entry (tables : WordTables) where
  id : List Char
  category : KnowledgeCategory
  status : Verification
  verifiedOn : Option CalendarDate
  sources : List (Source tables)
  en : LocalizedKnowledge
  de : LocalizedKnowledge
  id_pattern : isEntryId id = true
  sources_length : 1 ≤ sources.length ∧ sources.length ≤ 5
  verified_date : status.isAuthoritative = true → verifiedOn ≠ none
  verified_sources : status.isAuthoritative = true →
    ∀ source ∈ sources, startsWith "historical:" source.reference = false

namespace Entry

variable {tables : WordTables}

def authoritative (entry : Entry tables) : Bool := entry.status.isAuthoritative

def historicalReferences : List (String × String) :=
  [("legacy-d9-food", "historical:systemPrompt.txt#L235-L248"),
   ("legacy-laundry", "historical:systemPrompt.txt#L420-L421")]

def historicalReference (entry : Entry tables) : Bool :=
  historicalReferences.any fun known =>
    entry.id == known.1.toList && entry.category == .studentLife &&
      entry.status == .unverified && entry.verifiedOn == none &&
      match entry.sources with
      | [source] => source.reference == known.2.toList
      | _ => false

def localized (entry : Entry tables) : Language → LocalizedKnowledge
  | .de => entry.de
  | .en => entry.en

end Entry

end Knowledge

section Answers

/-- Why a call raises: the sanitized error of `ask`, or a failed model or assertion. -/
inductive AskError
  | invalidQuestion
  | validationError
  | assertionError
  deriving DecidableEq, Repr

def isQuestionText (text : List Char) : Bool :=
  decide (1 ≤ text.length) && decide (text.length ≤ maxQuestion) && isNonblank text &&
    text.all fun char => 32 ≤ char.toNat || char == '\n' || char == '\t'

structure Question where
  text : List Char
  valid : isQuestionText text = true

inductive CitationStatus
  | verifiedOfficial
  | verifiedCode
  | historicalReference
  | ownerProvided
  | conflicted
  deriving DecidableEq, Repr

/-- The statuses without a verification date. -/
def CitationStatus.isUndated : CitationStatus → Bool
  | historicalReference | ownerProvided | conflicted => true
  | verifiedOfficial | verifiedCode => false

/-- The statuses of passages of the guide. -/
def CitationStatus.isOwner : CitationStatus → Bool
  | ownerProvided | conflicted => true
  | historicalReference | verifiedOfficial | verifiedCode => false

/-- `^[a-f0-9]{64}$` -/
def isSha256Hex (text : List Char) : Bool :=
  decide (text.length = 64) &&
    text.all fun char => ('a' ≤ char && char ≤ 'f') || ('0' ≤ char && char ≤ '9')

/-- The file name of every provenance is `systemPrompt.txt`. -/
structure SourceProvenance where
  sha256 : List Char
  startLine : Nat
  endLine : Nat
  sectionName : List Char
  sha256_pattern : isSha256Hex sha256 = true
  start_bound : 1 ≤ startLine
  end_bound : 1 ≤ endLine
  section_length : 1 ≤ sectionName.length ∧ sectionName.length ≤ 160
  ordered : startLine ≤ endLine
  deriving DecidableEq

structure Citation (tables : WordTables) where
  entryId : List Char
  sources : List (Source tables)
  verifiedOn : Option CalendarDate
  status : CitationStatus
  provenance : Option SourceProvenance
  undated : status.isUndated = verifiedOn.isNone
  owned : status.isOwner = provenance.isSome
  deriving DecidableEq

inductive AnswerLanguage
  | en
  | de
  | und
  deriving DecidableEq, Repr

def Language.answer : Language → AnswerLanguage
  | en => .en
  | de => .de

inductive AnswerOutcome
  | answer
  | historicalReference
  | ownerProvided
  | conflicted
  | clarification
  | insufficient
  | chooseLanguage
  | restricted
  | unavailable
  deriving DecidableEq, Repr

structure Answer (tables : WordTables) where
  language : AnswerLanguage
  outcome : AnswerOutcome
  text : List Char
  citations : List (Citation tables)
  text_length : 1 ≤ text.length ∧ text.length ≤ maxAnswer
  citations_length : citations.length ≤ 3
  deriving DecidableEq

variable {tables : WordTables}

def Question.validate (text : List Char) : Except AskError Question :=
  if valid : isQuestionText text = true then .ok ⟨text, valid⟩ else .error .validationError

def Source.validate (title reference : List Char) : Except AskError (Source tables) :=
  if h : (1 ≤ title.length ∧ title.length ≤ 160) ∧ isNonblank title = true ∧
      (1 ≤ reference.length ∧ reference.length ≤ 300) ∧
      isStableReference tables.nfkc reference = true then
    .ok ⟨title, reference, h.1, h.2.1, h.2.2.1, h.2.2.2⟩
  else .error .validationError

def SourceProvenance.validate (sha256 : List Char) (startLine endLine : Nat)
    (sectionName : List Char) : Except AskError SourceProvenance :=
  if h : isSha256Hex sha256 = true ∧ 1 ≤ startLine ∧ 1 ≤ endLine ∧
      (1 ≤ sectionName.length ∧ sectionName.length ≤ 160) ∧ startLine ≤ endLine then
    .ok ⟨sha256, startLine, endLine, sectionName, h.1, h.2.1, h.2.2.1, h.2.2.2.1, h.2.2.2.2⟩
  else .error .validationError

def Citation.validate (entryId : List Char) (sources : List (Source tables))
    (verifiedOn : Option CalendarDate) (status : CitationStatus)
    (provenance : Option SourceProvenance) : Except AskError (Citation tables) :=
  if h : status.isUndated = verifiedOn.isNone ∧ status.isOwner = provenance.isSome then
    .ok ⟨entryId, sources, verifiedOn, status, provenance, h.1, h.2⟩
  else .error .validationError

def Answer.validate (language : AnswerLanguage) (outcome : AnswerOutcome) (text : List Char)
    (citations : List (Citation tables)) : Except AskError (Answer tables) :=
  if h : (1 ≤ text.length ∧ text.length ≤ maxAnswer) ∧ citations.length ≤ 3 then
    .ok ⟨language, outcome, text, citations, h.1, h.2⟩
  else .error .validationError

end Answers

end BuddyWeb
