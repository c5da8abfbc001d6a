/-
An answer on the wire: how the server makes it public, and what the schema of the web client
reads of it.
-/
import BuddyWeb.Chat.WireContract
import BuddyWeb.Chatbot.Service
import BuddyWeb.Lib.FlatJson

namespace BuddyWeb

inductive CitationTitle
  | buddyWebGuide
  | vguPublicInformation
  | historicalStudentGuide
  | ownerProvidedGuide
  deriving DecidableEq, Repr

section Texts

def CitationTitle.text : CitationTitle → String
  | buddyWebGuide => "BuddyWeb guide"
  | vguPublicInformation => "VGU public information"
  | historicalStudentGuide => "Historical student guide (systemPrompt.txt)"
  | ownerProvidedGuide => "Owner-provided guide (systemPrompt.txt)"

def CitationStatus.text : CitationStatus → String
  | verifiedOfficial => "verified_official"
  | verifiedCode => "verified_code"
  | historicalReference => "historical_reference"
  | ownerProvided => "owner_provided"
  | conflicted => "conflicted"

def AnswerOutcome.text : AnswerOutcome → String
  | answer => "answer"
  | historicalReference => "historical_reference"
  | ownerProvided => "owner_provided"
  | conflicted => "conflicted"
  | clarification => "clarification"
  | insufficient => "insufficient"
  | chooseLanguage => "choose_language"
  | restricted => "restricted"
  | unavailable => "unavailable"

def AnswerLanguage.text : AnswerLanguage → String
  | en => "en"
  | de => "de"
  | und => "und"

/-- A number with leading zeros. -/
def paddedDigits (width number : Nat) : List Char :=
  (Nat.toDigits 10 number).leftpad width '0'

/-- `date.isoformat()` -/
def CalendarDate.isoformat (date : CalendarDate) : String :=
  String.ofList (paddedDigits 4 date.year ++ '-' :: paddedDigits 2 date.month ++
    '-' :: paddedDigits 2 date.day)

end Texts

section Server

/-- What the names of hosts are compared with has no letters outside ASCII. -/
def SplitResult.loweredHost (url : SplitResult) : List Char :=
  match partitionAt '%' url.hostname with
  | (host, some zone) => host.map Char.toLower ++ '%' :: zone
  | (host, none) => host.map Char.toLower

def isUniversityHost (host : List Char) : Bool :=
  host == "vgu.edu.vn".toList || ".vgu.edu.vn".toList.isSuffixOf host

/-- `official_public_url` -/
def isOfficialPublicUrl (nfkc : List Char → List Char) (value : List Char) : Bool :=
  match urlsplit nfkc value with
  | .error _ => false
  | .ok url =>
      url.scheme == "https".toList && url.username.isEmpty && url.password.isEmpty &&
        url.query.isEmpty && url.fragment.isEmpty &&
        (url.portText.isEmpty || (url.portText.all Char.isDigit &&
          Nat.ofDigitChars 10 url.portText 0 == 443)) &&
        isUniversityHost url.loweredHost &&
        !value.any fun char => isPySpace char || decide (char.toNat < 32)

structure PublicReference (tables : WordTables) where
  title : List Char
  url : List Char
  title_length : 1 ≤ title.length ∧ title.length ≤ 160
  url_length : 1 ≤ url.length ∧ url.length ≤ 300
  url_official : isOfficialPublicUrl tables.nfkc url = true

structure PublicCitation (tables : WordTables) where
  entryId : List Char
  title : CitationTitle
  verificationStatus : CitationStatus
  verifiedOn : Option CalendarDate
  references : List (PublicReference tables)
  provenance : Option SourceProvenance
  entryId_pattern : isEntryId entryId = true
  references_length : references.length ≤ 5

structure ChatbotResponse (tables : WordTables) where
  answer : List Char
  language : AnswerLanguage
  supported : Bool
  status : AnswerOutcome
  sources : List (PublicCitation tables)
  answer_length : 1 ≤ answer.length ∧ answer.length ≤ maxAnswer
  sources_length : sources.length ≤ 3

variable {tables : WordTables}

def PublicReference.validate (title url : List Char) :
    Except AskError (PublicReference tables) :=
  if h : (1 ≤ title.length ∧ title.length ≤ 160) ∧ (1 ≤ url.length ∧ url.length ≤ 300) ∧
      isOfficialPublicUrl tables.nfkc url = true then
    .ok ⟨title, url, h.1, h.2.1, h.2.2⟩
  else .error .validationError

def PublicCitation.validate (entryId : List Char) (title : CitationTitle)
    (status : CitationStatus) (verifiedOn : Option CalendarDate)
    (references : List (PublicReference tables)) (provenance : Option SourceProvenance) :
    Except AskError (PublicCitation tables) :=
  if h : isEntryId entryId = true ∧ references.length ≤ 5 then
    .ok ⟨entryId, title, status, verifiedOn, references, provenance, h.1, h.2⟩
  else .error .validationError

def ChatbotResponse.validate (answer : List Char) (language : AnswerLanguage)
    (supported : Bool) (status : AnswerOutcome) (sources : List (PublicCitation tables)) :
    Except AskError (ChatbotResponse tables) :=
  if h : (1 ≤ answer.length ∧ answer.length ≤ maxAnswer) ∧ sources.length ≤ 3 then
    .ok ⟨answer, language, supported, status, sources, h.1, h.2⟩
  else .error .validationError

def CitationStatus.title : CitationStatus → CitationTitle
  | verifiedCode => .buddyWebGuide
  | historicalReference => .historicalStudentGuide
  | ownerProvided | conflicted => .ownerProvidedGuide
  | verifiedOfficial => .vguPublicInformation

def publicSources (citation : Citation tables) : List (Source tables) :=
  citation.sources.filter fun source => startsWith "https://" source.reference

/-- One citation of `public_answer`. -/
def publicCitation (citation : Citation tables) : Except AskError (PublicCitation tables) := do
  let references ← (publicSources citation).mapM fun source =>
    PublicReference.validate source.title source.reference
  ensure (¬ (citation.status = .verifiedOfficial ∧ references.isEmpty)) .validationError
  PublicCitation.validate citation.entryId citation.status.title citation.status
    citation.verifiedOn references citation.provenance

def publicAnswer (answer : Answer tables) : Except AskError (ChatbotResponse tables) := do
  let citations ← answer.citations.mapM publicCitation
  ChatbotResponse.validate answer.text answer.language (!citations.isEmpty) answer.outcome
    citations

section Json

def jsonText (text : List Char) : JsonValue := .string (String.ofList text)

def PublicReference.toJson (reference : PublicReference tables) : JsonValue :=
  .object [("title", jsonText reference.title), ("url", jsonText reference.url)]

def SourceProvenance.toJson (provenance : SourceProvenance) : JsonValue :=
  .object [("filename", .string "systemPrompt.txt"), ("sha256", jsonText provenance.sha256),
    ("start_line", .int provenance.startLine), ("end_line", .int provenance.endLine),
    ("section", jsonText provenance.sectionName)]

/-- The provenance is left out where there is none. -/
def PublicCitation.toJson (citation : PublicCitation tables) : JsonValue :=
  .object ([("entry_id", jsonText citation.entryId), ("title", .string citation.title.text),
    ("verification_status", .string citation.verificationStatus.text),
    ("verified_on", citation.verifiedOn.elim .null fun date => .string date.isoformat),
    ("references", .array (citation.references.map PublicReference.toJson))] ++
    (citation.provenance.map fun provenance => ("provenance", provenance.toJson)).toList)

def ChatbotResponse.toJson (response : ChatbotResponse tables) : JsonValue :=
  .object [("answer", jsonText response.answer), ("language", .string response.language.text),
    ("supported", .bool response.supported), ("status", .string response.status.text),
    ("sources", .array (response.sources.map PublicCitation.toJson)),
    ("mode", .string "local_retrieval")]

end Json

end Server

section Client

/-- What `new URL` gives. -/
structure WebUrl where
  protocol : String
  hostname : String
  port : String
  username : String
  password : String
  search : String
  hash : String

/-- The libraries of the client: `new URL`, and the dates which `z.iso.date` accepts. -/
structure WebLibraries where
  newUrl : String → Option WebUrl
  isIsoDate : String → Bool

variable (web : WebLibraries)

def publicSourceUrl (value : String) : Bool :=
  match web.newUrl value with
  | none => false
  | some url =>
      startsWith "https://" value.toList && url.protocol == "https:" &&
        (url.hostname == "vgu.edu.vn" ||
          ".vgu.edu.vn".toList.isSuffixOf url.hostname.toList) &&
        (url.port == "" || url.port == "443") && url.username == "" && url.password == "" &&
        url.search == "" && url.hash == "" && !value.toList.any isJsSpace &&
        !value.toList.contains '\\' && value.toList.all fun char => decide (32 ≤ char.toNat)

/-- `z.string().min(least).max(most)` -/
def hasUtf16Bounds (least most : Nat) (text : String) : Bool :=
  decide (least ≤ utf16Length text) && decide (utf16Length text ≤ most)

structure SourceReference where
  title : String
  url : String
  deriving DecidableEq

structure SourceOrigin where
  sha256 : String
  startLine : Int
  endLine : Int
  sectionName : String
  deriving DecidableEq

structure ChatbotSource where
  entryId : String
  title : CitationTitle
  verificationStatus : CitationStatus
  verifiedOn : Option String
  provenance : Option SourceOrigin
  references : List SourceReference
  deriving DecidableEq

structure ChatbotAnswer where
  answer : String
  language : AnswerLanguage
  supported : Bool
  status : AnswerOutcome
  sources : List ChatbotSource
  deriving DecidableEq

section Reading

def JsonValue.bool? : JsonValue → Option Bool
  | .bool value => some value
  | _ => none

def JsonValue.array? : JsonValue → Option (List JsonValue)
  | .array items => some items
  | _ => none

/-- `z.object(..).strict()` -/
def strictMembers (keys : List String) (json : JsonValue) :
    Option (List (String × JsonValue)) := do
  let members ← json.object?
  guard (members.all fun member => keys.contains member.1)
  return members

def textMember (members : List (String × JsonValue)) (key : String) : Option String :=
  (members.lookup key).bind JsonValue.string?

/-- `z.enum` over the texts of some values. -/
def enumMember {α : Type} (values : List α) (text : α → String)
    (members : List (String × JsonValue)) (key : String) : Option α := do
  let found ← textMember members key
  values.find? fun value => text value == found

def maxSafeInteger : Int := 9007199254740991

/-- `z.number().int().positive()` -/
def positiveMember (members : List (String × JsonValue)) (key : String) : Option Int := do
  let value ← (members.lookup key).bind JsonValue.int?
  guard (0 < value ∧ value ≤ maxSafeInteger)
  return value

def arrayMember {α : Type} (read : JsonValue → Option α) (most : Nat)
    (members : List (String × JsonValue)) (key : String) : Option (List α) := do
  let items ← (members.lookup key).bind JsonValue.array?
  guard (items.length ≤ most)
  items.mapM read

def parseReference (json : JsonValue) : Option SourceReference := do
  let members ← strictMembers ["title", "url"] json
  let title ← textMember members "title"
  guard (hasUtf16Bounds 1 160 title)
  let url ← textMember members "url"
  guard (hasUtf16Bounds 1 300 url)
  guard (publicSourceUrl web url)
  return { title, url }

def parseProvenance (json : JsonValue) : Option SourceOrigin := do
  let members ← strictMembers ["filename", "sha256", "start_line", "end_line", "section"] json
  let filename ← textMember members "filename"
  guard (filename = "systemPrompt.txt")
  let sha256 ← textMember members "sha256"
  guard (isSha256Hex sha256.toList)
  let startLine ← positiveMember members "start_line"
  let endLine ← positiveMember members "end_line"
  let sectionName ← textMember members "section"
  guard (hasUtf16Bounds 1 160 sectionName)
  guard (startLine ≤ endLine)
  return { sha256, startLine, endLine, sectionName }

/-- `z.iso.date().nullable()` -/
def nullableDate : JsonValue → Option (Option String)
  | .null => some none
  | .string text => if web.isIsoDate text then some (some text) else none
  | _ => none

def optionalProvenance (members : List (String × JsonValue)) : Option (Option SourceOrigin) :=
  match members.lookup "provenance" with
  | none => some none
  | some json => (parseProvenance json).map some

def citationTitles : List CitationTitle :=
  [.buddyWebGuide, .vguPublicInformation, .historicalStudentGuide, .ownerProvidedGuide]

def citationStatuses : List CitationStatus :=
  [.verifiedCode, .verifiedOfficial, .historicalReference, .ownerProvided, .conflicted]

/-- The client knows no answer with the status `unavailable`. -/
def answerOutcomes : List AnswerOutcome :=
  [.answer, .historicalReference, .ownerProvided, .conflicted, .clarification, .insufficient,
    .chooseLanguage, .restricted]

def parseSource? (json : JsonValue) : Option ChatbotSource := do
  let members ← strictMembers ["entry_id", "title", "verification_status", "verified_on",
    "provenance", "references"] json
  let entryId ← textMember members "entry_id"
  guard (isEntryId entryId.toList)
  let title ← enumMember citationTitles CitationTitle.text members "title"
  let verificationStatus ← enumMember citationStatuses CitationStatus.text members
    "verification_status"
  let verifiedOn ← (members.lookup "verified_on").bind (nullableDate web)
  let provenance ← optionalProvenance members
  let references ← arrayMember (parseReference web) 5 members "references"
  return { entryId, title, verificationStatus, verifiedOn, provenance, references }

end Reading

section Refinement

/-- `^owner-[a-f0-9]{20}$` -/
def isOwnerId (text : List Char) : Bool :=
  startsWith "owner-" text && decide (text.length = 26) &&
    (text.drop 6).all fun char => ('a' ≤ char && char ≤ 'f') || ('0' ≤ char && char ≤ '9')

def ChatbotSource.isConsistent (source : ChatbotSource) : Bool :=
  (source.verificationStatus != .verifiedOfficial || !source.references.isEmpty) &&
    if source.verificationStatus.isOwner then
      source.verifiedOn.isNone && source.title == .ownerProvidedGuide &&
        source.references.isEmpty && isOwnerId source.entryId.toList && source.provenance.isSome
    else
      source.provenance.isNone &&
        if source.verificationStatus = .historicalReference then
          source.verifiedOn.isNone && source.title == .historicalStudentGuide &&
            source.references.isEmpty &&
            ["legacy-d9-food", "legacy-laundry"].contains source.entryId
        else
          source.verifiedOn.isSome && source.title ==
            (if source.verificationStatus = .verifiedCode then .buddyWebGuide
            else .vguPublicInformation)

namespace ChatbotAnswer

variable (value : ChatbotAnswer)

def hasSource (status : CitationStatus) : Bool :=
  value.sources.any fun source => source.verificationStatus == status

/-- What `refine` asks of the whole response. -/
def isConsistent : Bool :=
  value.supported == !value.sources.isEmpty &&
    (if [AnswerOutcome.answer, .historicalReference, .ownerProvided, .conflicted].contains
        value.status then value.supported
    else !value.supported) &&
    decide (value.status = .conflicted) == value.hasSource .conflicted &&
    decide (value.status = .ownerProvided) ==
      (!value.hasSource .conflicted && value.hasSource .ownerProvided) &&
    decide (value.status = .historicalReference) ==
      (!(value.sources.any fun source => source.verificationStatus.isOwner) &&
        value.hasSource .historicalReference) &&
    value.sources.all ChatbotSource.isConsistent

end ChatbotAnswer

end Refinement

/-- `responseSchema` -/
def responseSchema (json : JsonValue) : Option ChatbotAnswer := do
  let members ← strictMembers ["answer", "language", "supported", "status", "mode", "sources"] json
  let answer ← textMember members "answer"
  guard (1 ≤ utf16Length answer ∧ answer.length ≤ 1800)
  let language ← enumMember [.en, .de, .und] AnswerLanguage.text members "language"
  let supported ← (members.lookup "supported").bind JsonValue.bool?
  let status ← enumMember answerOutcomes AnswerOutcome.text members "status"
  let mode ← textMember members "mode"
  guard (mode = "local_retrieval")
  let sources ← arrayMember (parseSource? web) 3 members "sources"
  let value : ChatbotAnswer := { answer, language, supported, status, sources }
  guard value.isConsistent
  return value

end Client

end BuddyWeb
