/-
The words of a text and what they say about a question: its language, its topics, and whether
it asks for something sensitive or current.
-/
import BuddyWeb.Lib.ListSearch
import BuddyWeb.Lib.Pattern
import BuddyWeb.Lib.PyText
import Mathlib.Data.List.Dedup

namespace BuddyWeb

/-- What the Unicode tables of the source language say. -/
structure WordTables where
  nfc : List Char → List Char
  nfkc : List Char → List Char
  casefoldChar : Char → List Char
  isAlnum : Char → Bool
  isDecimal : Char → Bool

namespace WordTables

variable (tables : WordTables)

def casefold (text : List Char) : List Char := text.flatMap tables.casefoldChar

/-- `\w` -/
def isWord (char : Char) : Bool := tables.isAlnum char || char == '_'

@[simp]
theorem casefold_nil : tables.casefold [] = [] := rfl

end WordTables

abbrev Words := List (List Char)

/-- The words of a constant text, with single spaces between them. -/
def spaced (constants : List String) : List Char :=
  ((constants.map String.toList).intersperse [' ']).flatten

namespace Words

/-- `first & second` is not empty. -/
def meets (first second : Words) : Bool := first.any (second.contains ·)

def shared (first second : Words) : Words := first.filter (second.contains ·)

def without (first second : Words) : Words := first.filter fun word => !second.contains word

def isWithin (first second : Words) : Bool := first.all (second.contains ·)

def union (first second : Words) : Words := (first ++ second).dedup

end Words

inductive Language
  | en
  | de
  deriving DecidableEq, Repr

/-- One of the fragments is `in` the text. -/
def containsAny (text : List Char) (fragments : List String) : Bool :=
  fragments.any fun fragment => (findIn fragment.toList text).isSome

section Vocabulary

def enMarkerWords : List String :=
  ["what", "how", "where", "when", "which", "who", "can", "does", "do", "is", "are", "the", "my",
  "I", "me", "help", "please", "register", "verify", "send", "view", "find", "join", "about",
  "hours", "price", "cost", "need", "available"]

def deMarkerWords : List String :=
  ["was", "wie", "wo", "wann", "welche", "wer", "kann", "können", "funktioniert", "ist", "sind",
  "der", "die", "das", "ein", "eine", "mein", "meine", "ich", "mir", "bitte", "hilfe", "anmelden",
  "registrieren", "bestätigen", "senden", "ansehen", "finden", "gibt", "teilnehmen", "über",
  "öffnungszeiten", "preis", "kostet", "brauche", "verfügbar"]

def stopWordList : List String :=
  ["what", "how", "where", "when", "which", "who", "can", "does", "do", "is", "are", "the", "a",
  "an", "I", "me", "my", "please", "about", "was", "wie", "wo", "wann", "welche", "wer", "kann",
  "können", "ist", "sind", "der", "die", "das", "ein", "eine", "ich", "mir", "mein", "meine",
  "bitte", "über", "to", "of", "in", "on", "at", "for", "and", "or", "mit", "im", "am", "auf",
  "zu", "zur", "zum", "von", "den", "dem", "des", "und", "oder", "you", "your", "man", "es",
  "sich", "students", "student", "studierende", "vgu", "buddyweb", "another", "other", "from",
  "get", "find", "documents", "document", "einem", "eines", "anderen", "anderer", "studierenden",
  "person", "finde", "finden", "bekommen", "gibt", "s", "einer", "dokumente"]

structure Intent where
  name : String
  en : List String
  de : List String
  verifiedIds : List String := []
  deriving DecidableEq, Repr

/-- `INTENTS` -/
def intents : List Intent :=
  [ { name := "food"
      en := ["food", "eat", "eating", "hungry", "restaurant", "restaurants", "meal", "meals",
       "cafeteria", "canteen", "beverages", "coffee", "cafe"]
      de := ["essen", "hunger", "hungrig", "restaurant", "restaurants", "mensa", "kantine",
       "lebensmittel", "getränke", "kaffee", "café"] },
    { name := "laundry"
      en := ["laundry", "laundromat", "wash", "washing", "clothes"]
      de := ["wäscherei", "waescherei", "wäsche", "waesche", "waschen", "wäscheservice",
       "waescheservice", "waschservice", "kleidung"] },
    { name := "transport"
      en := ["transport", "transportation", "bus", "buses", "metro", "taxi", "motorbike", "travel"]
      de := ["transport", "verkehr", "bus", "busse", "u-bahn", "taxi", "motorrad", "anreise"] },
    { name := "accommodation"
      en := ["accommodation", "dorm", "dormitory", "room", "housing", "rents", "rent", "guesthouse",
       "apartment"]
      de := ["unterkunft", "wohnheim", "zimmer", "wohnen", "miete", "gästehaus"]
      verifiedIds := ["dormitory-information"] },
    { name := "library"
      en := ["library", "printing", "print", "copying", "copy", "scanning", "scan"]
      de := ["bibliothek", "bücherei", "drucken", "druck", "kopieren", "scannen"]
      verifiedIds := ["library-services"] },
    { name := "sports"
      en := ["sports", "sport", "swimming", "pool", "badminton", "basketball", "football", "tennis",
       "volleyball", "stadium"]
      de := ["sport", "sporthalle", "schwimmen", "schwimmbad", "badminton", "basketball", "fußball",
       "tennis", "volleyball", "stadion"]
      verifiedIds := ["sports-information"] },
    { name := "buddy-program"
      en := ["ambassador", "volunteer", "buddy", "program"]
      de := ["botschafter", "freiwillige", "buddy", "programm"]
      verifiedIds := ["buddy-program-overview", "buddy-participation"] },
    { name := "registration"
      en := ["register", "registration", "signup"]
      de := ["registrieren", "registrierung", "erstelle", "erstellen", "kontoerstellung"]
      verifiedIds := ["website-register"] },
    { name := "login"
      en := ["login", "signin"]
      de := ["anmelden", "anmeldung", "einloggen"] },
    { name := "verification"
      en := ["verification", "verify", "confirmation"]
      de := ["verifizieren", "bestätigen", "verifizierung", "emailbestätigung"]
      verifiedIds := ["website-verification"] },
    { name := "matching"
      en := ["matching", "recommendation", "match", "recommendations"]
      de := ["matching", "empfehlung", "empfehlungen", "partner"]
      verifiedIds := ["website-matching"] },
    { name := "invitations"
      en := ["invitation", "invitations", "invite"]
      de := ["einladung", "einladungen", "einladen"]
      verifiedIds := ["website-invitations"] },
    { name := "chat"
      en := ["chat", "conversation", "conversations", "chatting"]
      de := ["chat", "chats", "unterhaltung", "nachrichten"]
      verifiedIds := ["website-buddy-chat"] },
    { name := "events"
      en := ["event", "events", "activities"]
      de := ["veranstaltung", "veranstaltungen", "aktivitäten"]
      verifiedIds := ["website-events"] },
    { name := "campus"
      en := ["facilities", "facility", "services", "resources", "campus"]
      de := ["einrichtungen", "einrichtung", "dienste", "angebote", "campus"]
      verifiedIds := ["campus-resources"] },
    { name := "groceries"
      en := ["groceries", "grocery", "supermarket", "supermarkets", "shopping", "convenience",
       "necessities", "store"]
      de := ["einkaufen", "einkauf", "supermarkt", "supermärkte", "laden", "geschäft"] },
    { name := "internet"
      en := ["internet", "wifi", "wi-fi", "sim", "telecom", "mobile", "connectivity"]
      de := ["internet", "wlan", "sim", "mobilfunk", "handytarif"] },
    { name := "contacts"
      en := ["contact", "contacts", "office", "affairs", "scholarship", "scholarships", "career",
       "careers"]
      de := ["kontakt", "kontakte", "büro", "stipendium", "stipendien", "karriere"]
      verifiedIds := ["international-help"] },
    { name := "health"
      en := ["health", "hospital", "medical", "medicine", "pharmacy", "insurance", "vaccine",
       "vaccinations"]
      de := ["gesundheit", "krankenhaus", "medizin", "apotheke", "versicherung", "impfung",
       "impfungen"] },
    { name := "arrival"
      en := ["arrival", "visa", "passport", "immigration", "customs", "residence"]
      de := ["ankunft", "visum", "reisepass", "einwanderung", "zoll", "aufenthalt"] },
    { name := "banking"
      en := ["bank", "banks", "banking", "atm", "currency", "monetary", "withdraw", "money",
       "exchange"]
      de := ["bank", "banken", "geldautomat", "währung", "geld", "wechselkurs"] } ]

def fillerWords : List String :=
  ["there", "somewhere", "anywhere", "any", "around", "near", "nearby", "outside", "inside",
  "place", "places", "located", "looking", "look", "want", "need", "would", "like", "some",
  "something", "mention", "mentions", "guide", "previous", "historical", "source", "student",
  "campus", "vgu", "can", "have", "has", "habe", "einen", "etwas", "nähe", "nahe", "außerhalb",
  "innerhalb", "beim", "brauche", "möchte", "ort", "orten", "leitfaden", "studienführer",
  "studierendenleitfaden", "sagt", "nennt", "erwähnt", "irgendwelche", "irgendwo", "um", "gibt",
  "es"]

def moreFillerWords : List String :=
  ["service", "services", "be", "must", "long", "much", "lange", "viel", "viele", "habe", "haben",
  "einen", "einem", "einer", "mentioned", "information", "details", "tell", "show", "does", "say",
  "facility", "facilities", "please", "gern", "gerne", "kannst", "kann", "man"]

/-- `TYPO` -/
def typos : List (String × String) :=
  [("validity", "valid"), ("gültig", "valid"), ("tor", "gate"), ("tors", "gate"),
   ("tore", "gate"), ("straße", "street"), ("strasse", "street"), ("restarant", "restaurant"),
   ("restraunt", "restaurant"), ("restuarant", "restaurant"), ("laundary", "laundry"),
   ("waescherei", "wäscherei"), ("waesche", "wäsche"), ("waescheservice", "wäscheservice"),
   ("bibliothekk", "bibliothek"), ("registartion", "registration")]

def confidenceWords : List String :=
  ["where", "how", "which", "what", "wo", "wie", "welche", "was"]

def currentWords : List String :=
  ["current", "currently", "now", "today", "latest", "open", "hours", "price", "prices", "fee",
  "fees", "cost", "costs", "requirements", "required", "mandatory", "curfew", "deadline",
  "insurance", "derzeit", "aktuell", "aktuelle", "aktuellen", "heute", "jetzt", "geöffnet",
  "öffnungszeiten", "preis", "preise", "gebühr", "gebühren", "kostet", "kosten", "vorgeschrieben",
  "erforderlich"]

def referenceWords : List String :=
  ["historical", "previous", "guide", "source", "document", "leitfaden", "studienführer",
  "studierendenleitfaden", "historisch", "historischen", "quelle", "dokument"]

end Vocabulary

section Language

variable (tables : WordTables)

/-- The runs of letters and digits of a text. -/
def words (text : List Char) : Words :=
  ((Pattern.oneOrMore fun char => tables.isWord char && char != '_').findTexts
    (tables.casefold (tables.nfkc text))).dedup

def enMarkers : Words := words tables (spaced enMarkerWords)

def deMarkers : Words := words tables (spaced deMarkerWords)

def stopWords : Words := words tables (spaced stopWordList)

def detectLanguage (text : List Char) : Option Language :=
  let tokens := words tables text
  let en := (tokens.shared (enMarkers tables)).length
  let de := (tokens.shared (deMarkers tables)).length
  if en ≠ 0 ∧ de ≠ 0 ∧ max en de < 2 * min en de then none
  else if en < de then some .de
  else if de < en then some .en
  else none

end Language

section Intents

variable (tables : WordTables)

def isAsciiLower (char : Char) : Bool := 'a' ≤ char && char ≤ 'z'

def isAsciiUpper (char : Char) : Bool := 'A' ≤ char && char ≤ 'Z'

/-- `([a-z])([A-Z])` -/
def camelHump : Pattern :=
  .seq (.group (.char isAsciiLower)) (.group (.char isAsciiUpper))

/-- `\b(?:how much|wie viel)\b` -/
def howMuch : Pattern :=
  .sequence [.wordBoundary tables.isWord,
    .choice [.word "how much".toList, .word "wie viel".toList], .wordBoundary tables.isWord]

def isSpaceOrDash (char : Char) : Bool := char == ' ' || char == '-'

/-- `\b(?:log|sign)[ -]+in\b` -/
def logIn : Pattern :=
  .sequence [.wordBoundary tables.isWord, .choice [.word "log".toList, .word "sign".toList],
    .oneOrMore isSpaceOrDash, .word "in".toList, .wordBoundary tables.isWord]

/-- `\bsign[ -]+up\b` -/
def signUp : Pattern :=
  .sequence [.wordBoundary tables.isWord, .word "sign".toList, .oneOrMore isSpaceOrDash,
    .word "up".toList, .wordBoundary tables.isWord]

/-- `\b(?:fees|fee|costs|cost|prices|preise|preis|gebühren|gebühr|kosten)\b` -/
def priceWord : Pattern :=
  .sequence [.wordBoundary tables.isWord,
    .choice (["fees", "fee", "costs", "cost", "prices", "preise", "preis", "gebühren", "gebühr",
      "kosten"].map fun text => .word text.toList), .wordBoundary tables.isWord]

def correctTypo (word : List Char) : List Char :=
  match typos.find? fun typo => typo.1.toList == word with
  | some typo => typo.2.toList
  | none => word

def tokens (text : List Char) : Words :=
  let text := camelHump.substitute (fun groups => ([' '] : List Char).intercalate groups) text
  let normalized := tables.casefold (tables.nfc text)
  let normalized := (howMuch tables).substitute (fun _ => "price".toList) normalized
  let normalized := (logIn tables).substitute (fun _ => "login".toList) normalized
  let normalized := (signUp tables).substitute (fun _ => "signup".toList) normalized
  let normalized := (priceWord tables).substitute (fun _ => "price".toList) normalized
  ((words tables normalized).map correctTypo).dedup

def Intent.tokens (intent : Intent) : Words :=
  BuddyWeb.tokens tables (spaced (intent.en ++ intent.de))

/-- `FILLER` -/
def filler : Words :=
  (((stopWords tables).union (words tables (spaced fillerWords))).union
    (words tables (spaced moreFillerWords))).without ["campus".toList]

/-- The topics a text names; a context word gives way to a more specific one. -/
def topics (text : List Char) : List String :=
  let query := tokens tables text
  let found := (intents.filter fun intent => query.meets (intent.tokens tables)).map Intent.name
  let found := if 1 < found.length then found.filter (· != "campus") else found
  if "buddy-program" ∈ found ∧ 1 < found.length then found.filter (· != "buddy-program")
  else found

def languageFor (text : List Char) (available : Words) : Option Language :=
  match detectLanguage tables text with
  | some detected => some detected
  | none =>
      let query := tokens tables text
      let en := (intents.flatMap fun intent => tokens tables (spaced intent.en)).dedup
      let de := (intents.flatMap fun intent => tokens tables (spaced intent.de)).dedup
      if query.meets (Words.without de en) && !query.meets (Words.without en de) then some .de
      else if query.meets (Words.without en de) && !query.meets (Words.without de en) then
        some .en
      else if query.length ≤ 3 ∧ query ≠ [] ∧
          (query.isWithin (Words.union en de) || query.isWithin available) then some .en
      else none

def contentTokens (text : List Char) : Words :=
  let query := (tokens tables text).without (filler tables)
  if 1 < query.length then query.without ["campus".toList] else query

def vocabulary (topic : String) : Words :=
  match intents.find? fun intent => intent.name == topic with
  | some intent => intent.tokens tables
  | none => []

inductive Confidence
  | high
  | medium
  deriving DecidableEq, Repr

def confidence (text : List Char) : Confidence :=
  if (tokens tables text).meets (words tables (spaced confidenceWords)) then .high else .medium

/-- The alternatives of `sensitive_query`, where `true` allows more word characters. -/
def sensitiveStems : List (String × Bool) :=
  [("visa", false), ("passport", false), ("immigration", false), ("customs", false),
   ("legal", false), ("law", false), ("insurance", false), ("health", false),
   ("medical", false), ("hospital", false), ("medicine", false), ("allerg", true),
   ("vaccin", true), ("malaria", false), ("visum", false), ("reisepass", false),
   ("gesetz", true), ("versicherung", false), ("gesund", true), ("medizin", true),
   ("kranken", true), ("impf", true), ("pflicht", true)]

def sensitiveWord : Pattern :=
  .sequence [.wordBoundary tables.isWord,
    .choice (sensitiveStems.map fun stem =>
      if stem.2 then .seq (.word stem.1.toList) (.zeroOrMore tables.isWord)
      else .word stem.1.toList), .wordBoundary tables.isWord]

def sensitiveQuery (text : List Char) : Bool :=
  (sensitiveWord tables).search (tables.casefold text)

def currentQuery (text : List Char) : Bool :=
  (tokens tables text).meets (words tables (spaced currentWords))

def referenceQuery (text : List Char) : Bool :=
  (tokens tables text).meets (words tables (spaced referenceWords))

def conditional (language : Language) : List Char :=
  match language with
  | .en => "If you mean this topic, the available source says:\n\n".toList
  | .de => "Falls du dieses Thema meinst, steht in der verfügbaren Quelle:\n\n".toList

end Intents

end BuddyWeb
