/-
The owner's guide as a source of passages: how its text is cut into lines, sections and
sentences, and which policy a passage gets.
-/
import BuddyWeb.Chatbot.Models

namespace BuddyWeb

def maxSourceBytes : Nat := 256000

def maxPassages : Nat := 2000

inductive SourceInvalid
  | emptyOrOversized
  | invalidUtf8
  | credentialLikeContent
  | invalidText
  | invalidPassageCount
  deriving DecidableEq, Repr

inductive Policy
  | ownerProvided
  | conflicted
  | sensitive
  | instruction
  deriving DecidableEq, Repr

section Texts

/-- Strict decoding of UTF-8. -/
def decodeUtf8 : Option PendingChar → List Byte → Option (List Char)
  | none, [] => some []
  | some _, [] => none
  | none, byte :: rest =>
      match firstByte byte with
      | .char char => (decodeUtf8 none rest).map (char :: ·)
      | .pending pending => decodeUtf8 (some pending) rest
      | .invalid => none
  | some pending, byte :: rest =>
      if pending.least ≤ byte ∧ byte ≤ pending.greatest then
        let bits := pending.bits * 64 + byte % 64
        if pending.missing = 1 then (decodeUtf8 none rest).map (Char.ofNat bits :: ·)
        else decodeUtf8 (some ⟨bits, pending.missing - 1, 0x80, 0xBF⟩) rest
      else none

/-- `decode("utf-8-sig")` -/
def decodeUtf8Sig (raw : List Byte) : Option (List Char) :=
  (decodeUtf8 none raw).map fun text =>
    match text with
    | head :: tail => if head.toNat = 0xFEFF then tail else head :: tail
    | [] => []

def encodeUtf8 (text : List Char) : List Byte :=
  (text.flatMap String.utf8EncodeChar).map fun byte => Fin.ofNat 256 byte.toNat

/-- The characters which end a line for `splitlines`. -/
def isLineBreak (char : Char) : Bool :=
  let code := char.toNat
  (10 ≤ code && code ≤ 13) || (28 ≤ code && code ≤ 30) || code == 0x85 || code == 0x2028 ||
    code == 0x2029

/-- `splitlines`, with the characters of the line which is being read. -/
def splitLines : List Char → List Char → List (List Char)
  | current, [] => if current = [] then [] else [current]
  | current, '\r' :: '\n' :: rest => current :: splitLines [] rest
  | current, char :: rest =>
      if isLineBreak char then current :: splitLines [] rest
      else splitLines (current ++ [char]) rest

/-- `"\n".join` -/
def joinLines (lines : List (List Char)) : List Char :=
  (['\n'] : List Char).intercalate lines

def strip (text : List Char) : List Char := trimEnds isPySpace text

end Texts

section Patterns

variable (tables : WordTables)

def isAsciiWordChar (char : Char) : Bool :=
  isAsciiLower char || isAsciiUpper char || ('0' ≤ char && char ≤ '9')

/-- Private keys, tokens, and links with credentials. -/
def credentialPattern : Pattern :=
  .choice [
    .sequence [.word "-----BEGIN ".toList,
      .optional (.choice [.word "RSA ".toList, .word "EC ".toList, .word "OPENSSH ".toList]),
      .word "PRIVATE KEY-----".toList],
    .sequence [.wordBoundary tables.isWord,
      .choice [
        .seq (.word "sk-".toList) (.many isAsciiWordChar 24 none false),
        .seq (.word "ghp_".toList) (.many isAsciiWordChar 30 none false),
        .sequence [.word "eyJ".toList,
          .many (fun char => isAsciiWordChar char || char == '_' || char == '-') 20 none false,
          .word ".".toList]]],
    .sequence [.word "http".toList, .optional (.word "s".toList), .word "://".toList,
      .oneOrMore fun char => char != '/' && !isPySpace char, .word "@".toList],
    .sequence [.char fun char => char == '?' || char == '&',
      .choice [.word "token".toList, .word "api_key".toList, .word "secret".toList],
      .word "=".toList]]

/-- `INSTRUCTION` -/
def instructionPattern : Pattern :=
  .choice [
    .wordIgnoringCase "you are a virtual".toList,
    .wordIgnoringCase "your personality".toList,
    .wordIgnoringCase "assume every question".toList,
    .wordIgnoringCase "cannot successfully complete".toList,
    .seq (.wordIgnoringCase "ignore ".toList)
      (.choice [.wordIgnoringCase "all".toList, .wordIgnoringCase "previous".toList]),
    .sequence [.wordIgnoringCase "reveal ".toList,
      .optional (.choice [.wordIgnoringCase "your ".toList, .wordIgnoringCase "the ".toList]),
      .choice [.wordIgnoringCase "system".toList, .wordIgnoringCase "prompt".toList]],
    .sequence [.wordIgnoringCase "execute ".toList,
      .choice [.wordIgnoringCase "this".toList, .wordIgnoringCase "the".toList],
      .wordIgnoringCase " command".toList],
    .wordIgnoringCase "system instructions".toList,
    .wordIgnoringCase "system prompt".toList,
    .wordIgnoringCase "api key".toList,
    .wordIgnoringCase "zugangsdaten".toList,
    .wordIgnoringCase "ignoriere".toList]

/-- `SENSITIVE` -/
def sensitivePattern : Pattern :=
  .sequence [.wordBoundary tables.isWord,
    .choice [
      .wordIgnoringCase "visa".toList, .wordIgnoringCase "passport".toList,
      .wordIgnoringCase "immigration".toList, .wordIgnoringCase "customs".toList,
      .wordIgnoringCase "law".toList, .wordIgnoringCase "insurance".toList,
      .seq (.wordIgnoringCase "vaccin".toList) (.zeroOrMore tables.isWord),
      .wordIgnoringCase "malaria".toList, .wordIgnoringCase "dengue".toList,
      .wordIgnoringCase "health".toList, .wordIgnoringCase "hospital".toList,
      .wordIgnoringCase "medicine".toList, .wordIgnoringCase "medical".toList,
      .wordIgnoringCase "prohibited".toList, .wordIgnoringCase "restricted".toList,
      .wordIgnoringCase "mandatory".toList, .wordIgnoringCase "police".toList,
      .wordIgnoringCase "reimbursement".toList],
    .wordBoundary tables.isWord]

/-- A word with an optional `s`. -/
def pluralIgnoringCase (text : String) : Pattern :=
  .seq (.wordIgnoringCase text.toList) (.optional (.wordIgnoringCase "s".toList))

def isRangeSign (char : Char) : Bool := char == '–' || char == '-'

/-- `TIME_DEPENDENT` -/
def timeDependentPattern : Pattern :=
  .alt
    (.sequence [.wordBoundary tables.isWord,
      .choice [
        .wordIgnoringCase "vnd".toList, .wordIgnoringCase "eur".toList,
        .wordIgnoringCase "usd".toList, pluralIgnoringCase "fee", pluralIgnoringCase "cost",
        pluralIgnoringCase "price", pluralIgnoringCase "rent",
        .wordIgnoringCase "curfew".toList, pluralIgnoringCase "hour",
        .wordIgnoringCase "am".toList, .wordIgnoringCase "pm".toList,
        pluralIgnoringCase "minute", pluralIgnoringCase "month", pluralIgnoringCase "week",
        .wordIgnoringCase "deadline".toList],
      .wordBoundary tables.isWord])
    (.sequence [.oneOrMore tables.isDecimal, .zeroOrMore isPySpace,
      .char fun char => char == ':' || isRangeSign char, .zeroOrMore isPySpace,
      .oneOrMore tables.isDecimal])

/-- `[A-ZÀ-ỿ]` -/
def isCapital (char : Char) : Bool :=
  isAsciiUpper char || (0xC0 ≤ char.toNat && char.toNat ≤ 0x1EFF)

/-- A title of the two letters and any character stands before the place. -/
def followsTitle (first second : Char) : List Char → Bool
  | last :: middle :: head :: _ => Pattern.dot last && middle == second && head == first
  | _ => false

/-- `(?<!Mr.)(?<!Ms.)(?<!Dr.)(?<=[.!?])\s+(?=[A-ZÀ-ỿ])` -/
def sentenceBoundary : Pattern :=
  .sequence [
    .check fun before _ => !followsTitle 'M' 'r' before && !followsTitle 'M' 's' before &&
      !followsTitle 'D' 'r' before,
    .check fun before _ => before.head?.any fun char => char == '.' || char == '!' || char == '?',
    .oneOrMore isPySpace,
    .check fun _ after => after.head?.any isCapital]

/-- `^\d+\s+[A-Za-zÀ-ỿ]` -/
def tableRow : Pattern :=
  .sequence [.textStart, .oneOrMore tables.isDecimal, .oneOrMore isPySpace,
    .char fun char => isAsciiLower char || isCapital char]

def whitespaceRuns : Pattern := .oneOrMore isPySpace

/-- `passport.{0,70}?valid.{0,40}?(\d+) months` -/
def passportValidity : Pattern :=
  .sequence [.word "passport".toList, .many Pattern.dot 0 (some 70) true, .word "valid".toList,
    .many Pattern.dot 0 (some 40) true, .group (.oneOrMore tables.isDecimal),
    .word " months".toList]

/-- `\d[\d,]*` -/
def amount : Pattern :=
  .seq (.char tables.isDecimal) (.zeroOrMore fun char => tables.isDecimal char || char == ',')

/-- `(\d[\d,]*)\s*[–-]\s*(\d[\d,]*)\s*VND` -/
def dormPriceRange : Pattern :=
  .sequence [.group (amount tables), .zeroOrMore isPySpace, .char isRangeSign,
    .zeroOrMore isPySpace, .group (amount tables), .zeroOrMore isPySpace, .word "VND".toList]

def canteenName : Pattern := .choice [.word "canteen".toList, .word "cafeteria".toList]

/-- `(?:canteen|cafeteria).{0,90}(?:offers|serves?).{0,50}dinner` -/
def dinnerServed : Pattern :=
  .sequence [canteenName, .many Pattern.dot 0 (some 90) false,
    .choice [.word "offers".toList, .seq (.word "serve".toList) (.optional (.word "s".toList))],
    .many Pattern.dot 0 (some 50) false, .word "dinner".toList]

/-- `(?:canteen|cafeteria).{0,90}(?:don.t|not|no).{0,40}dinner` -/
def dinnerDenied : Pattern :=
  .sequence [canteenName, .many Pattern.dot 0 (some 90) false,
    .choice [.sequence [.word "don".toList, .char Pattern.dot, .word "t".toList],
      .word "not".toList, .word "no".toList],
    .many Pattern.dot 0 (some 40) false, .word "dinner".toList]

/-- `(?im)^(fact|status|current fee|passport validity|dinner service|opening hours):\s*(.+)$` -/
def structuredField : Pattern :=
  .sequence [.lineStart,
    .group (.choice (["fact", "status", "current fee", "passport validity", "dinner service",
      "opening hours"].map fun name => .wordIgnoringCase name.toList)),
    .word ":".toList, .zeroOrMore isPySpace, .group (.oneOrMore Pattern.dot), .lineEnd]

/-- `\b(?:cafeteria|canteen)\b` -/
def canteenWord : Pattern :=
  .sequence [.wordBoundary tables.isWord,
    .choice [.word "cafeteria".toList, .word "canteen".toList], .wordBoundary tables.isWord]

end Patterns

section Headings

variable (tables : WordTables)

/-- `HEADINGS` -/
def headingTexts : List String :=
  ["vgu buddy program the ambassador team", "vgu official social media channels",
   "vgu student association – vsa", "vgu international office", "student affairs", "vgu library",
   "arrival", "after", "maybe you should know before arrival", "arrrival at vgu",
   "monetary transaction", "motorbike", "taxi", "transportation", "anywhere",
   "from hcmc to binh duong (and vice versa)", "sport complex", "outdoor", "indoor",
   "operation hours", "registration", "accomondation", "dorminotory", "location",
   "fee (room only)", "room types", "additional information", "living on campus", "food cost",
   "bus costs", "extracurricular activities", "living in thu dau mot city",
   "living in ho chi minh city", "rents", "bus costs (registration needed)", "day in life",
   "shopping", "surrounding the campus area", "restaurant / food", "grocerieswinmart",
   "bach hoa xanh", "aeon mall canary", "co.opmart thu dau mot – supermarket",
   "go! supermarket binh duong", "grocerieshealth", "hcmc hospital", "on campus support",
   "internet services", "more information", "copying and printing",
   "vgu library other service providers", "laundry", "contact us"]

/-- The headings which begin a section of their own. -/
def mainHeadings : List String :=
  ["vgu buddy program the ambassador team", "vgu official social media channels",
   "vgu student association – vsa", "vgu international office", "student affairs", "vgu library",
   "arrival", "monetary transaction", "motorbike", "taxi", "transportation", "sport complex",
   "accomondation", "dorminotory", "living on campus", "living in thu dau mot city",
   "living in ho chi minh city", "shopping", "surrounding the campus area", "food and beverage",
   "grocerieswinmart", "grocerieshealth", "hcmc hospital", "on campus support",
   "copying and printing", "laundry", "contact us"]

def maxSection : Nat := 160

/-- The label of a heading line. -/
def heading (line : List Char) : Option (List Char) :=
  let clean := strip line
  if startsWith "food and beverage:" (tables.casefold clean) then
    some "Food and beverage".toList
  else if startsWith "#" clean then
    let label := (strip (clean.dropWhile (· == '#'))).take maxSection
    if label = [] then none else some label
  else
    let withoutNumber := (Pattern.seq .textStart (.oneOrMore tables.isDecimal)).substitute
      (fun _ => []) clean
    let normalized := strip (withoutNumber.rdropWhile (· == ':'))
    if (headingTexts.map String.toList).contains (tables.casefold normalized) then
      some (normalized.take maxSection)
    else none

def isMainHeading (line label : List Char) : Bool :=
  let shown := line.dropWhile isPySpace
  startsWith "## " shown || startsWith "# " shown ||
    (mainHeadings.map String.toList).contains (tables.casefold label)

end Headings

structure Passage where
  id : List Char
  text : List Char
  sectionName : List Char
  startLine : Nat
  endLine : Nat
  policy : Policy
  timeSensitive : Bool
  terms : Words
  topics : List String
  conflictGroup : Option (List Char) := none
  deriving DecidableEq, Repr

structure Snapshot where
  version : List Char
  passages : List Passage
  sourceLines : Nat
  vocabulary : Words
  documentFrequency : List Char → Nat

/-- The libraries behind the parser: the Unicode tables, and SHA-256 as a number. -/
structure SourceLibraries where
  tables : WordTables
  sha256 : List Byte → Nat

namespace SourceLibraries

variable (libraries : SourceLibraries)

def hexdigest (bytes : List Byte) : List Char :=
  hexText (toBigEndian 32 (libraries.sha256 bytes))

end SourceLibraries

section Parsing

variable (libraries : SourceLibraries)

/-- What the loop over the lines carries: the passages so far, and the lines of the block which
is being read with their numbers. -/
structure ParseState where
  passages : List Passage
  sectionName : List Char
  parentSection : List Char
  buffered : List (Nat × List Char)

def policyOf (body sectionName : List Char) : Policy :=
  if instructionPattern.search body then .instruction
  else if (sensitivePattern libraries.tables).search (body ++ ' ' :: sectionName) then .sensitive
  else .ownerProvided

/-- The passage between two positions of a block, if there is more than white space. -/
def passageAt (sectionName block : List Char) (first last : Nat) (span : Nat × Nat) :
    Option Passage :=
  let body := strip ((block.take span.2).drop span.1)
  if body = [] then none
  else
    let startLine := first + (block.take span.1).count '\n'
    let endLine := min last
      (first + ((block.take span.2).rdropWhile isPySpace).count '\n')
    let material := sectionName ++ '\n' :: body
    let digest := libraries.hexdigest (encodeUtf8 ((toString startLine).toList ++ '\n' :: material))
    some {
      id := "owner-".toList ++ digest.take 20
      text := body
      sectionName := sectionName
      startLine := startLine
      endLine := endLine
      policy := policyOf libraries body sectionName
      timeSensitive := (timeDependentPattern libraries.tables).search body
      terms := tokens libraries.tables material
      topics := topics libraries.tables material }

/-- The spans between consecutive offsets. -/
def spans (offsets : List Nat) : List (Nat × Nat) := offsets.zip offsets.tail

def blockPassages (sectionName : List Char) (first last : Nat) (block : List Char) :
    List Passage :=
  let offsets := 0 :: (sentenceBoundary.matchEnds block ++ [block.length])
  (spans offsets).filterMap (passageAt libraries sectionName block first last)

namespace ParseState

def start : ParseState :=
  ⟨[], "Guide introduction".toList, [], []⟩

variable (state : ParseState)

def flush : ParseState :=
  match state.buffered with
  | [] => state
  | (first, line) :: rest =>
      let lines := (first, line) :: rest
      let last := ((lines.getLast?).map Prod.fst).getD first
      let block := strip (joinLines (lines.map Prod.snd))
      { state with
        passages := state.passages ++ blockPassages libraries state.sectionName first last block
        buffered := [] }

def append (number : Nat) (line : List Char) : ParseState :=
  { state with buffered := state.buffered ++ [(number, line)] }

/-- The section of a new heading. -/
def withHeading (line label : List Char) : ParseState :=
  if isMainHeading libraries.tables line label || state.parentSection.isEmpty then
    { state with parentSection := label, sectionName := label }
  else
    { state with
      sectionName := (state.parentSection ++ " / ".toList ++ label).take maxSection }

/-- A numbered row begins a passage of its own when enough stands before it. -/
def endsBefore (line : List Char) : Bool :=
  !state.buffered.isEmpty && (tableRow libraries.tables).matchesAt [] (strip line) &&
    decide (80 < (joinLines (state.buffered.map Prod.snd)).length)

/-- One line of the source. -/
def readLine (numbered : List Char × Nat) : ParseState :=
  match heading libraries.tables numbered.1 with
  | some label =>
      ((state.flush libraries).withHeading libraries numbered.1 label).append numbered.2
        numbered.1
  | none =>
      if strip numbered.1 = [] then state.flush libraries
      else if state.endsBefore libraries numbered.1 then
        (state.flush libraries).append numbered.2 numbered.1
      else state.append numbered.2 numbered.1

end ParseState

/-- The passages of the lines of a source, before conflicts are marked. -/
def readPassages (lines : List (List Char)) : List Passage :=
  (((lines.zipIdx 1).foldl (ParseState.readLine libraries) .start).flush libraries).passages

end Parsing

section Conflicts

variable (tables : WordTables)

def squeezed (text : List Char) : List Char :=
  whitespaceRuns.substitute (fun _ => [' ']) (tables.casefold text)

def mentions (text : List Char) (fragment : String) : Bool := containsAny text [fragment]

def dormRanges (passage : Passage) : List (List (List Char)) :=
  if mentions (tables.casefold passage.sectionName) "dorm" = false ∨
      (tokens tables passage.text).meets
        (["room", "shared", "rents"].map String.toList) = false then []
  else ((dormPriceRange tables).findGroups passage.text).dedup

/-- A structured field: the heading it stands under, its name and its value. -/
structure FieldValue where
  sectionName : List Char
  name : List Char
  value : List Char
  deriving DecidableEq, Repr

def fieldsOf (passage : Passage) : List FieldValue :=
  (structuredField.findGroups passage.text).map fun groups =>
    ⟨tables.casefold passage.sectionName, tables.casefold (groups.getD 0 []),
      tables.casefold (strip (groups.getD 1 []))⟩

def hasDifferentValues (fields : List FieldValue) (field : FieldValue) : Bool :=
  decide (1 < ((fields.filter fun other =>
    other.sectionName == field.sectionName && other.name == field.name).map
      FieldValue.value).dedup.length)

/-- What the whole source says about the topics with one right value. -/
structure ConflictContext where
  passportValues : List (List (List Char))
  dormPriceRanges : List (List (List Char))
  dinnerYes : Bool
  dinnerNo : Bool
  fields : List FieldValue

def conflictContext (text : List Char) (passages : List Passage) : ConflictContext :=
  let normalized := squeezed tables text
  ⟨((passportValidity tables).findGroups normalized).dedup,
    (passages.flatMap (dormRanges tables)).dedup,
    dinnerServed.search normalized, dinnerDenied.search normalized,
    passages.flatMap (fieldsOf tables)⟩

def isConflicting (context : ConflictContext) (passage : Passage) : Bool :=
  let body := squeezed tables passage.text
  (mentions body "passport" && mentions body "valid" &&
      decide (1 < context.passportValues.length)) ||
    ((canteenWord tables).search body && mentions body "dinner" && context.dinnerYes &&
      context.dinnerNo) ||
    (!(dormRanges tables passage).isEmpty && decide (1 < context.dormPriceRanges.length)) ||
    mentions body "[conflicted]" ||
    (fieldsOf tables passage).any (hasDifferentValues context.fields)

def conflictGroupOf (passage : Passage) : List Char :=
  let body := squeezed tables passage.text
  if mentions body "passport" && mentions body "valid" then "passport-validity".toList
  else if mentions body "dinner" then "cafeteria-dinner".toList
  else if !(dormRanges tables passage).isEmpty then "dorm-room-prices".toList
  else tables.casefold passage.sectionName

def markConflict (context : ConflictContext) (passage : Passage) : Passage :=
  if isConflicting tables context passage ∧ passage.policy ≠ .instruction then
    { passage with
      policy := .conflicted
      conflictGroup := some (conflictGroupOf tables passage) }
  else passage

end Conflicts

section Source

variable (libraries : SourceLibraries)

/-- The characters a source may not have. -/
def isForbiddenChar (char : Char) : Bool :=
  decide (char.toNat < 32) && !(char == '\n' || char == '\r' || char == '\t')

def snapshotOf (raw : List Byte) (lines : List (List Char)) (passages : List Passage) :
    Snapshot where
  version := libraries.hexdigest raw
  passages := passages
  sourceLines := lines.length
  vocabulary :=
    ((passages.filter fun passage => passage.policy != .instruction).flatMap
      Passage.terms).dedup
  documentFrequency := fun word => passages.countP fun passage => passage.terms.contains word

def parseSource (raw : List Byte) : Except SourceInvalid Snapshot :=
  if raw = [] ∨ maxSourceBytes < raw.length then .error .emptyOrOversized
  else
    match decodeUtf8Sig raw with
    | none => .error .invalidUtf8
    | some text =>
        if (credentialPattern libraries.tables).search text then .error .credentialLikeContent
        else if isNonblank text = false ∨ text.any isForbiddenChar then .error .invalidText
        else
          let lines := splitLines [] text
          let passages := readPassages libraries lines
          if passages = [] ∨ maxPassages < passages.length then .error .invalidPassageCount
          else
            let context := conflictContext libraries.tables text passages
            .ok (snapshotOf libraries raw lines
              (passages.map (markConflict libraries.tables context)))

end Source

end BuddyWeb
