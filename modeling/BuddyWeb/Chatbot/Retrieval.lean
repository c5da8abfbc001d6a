/-
Lexical retrieval: which verified entries answer a question, and which passages of the guide
are evidence for it.
-/
import Mathlib.Data.Char
import Mathlib.Data.List.Lex
import BuddyWeb.Chatbot.OwnerSource

namespace BuddyWeb

/-- The floating-point operations behind the scores. -/
structure ScoreOps (φ : Type) where
  ofNat : Nat → φ
  ofDecimal : Nat → Nat → φ
  add : φ → φ → φ
  sub : φ → φ → φ
  mul : φ → φ → φ
  div : φ → φ → φ
  log : φ → φ
  lt : φ → φ → Bool
  eq : φ → φ → Bool

namespace ScoreOps

variable {φ : Type} (ops : ScoreOps φ)

def le (first second : φ) : Bool := ops.lt first second || ops.eq first second

def isZero (score : φ) : Bool := ops.eq score (ops.ofNat 0)

/-- The quotient of two counts. -/
def ratio (part whole : Nat) : φ := ops.div (ops.ofNat part) (ops.ofNat whole)

def sum (scores : List φ) : φ := scores.foldl ops.add (ops.ofNat 0)

end ScoreOps

section Questions

variable (tables : WordTables)

def questionMarks : Pattern := .oneOrMore fun char => char == '?' || char == '？'

def splitQuestions (text : List Char) : List (List Char) :=
  let parts := ((questionMarks.split text).map strip).filter (· ≠ [])
  if 1 < parts.length then parts else [text]

/-- `NORMALIZE` -/
def normalizations : List (String × List String) :=
  [("erstelle", ["erstellen"]), ("registriere", ["registrieren"]), ("invite", ["invitation"]),
   ("invitations", ["invitation"]), ("schicken", ["senden"]), ("sende", ["senden"]),
   ("sehe", ["ansehen"]), ("öffne", ["öffnen"]), ("kontaktiere", ["hilfe"]),
   ("kontaktieren", ["hilfe"]), ("contact", ["help"]), ("unterstützung", ["hilfe"]),
   ("internationale", ["international"]), ("informationen", ["information"]),
   ("wohnheim", ["dormitory"]), ("wohnheiminformationen", ["dormitory", "information"]),
   ("sportinformationen", ["sports", "information"]), ("sportangebot", ["sports"]),
   ("chatte", ["chat"]), ("chatten", ["chat"]), ("chatting", ["chat"])]

def normalizeWord (word : List Char) : Words :=
  match normalizations.find? fun entry => entry.1.toList == word with
  | some entry => entry.2.map String.toList
  | none => [word]

def terms (text : List Char) : Words :=
  (((words tables text).without (stopWords tables)).flatMap normalizeWord).dedup

/-- Equality as sets. -/
def Words.same (first second : Words) : Bool := first.isWithin second && second.isWithin first

end Questions

structure Hit (tables : WordTables) (φ : Type) where
  entry : Entry tables
  score : φ

structure Retriever (tables : WordTables) where
  entries : List (Entry tables)
  historicalEntries : List (Entry tables)

namespace Retriever

variable {tables : WordTables} {φ : Type}

def ofEntries (entries : List (Entry tables)) : Retriever tables :=
  ⟨entries.filter Entry.authoritative, entries.filter Entry.historicalReference⟩

variable (ops : ScoreOps φ) (retriever : Retriever tables)

/-- The best score of the aliases of an entry. -/
def aliasScore (query : Words) (aliases : List Words) : φ :=
  aliases.foldl
    (fun best alias_ =>
      if query.same alias_ then ops.ofNat 1
      else
        let shared := (query.shared alias_).length
        let coverage := ops.ratio shared query.length
        let precision := ops.ratio shared (max 1 alias_.length)
        if 2 ≤ shared ∧ ops.le (ops.ofDecimal 7 10) coverage ∧
            ops.le (ops.ofDecimal 5 10) precision then
          let score := ops.add (ops.mul (ops.ofDecimal 7 10) coverage)
            (ops.mul (ops.ofDecimal 3 10) precision)
          if ops.lt best score then score else best
        else best)
    (ops.ofNat 0)

/-- The two best hits are closer than a gap. -/
def isClose (hits : List (Hit tables φ)) : Bool :=
  match hits with
  | first :: second :: _ => ops.lt (ops.sub first.score second.score) (ops.ofDecimal 12 100)
  | _ => false

def precedes (first second : Hit tables φ) : Bool :=
  ops.lt second.score first.score ||
    (ops.eq first.score second.score && decide (first.entry.id ≤ second.entry.id))

def retrieveVerified (question : List Char) (language : Language) (includeAmbiguous : Bool) :
    List (Hit tables φ) :=
  let exact := (retriever.entries.filter fun entry =>
    (entry.localized language).questions.any fun alias_ =>
      (words tables question).same (words tables alias_)).map fun entry =>
        (⟨entry, ops.ofNat 2⟩ : Hit tables φ)
  if exact ≠ [] then if exact.length = 1 ∨ includeAmbiguous = true then exact else []
  else
    let query := terms tables question
    if query = [] then []
    else
      let hits := retriever.entries.filterMap fun entry =>
        let best := aliasScore ops query
          ((entry.localized language).questions.map (terms tables))
        if ops.isZero best then none else some (⟨entry, best⟩ : Hit tables φ)
      let hits := hits.mergeSort (precedes ops)
      if includeAmbiguous = false ∧ isClose ops hits then [] else hits.take 3

def ambiguous (question : List Char) (language : Language) : Bool :=
  isClose ops (retriever.retrieveVerified ops question language true)

def retrieveSingle (question : List Char) (language : Language) : List (Hit tables φ) :=
  let verified := retriever.retrieveVerified ops question language false
  if verified ≠ [] then verified
  else if retriever.ambiguous ops question language then []
  else
    let query := terms tables question
    let historical := (retriever.historicalEntries.filter fun entry =>
      decide (query ≠ []) && (entry.localized language).questions.any fun alias_ =>
        query.same (terms tables alias_)).map fun entry => (⟨entry, ops.ofNat 1⟩ : Hit tables φ)
    if historical.length = 1 then historical else []

/-- `setdefault` under the id of the entry. -/
def setDefault (selected : List (Hit tables φ)) (hit : Hit tables φ) : List (Hit tables φ) :=
  if selected.any fun other => other.entry.id == hit.entry.id then selected
  else selected ++ [hit]

def retrieve (question : List Char) (language : Language) : List (Hit tables φ) :=
  let parts := splitQuestions question
  if 1 < parts.length then
    if 3 < parts.length then []
    else
      (parts.foldl
        (fun selected part =>
          match retriever.retrieveSingle ops part language with
          | hit :: _ => setDefault selected hit
          | [] => selected)
        []).take 3
  else retriever.retrieveSingle ops question language

end Retriever

section Selection

variable (tables : WordTables) {φ : Type} (ops : ScoreOps φ)

/-- The passages which answer a question. -/
structure PassageSelection where
  passages : List Passage := []
  ambiguous : Bool := false
  deriving DecidableEq, Repr

def wordSet (constants : List String) : Words := constants.map String.toList

/-- `(?m)^\s*\d+\s+[A-Za-zÀ-ỿ]|\b[A-Za-z]+:\s+\S` -/
def factLayout : Pattern :=
  .alt
    (.sequence [.lineStart, .zeroOrMore isPySpace, .oneOrMore tables.isDecimal,
      .oneOrMore isPySpace, .char fun char => isAsciiLower char || isCapital char])
    (.sequence [.wordBoundary tables.isWord,
      .oneOrMore fun char => isAsciiLower char || isAsciiUpper char, .word ":".toList,
      .oneOrMore isPySpace, .char fun char => !isPySpace char])

/-- A question as the selection reads it. -/
structure PassageQuery where
  query : Words
  topic : String
  synonyms : Words
  reference : Bool

/-- A passage which may be scored. -/
def isEvidence (question : PassageQuery) (passage : Passage) : Bool :=
  let body := tokens tables passage.text
  let sectionTopics := topics tables passage.sectionName
  let required := question.query.without question.synonyms
  !(passage.policy == .instruction || decide (body.length < 3)) &&
    !body.isWithin
      (tokens tables (spaced ["no", "name", "of", "restaurant", "food", "specialty", "price",
        "address"])) &&
    !(passage.policy == .conflicted && !(question.reference || question.query.meets
      (wordSet ["passport", "reisepass", "dinner", "abendessen", "valid", "status", "fact",
        "price"]))) &&
    !(question.topic == "food" && !body.meets
      (tokens tables (spaced ["food", "restaurant", "restaurants", "dishes", "meal", "meals",
        "rice", "noodles", "vendors"]))) &&
    !(decide (body.length < 6) && !(factLayout tables).search passage.text) &&
    !(decide (required ≠ []) && !required.isWithin passage.terms) &&
    !(decide (question.topic ≠ "") && !passage.topics.contains question.topic) &&
    !(decide (question.topic ≠ "") && decide (sectionTopics ≠ []) &&
      !sectionTopics.contains question.topic &&
      !(wordSet ["shopping", "guide introduction"]).contains
        (tables.casefold passage.sectionName) &&
      decide ((body.shared question.synonyms).length < 2)) &&
    !(passage.policy == .sensitive && !question.reference)

def coverageOf (question : PassageQuery) (passage : Passage) : φ :=
  ops.ratio (question.query.shared passage.terms).length question.query.length

def passageScore (snapshot : Snapshot) (question : PassageQuery) (passage : Passage) : φ :=
  let body := tokens tables passage.text
  let sectionTopics := topics tables passage.sectionName
  let rarity := ops.sum ((question.query.shared passage.terms).map fun word =>
    ops.log (ops.add (ops.ofNat 1)
      (ops.ratio snapshot.passages.length (1 + snapshot.documentFrequency word))))
  let score := ops.add rarity
    (ops.ofNat (if question.topic ≠ "" ∧ question.topic ∈ sectionTopics then 4 else 0))
  let score := ops.add score
    (ops.mul (ops.ofNat (body.shared question.synonyms).length) (ops.ofDecimal 3 10))
  let score :=
    if question.topic ∈ ["food", "laundry", "groceries", "accommodation", "transport"] then
      ops.add score (ops.mul
        (ops.ofNat (body.shared
          (wordSet ["outside", "near", "next", "location", "locations", "located"])).length)
        (ops.ofNat 6))
    else score
  if passage.policy = .conflicted ∧ question.query.meets
      (wordSet ["passport", "reisepass", "dinner", "abendessen", "validity", "gültig"]) = true
  then ops.add score (ops.ofNat 20)
  else score

/-- The score of a passage that is evidence. -/
def scored (snapshot : Snapshot) (question : PassageQuery) (passage : Passage) :
    Option (φ × Passage) :=
  if isEvidence tables question passage = false then none
  else if question.topic = "" ∧ ops.lt (coverageOf ops question passage) (ops.ofDecimal 8 10)
  then none
  else
    let score := passageScore tables ops snapshot question passage
    if ops.isZero score ∧ question.topic = "" then none else some (score, passage)

def scoreOrder (first second : φ × Passage) : Bool :=
  ops.lt second.1 first.1 ||
    (ops.eq first.1 second.1 && decide (first.2.startLine ≤ second.2.startLine))

/-- The choice among the scored passages, the best one first. -/
def chooseBest (snapshot : Snapshot) (topic : String) : List (φ × Passage) → PassageSelection
  | [] => {}
  | best :: rest =>
      if best.2.policy = .conflicted then
        { passages := (snapshot.passages.filter fun passage =>
            passage.policy == .conflicted &&
              passage.conflictGroup == best.2.conflictGroup).take 2 }
      else
        match rest with
        | next :: _ =>
            if topic = "" ∧ ops.lt (ops.sub best.1 next.1) (ops.ofDecimal 15 100) = true ∧
                best.2.sectionName ≠ next.2.sectionName then
              { ambiguous := true }
            else { passages := [best.2] }
        | [] => { passages := [best.2] }

def selectPassages (snapshot : Snapshot) (question : List Char) (reference : Bool) :
    PassageSelection :=
  let query := contentTokens tables question
  let identified := topics tables question
  if 1 < identified.length then { ambiguous := true }
  else
    let topic := identified.headD ""
    if query = [] then {}
    else
      let asked : PassageQuery := ⟨query, topic, vocabulary tables topic, reference⟩
      chooseBest ops snapshot topic
        ((snapshot.passages.filterMap (scored tables ops snapshot asked)).mergeSort
          (scoreOrder ops))

end Selection

end BuddyWeb
