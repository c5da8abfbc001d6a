/-
Patterns over texts as a backtracking matcher reads them: a pattern and a place in a text give
the places where a match can end, in the order in which the matcher tries them.
-/
import Mathlib.Data.List.Basic

namespace BuddyWeb

/-- A place in a text: what stands before it, read backwards, what stands after it, and the
groups which were captured on the way. -/
structure Cursor where
  before : List Char
  after : List Char
  groups : List (List Char)
  deriving DecidableEq, Repr

def Cursor.advance (cursor : Cursor) (count : Nat) : Cursor :=
  ⟨(cursor.after.take count).reverse ++ cursor.before, cursor.after.drop count, cursor.groups⟩

/-- Repetitions are of single characters, and assertions look at both sides of the place. -/
inductive Pattern
  | empty
  | char (accepts : Char → Bool)
  | many (accepts : Char → Bool) (least : Nat) (most : Option Nat) (lazy : Bool)
  | seq (first second : Pattern)
  | alt (first second : Pattern)
  | group (inner : Pattern)
  | check (holds : List Char → List Char → Bool)

namespace Pattern

/-- How many characters a repetition may take, the preferred number first. -/
def counts (accepts : Char → Bool) (least : Nat) (most : Option Nat) (lazy : Bool)
    (text : List Char) : List Nat :=
  let longest := (text.takeWhile accepts).length
  let longest := match most with
    | some bound => min bound longest
    | none => longest
  let ascending := List.range' least (longest + 1 - least)
  if lazy then ascending else ascending.reverse

/-- The places where a match that starts here can end. -/
def ends : Pattern → Cursor → List Cursor
  | empty, cursor => [cursor]
  | char accepts, cursor =>
      match cursor.after with
      | [] => []
      | head :: _ => if accepts head then [cursor.advance 1] else []
  | many accepts least most lazy, cursor =>
      (counts accepts least most lazy cursor.after).map cursor.advance
  | seq first second, cursor => (first.ends cursor).flatMap second.ends
  | alt first second, cursor => first.ends cursor ++ second.ends cursor
  | group inner, cursor =>
      (inner.ends cursor).map fun stop =>
        { stop with
          groups := stop.groups ++
            [cursor.after.take (cursor.after.length - stop.after.length)] }
  | check holds, cursor => if holds cursor.before cursor.after then [cursor] else []

/-- `match` at one place. -/
def matchesAt (pattern : Pattern) (before after : List Char) : Bool :=
  !(pattern.ends ⟨before, after, []⟩).isEmpty

def searchFrom (pattern : Pattern) : List Char → List Char → Bool
  | before, [] => pattern.matchesAt before []
  | before, head :: tail =>
      pattern.matchesAt before (head :: tail) || searchFrom pattern (head :: before) tail

/-- `search`: a match starts somewhere. -/
def search (pattern : Pattern) (text : List Char) : Bool :=
  pattern.searchFrom [] text

end Pattern

/-- A text cut at the matches of a pattern. -/
inductive Piece
  | char (value : Char)
  | hit (text : List Char) (groups : List (List Char))
  deriving DecidableEq, Repr

def Piece.text : Piece → List Char
  | .char value => [value]
  | .hit text _ => text

namespace Pattern

/-- The matches from left to right which do not overlap; `skip` characters of the last match
are still to come.  Matches of the empty text are not reported. -/
def scanFrom (pattern : Pattern) : List Char → List Char → Nat → List Piece
  | _, [], _ => []
  | before, head :: tail, skip + 1 => scanFrom pattern (head :: before) tail skip
  | before, head :: tail, 0 =>
      let stop := (pattern.ends ⟨before, head :: tail, []⟩).find? fun stop =>
        decide (stop.after.length < tail.length + 1)
      match stop with
      | some stop =>
          .hit ((head :: tail).take (tail.length + 1 - stop.after.length)) stop.groups ::
            scanFrom pattern (head :: before) tail (tail.length - stop.after.length)
      | none => .char head :: scanFrom pattern (head :: before) tail 0

def scan (pattern : Pattern) (text : List Char) : List Piece :=
  pattern.scanFrom [] text 0

/-- `findall` of a pattern without groups. -/
def findTexts (pattern : Pattern) (text : List Char) : List (List Char) :=
  (pattern.scan text).filterMap fun
    | .hit found _ => some found
    | .char _ => none

/-- `findall` of a pattern with groups. -/
def findGroups (pattern : Pattern) (text : List Char) : List (List (List Char)) :=
  (pattern.scan text).filterMap fun
    | .hit _ groups => some groups
    | .char _ => none

/-- `sub` with a function of the groups. -/
def substitute (pattern : Pattern) (replacement : List (List Char) → List Char)
    (text : List Char) : List Char :=
  (pattern.scan text).flatMap fun
    | .char value => [value]
    | .hit _ groups => replacement groups

/-- The positions where the matches end, from a given position on. -/
def hitEnds : Nat → List Piece → List Nat
  | _, [] => []
  | position, .char _ :: rest => hitEnds (position + 1) rest
  | position, .hit text _ :: rest =>
      (position + text.length) :: hitEnds (position + text.length) rest

/-- `m.end()` of the matches `finditer` finds. -/
def matchEnds (pattern : Pattern) (text : List Char) : List Nat :=
  hitEnds 0 (pattern.scan text)

/-- `split` of a pattern without groups. -/
def splitPieces : List Char → List Piece → List (List Char)
  | current, [] => [current]
  | current, .char value :: rest => splitPieces (current ++ [value]) rest
  | current, .hit _ _ :: rest => current :: splitPieces [] rest

def split (pattern : Pattern) (text : List Char) : List (List Char) :=
  splitPieces [] (pattern.scan text)

section Syntax

/-- One or more repetitions, as many as possible. -/
def oneOrMore (accepts : Char → Bool) : Pattern := many accepts 1 none false

def zeroOrMore (accepts : Char → Bool) : Pattern := many accepts 0 none false

def word : List Char → Pattern
  | [] => empty
  | head :: tail => seq (char (· == head)) (word tail)

/-- A letter under the flag that ignores case; four letters outside ASCII stand for one in it. -/
def foldCase (char : Char) : Char :=
  if char.toNat = 0x130 ∨ char.toNat = 0x131 then 'i'
  else if char.toNat = 0x17F then 's'
  else if char.toNat = 0x212A then 'k'
  else char.toLower

/-- A lower-case word in either case. -/
def wordIgnoringCase : List Char → Pattern
  | [] => empty
  | head :: tail => seq (char (foldCase · == head)) (wordIgnoringCase tail)

def sequence : List Pattern → Pattern
  | [] => empty
  | head :: tail => seq head (sequence tail)

def choice : List Pattern → Pattern
  | [] => check fun _ _ => false
  | [last] => last
  | head :: tail => alt head (choice tail)

/-- An optional part, preferred when it matches. -/
def optional (inner : Pattern) : Pattern := alt inner empty

/-- `$` and `^` with the flag for lines. -/
def lineStart : Pattern :=
  check fun before _ => before.head?.all (· == '\n')

def lineEnd : Pattern :=
  check fun _ after => after.head?.all (· == '\n')

def textStart : Pattern :=
  check fun before _ => before.isEmpty

/-- `\b`: one side is a word character and the other is not. -/
def wordBoundary (isWord : Char → Bool) : Pattern :=
  check fun before after => before.head?.any isWord != after.head?.any isWord

/-- `.` -/
def dot (char : Char) : Bool := char != '\n'

end Syntax

section Scanning

variable {pattern : Pattern}

/-- A cut text is the text. -/
theorem scanFrom_text (before text : List Char) (skip : Nat) :
    (pattern.scanFrom before text skip).flatMap Piece.text = text.drop skip := by
  induction text generalizing before skip with
  | nil => rw [scanFrom, List.flatMap_nil, List.drop_nil]
  | cons head tail ih =>
    cases skip with
    | succ skip => rw [scanFrom, ih, List.drop_succ_cons]
    | zero =>
      rw [scanFrom]
      split
      · rename_i stop hstop
        have hless : stop.after.length < tail.length + 1 :=
          of_decide_eq_true (@List.find?_some _ _ stop _ hstop)
        have hwidth : tail.length + 1 - stop.after.length =
            (tail.length - stop.after.length) + 1 := by omega
        rw [List.flatMap_cons, ih, Piece.text, hwidth, List.take_succ_cons, List.cons_append,
          List.take_append_drop, List.drop_zero]
      · rw [List.flatMap_cons, ih, Piece.text, List.drop_zero, List.drop_zero]
        rfl

theorem scan_text (text : List Char) : (pattern.scan text).flatMap Piece.text = text :=
  scanFrom_text [] text 0

theorem hitEnds_bounds (pieces : List Piece) (position : Nat) :
    ∀ stop ∈ hitEnds position pieces,
      position ≤ stop ∧ stop ≤ position + (pieces.flatMap Piece.text).length := by
  induction pieces generalizing position with
  | nil => simp [hitEnds]
  | cons piece rest ih =>
    rw [List.flatMap_cons, List.length_append]
    cases piece with
    | char value =>
      intro stop hstop
      have hrest := ih (position + 1) stop hstop
      simp only [Piece.text, List.length_singleton]
      omega
    | hit text groups =>
      intro stop hstop
      simp only [hitEnds, List.mem_cons] at hstop
      simp only [Piece.text]
      rcases hstop with rfl | hrest
      · omega
      · have hrest := ih (position + text.length) stop hrest
        omega

theorem hitEnds_pairwise (pieces : List Piece) (position : Nat) :
    (hitEnds position pieces).Pairwise (· ≤ ·) := by
  induction pieces generalizing position with
  | nil => exact List.Pairwise.nil
  | cons piece rest ih =>
    cases piece with
    | char value => exact ih (position + 1)
    | hit text groups =>
      refine List.Pairwise.cons ?_ (ih _)
      intro stop hstop
      exact (hitEnds_bounds rest _ stop hstop).1

/-- The ends of the matches come in order and lie in the text. -/
theorem matchEnds_le (text : List Char) : ∀ stop ∈ pattern.matchEnds text,
    stop ≤ text.length := by
  intro stop hstop
  have hbound := (hitEnds_bounds (pattern.scan text) 0 stop hstop).2
  rwa [scan_text, Nat.zero_add] at hbound

theorem matchEnds_pairwise (text : List Char) :
    (pattern.matchEnds text).Pairwise (· ≤ ·) :=
  hitEnds_pairwise _ 0

end Scanning

end Pattern

end BuddyWeb
