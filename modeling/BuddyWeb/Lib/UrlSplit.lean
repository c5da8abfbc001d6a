/-
URLs as the source language's library takes them apart: the components of a URL, the
errors it raises over its host, and the fields of a query.
-/
import BuddyWeb.Lib.Outcome
import BuddyWeb.Lib.Bytes

namespace BuddyWeb

/-- The text before the first separator, and the text after it where there is one. -/
def partitionAt (separator : Char) : List Char → List Char × Option (List Char)
  | [] => ([], none)
  | char :: rest =>
      if char = separator then ([], some rest)
      else
        let parts := partitionAt separator rest
        (char :: parts.1, parts.2)

theorem partitionAt_fst_subset (separator : Char) (text : List Char) :
    (partitionAt separator text).1 ⊆ text := by
  induction text with
  | nil => exact List.Subset.refl []
  | cons char rest ih =>
      by_cases hchar : char = separator
      · simp [partitionAt, hchar]
      · simp only [partitionAt, hchar, ↓reduceIte]
        exact List.cons_subset_cons char ih

theorem partitionAt_snd_subset {separator : Char} {text after : List Char}
    (h : (partitionAt separator text).2 = some after) : after ⊆ text := by
  induction text with
  | nil => simp [partitionAt] at h
  | cons char rest ih =>
      by_cases hchar : char = separator
      · simp only [partitionAt, hchar, ↓reduceIte, Option.some.injEq] at h
        rw [← h]
        exact List.subset_cons_self char rest
      · simp only [partitionAt, hchar, ↓reduceIte] at h
        exact List.subset_cons_of_subset char (ih h)

theorem partitionAt_snd_of_not_mem {separator : Char} {text : List Char}
    (h : separator ∉ text) : (partitionAt separator text).2 = none := by
  induction text with
  | nil => rfl
  | cons char rest ih =>
      rw [List.mem_cons, not_or] at h
      simp only [partitionAt, Ne.symm h.1, ↓reduceIte]
      exact ih h.2

section Addresses

def isHexChar (char : Char) : Bool :=
  char.isDigit || ('a' ≤ char && char ≤ 'f') || ('A' ≤ char && char ≤ 'F')

/-- A decimal octet without leading zeros. -/
def parseOctet (octet : List Char) : Option Nat :=
  if octet ≠ [] ∧ octet.all Char.isDigit ∧ octet.length ≤ 3 ∧
      (octet = ['0'] ∨ octet.head? ≠ some '0') ∧ Nat.ofDigitChars 10 octet 0 ≤ 255 then
    some (Nat.ofDigitChars 10 octet 0)
  else none

/-- The number of an IPv4 address. -/
def parseIPv4 (address : List Char) : Option Nat :=
  match (address.splitOn '.').mapM parseOctet with
  | some [a, b, c, d] => some (((a * 256 + b) * 256 + c) * 256 + d)
  | _ => none

def isHextet (part : List Char) : Bool :=
  part != [] && part.length ≤ 4 && part.all isHexChar

/-- An IPv4 suffix counts as two hextets. -/
def withoutIPv4Suffix (parts : List (List Char)) : Option (List (List Char)) :=
  let last := parts.getLastD []
  if '.' ∈ last then
    (parseIPv4 last).map fun value =>
      parts.dropLast ++ [Nat.toDigits 16 (value / 65536), Nat.toDigits 16 (value % 65536)]
  else some parts

/-- The parts between colons make an IPv6 address; one run of zeros may be left out. -/
def areIPv6Parts (parts : List (List Char)) : Bool :=
  let inner := parts.tail.dropLast
  if 9 < parts.length || 1 < inner.count [] then false
  else if [] ∈ inner then
    let skipIndex := inner.idxOf [] + 1
    let leads := parts.headD [] = []
    let trails := parts.getLastD [] = []
    let high := if leads then skipIndex - 1 else skipIndex
    let low := parts.length - skipIndex - 1 - if trails then 1 else 0
    !(leads && high != 0) && !(trails && low != 0) && high + low < 8 &&
      (parts.take high).all isHextet && (parts.drop (parts.length - low)).all isHextet
  else parts.length == 8 && parts.all isHextet

def isIPv6Address (address : List Char) : Bool :=
  let parts := address.splitOn ':'
  3 ≤ parts.length &&
    match withoutIPv4Suffix parts with
    | some parts => areIPv6Parts parts
    | none => false

/-- An address with an optional scope after a percent sign. -/
def isScopedIPv6Address (host : List Char) : Bool :=
  let (address, scope) := partitionAt '%' host
  !host.contains '/' && isIPv6Address address &&
    match scope with
    | some scope => scope != [] && !scope.contains '%'
    | none => true

def isIPvFuture : List Char → Bool
  | 'v' :: rest =>
      rest.takeWhile isHexChar != [] &&
        match rest.dropWhile isHexChar with
        | '.' :: tail => tail != [] && !tail.contains '\n'
        | _ => false
  | _ => false

end Addresses

section Splitting

/-- What the library says is wrong with a URL; each is a `ValueError`. -/
inductive UrlError
  | invalidIPv6Url
  | invalidIPvFuture
  | invalidAddress
  | ipv4InBrackets
  | invalidUnderNormalization
deriving DecidableEq, Repr

structure SplitResult where
  scheme : List Char
  netloc : List Char
  path : List Char
  query : List Char
  fragment : List Char
deriving DecidableEq, Repr

def isC0ControlOrSpace (char : Char) : Bool :=
  char.toNat ≤ 32

def isUnsafeUrlChar (char : Char) : Bool :=
  char == '\t' || char == '\r' || char == '\n'

def isSchemeChar (char : Char) : Bool :=
  char.isAlphanum || char == '+' || char == '-' || char == '.'

def splitScheme (url : List Char) : List Char × List Char :=
  match partitionAt ':' url with
  | (first :: before, some rest) =>
      if first.isAlpha && (first :: before).all isSchemeChar then
        ((first :: before).map Char.toLower, rest)
      else ([], url)
  | _ => ([], url)

def endsNetloc (char : Char) : Bool :=
  char == '/' || char == '?' || char == '#'

def splitNetloc : List Char → List Char × List Char
  | '/' :: '/' :: rest =>
      (rest.takeWhile fun char => !endsNetloc char, rest.dropWhile fun char => !endsNetloc char)
  | url => ([], url)

def checkBracketedHost (hostname : List Char) : Except UrlError Unit :=
  if hostname.head? = some 'v' then
    if isIPvFuture hostname then .ok () else .error .invalidIPvFuture
  else if (parseIPv4 hostname).isSome then .error .ipv4InBrackets
  else if isScopedIPv6Address hostname then .ok ()
  else .error .invalidAddress

def checkBracketedNetloc (netloc : List Char) : Except UrlError Unit :=
  let hostnameAndPort := (netloc.reverse.takeWhile (· ≠ '@')).reverse
  match partitionAt '[' hostnameAndPort with
  | (beforeBracket, some bracketed) => do
      ensure (beforeBracket = []) .invalidIPv6Url
      let (hostname, port) := partitionAt ']' bracketed
      ensure (port.getD [] = [] ∨ (port.getD []).head? = some ':') .invalidIPv6Url
      checkBracketedHost hostname
  | (_, none) => checkBracketedHost (partitionAt ':' hostnameAndPort).1

def checkBrackets (netloc : List Char) : Except UrlError Unit :=
  if '[' ∈ netloc then
    if ']' ∈ netloc then checkBracketedNetloc netloc else .error .invalidIPv6Url
  else if ']' ∈ netloc then .error .invalidIPv6Url
  else .ok ()

/-- Normalization must not bring a separator into the host. -/
def checkNetloc (nfkc : List Char → List Char) (netloc : List Char) :
    Except UrlError Unit :=
  let kept := netloc.filter fun char =>
    !(char == '@' || char == ':' || char == '#' || char == '?')
  if netloc.all (fun char => char.toNat < 128) || nfkc kept == kept then .ok ()
  else ensure (∀ char ∈ ['/', '?', '#', '@', ':'], char ∉ nfkc kept)
    .invalidUnderNormalization

def splitFirst (separator : Char) (text : List Char) : List Char × List Char :=
  let parts := partitionAt separator text
  (parts.1, parts.2.getD [])

def urlsplit (nfkc : List Char → List Char) (url : List Char) :
    Except UrlError SplitResult := do
  let url := (url.dropWhile isC0ControlOrSpace).filter fun char => !isUnsafeUrlChar char
  let (scheme, url) := splitScheme url
  let (netloc, url) := splitNetloc url
  checkBrackets netloc
  let (url, fragment) := splitFirst '#' url
  let (path, query) := splitFirst '?' url
  checkNetloc nfkc netloc
  pure ⟨scheme, netloc, path, query, fragment⟩

theorem splitScheme_snd_subset (url : List Char) : (splitScheme url).2 ⊆ url := by
  unfold splitScheme
  split
  case h_1 first before rest hparts =>
    have hrest : rest ⊆ url := partitionAt_snd_subset (congrArg Prod.snd hparts)
    split
    · exact hrest
    · exact List.Subset.refl url
  case h_2 => exact List.Subset.refl url

theorem splitNetloc_of_not_mem {url : List Char} (h : '/' ∉ url) :
    splitNetloc url = ([], url) := by
  unfold splitNetloc
  split
  · exact absurd List.mem_cons_self h
  · rfl

theorem splitFirst_fst_subset (separator : Char) (text : List Char) :
    (splitFirst separator text).1 ⊆ text :=
  partitionAt_fst_subset separator text

theorem splitFirst_snd_of_not_mem {separator : Char} {text : List Char}
    (h : separator ∉ text) : (splitFirst separator text).2 = [] := by
  rw [splitFirst, partitionAt_snd_of_not_mem h, Option.getD_none]

/-- A text without a slash and a question mark has neither a host nor a query. -/
theorem urlsplit_of_plain (nfkc : List Char → List Char) {url : List Char}
    (hslash : '/' ∉ url) (hquestion : '?' ∉ url) :
    ∃ result, urlsplit nfkc url = .ok result ∧ result.query = [] := by
  have hstripped : ((url.dropWhile isC0ControlOrSpace).filter
      fun char => !isUnsafeUrlChar char) ⊆ url :=
    fun _ hchar => (List.dropWhile_suffix _).subset (List.mem_of_mem_filter hchar)
  have hrest := List.Subset.trans (splitScheme_snd_subset _) hstripped
  have hnetloc := splitNetloc_of_not_mem fun hmem => hslash (hrest hmem)
  have hpath := List.Subset.trans (splitFirst_fst_subset '#' _) hrest
  have hquery := splitFirst_snd_of_not_mem fun hmem => hquestion (hpath hmem)
  simp only [urlsplit, hnetloc, checkBrackets, List.not_mem_nil, ↓reduceIte, checkNetloc,
    List.all_nil, Bool.true_or]
  exact ⟨_, rfl, hquery⟩

end Splitting

section Query

/-- A character which more bytes are to complete: the bits so far, how many bytes are
missing, and the bounds of the next one. -/
structure PendingChar where
  bits : Nat
  missing : Nat
  least : Nat
  greatest : Nat

inductive FirstByte
  | char (char : Char)
  | pending (pending : PendingChar)
  | invalid

def firstByte (byte : Nat) : FirstByte :=
  if byte < 0x80 then .char (Char.ofNat byte)
  else if byte < 0xC2 then .invalid
  else if byte < 0xE0 then .pending ⟨byte % 32, 1, 0x80, 0xBF⟩
  else if byte = 0xE0 then .pending ⟨0, 2, 0xA0, 0xBF⟩
  else if byte = 0xED then .pending ⟨13, 2, 0x80, 0x9F⟩
  else if byte < 0xF0 then .pending ⟨byte % 16, 2, 0x80, 0xBF⟩
  else if byte = 0xF0 then .pending ⟨0, 3, 0x90, 0xBF⟩
  else if byte < 0xF4 then .pending ⟨byte % 8, 3, 0x80, 0xBF⟩
  else if byte = 0xF4 then .pending ⟨4, 3, 0x80, 0x8F⟩
  else .invalid

def replacementChar : Char := Char.ofNat 0xFFFD

/-- `bytes.decode` of UTF-8, an ill-formed sequence replaced. -/
def decodeUtf8Replacing : Option PendingChar → List Byte → List Char
  | none, [] => []
  | some _, [] => [replacementChar]
  | none, byte :: rest =>
      match firstByte byte with
      | .char char => char :: decodeUtf8Replacing none rest
      | .pending pending => decodeUtf8Replacing (some pending) rest
      | .invalid => replacementChar :: decodeUtf8Replacing none rest
  | some pending, byte :: rest =>
      if pending.least ≤ byte ∧ byte ≤ pending.greatest then
        let bits := pending.bits * 64 + byte % 64
        if pending.missing = 1 then Char.ofNat bits :: decodeUtf8Replacing none rest
        else decodeUtf8Replacing (some ⟨bits, pending.missing - 1, 0x80, 0xBF⟩) rest
      else
        -- the byte which ends an ill-formed sequence may begin the next character
        replacementChar ::
          match firstByte byte with
          | .char char => char :: decodeUtf8Replacing none rest
          | .pending pending => decodeUtf8Replacing (some pending) rest
          | .invalid => replacementChar :: decodeUtf8Replacing none rest

def hexDigitValue (char : Char) : Option Nat :=
  if isHexChar char then
    some (if char.isDigit then char.toNat - 48 else char.toLower.toNat - 87)
  else none

/-- The bytes of an ASCII text with its percent escapes replaced. -/
def unquoteToBytes : List Char → List Byte
  | '%' :: high :: low :: rest =>
      match hexDigitValue high, hexDigitValue low with
      | some highValue, some lowValue =>
          Fin.ofNat 256 (highValue * 16 + lowValue) :: unquoteToBytes rest
      | _, _ => Fin.ofNat 256 '%'.toNat :: unquoteToBytes (high :: low :: rest)
  | char :: rest => Fin.ofNat 256 char.toNat :: unquoteToBytes rest
  | [] => []

def isAsciiChar (char : Char) : Bool :=
  char.toNat < 128

/-- Only the ASCII runs of a text are decoded. -/
def unquote (text : List Char) : List Char :=
  if '%' ∉ text then text
  else
    (text.splitBy fun first second => isAsciiChar first == isAsciiChar second).flatMap
      fun run =>
        if run.all isAsciiChar then decodeUtf8Replacing none (unquoteToBytes run) else run

def unquotePlus (text : List Char) : List Char :=
  unquote (text.map fun char => if char = '+' then ' ' else char)

/-- `parse_qsl` which keeps blank values: the decoded names and values of the fields. -/
def parseQsl (query : List Char) : List (List Char × List Char) :=
  ((query.splitOn '&').filter (· ≠ [])).map fun field =>
    let parts := splitFirst '=' field
    (unquotePlus parts.1, unquotePlus parts.2)

end Query

end BuddyWeb
