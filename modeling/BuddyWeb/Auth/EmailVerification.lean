/-
E-mail verification: canonical addresses, one-use tokens, and what the request, the change
and the confirmation of an address stage in their transactions.
-/
import BuddyWeb.Accounts
import BuddyWeb.Lib.Bytes
import BuddyWeb.Lib.Outcome
import BuddyWeb.Lib.PyText
import BuddyWeb.Lib.Table

namespace BuddyWeb

def maxEmailLength : Nat := 254

def maxEmailLocalPartLength : Nat := 64

def isAsciiAlphanumeric (char : Char) : Bool :=
  ('a' ≤ char && char ≤ 'z') || ('A' ≤ char && char ≤ 'Z') || ('0' ≤ char && char ≤ '9')

def isEmailLocalCharacter (char : Char) : Bool :=
  isAsciiAlphanumeric char || "!#$%&'*+/=?^_`\x7b|\x7d~.-".toList.contains char

/-- A label of letters, digits and inner dashes. -/
def isEmailDomainLabel (label : List Char) : Bool :=
  decide (1 ≤ label.length) && decide (label.length ≤ 63) &&
    label.all (fun char => isAsciiAlphanumeric char || char == '-') &&
      label.head?.all isAsciiAlphanumeric && label.getLast?.all isAsciiAlphanumeric

def asciiLower (char : Char) : Char :=
  if 'A' ≤ char ∧ char ≤ 'Z' then Char.ofNat (char.toNat + 32) else char

/-- Two dots in a row. -/
def hasDoubleDot : List Char → Bool
  | '.' :: '.' :: _ => true
  | _ :: rest => hasDoubleDot rest
  | [] => false

/-- The trimmed, validated and case-folded address. -/
def canonicalizeEmail (email : String) : Option String :=
  let candidate := (pyStrip email).toList
  let localPart := candidate.takeWhile (· ≠ '@')
  let domain := (candidate.dropWhile (· ≠ '@')).drop 1
  let labels := domain.splitOn '.'
  if candidate.all (·.toNat < 128) && decide (candidate.length ≤ maxEmailLength) &&
      decide (candidate.count '@' = 1) && decide (localPart ≠ []) &&
      decide (localPart.length ≤ maxEmailLocalPartLength) &&
      decide (localPart.head? ≠ some '.') && decide (localPart.getLast? ≠ some '.') &&
      !hasDoubleDot localPart && localPart.all isEmailLocalCharacter &&
      decide (2 ≤ labels.length) && labels.all isEmailDomainLabel then
    some (String.ofList (candidate.map asciiLower))
  else none

example : canonicalizeEmail " Student@VGU.edu.vn\n" = some "student@vgu.edu.vn" := by decide

/-- An account with the columns of its address. -/
structure EmailAccount where
  id : Nat
  email : String
  passwordHash : String
  role : UserRole
  isActive : Bool
  deletedAt : Option Int
  emailVerified : Bool
  emailVerifiedAt : Option Int
  deriving DecidableEq, Repr

instance : Keyed EmailAccount := ⟨EmailAccount.id⟩

namespace EmailAccount

/-- The authoritative state of a student; administrators keep the older flag. -/
def isCurrentEmailVerified (user : EmailAccount) : Bool :=
  match user.role with
  | .admin => user.emailVerified
  | .user => user.emailVerifiedAt.isSome

def isEnabled (user : EmailAccount) : Bool :=
  user.isActive && user.deletedAt.isNone

/-- An enabled account with the role of a student. -/
def isStudent (user : EmailAccount) : Bool :=
  user.role == .user && user.isEnabled

end EmailAccount

structure EmailVerificationToken where
  id : Nat
  userId : Nat
  tokenDigest : List Byte
  emailSnapshot : String
  expiresAt : Int
  consumedAt : Option Int
  supersededAt : Option Int
  deletedAt : Option Int
  createdAt : Int
  deriving DecidableEq, Repr

instance : Keyed EmailVerificationToken := ⟨EmailVerificationToken.id⟩

/-- Neither consumed, nor superseded, nor deleted. -/
def EmailVerificationToken.isLive (token : EmailVerificationToken) : Bool :=
  token.consumedAt.isNone && token.supersededAt.isNone && token.deletedAt.isNone

/-- The outbox event of a verification e-mail. -/
structure VerificationEmail where
  aggregateId : Nat
  recipientUserId : Nat
  recipientEmail : String
  createdAt : Int
  deriving DecidableEq, Repr

/-- The hash of the tokens and the check of a password against its hash. -/
structure VerificationEnvironment where
  digest : List Byte → List Byte
  verifyPassword : String → String → Bool

def emailVerificationTokenBytes : Nat := 32

/-- Fifteen minutes in microseconds. -/
def emailVerificationTokenTtl : Int := 900000000

def encodedTokenLength : Nat := 43

def isBase64UrlCharacter (char : Char) : Bool :=
  isAsciiAlphanumeric char || char == '-' || char == '_'

/-- Base64 without its padding. -/
def base64UrlText (bytes : List Byte) : String :=
  String.ofList ((urlsafeB64encode bytes).rdropWhile (· = '='))

/-- The bytes of a canonical token. -/
def decodeVerificationToken (token : String) : Option (List Byte) :=
  if token.length ≠ encodedTokenLength ∨ ¬ token.toList.all isBase64UrlCharacter then none
  else (b64decode (token.toList ++ ['='])).filter fun decoded =>
    decide (decoded.length = emailVerificationTokenBytes) && base64UrlText decoded == token

def digestEmailVerificationToken (env : VerificationEnvironment) (token : String) :
    Option (List Byte) :=
  (decodeVerificationToken token).map env.digest

/-- Why a request on an address is refused. -/
inductive EmailVerificationError
  | invalidToken
  | requestRefused
  | changeUnauthorized
  | changePassword
  | changeConflict
  deriving DecidableEq, Repr

/-- What a transaction stages: a new version of its account and of one token, a new token,
and an e-mail. -/
structure VerificationWrites where
  account : Option EmailAccount := none
  changed : Option EmailVerificationToken := none
  created : Option EmailVerificationToken := none
  email : Option VerificationEmail := none
  deriving DecidableEq, Repr

/-- A selected account row, as the session holds it: an account which the session has loaded
keeps the attributes of that load. -/
def sessionAccount (cached : EmailAccount) (row : Option EmailAccount) : Option EmailAccount :=
  row.map fun row => if row.id = cached.id then cached else row

def lockCurrentUser (user : Option EmailAccount) : Except EmailVerificationError EmailAccount := do
  let user ← require user .invalidToken
  ensure (user.isEnabled = true) .invalidToken
  return user

/-- The token of an account which may still be consumed or superseded. -/
def liveToken (tokens : Table EmailVerificationToken) (userId : Nat) :
    Option EmailVerificationToken :=
  tokens.select? fun token => token.userId = userId && token.isLive

/-- The random values and the clock of a transaction. -/
structure VerificationDraw where
  tokenId : Nat
  entropy : List Byte
  now : Int
  deriving DecidableEq, Repr

/-- The newest token of an account, and the token which it supersedes. -/
def issueEmailVerificationToken (env : VerificationEnvironment) (user : Option EmailAccount)
    (tokens : Table EmailVerificationToken) (draw : VerificationDraw) :
    Except EmailVerificationError (Option EmailVerificationToken × EmailVerificationToken) := do
  let user ← lockCurrentUser user
  let superseded := (liveToken tokens user.id).map fun token =>
    { token with supersededAt := some draw.now }
  return (superseded, {
    id := draw.tokenId
    userId := user.id
    tokenDigest := env.digest draw.entropy
    emailSnapshot := user.email
    expiresAt := draw.now + emailVerificationTokenTtl
    consumedAt := none
    supersededAt := none
    deletedAt := none
    createdAt := draw.now })

/-- The request of a verification e-mail for the account as the session holds it. -/
def requestEmailVerification (env : VerificationEnvironment) (user : Option EmailAccount)
    (tokens : Table EmailVerificationToken) (draw : VerificationDraw) :
    Except EmailVerificationError VerificationWrites := do
  let account ← require user .requestRefused
  ensure (account.isStudent = true) .requestRefused
  if account.isCurrentEmailVerified then return {}
  let issued ← issueEmailVerificationToken env (some account) tokens draw
  return {
    changed := issued.1
    created := some issued.2
    email := some {
      aggregateId := issued.2.id
      recipientUserId := account.id
      recipientEmail := account.email
      createdAt := draw.now } }

/-- The change of an address, on the account row which is read again under its lock. -/
def changeCurrentUserEmail (env : VerificationEnvironment) (row : Option EmailAccount)
    (tokens : Table EmailVerificationToken) (newEmail currentPassword : String)
    (draw : VerificationDraw) : Except EmailVerificationError VerificationWrites := do
  let canonicalEmail ← require (canonicalizeEmail newEmail) .changeConflict
  let user ← require row .changeUnauthorized
  ensure (user.isStudent = true) .changeUnauthorized
  ensure (env.verifyPassword currentPassword user.passwordHash = true) .changePassword
  ensure (user.email ≠ canonicalEmail) .changeConflict
  let changed := { user with email := canonicalEmail, emailVerifiedAt := none }
  let requested ← requestEmailVerification env (some changed) tokens draw
  return { requested with account := some changed }

/-- The unlocked lookup of the owner of a token. -/
def findEmailVerificationToken (env : VerificationEnvironment)
    (tokens : Table EmailVerificationToken) (token : String) :
    Except EmailVerificationError EmailVerificationToken := do
  let digest ← require (digestEmailVerificationToken env token) .invalidToken
  require (tokens.select? fun stored => stored.tokenDigest = digest) .invalidToken

/-- The consumption of a token, from its owner as the session holds it and from the token row
which is read again under its lock. -/
def consumeEmailVerificationToken (digest : List Byte) (user : Option EmailAccount)
    (stored : Option EmailVerificationToken) (now : Int) :
    Except EmailVerificationError EmailVerificationToken := do
  let user ← lockCurrentUser user
  let stored ← require stored .invalidToken
  ensure (stored.tokenDigest = digest ∧ stored.userId = user.id ∧ stored.isLive = true ∧
    now < stored.expiresAt ∧ stored.emailSnapshot = user.email) .invalidToken
  return { stored with consumedAt := some now }

/-- The stamp of the expected account, whose row is read again. -/
def confirmEmailVerificationToken (consumed : EmailVerificationToken) (expectedUserId : Nat)
    (row : Option EmailAccount) (now : Int) :
    Except EmailVerificationError VerificationWrites := do
  ensure (consumed.userId = expectedUserId) .invalidToken
  let user ← require row .invalidToken
  ensure (user.isStudent = true ∧ user.email = consumed.emailSnapshot ∧
    user.emailVerifiedAt = none) .invalidToken
  return {
    account := some { user with emailVerifiedAt := some now }
    changed := some consumed }

end BuddyWeb
