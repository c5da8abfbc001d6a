/-
Signed double-submit CSRF tokens: how they are created and verified.
-/
import BuddyWeb.Chat.Cursor
import BuddyWeb.Lib.FlatJson
import BuddyWeb.Lib.CanonicalBase64

namespace BuddyWeb

namespace Csrf

def tokenVersion : String := "v1"

def microsecondsPerSecond : Int := 1000000

def clockSkew : Int := 30 * microsecondsPerSecond

def preauthCsrfTtl : Int := 3600 * microsecondsPerSecond

/-- `REFRESH_TOKEN_TTL`. -/
def sessionCsrfTtl : Int := 7 * 86400 * microsecondsPerSecond

def maxCsrfTokenLength : Nat := 1024

def base64urlCharacters : List Char :=
  "ABCDEFGHIJKLMNOPQRSTUVWXYZabcdefghijklmnopqrstuvwxyz0123456789-_".toList

def payloadKeys : List String := ["binding", "exp", "iat", "nonce", "scope"]

inductive CsrfScope
  | preauth
  | session
  deriving DecidableEq, Repr

def CsrfScope.text : CsrfScope → String
  | .preauth => "preauth"
  | .session => "session"

/-- The one error of a failed validation. -/
inductive CsrfValidationError
  | invalid
  deriving DecidableEq, Repr

structure CsrfToken where
  value : String
  scope : CsrfScope
  issuedAt : Instant
  expiresAt : Instant

structure CsrfTokenClaims where
  scope : CsrfScope
  issuedAt : Instant
  expiresAt : Instant

/-- The instant without its microseconds. -/
def utcNow (now : Instant) : Instant :=
  ⟨now.val - now.val % microsecondsPerSecond, by
    have hlower := now.property.1
    have hupper := now.property.2
    simp only [firstInstant, lastInstant, microsecondsPerSecond] at *
    omega⟩

/-- `int(value.timestamp())`. -/
def timestamp (instant : Instant) : Int :=
  instant.val / microsecondsPerSecond

/-- `datetime.fromtimestamp` in UTC, `none` outside the range of a `datetime`. -/
def fromTimestamp (seconds : Int) : Option Instant :=
  Instant.ofMicroseconds? (seconds * microsecondsPerSecond)

/-- An instant moved by a duration, `none` on an overflow. -/
def shift? (instant : Instant) (duration : Int) : Option Instant :=
  Instant.ofMicroseconds? (instant.val + duration)

def base64urlEncode (bytes : List Byte) : String :=
  String.ofList ((urlsafeB64encode bytes).rdropWhile (· = '='))

/-- Only the text which encoding writes is decoded. -/
def base64urlDecode (value : String) : Option (List Byte) := do
  guard (value ≠ "" ∧ ∀ char ∈ value.toList, char ∈ base64urlCharacters)
  let padded := value.toList ++ List.replicate ((4 - value.length % 4) % 4) '='
  let decoded ← b64decode padded
  guard (base64urlEncode decoded = value)
  return decoded

def tokenTtl : CsrfScope → Int
  | .preauth => preauthCsrfTtl
  | .session => sessionCsrfTtl

/-- `str.encode("ascii")`. -/
def encodeAscii (text : String) : Option (List Byte) :=
  if ∀ char ∈ text.toList, char.toNat < 128 then some (asciiBytes text.toList) else none

/-- What `secrets.token_bytes(32)` draws. -/
abbrev TokenBytes : Type := {bytes : List Byte // bytes.length = 32}

section Keyed

variable (hmac : List Byte → List Byte → List Byte) (signingKey : List Byte)

def bindingMessage (scope : CsrfScope) (binding : List Byte) : List Byte :=
  asciiBytes "vgu-buddy-csrf-binding-v1\x00".toList ++ asciiBytes scope.text.toList ++
    [0] ++ binding

def bindingTag (scope : CsrfScope) (binding : List Byte) : List Byte :=
  hmac signingKey (bindingMessage scope binding)

/-- A payload segment which is no ASCII text has no signature. -/
def tokenSignature (payloadSegment : String) : Option (List Byte) :=
  (encodeAscii payloadSegment).map fun segment =>
    hmac signingKey (asciiBytes "vgu-buddy-csrf-token-v1\x00".toList ++ segment)

/-- The members in the order of their keys. -/
def tokenPayload (scope : CsrfScope) (binding nonce : List Byte) (issuedAt expiresAt : Instant) :
    List (String × JsonScalar) :=
  [("binding", .text (base64urlEncode (bindingTag hmac signingKey scope binding))),
    ("exp", .number (timestamp expiresAt)),
    ("iat", .number (timestamp issuedAt)),
    ("nonce", .text (base64urlEncode nonce)),
    ("scope", .text scope.text)]

/-- A token, `none` where its expiry would overflow. -/
def createCsrfToken (scope : CsrfScope) (binding nonce : List Byte) (now : Instant) :
    Option CsrfToken := do
  let issuedAt := utcNow now
  let expiresAt ← shift? issuedAt (tokenTtl scope)
  let payloadBytes := jsonDumps
    (tokenPayload hmac signingKey scope binding nonce issuedAt expiresAt)
  let payloadSegment := base64urlEncode payloadBytes
  let signature ← tokenSignature hmac signingKey payloadSegment
  let signatureSegment := base64urlEncode signature
  return ⟨tokenVersion ++ "." ++ payloadSegment ++ "." ++ signatureSegment, scope, issuedAt,
    expiresAt⟩

def createPreauthCsrfToken (binding nonce : TokenBytes) (now : Instant) : Option CsrfToken :=
  createCsrfToken hmac signingKey .preauth binding.val nonce.val now

def createSessionCsrfToken (sessionId : Uuid) (nonce : TokenBytes) (now : Instant) :
    Option CsrfToken :=
  createCsrfToken hmac signingKey .session sessionId.bytes nonce.val now

/-- The three segments of a token. -/
def splitToken (token : String) : Option (String × String × String) :=
  match token.toList.splitOn '.' with
  | [version, payloadSegment, signatureSegment] =>
      some (String.ofList version, String.ofList payloadSegment,
        String.ofList signatureSegment)
  | _ => none

/-- Exactly the keys of a payload. -/
def hasPayloadKeys (members : List (String × JsonValue)) : Bool :=
  (members.map Prod.fst).all (· ∈ payloadKeys) &&
    payloadKeys.all (· ∈ members.map Prod.fst)

/-- The lifetime of a token at an instant.  Moving the instant by the skew can overflow. -/
def checkLifetime (scope : CsrfScope) (issuedAt expiresAt : Instant) (now : Instant) :
    Except CsrfValidationError Unit := do
  let currentTime := utcNow now
  ensure (expiresAt.val - issuedAt.val = tokenTtl scope) .invalid
  let latest ← require (shift? currentTime clockSkew) .invalid
  ensure (issuedAt ≤ latest) .invalid
  let earliest ← require (shift? currentTime (-clockSkew)) .invalid
  ensure (earliest < expiresAt) .invalid

/-- The binding of a token to the session of a request, or to none. -/
def checkBinding (scope : CsrfScope) (sessionId : Option Uuid) (suppliedBinding : List Byte) :
    Except CsrfValidationError Unit :=
  match scope, sessionId with
  | .session, some id =>
      ensure (suppliedBinding = bindingTag hmac signingKey .session id.bytes) .invalid
  | .session, none => .error .invalid
  | .preauth, some _ => .error .invalid
  | .preauth, none => .ok ()

def checkPayload (members : List (String × JsonValue)) (expectedScope : CsrfScope)
    (sessionId : Option Uuid) (now : Instant) :
    Except CsrfValidationError CsrfTokenClaims := do
  ensure (hasPayloadKeys members = true) .invalid
  ensure ((members.lookup "scope").bind JsonValue.string? = some expectedScope.text) .invalid
  let issued ← require ((members.lookup "iat").bind JsonValue.int?) .invalid
  let expires ← require ((members.lookup "exp").bind JsonValue.int?) .invalid
  let nonce ← require ((members.lookup "nonce").bind JsonValue.string?) .invalid
  let binding ← require ((members.lookup "binding").bind JsonValue.string?) .invalid
  let issuedAt ← require (fromTimestamp issued) .invalid
  let expiresAt ← require (fromTimestamp expires) .invalid
  checkLifetime expectedScope issuedAt expiresAt now
  let nonceBytes ← require (base64urlDecode nonce) .invalid
  ensure (nonceBytes.length = 32) .invalid
  let suppliedBinding ← require (base64urlDecode binding) .invalid
  ensure (suppliedBinding.length = 32) .invalid
  checkBinding hmac signingKey expectedScope sessionId suppliedBinding
  return ⟨expectedScope, issuedAt, expiresAt⟩

variable (reader : JsonReader)

/-- Signature, scope, lifetime, nonce and session binding. -/
def verifyCsrfToken (token : String) (expectedScope : CsrfScope) (sessionId : Option Uuid)
    (now : Instant) : Except CsrfValidationError CsrfTokenClaims := do
  ensure (token.length ≤ maxCsrfTokenLength) .invalid
  let (version, payloadSegment, signatureSegment) ← require (splitToken token) .invalid
  ensure (version = tokenVersion) .invalid
  let suppliedSignature ← require (base64urlDecode signatureSegment) .invalid
  let expectedSignature ← require (tokenSignature hmac signingKey payloadSegment) .invalid
  ensure (suppliedSignature = expectedSignature) .invalid
  let payloadBytes ← require (base64urlDecode payloadSegment) .invalid
  let members ← require ((reader.loads payloadBytes).bind JsonValue.object?) .invalid
  checkPayload hmac signingKey members expectedScope sessionId now

end Keyed

end Csrf

end BuddyWeb
