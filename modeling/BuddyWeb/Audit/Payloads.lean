/-
The payloads of admin audit records: which keys and texts stay out of a record, and how a
nested payload is sanitized.
-/
import Mathlib.Data.List.Infix
import BuddyWeb.Lib.UrlSplit

namespace BuddyWeb

/-- What the Unicode tables of the source language say. -/
structure TextTables where
  nfkc : List Char → List Char
  casefold : List Char → List Char
  isAlnum : Char → Bool

section Classification

def redactedAuditValue : String := "[REDACTED]"

def maxPayloadDepth : Nat := 12

def sensitiveKeyParts : List String :=
  ["password", "passphrase", "secret", "token", "credential", "authorization", "cookie",
    "csrf", "privatekey", "apikey", "signedurl", "signature", "databaseurl", "redisuri",
    "connectionstring"]

def profileContentKeys : List String :=
  ["profile", "profiledata", "email", "fullname", "displayname", "bio", "nationality",
    "contact", "phone", "address", "birthdate", "major", "studyyear", "interests", "hobbies",
    "languages", "availability", "schedule", "preferences", "avatar", "avatarurl", "photo",
    "photourl"]

def profileOperationalKeys : List String :=
  ["completionstatus", "deletedat", "emailverified", "isactive", "matchingeligible", "role",
    "status"]

def signedUrlQueryKeys : List String :=
  ["credential", "jwt", "key", "sig", "signature", "token", "xamzcredential",
    "xamzsignature", "xgoogcredential", "xgoogsignature", "xgoogsignedheaders"]

variable (tables : TextTables)

def normalizedKey (value : List Char) : List Char :=
  (tables.casefold value).filter tables.isAlnum

def isSensitiveKey (key : List Char) : Bool :=
  sensitiveKeyParts.any fun part => decide (part.toList <:+: normalizedKey tables key)

def isProfileContentKey (key : List Char) : Bool :=
  profileContentKeys.any (·.toList == normalizedKey tables key) ||
    profileContentKeys.any fun profileKey =>
      decide (profileKey.toList <:+ normalizedKey tables key)

def isOperationalKey (key : List Char) : Bool :=
  profileOperationalKeys.any (·.toList == normalizedKey tables key)

/-- Splitting the URL may raise. -/
def isSignedUrl (value : List Char) : Except UrlError Bool := do
  let result ← urlsplit tables.nfkc value
  if result.query = [] then pure false
  else
    pure ((parseQsl result.query).any fun field =>
      signedUrlQueryKeys.any (·.toList == normalizedKey tables field.1) ||
        isSensitiveKey tables field.1)

/-- The value under this key is redacted whatever it is. -/
def isRedactedKey (profileRestricted : Bool) (key : String) : Bool :=
  isSensitiveKey tables key.toList || isProfileContentKey tables key.toList ||
    (profileRestricted && !isOperationalKey tables key.toList)

end Classification

section Payloads

/-- A finite float is a multiple of a power of two. -/
structure FiniteFloat where
  mantissa : Int
  exponent : Int
deriving DecidableEq

inductive PyFloat
  | finite (value : FiniteFloat)
  | infinity (negative : Bool)
  | nan
deriving DecidableEq

inductive RenderedKind
  | decimal
  | uuid
  | datetime
  | date
deriving DecidableEq

def isRenderedChar (char : Char) : Bool :=
  char.isAlphanum || char == '+' || char == '-' || char == '.' || char == ':'

/-- What `str` or `isoformat` writes. -/
abbrev RenderedText : Type :=
  {text : String // ∀ char ∈ text.toList, isRenderedChar char = true}

/-- A member of a text or integer enumeration is a text or an integer itself. -/
inductive AuditScalar
  | null
  | text (value : String)
  | bool (value : Bool)
  | int (value : Int)
  | float (value : PyFloat)
  | rendered (kind : RenderedKind) (text : RenderedText)
deriving DecidableEq

/-- A payload refers to its containers by their identity, so that it may share them and
hold itself. -/
inductive AuditValue (ι : Type)
  | scalar (value : AuditScalar)
  | object (identity : ι)

inductive AuditKey
  | text (key : String)
  | other
deriving DecidableEq

def AuditKey.text? : AuditKey → Option String
  | .text key => some key
  | .other => none

/-- The items of a mapping in their order; no key comes twice. -/
structure AuditMapping (ι : Type) where
  entries : List (AuditKey × AuditValue ι)
  distinct : (entries.filterMap fun entry => entry.1.text?).Nodup

inductive AuditObject (ι : Type)
  | enumMember (value : AuditValue ι)
  | mapping (mapping : AuditMapping ι)
  | sequence (items : List (AuditValue ι))
  | other (typeName : String)

/-- A mapping, and what stands behind the identities it reaches. -/
structure AuditPayload (ι : Type) where
  heap : ι → AuditObject ι
  root : ι
  root_mapping : ∃ mapping, heap root = .mapping mapping

/-- What is kept of a payload. -/
inductive AuditJson
  | null
  | text (value : String)
  | bool (value : Bool)
  | int (value : Int)
  | float (value : FiniteFloat)
  | array (items : List AuditJson)
  | object (members : List (String × AuditJson))

end Payloads

section Sanitation

inductive AuditError
  /-- `AuditLogValidationError` with its message. -/
  | validation (message : String)
  /-- The `ValueError` of splitting a URL. -/
  | valueError (error : UrlError)
deriving DecidableEq

def nestingMessage : String := "Audit payload nesting is too deep."

def finiteMessage : String := "Audit payload numbers must be finite."

def cycleMessage : String := "Audit payloads cannot contain cycles."

def keysMessage : String := "Audit payload object keys must be strings."

def typeMessage (typeName : String) : String :=
  "Audit payload type '" ++ typeName ++ "' is not JSON-compatible."

def objectMessage : String := "Audit payload must be an object."

variable (tables : TextTables) (profileRestricted : Bool)

def sanitizeScalar : AuditScalar → Except AuditError AuditJson
  | .null => .ok .null
  | .text value =>
      match isSignedUrl tables value.toList with
      | .error error => .error (.valueError error)
      | .ok true => .ok (.text redactedAuditValue)
      | .ok false => .ok (.text value)
  | .bool value => .ok (.bool value)
  | .int value => .ok (.int value)
  | .float (.finite value) => .ok (.float value)
  | .float _ => .error (.validation finiteMessage)
  | .rendered _ text => .ok (.text text.val)

variable {ι : Type}

/-- A redacted value is not looked at. -/
def sanitizeEntry (sanitizeNested : AuditValue ι → Except AuditError AuditJson)
    (entry : AuditKey × AuditValue ι) : Except AuditError (String × AuditJson) :=
  match entry.1 with
  | .other => .error (.validation keysMessage)
  | .text key =>
      if isRedactedKey tables profileRestricted key then
        .ok (key, .text redactedAuditValue)
      else (sanitizeNested entry.2).map fun json => (key, json)

variable [DecidableEq ι] (heap : ι → AuditObject ι)

/-- `remaining` counts the levels from this value on to the deepest one allowed, and
`seen` holds the containers around the value. -/
def sanitizeValue : Nat → List ι → AuditValue ι → Except AuditError AuditJson
  | 0, _, _ => .error (.validation nestingMessage)
  | _ + 1, _, .scalar value => sanitizeScalar tables value
  | remaining + 1, seen, .object identity =>
      match heap identity with
      | .enumMember value => sanitizeValue remaining seen value
      | .mapping mapping =>
          if identity ∈ seen then .error (.validation cycleMessage)
          else
            (mapping.entries.mapM (sanitizeEntry tables profileRestricted
              (sanitizeValue remaining (identity :: seen)))).map .object
      | .sequence items =>
          if identity ∈ seen then .error (.validation cycleMessage)
          else (items.mapM (sanitizeValue remaining (identity :: seen))).map .array
      | .other typeName =>
          if identity ∈ seen then .error (.validation cycleMessage)
          else .error (.validation (typeMessage typeName))

def sanitizeMapping :
    Option (AuditPayload ι) → Except AuditError (Option (List (String × AuditJson)))
  | none => .ok none
  | some payload =>
      match sanitizeValue tables profileRestricted payload.heap (maxPayloadDepth + 1) []
          (.object payload.root) with
      | .ok (.object members) => .ok (some members)
      | .ok _ => .error (.validation objectMessage)
      | .error error => .error error

end Sanitation

section Visits

/-- What sanitation comes upon in a payload. -/
inductive AuditVisit
  | scalar (value : AuditScalar)
  | key (key : AuditKey)
  | tooDeep
  | cycle
  | notJson (typeName : String)
deriving DecidableEq

variable (tables : TextTables) (profileRestricted : Bool)

def AuditKey.redacts : AuditKey → Bool
  | .text key => isRedactedKey tables profileRestricted key
  | .other => false

variable {ι : Type} [DecidableEq ι] (heap : ι → AuditObject ι)

/-- The keys and leaves outside redacted values, in the order of sanitation. -/
def visits : Nat → List ι → AuditValue ι → List AuditVisit
  | 0, _, _ => [.tooDeep]
  | _ + 1, _, .scalar value => [.scalar value]
  | remaining + 1, seen, .object identity =>
      match heap identity with
      | .enumMember value => visits remaining seen value
      | .mapping mapping =>
          if identity ∈ seen then [.cycle]
          else
            mapping.entries.flatMap fun entry =>
              .key entry.1 ::
                if entry.1.redacts tables profileRestricted then []
                else visits remaining (identity :: seen) entry.2
      | .sequence items =>
          if identity ∈ seen then [.cycle]
          else items.flatMap (visits remaining (identity :: seen))
      | .other typeName => if identity ∈ seen then [.cycle] else [.notJson typeName]

def AuditPayload.visits (payload : AuditPayload ι) : List AuditVisit :=
  BuddyWeb.visits tables profileRestricted payload.heap (maxPayloadDepth + 1) []
    (.object payload.root)

/-- What the contract of audit payloads says against a visit. -/
def AuditVisit.violation? : AuditVisit → Option String
  | .scalar (.float (.finite _)) => none
  | .scalar (.float _) => some finiteMessage
  | .scalar _ => none
  | .key (.text _) => none
  | .key .other => some keysMessage
  | .tooDeep => some nestingMessage
  | .cycle => some cycleMessage
  | .notJson typeName => some (typeMessage typeName)

/-- Why a visited text is no URL. -/
def AuditVisit.urlError? : AuditVisit → Option UrlError
  | .scalar (.text value) =>
      match urlsplit tables.nfkc value.toList with
      | .error error => some error
      | .ok _ => none
  | _ => none

end Visits

end BuddyWeb
