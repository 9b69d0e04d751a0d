import KasGraph.TextRewrite

set_option autoImplicit false

/-! The sanitizer of published log lines: eight patterns, one after the other. -/

namespace KasGraph.LogSanitizer

open Utf16 (encode)

open TextRewrite (Pattern Rule Cursor)

/-! ## Units and words -/

def unitOf (c : Char) : UInt16 := UInt16.ofNat c.toNat

/-- `\s`. -/
def isSpace (unit : UInt16) : Bool :=
  (9 ≤ unit && unit ≤ 13) || unit = 0x20 || unit = 0xA0 || unit = 0x1680 ||
    (0x2000 ≤ unit && unit ≤ 0x200A) || unit = 0x2028 || unit = 0x2029 || unit = 0x202F ||
    unit = 0x205F || unit = 0x3000 || unit = 0xFEFF

def isDigit (unit : UInt16) : Bool := 48 ≤ unit && unit ≤ 57

/-- A unit with the case of letters dropped. -/
def foldCase (unit : UInt16) : UInt16 := if 65 ≤ unit && unit ≤ 90 then unit + 32 else unit

def oneOf (chars : String) (unit : UInt16) : Bool := (encode chars).contains unit

/-- A word of a pattern with the flag `i`. -/
def word (s : String) : Pattern :=
  (encode s).foldr (fun unit rest => .seq (.unit (foldCase · = foldCase unit)) rest) .empty

/-- A word of a pattern without it. -/
def exactly (s : String) : Pattern :=
  (encode s).foldr (fun unit rest => .seq (.unit (· = unit)) rest) .empty

def choice : List Pattern → Pattern
  | [] => .unit fun _ => false
  | [last] => last
  | first :: rest => .either first (choice rest)

def sequence (parts : List Pattern) : Pattern := parts.foldr .seq .empty

def optional (pattern : Pattern) : Pattern := .either pattern .empty

def some1 (accepts : UInt16 → Bool) : Pattern := .seq (.unit accepts) (.many accepts)

/-! ## The patterns -/

def secretKeys : List String :=
  ["DATABASE_URL", "KASGRAPH_DATABASE_URL", "KASGRAPH_DEPLOY_TOKEN", "KASGRAPH_RPC_PRIMARY_URL",
    "KASGRAPH_RPC_BACKUP_URLS", "KASGRAPH_NOTIFICATION_WS_URL", "LISTEN_DATABASE_URL", "API_KEY",
    "ACCESS_TOKEN", "SECRET", "TOKEN", "PASSWORD", "PASS", "PRIVATE_KEY"]

/-- A value in quotes, or up to a space, a comma or a brace. -/
def assignedValue : Pattern :=
  choice [
    sequence [exactly "\"", .many (!oneOf "\"" ·), exactly "\""],
    sequence [exactly "'", .many (!oneOf "'" ·), exactly "'"],
    some1 fun unit => !isSpace unit && !oneOf ",\x7d" unit]

/-- `\b(?:key)\b\s*[:=]\s*(value)`. -/
def assignment (key : Pattern) : Pattern :=
  sequence [.boundary, key, .boundary, .many isSpace, .unit (oneOf ":="), .many isSpace,
    assignedValue]

def secretKeyPattern : Pattern := assignment (choice (secretKeys.map word))

def bearerPattern : Pattern :=
  sequence [.boundary, word "Bearer", some1 isSpace,
    some1 (oneOf "ABCDEFGHIJKLMNOPQRSTUVWXYZabcdefghijklmnopqrstuvwxyz0123456789._~+/=-")]

/-- What a URL goes on with: no space, quote or angle bracket. -/
def inUrl (unit : UInt16) : Bool := !isSpace unit && !oneOf "\"'<>" unit

def connectionStringPattern : Pattern :=
  sequence [.boundary,
    choice [.seq (word "postgres") (optional (word "ql")), word "mysql", word "mongodb",
      word "redis"],
    exactly "://", some1 inUrl]

/-- `https?|wss?`. -/
def webScheme : Pattern :=
  .either (.seq (word "http") (optional (word "s"))) (.seq (word "ws") (optional (word "s")))

def urlWithCredentialPattern : Pattern :=
  sequence [.boundary, webScheme, exactly "://",
    some1 (fun unit => inUrl unit && !oneOf "/:@" unit), exactly ":",
    some1 (fun unit => inUrl unit && !oneOf "@" unit), exactly "@", some1 inUrl]

def obviousCredentialPattern : Pattern :=
  assignment (choice [
    sequence [word "api", optional (.unit (oneOf "_-")), word "key"],
    sequence [word "access", optional (.unit (oneOf "_-")), word "token"],
    sequence [word "auth", optional (.unit (oneOf "_-")), word "token"],
    word "secret", word "password", word "passwd", word "pwd"])

def privateRpcPattern : Pattern :=
  sequence [.boundary, webScheme, exactly "://", .many inUrl,
    choice [word "token", word "key", word "secret", word "password", word "apikey", word "auth"],
    .many inUrl]

/-- `\d{1,3}`. -/
def octet : Pattern :=
  choice [
    sequence [.unit isDigit, .unit isDigit, .unit isDigit],
    sequence [.unit isDigit, .unit isDigit],
    .unit isDigit]

def ipv4Pattern : Pattern :=
  sequence [.boundary,
    .either
      (sequence [
        choice [exactly "10", exactly "127", exactly "169.254",
          sequence [exactly "172.",
            choice [.seq (exactly "1") (.unit (oneOf "6789")), .seq (exactly "2") (.unit isDigit),
              .seq (exactly "3") (.unit (oneOf "01"))]],
          exactly "192.168"],
        exactly ".", octet, exactly ".", octet])
      (sequence [octet, exactly ".", octet, exactly ".", octet, exactly ".", octet]),
    .boundary]

def homePathPattern : Pattern :=
  sequence [.either (exactly "/home") (exactly "/Users"), exactly "/", some1 inUrl]

/-! ## Sanitizing -/

def redaction : List UInt16 := encode "[REDACTED]"

/-- The head of a match that `redactAssignment` keeps, up to its `:` or `=`. -/
def assignmentHead (found : List UInt16) : Nat :=
  match found.findIdx? (oneOf ":=") with
  | none => 0
  | some idx => idx + 1

def redactAssignment (pattern : Pattern) : Rule := ⟨pattern, assignmentHead, redaction⟩

def replaceWith (pattern : Pattern) (marker : List UInt16) : Rule := ⟨pattern, fun _ => 0, marker⟩

def passes : List Rule := [
  redactAssignment secretKeyPattern,
  redactAssignment obviousCredentialPattern,
  replaceWith bearerPattern (encode "Bearer " ++ redaction),
  replaceWith connectionStringPattern redaction,
  replaceWith urlWithCredentialPattern redaction,
  replaceWith privateRpcPattern redaction,
  replaceWith ipv4Pattern redaction,
  replaceWith homePathPattern redaction]

def sanitizeLogLine (line : List UInt16) : List UInt16 := TextRewrite.rewriteAll passes line

/-! ## Secrets -/

/-- A key of the list, in any case. -/
def IsSecretKey (key : List UInt16) : Prop :=
  ∃ name ∈ secretKeys, key.map foldCase = (encode name).map foldCase

/-- A `:` or `=` with spaces around it. -/
def IsSeparator (separator : List UInt16) : Prop :=
  ∃ before mark after, separator = before ++ mark :: after ∧ oneOf ":=" mark = true ∧
    before.all isSpace = true ∧ after.all isSpace = true

/-- The text does not end within a word. -/
def WordMayBegin (before : List UInt16) : Prop := before.getLast?.any TextRewrite.isWord = false

/-- The text begins with none of these. -/
def StopsAt (goesOn : UInt16 → Bool) (after : List UInt16) : Prop := after.head?.any goesOn = false

/-- A unit of a value without quotes. -/
def inValue (unit : UInt16) : Bool := !isSpace unit && !oneOf ",\x7d\"'" unit

def inToken : UInt16 → Bool :=
  oneOf "ABCDEFGHIJKLMNOPQRSTUVWXYZabcdefghijklmnopqrstuvwxyz0123456789._~+/=-"

def urlSchemes : List String :=
  ["http", "https", "ws", "wss", "postgres", "postgresql", "mysql", "mongodb", "redis"]

def IsCredentialUrl (url : List UInt16) : Prop :=
  ∃ scheme ∈ urlSchemes, ∃ user password host : List UInt16,
    url = encode scheme ++ encode "://" ++ user ++ encode ":" ++ password ++ encode "@" ++ host ∧
    user ≠ [] ∧ password ≠ [] ∧ host ≠ [] ∧
    (user ++ password).all (fun unit => inUrl unit && !oneOf "/:@" unit) = true ∧
    host.all (fun unit => inUrl unit && !oneOf "@" unit) = true

def IsAddress (address : List UInt16) : Prop :=
  ∃ a b c d : Nat, a < 256 ∧ b < 256 ∧ c < 256 ∧ d < 256 ∧
    address = encode s!"{a}.{b}.{c}.{d}"

inductive SecretForm where
  | bare
  | quoted (quote : String)
  | member
  | bearer
  | url
  | address
  deriving DecidableEq

/-- A secret of a form in a line, between what is before it and what is after it. -/
inductive IsSecret : SecretForm → List UInt16 → List UInt16 → List UInt16 → Prop where
  | bare (before key separator secret after : List UInt16) (begins : WordMayBegin before)
      (listed : IsSecretKey key) (separates : IsSeparator separator) (some : secret ≠ [])
      (plain : secret.all inValue = true) (stops : StopsAt inValue after) :
      IsSecret .bare (before ++ key ++ separator) secret after
  | quoted (quote : String) (isQuote : quote = "\"" ∨ quote = "'")
      (before key separator secret after : List UInt16) (begins : WordMayBegin before)
      (listed : IsSecretKey key) (separates : IsSeparator separator)
      (plain : secret.all (!oneOf quote ·) = true) :
      IsSecret (.quoted quote) (before ++ key ++ separator ++ encode quote) secret
        (encode quote ++ after)
  | member (before key secret after : List UInt16) (listed : IsSecretKey key)
      (plain : secret.all (!oneOf "\"" ·) = true) :
      IsSecret .member (before ++ encode "\"" ++ key ++ encode "\":\"") secret
        (encode "\"" ++ after)
  | bearer (before spaces secret after : List UInt16) (begins : WordMayBegin before)
      (gap : spaces ≠ [] ∧ spaces.all isSpace = true) (some : secret ≠ [])
      (plain : secret.all inToken = true) (stops : StopsAt inToken after) :
      IsSecret .bearer (before ++ encode "Bearer" ++ spaces) secret after
  | url (before secret after : List UInt16) (begins : WordMayBegin before)
      (url : IsCredentialUrl secret) (stops : StopsAt inUrl after) :
      IsSecret .url before secret after
  | address (before secret after : List UInt16) (begins : WordMayBegin before)
      (address : IsAddress secret) (stops : StopsAt TextRewrite.isWord after) :
      IsSecret .address before secret after

/-- The sanitized line does not tell this secret from the other. -/
def Hidden (before secret other after : List UInt16) : Prop :=
  sanitizeLogLine (before ++ secret ++ after) = sanitizeLogLine (before ++ other ++ after)

/-- The patterns match at the same places whichever of the two secrets is in the line. -/
def SamePlaces (before secret other after : List UInt16) : Prop :=
  TextRewrite.SamePlaces passes (before ++ secret ++ after) (before ++ other ++ after)

/-- Every unit in which the secrets differ is in the replaced part of a match. -/
def Redacted (before secret other after : List UInt16) : Prop :=
  ∀ unit ∈ TextRewrite.rewriteAllFlagged passes
    (TextRewrite.flagDifferences (before ++ secret ++ after) (before ++ other ++ after)),
    unit.2 = false

/-- Where the patterns match alike, a secret is hidden just when they replace all of it that can
be told from the other. -/
theorem hidden_iff_redacted {before secret other after : List UInt16}
    (length : secret.length = other.length) (places : SamePlaces before secret other after) :
    Hidden before secret other after ↔ Redacted before secret other after := by
  have lines : (before ++ secret ++ after).length = (before ++ other ++ after).length := by
    simp only [List.length_append, length]
  exact TextRewrite.rewriteAll_eq_iff passes lines places

end KasGraph.LogSanitizer
