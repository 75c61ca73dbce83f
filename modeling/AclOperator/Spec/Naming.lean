import AclOperator.Spec.Values

/-!
# Record names

An address record is stored under `validResourceName key`, for the host, the app
name or `serviceName-instance` it resolves. `isDNS1123Subdomain` is the test of
`validation.IsDNS1123Subdomain`, run as the automaton of its regular expression;
`sha256String` prints a SHA-256 sum in hex, the hash itself (`crypto/sha256`)
being a parameter `sum`.
-/

namespace AclOperator

/-- `[a-z0-9]`. -/
def isAlphanumeric (c : Char) : Bool := ('a' ≤ c && c ≤ 'z') || ('0' ≤ c && c ≤ '9')

/-- The states of the automaton of `dns1123SubdomainFmt`,
`[a-z0-9]([-a-z0-9]*[a-z0-9])?(\.[a-z0-9]([-a-z0-9]*[a-z0-9])?)*`: at the start of
a label, after an alphanumeric, after a `-`, or rejected. -/
inductive LabelState where
  | start
  | alnum
  | dash
  | reject
  deriving DecidableEq, Repr

/-- One character of the automaton. -/
def LabelState.next : LabelState → Char → LabelState
  | .start, c => if isAlphanumeric c then .alnum else .reject
  | .alnum, c =>
    if isAlphanumeric c then .alnum else if c = '-' then .dash else if c = '.' then .start else .reject
  | .dash, c => if isAlphanumeric c then .alnum else if c = '-' then .dash else .reject
  | .reject, _ => .reject

/-- `validation.DNS1123SubdomainMaxLength`. -/
def dns1123SubdomainMaxLength : Nat := 253

/-- `validation.IsDNS1123Subdomain(value)` returns no error: at most 253 bytes (an
accepted value is ASCII, so characters) and a match of `dns1123SubdomainFmt`. -/
def isDNS1123Subdomain (value : String) : Bool :=
  value.toList.length ≤ dns1123SubdomainMaxLength &&
    value.toList.foldl LabelState.next .start == .alnum

/-- A SHA-256 sum, `[32]byte`. -/
structure Sum256 where
  bytes : List UInt8
  length_eq : bytes.length = 32

/-- A lowercase hex digit, as `%x` prints it. -/
def hexDigit (n : Nat) : Char := if n < 10 then Char.ofNat (48 + n) else Char.ofNat (87 + n)

/-- `sha256String`: `%x` of the SHA-256 sum of the string. -/
def sha256String (sum : String → Sum256) (str : String) : String :=
  ⟨(sum str).bytes.flatMap fun b => [hexDigit (b.toNat / 16), hexDigit (b.toNat % 16)]⟩

/-- `maxChars` of `validResourceName`. -/
def maxChars : Nat := 253

/-- One character of `regexp.MustCompile("[^a-z0-9.-]").ReplaceAllString(name, "-")`. -/
def sanitize (c : Char) : Char := if isAlphanumeric c || c = '.' || c = '-' then c else '-'

/-- **`validResourceName`.** A valid name is kept. Any other key is sanitised, loses
its leading run of `[^a-z0-9]` (the second `ReplaceAllString`), is cut to
`maxChars - 11` characters, and gets `-` and the first 10 hex digits of its SHA-256.
The sanitised name is ASCII, so Go's byte lengths and slices are character ones. -/
def validResourceName (sum : String → Sum256) (name : String) : String :=
  if isDNS1123Subdomain name then name
  else
    let truncatedName := (name.toList.map sanitize).dropWhile fun c => !isAlphanumeric c
    let digest := (sha256String sum name).toList.take 10
    if truncatedName.length < maxChars - 11 then ⟨truncatedName ++ '-' :: digest⟩
    else ⟨truncatedName.take (maxChars - 11) ++ '-' :: digest⟩

/-- `isWildCard`: the name starts with a `.`. -/
def isWildCard (name : String) : Bool := name.toList.head? == some '.'

end AclOperator
