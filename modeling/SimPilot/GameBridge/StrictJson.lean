import Mathlib.Data.Nat.Digits.Defs
import Mathlib.Data.List.Sort
import SimPilot.Data.Assoc
import SimPilot.Data.JsonGrammar
/-!
# The strict JSON of the game bridge (StrictJson.cs)

A string is the list of its UTF-16 code units, and the state of the parser is what it has not read
yet: `text[index..]`. `ushort.TryParse` takes NULs at the end of its argument for nothing, whatever
the style. `double.TryParse` and the text of a `double` are parameters.

| here | there |
|---|---|
| `Long` | `long` |
| `Fault.format` | `FormatException` and its message |
| `current`, `next` | `text[index]`, `text[index++]` |
| `fuel` | the depth of the calls; the stack is not modelled |
-/

namespace SimPilot.GameBridge.StrictJson
open JsonGrammar

abbrev Long : Type := { i : Int // -2 ^ 63 ≤ i ∧ i < 2 ^ 63 }

/-- `long.TryParse` of the integer a text stands for. -/
def long? (i : Int) : Option Long := if h : -2 ^ 63 ≤ i ∧ i < 2 ^ 63 then some ⟨i, h⟩ else none

/-! ## Faults -/

inductive Fault where
  | format (message : Text)
  | indexOutOfRange
  | invalidOperation
  | outOfFuel
  deriving DecidableEq, Repr

def formatException {α : Type} (message : String) : Except Fault α := .error (.format (ascii message))

def formatExceptionAt {α : Type} (message : String) (offset : Nat) : Except Fault α :=
  formatException (message ++ " at offset " ++ toString offset)

/-! ## The text that is left -/

def atEnd (s : Text) : Bool := s.isEmpty

def current : Text → Except Fault CodeUnit
  | [] => .error .indexOutOfRange
  | c :: _ => .ok c

def next : Text → Except Fault (CodeUnit × Text)
  | [] => .error .indexOutOfRange
  | c :: s => .ok (c, s)

/-- `!AtEnd && text[index] == c` -/
def standsAt (s : Text) (c : CodeUnit) : Bool := s.head? = some c

def skipWhitespace (s : Text) : Text := s.dropWhile isBlank

/-- `while (!AtEnd && text[index] >= '0' && text[index] <= '9') index++` -/
def skipDigits (s : Text) : Text := s.dropWhile isDigitUnit

/-! ## Strings -/

/-- `ushort.TryParse(s, NumberStyles.AllowHexSpecifier, …)` of four characters -/
def tryParseHex (s : Text) : Option CodeUnit :=
  let digits := s.takeWhile isHex
  if digits ≠ [] ∧ (s.dropWhile isHex).all (· = 0) then some (Fin.ofNat 65536 (hexadecimal digits)) else none

/-- The loop of `ReadString`. -/
def readChars : Text → Text → Except Fault (Text × Text)
  | [], _ => formatException "unterminated JSON string"
  | c :: s, result =>
    if c = unit '"' then .ok (result, s)
    else if c < 32 then formatException "unescaped control character in JSON string"
    else if c ≠ unit '\\' then readChars s (result ++ [c])
    else match s with
      | [] => formatException "incomplete JSON escape"
      | escaped :: s =>
        match escapes.lookup escaped with
        | some c => readChars s (result ++ [c])
        | none =>
          if escaped = unit 'u' then
            match s with
            | h₀ :: h₁ :: h₂ :: h₃ :: s =>
              match tryParseHex [h₀, h₁, h₂, h₃] with
              | some c => readChars s (result ++ [c])
              | none => formatException "invalid Unicode escape"
            | _ => formatException "incomplete Unicode escape"
          else formatException "invalid JSON escape"

def readString (s : Text) : Except Fault (Text × Text) := do
  let (c, s) ← next s
  if c ≠ unit '"' then .error .invalidOperation else readChars s []

/-! ## Numbers -/

def readWhole (s : Text) : Except Fault Text := do
  if atEnd s then formatException "incomplete JSON number"
  else
    let c ← current s
    if c = unit '0' then .ok s.tail
    else if c < unit '1' ∨ unit '9' < c then formatException "invalid JSON integer"
    else .ok (skipDigits s)

def readFraction (s : Text) : Except Fault Text :=
  if standsAt s (unit '.') then
    let rest := skipDigits s.tail
    if s.tail.length = rest.length then formatException "invalid JSON fraction" else .ok rest
  else .ok s

def readExponent (s : Text) : Except Fault Text :=
  if standsAt s (unit 'e') || standsAt s (unit 'E') then
    let digits := if standsAt s.tail (unit '+') || standsAt s.tail (unit '-') then s.tail.tail else s.tail
    let rest := skipDigits digits
    if digits.length = rest.length then formatException "invalid JSON exponent" else .ok rest
  else .ok s

/-- The text that was read between two places. -/
def substring (start s : Text) : Text := start.take (start.length - s.length)

/-- `long.TryParse(raw, NumberStyles.AllowLeadingSign, …)` of a whole number -/
def tryParseLong (raw : Text) : Option Long :=
  if standsAt raw (unit '-') then long? (-decimal raw.tail) else long? (decimal raw)

section
variable {δ : Type} (double : Text → Option δ)

def readInteger (start : Text) : Except Fault (Tree Long δ × Text) := do
  let c ← current start
  let integerEnd ← readWhole (if c = unit '-' then start.tail else start)
  let fractionEnd ← readFraction integerEnd
  let s ← readExponent fractionEnd
  let raw := substring start s
  if s.length ≠ integerEnd.length then
    match double raw with
    | some number => .ok (.number number, s)
    | none => formatException "JSON number is out of range"
  else
    match tryParseLong raw with
    | some value => .ok (.integer value, s)
    | none => formatException "JSON integer is out of range"

/-! ## Values -/

-- the length of the whole text, for the offset of a message
variable (size : Nat)

def readLiteral (literal : String) (value : Tree Long δ) (s : Text) : Except Fault (Tree Long δ × Text) :=
  if s.length < (ascii literal).length ∨ s.take (ascii literal).length ≠ ascii literal then
    formatExceptionAt "invalid JSON literal" (size - s.length)
  else .ok (value, s.drop (ascii literal).length)

/-- `ReadArray`, with its loop. -/
def readArray (loop : Text → Except Fault (Tree Long δ × Text)) (s : Text) : Except Fault (Tree Long δ × Text) :=
  let s := skipWhitespace s.tail
  if standsAt s (unit ']') then .ok (.array [], s.tail) else loop s

/-- `ReadObject`, with its loop. -/
def readObject (loop : Text → Except Fault (Tree Long δ × Text)) (s : Text) : Except Fault (Tree Long δ × Text) :=
  let s := skipWhitespace s.tail
  if standsAt s (unit '}') then .ok (.object [], s.tail) else loop s

mutual

def readValue : Nat → Text → Except Fault (Tree Long δ × Text)
  | 0, _ => .error .outOfFuel
  | fuel + 1, s =>
    let s := skipWhitespace s
    if atEnd s then formatException "unexpected end of JSON"
    else do
      let c ← current s
      if c = unit 'n' then readLiteral size "null" .null s
      else if c = unit 't' then readLiteral size "true" (.boolean true) s
      else if c = unit 'f' then readLiteral size "false" (.boolean false) s
      else if c = unit '"' then do
        let (string, s) ← readString s
        .ok (.string string, s)
      else if c = unit '[' then readArray (readElements fuel []) s
      else if c = unit '{' then readObject (readMembers fuel []) s
      else if c = unit '-' then readInteger double s
      else if isDigitUnit c then readInteger double s
      else formatExceptionAt "unexpected JSON character" (size - s.length)

/-- The loop of `ReadArray`. -/
def readElements : Nat → List (Tree Long δ) → Text → Except Fault (Tree Long δ × Text)
  | 0, _, _ => .error .outOfFuel
  | fuel + 1, values, s => do
    let (value, s) ← readValue fuel s
    let s := skipWhitespace s
    if atEnd s then formatException "unterminated JSON array"
    else
      let (separator, s) ← next s
      if separator = unit ']' then .ok (.array (values ++ [value]), s)
      else if separator ≠ unit ',' then formatException "expected comma in JSON array"
      else readElements fuel (values ++ [value]) s

/-- The loop of `ReadObject`. -/
def readMembers : Nat → Assoc Text (Tree Long δ) → Text → Except Fault (Tree Long δ × Text)
  | 0, _, _ => .error .outOfFuel
  | fuel + 1, values, s =>
    let s := skipWhitespace s
    if !standsAt s (unit '"') then formatException "expected object key"
    else do
      let (key, s) ← readString s
      let s := skipWhitespace s
      if !standsAt s (unit ':') then formatException "expected colon after object key"
      else
        let (value, s) ← readValue fuel s.tail
        if values.contains key then .error (.format (ascii "duplicate JSON key: " ++ key))
        else
          let s := skipWhitespace s
          if atEnd s then formatException "unterminated JSON object"
          else
            let (separator, s) ← next s
            if separator = unit '}' then .ok (.object (values ++ [(key, value)]), s)
            else if separator ≠ unit ',' then formatException "expected comma in JSON object"
            else readMembers fuel (values ++ [(key, value)]) s

end

end

/-- `StrictJson.Parse` -/
def parse {δ : Type} (double : Text → Option δ) (text : Text) : Except Fault (Tree Long δ) := do
  let (result, s) ← readValue double text.length (2 * text.length + 1) text
  if atEnd (skipWhitespace s) then .ok result else formatException "unexpected content after JSON value"

/-! ## Serialize -/

def digit (n : Nat) : CodeUnit := Fin.ofNat 65536 ((unit '0').val + n)

def naturalText (n : Nat) : Text := if n = 0 then [unit '0'] else (Nat.digits 10 n).reverse.map digit

/-- `long.ToString(CultureInfo.InvariantCulture)` -/
def integerText (i : Int) : Text := if i < 0 then unit '-' :: naturalText i.natAbs else naturalText i.natAbs

def hexDigit (n : Nat) : CodeUnit := if n < 10 then digit n else Fin.ofNat 65536 ((unit 'a').val + (n - 10))

/-- `((int)character).ToString("x4", …)` -/
def hexText (n : Nat) : Text :=
  [hexDigit (n / 4096 % 16), hexDigit (n / 256 % 16), hexDigit (n / 16 % 16), hexDigit (n % 16)]

def writeChar (c : CodeUnit) : Text :=
  if c = unit '"' then ascii "\\\""
  else if c = unit '\\' then ascii "\\\\"
  else if c = 8 then ascii "\\b"
  else if c = 12 then ascii "\\f"
  else if c = unit '\n' then ascii "\\n"
  else if c = unit '\r' then ascii "\\r"
  else if c = unit '\t' then ascii "\\t"
  else if c < 32 then ascii "\\u" ++ hexText c.val
  else [c]

def writeString (value : Text) : Text := unit '"' :: (value.flatMap writeChar ++ [unit '"'])

/-- `string.CompareOrdinal(s, t) <= 0` -/
def ordinalLe : Text → Text → Bool
  | [], _ => true
  | _ :: _, [] => false
  | c :: s, d :: t => c < d || (c = d && ordinalLe s t)

/-- `keys.Sort(StringComparer.Ordinal)` -/
def sortKeys (keys : List Text) : List Text := keys.insertionSort fun s t => ordinalLe s t

/-- The members of an object in the order of their keys, from the texts of their values. -/
def writeMembers (values : Assoc Text Text) : List Text :=
  (sortKeys values.keys).map fun key => writeString key ++ unit ':' :: (values.get key).getD []

section
variable {δ : Type} (numberText : δ → Text)

mutual

def write : Tree Long δ → Text
  | .null => ascii "null"
  | .boolean b => if b then ascii "true" else ascii "false"
  | .integer i => integerText i.val
  | .number d => numberText d
  | .string s => writeString s
  | .array vs => unit '[' :: (joined (writeAll vs) ++ [unit ']'])
  | .object kvs => unit '{' :: (joined (writeMembers (writeValues kvs)) ++ [unit '}'])

def writeAll : List (Tree Long δ) → List Text
  | [] => []
  | v :: vs => write v :: writeAll vs

def writeValues : List (Text × Tree Long δ) → Assoc Text Text
  | [] => []
  | (key, v) :: kvs => (key, write v) :: writeValues kvs

end

end

/-- `StrictJson.Serialize` -/
def serialize {δ : Type} (numberText : δ → Text) (value : Tree Long δ) : Text := write numberText value

end SimPilot.GameBridge.StrictJson
