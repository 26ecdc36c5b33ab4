import SimPilot.Domain.Json
import SimPilot.Data.Rounding
/-!
# Texts of numbers and values, and stop conditions

Python's `{x:g}` and `{x!r}` as the messages of the evaluator and of the compiler's
validator use them, and the one regular expression both modules hold
(evaluator.py:17, intent_compiler/validation.py:11). A float of the model is the
decimal number its `repr` shows.
-/

namespace SimPilot

/-! ## Numbers -/

/-- The decimal digits of `n`, at least `width` of them. -/
def padLeft (width n : Nat) : String :=
  let digits := toString n
  String.ofList (List.replicate (width - digits.length) '0') ++ digits

/-- Drop trailing zeros, and the point when nothing is left behind it. -/
def stripZeros (s : String) : String :=
  let kept := (s.toList.reverse.dropWhile (· = '0')).reverse
  String.ofList (if kept.getLast? = some '.' then kept.dropLast else kept)

/-- The number of digits of `n`. -/
def digitCount (n : Nat) : Nat := (toString n).length

/-- The decimal exponent of a positive number: `10^e ≤ q < 10^(e+1)`. -/
def decimalExponent (q : ℚ) : Int :=
  if 1 ≤ q then digitCount q.floor.toNat - 1
  else
    let k := digitCount (q.den / q.num.toNat)
    if 1 ≤ q * 10 ^ (k - 1) then -(k - 1 : Nat) else -k

/-- `f"{q:g}"`: six significant digits, an exponent below `1e-4` and from `1e+06` on. -/
def formatG (q : ℚ) : String :=
  if q = 0 then "0" else
  let sign := if q < 0 then "-" else ""
  let e := decimalExponent |q|
  let scaled := (roundEven (|q| * 10 ^ (5 - e))).toNat
  let (digits, e) := if scaled = 1000000 then (100000, e + 1) else (scaled, e)
  let text := toString digits
  if e < -4 ∨ 6 ≤ e then
    let mantissa := stripZeros (String.ofList (text.toList.take 1) ++ "." ++ String.ofList (text.toList.drop 1))
    sign ++ mantissa ++ (if e < 0 then "e-" else "e+") ++ padLeft 2 e.natAbs
  else if e < 0 then
    sign ++ stripZeros ("0." ++ String.ofList (List.replicate (e.natAbs - 1) '0') ++ text)
  else
    let point := e.toNat + 1
    sign ++ stripZeros (String.ofList (text.toList.take point) ++ "." ++ String.ofList (text.toList.drop point))

/-- `repr` of a float: its decimal digits, at least one behind the point. -/
def floatRepr (q : ℚ) : String :=
  let sign := if q < 0 then "-" else ""
  let scaled := (roundEven (|q| * 10 ^ 17)).toNat
  let fraction := stripZeros (padLeft 17 (scaled % 10 ^ 17))
  sign ++ toString (scaled / 10 ^ 17) ++ "." ++ if fraction = "" then "0" else fraction

/-! ## Values -/

/-- `repr` of a string without characters to escape. -/
def strRepr (s : String) : String :=
  if '\'' ∈ s.toList ∧ '"' ∉ s.toList then "\"" ++ s ++ "\"" else "'" ++ s ++ "'"

mutual
/-- `repr(value)`. -/
def JsonValue.repr : JsonValue → String
  | .null => "None"
  | .bool b => if b then "True" else "False"
  | .int i => toString i
  | .float q => floatRepr q
  | .str s => strRepr s
  | .uuid id => strRepr id.text
  | .decimal q => strRepr (floatRepr q)
  | .datetime t => strRepr (toString t)
  | .digest v => "'sha256:" ++ v.repr ++ "'"
  | .text v => "'" ++ v.repr ++ "'"
  | .list xs => "[" ++ ", ".intercalate (JsonValue.reprList xs) ++ "]"
  | .dict kvs => "\x7b" ++ ", ".intercalate (JsonValue.reprItems kvs) ++ "\x7d"
termination_by structural v => v
def JsonValue.reprList : List JsonValue → List String
  | [] => []
  | x :: xs => x.repr :: JsonValue.reprList xs
termination_by structural v => v
def JsonValue.reprItems : List (String × JsonValue) → List String
  | [] => []
  | kv :: rest => JsonValue.reprItem kv :: JsonValue.reprItems rest
termination_by structural v => v
def JsonValue.reprItem : String × JsonValue → String
  | (k, v) => strRepr k ++ ": " ++ v.repr
termination_by structural v => v
end

/-- `repr` of `d.get(key)`, `None` when the key is missing. -/
def optionRepr : Option JsonValue → String
  | none => "None"
  | some v => v.repr

/-- `"; ".join(reasons)`. -/
def joinReasons (reasons : List String) : String := "; ".intercalate reasons

/-! ## Stop conditions -/

inductive Operator where
  | ge | le | eq | gt | lt
  deriving DecidableEq, Repr

/-- `COMPARATORS` (evaluator.py:10). -/
def Operator.compare : Operator → ℚ → ℚ → Bool
  | .gt, value, target => target < value
  | .ge, value, target => target ≤ value
  | .lt, value, target => value < target
  | .le, value, target => value ≤ target
  | .eq, value, target => value = target

def isLetter (c : Char) : Bool := ('a' ≤ c && c ≤ 'z') || ('A' ≤ c && c ≤ 'Z') || c = '_'

def isDigit (c : Char) : Bool := '0' ≤ c && c ≤ '9'

/-- The operator a text starts with, longest first, and the rest of the text. -/
def operatorOf : List Char → Option (Operator × List Char)
  | '>' :: '=' :: rest => some (.ge, rest)
  | '<' :: '=' :: rest => some (.le, rest)
  | '=' :: '=' :: rest => some (.eq, rest)
  | '>' :: rest => some (.gt, rest)
  | '<' :: rest => some (.lt, rest)
  | _ => none

/-- The value of a digit string. -/
def digitsValue (ds : List Char) : Nat := ds.foldl (fun n c => 10 * n + (c.toNat - '0'.toNat)) 0

/-- `-?\d+(?:\.\d+)?` at the start of a text, and the rest of the text. -/
def targetOf (cs : List Char) : Option (ℚ × List Char) :=
  let (negative, cs) := match cs with
    | '-' :: rest => (true, rest)
    | _ => (false, cs)
  let whole := cs.takeWhile isDigit
  let rest := cs.dropWhile isDigit
  if whole = [] then none
  else
    let (fraction, rest) := match rest with
      | '.' :: tail => if tail.takeWhile isDigit = [] then ([], rest) else (tail.takeWhile isDigit, tail.dropWhile isDigit)
      | _ => ([], rest)
    let value : ℚ := digitsValue whole + digitsValue fraction / 10 ^ fraction.length
    some (if negative then -value else value, rest)

/-- A match of the stop-condition expression. -/
structure Condition where
  resource : String
  operator : Operator
  target : ℚ
  deriving DecidableEq, Repr

/-- `CONDITION.fullmatch(text)`. -/
def Condition.fullmatch (text : String) : Option Condition := do
  let cs := text.toList.dropWhile isSpace
  let name := cs.takeWhile fun c => isLetter c || isDigit c
  guard (name.head?.any isLetter)
  let (operator, cs) ← operatorOf ((cs.drop name.length).dropWhile isSpace)
  let (target, rest) ← targetOf (cs.dropWhile isSpace)
  guard (rest.all isSpace)
  return { resource := String.ofList name, operator, target }

example : Condition.fullmatch " cash >= -12.50 " = some ⟨"cash", .ge, -25 / 2⟩ := by decide +kernel
example : [1500000, 520000, 1/3, -1/20000, 1234567/10].map formatG =
    ["1.5e+06", "520000", "0.333333", "-5e-05", "123457"] := by decide +kernel

end SimPilot
