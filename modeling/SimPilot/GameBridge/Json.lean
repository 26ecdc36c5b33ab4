import SimPilot.Data.Assoc
import Mathlib.Algebra.Order.Ring.Rat
/-!
# JSON values of the game bridge (StrictJson.cs)

A frame is kept as the value its text is read to: the writer and the readers are not modelled.
Objects keep their items in a list, under distinct keys.
-/

namespace SimPilot.GameBridge

inductive JsonValue where
  | null
  | boolean (b : Bool)
  | integer (i : Int)
  | number (q : ℚ)
  | string (s : String)
  | array (xs : List JsonValue)
  | object (kvs : List (String × JsonValue))
  deriving Repr, Inhabited

abbrev Members := Assoc String JsonValue

namespace JsonValue

def boolean? : JsonValue → Option Bool
  | boolean b => some b
  | _ => none

def integer? : JsonValue → Option Int
  | integer i => some i
  | _ => none

/-- A number, integers included. -/
def number? : JsonValue → Option ℚ
  | number q => some q
  | integer i => some i
  | _ => none

def string? : JsonValue → Option String
  | string s => some s
  | _ => none

def array? : JsonValue → Option (List JsonValue)
  | array xs => some xs
  | _ => none

def object? : JsonValue → Option Members
  | object kvs => some kvs
  | _ => none

/-- A string, or null for none. -/
def ofOption : Option String → JsonValue
  | none => null
  | some s => string s

end JsonValue

/-- An object with these members and no other. -/
def Members.exact (o : Members) (expected : List String) : Bool :=
  o.length = expected.length && expected.all fun key => o.contains key

end SimPilot.GameBridge
