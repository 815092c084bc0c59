import Mathlib.Data.List.Sort
import PrdAgent.Library.GoText

/-!
# JSON as Go writes it

JSON values, and their text as `encoding/json` marshals it: no blanks, fields in the given order,
and the characters escaped that its encoder escapes. `canonical` orders the fields of every object
by name, which is what decoding into `any` and marshalling again does to a value whose numbers are
integers below `2 ^ 53`.
-/

/-- JSON values with integer numbers. -/
inductive Json
  | null
  | bool (value : Bool)
  | int (value : Int)
  | str (value : String)
  | arr (items : List Json)
  | obj (fields : List (String × Json))

namespace Json

open GoText

def hexEscape (n : Nat) : List Char :=
  let digit (k : Nat) : Char := "0123456789abcdef".toList.getD (k % 16) '0'
  ['\\', 'u', digit (n / 4096), digit (n / 256), digit (n / 16), digit n]

def escapeChar (ch : Char) : List Char :=
  match ch with
  | '"' => ['\\', '"']
  | '\\' => ['\\', '\\']
  | '\n' => ['\\', 'n']
  | '\r' => ['\\', 'r']
  | '\t' => ['\\', 't']
  | '\x08' => ['\\', 'b']
  | '\x0c' => ['\\', 'f']
  | ch =>
    if ch.toNat < 0x20 ∨ ch = '<' ∨ ch = '>' ∨ ch = '&' ∨ ch.toNat = 0x2028 ∨
        ch.toNat = 0x2029 then
      hexEscape ch.toNat
    else [ch]

/-- The byte is ASCII and the encoder copies it as it is. -/
def plainByte (byte : UInt8) : Bool :=
  decide (0x20 ≤ byte ∧ byte < 0x7f) && byte != 0x22 && byte != 0x26 && byte != 0x3c &&
    byte != 0x3e && byte != 0x5c

/-- A text in quotes. Most texts need no escape and are copied whole. -/
def quote (text : String) : String :=
  if (bytesOf text).all plainByte then "\"" ++ text ++ "\""
  else "\"" ++ ofChars ((chars text).flatMap escapeChar) ++ "\""

def commaJoined : List String → String
  | [] => ""
  | [part] => part
  | part :: rest => part ++ "," ++ commaJoined rest

mutual

/-- `json.Marshal`. -/
def render : Json → String
  | .null => "null"
  | .bool true => "true"
  | .bool false => "false"
  | .int value => toString value
  | .str value => quote value
  | .arr items => "[" ++ commaJoined (renderItems items) ++ "]"
  | .obj fields => "\x7b" ++ commaJoined (renderFields fields) ++ "\x7d"

def renderItems : List Json → List String
  | [] => []
  | item :: rest => render item :: renderItems rest

def renderFields : List (String × Json) → List String
  | [] => []
  | (name, value) :: rest => (quote name ++ ":" ++ render value) :: renderFields rest

end

/-- The order of field names: by their bytes. -/
def bytesLe : List UInt8 → List UInt8 → Bool
  | [], _ => true
  | _ :: _, [] => false
  | x :: left, y :: right =>
    if x.toNat = y.toNat then bytesLe left right else decide (x.toNat < y.toNat)

mutual

/-- The value with the fields of every object in order. -/
def canonical : Json → Json
  | .arr items => .arr (canonicalItems items)
  | .obj fields =>
    .obj ((canonicalFields fields).insertionSort fun left right =>
      bytesLe (bytesOf left.1) (bytesOf right.1))
  | other => other

def canonicalItems : List Json → List Json
  | [] => []
  | item :: rest => canonical item :: canonicalItems rest

def canonicalFields : List (String × Json) → List (String × Json)
  | [] => []
  | (name, value) :: rest => (name, canonical value) :: canonicalFields rest

end

end Json

example : (Json.obj [("b", .arr [.int (-2), .str "x\"y"]), ("a", .bool true)]).canonical.render =
    "\x7b\"a\":true,\"b\":[-2,\"x\\\"y\"]\x7d" := by
  decide +kernel
