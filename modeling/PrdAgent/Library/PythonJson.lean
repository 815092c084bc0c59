import PrdAgent.Library.JsonText

/-!
# JSON as Python writes it

Python values as `json.dumps` sees them, and their text with sorted keys, without blanks, and with
`ensure_ascii=False`: only quotes, backslashes and control characters are escaped.
-/

/-- Python values. A float is given by its `repr`. An `object` is a value that `json.dumps` refuses: one
of another type, or a float that is not finite. -/
inductive PyValue
  | none
  | bool (value : Bool)
  | int (value : Int)
  | float (repr : String)
  | str (value : String)
  | list (items : List PyValue)
  | dict (items : List (String × PyValue))
  | object (name : String)

namespace PyValue

open GoText

def escapeChar (ch : Char) : List Char :=
  match ch with
  | '"' => ['\\', '"']
  | '\\' => ['\\', '\\']
  | '\n' => ['\\', 'n']
  | '\r' => ['\\', 'r']
  | '\t' => ['\\', 't']
  | '\x08' => ['\\', 'b']
  | '\x0c' => ['\\', 'f']
  | ch => if ch.toNat < 0x20 then Json.hexEscape ch.toNat else [ch]

def quote (text : String) : String := "\"" ++ ofChars ((chars text).flatMap escapeChar) ++ "\""

/-- The order of keys. UTF-8 keeps the order of code points, by which Python compares texts. -/
def keyLe (left right : String × String) : Bool :=
  Json.bytesLe (bytesOf left.1) (bytesOf right.1)

/-- The members of an object, in the order of their keys. -/
def joinFields (fields : List (String × String)) : String :=
  Json.commaJoined ((fields.insertionSort fun left right => keyLe left right).map fun field =>
    quote field.1 ++ ":" ++ field.2)

mutual

/-- `json.dumps`, or nothing if it raises. -/
def dumps : PyValue → Option String
  | .none => some "null"
  | .bool true => some "true"
  | .bool false => some "false"
  | .int n => some (itoa n)
  | .float repr => some repr
  | .str text => some (quote text)
  | .list items => (dumpsItems items).map fun texts => "[" ++ Json.commaJoined texts ++ "]"
  | .dict items => (dumpsFields items).map fun fields => "\x7b" ++ joinFields fields ++ "\x7d"
  | .object _ => Option.none

def dumpsItems : List PyValue → Option (List String)
  | [] => some []
  | item :: rest => (dumps item).bind fun text => (dumpsItems rest).map (text :: ·)

def dumpsFields : List (String × PyValue) → Option (List (String × String))
  | [] => some []
  | (key, value) :: rest =>
    (dumps value).bind fun text => (dumpsFields rest).map ((key, text) :: ·)

end

end PyValue
