import AutoLoop.Foundation.Hex
import AutoLoop.Foundation.StableSort
import AutoLoop.Foundation.Text

/-!
# JSON text

The text forms of strings and of objects whose values are rendered already.
-/

namespace AutoLoop.Json

/-- A character inside a string literal. -/
def escape (char : Char) : String :=
  match char with
  | '"' => "\\\""
  | '\\' => "\\\\"
  | '\x08' => "\\b"
  | '\t' => "\\t"
  | '\n' => "\\n"
  | '\x0c' => "\\f"
  | '\r' => "\\r"
  | other =>
    if other.toNat < 0x20 then
      "\\u00" ++ String.ofList
        [HexCodec.digit (other.toNat / 16), HexCodec.digit (other.toNat % 16)]
    else String.singleton other

/-- A string literal. -/
def quote (text : String) : String :=
  "\"" ++ String.join (text.toList.map escape) ++ "\""

/-- An object without whitespace, its members in the given order. -/
def object (members : List (String × String)) : String :=
  "\x7b" ++ Text.joinWith ',' (members.map fun entry => quote entry.1 ++ ":" ++ entry.2) ++
    "\x7d"

example : object [("a\n", quote "b\""), ("n", "1")] =
    "\x7b\"a\\n\":\"b\\\"\",\"n\":1\x7d" := by decide

def array (items : List String) : String := "[" ++ Text.joinWith ',' items ++ "]"

def strings (items : List String) : String := array (items.map quote)

def bool (value : Bool) : String := if value then "true" else "false"

def canonical (members : List (String × String)) : String :=
  object (sortByKey (·.1) members)

end AutoLoop.Json
