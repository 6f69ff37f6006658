import PgMigrate.Json.Basic
/-
  Writing JSON text.

  Strings escape the quote, the backslash and every control character below U+0020 (the
  short forms `\n`, `\r`, `\t`, `\b`, `\f` where JSON has them, `\u00XX` otherwise); every other
  character is written as itself.  A numeral written as an integer prints as one; any other
  numeral prints as `digits e exponent`, which every JSON reader takes for the same decimal and
  for a float.  Members and elements are written in order, without blanks.
-/
namespace PgMigrate

namespace Json

/-- The four hex digits of a `\u` escape. -/
def hex4 (n : Nat) : String :=
  let d := fun (k : Nat) => Nat.digitChar ((n / Nat.pow 16 k) % 16)
  String.ofList [d 3, d 2, d 1, d 0]

/-- One character of a string body, escaped where JSON requires it. -/
def escapeChar (c : Char) : String :=
  if c == '"' then "\\\""
  else if c == '\\' then "\\\\"
  else if c == '\n' then "\\n"
  else if c == '\r' then "\\r"
  else if c == '\t' then "\\t"
  else if c.toNat == 8 then "\\b"
  else if c.toNat == 12 then "\\f"
  else if c.toNat < 0x20 then "\\u" ++ hex4 c.toNat
  else c.toString

/-- A string literal. -/
def quote (s : String) : String :=
  "\"" ++ String.join (s.toList.map escapeChar) ++ "\""

end Json

namespace Numeral

/-- The text of a numeral: an integer as an integer, anything else with an exponent part. -/
def render (n : Numeral) : String :=
  let sign := if n.negative then "-" else ""
  if n.integral && n.exponent == 0 then sign ++ toString n.digits
  else sign ++ toString n.digits ++ "e" ++ toString n.exponent

end Numeral

namespace Json

mutual
/-- The compact text of a value. -/
def render : Json → String
  | .null => "null"
  | .bool b => if b then "true" else "false"
  | .num n => n.render
  | .str s => quote s
  | .arr xs => "[" ++ renderItems xs ++ "]"
  | .obj ms => "\x7b" ++ renderMembers ms ++ "\x7d"

/-- Elements separated by commas. -/
def renderItems : List Json → String
  | [] => ""
  | [x] => render x
  | x :: xs => render x ++ "," ++ renderItems xs

/-- Members separated by commas. -/
def renderMembers : List (String × Json) → String
  | [] => ""
  | [(k, v)] => quote k ++ ":" ++ render v
  | (k, v) :: ms => quote k ++ ":" ++ render v ++ "," ++ renderMembers ms
end

end Json

end PgMigrate
