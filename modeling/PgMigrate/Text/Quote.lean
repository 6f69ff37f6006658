import PgMigrate.Unicode.Class
/-
  Quoted text in the three forms this library writes.

  * `sqlQuote`: an SQL string constant, `'…'` with each `'` written twice.
  * `sourceQuote`: a source-code string literal as a debugging printer writes it: `"…"` with
    `\0 \t \r \n \\ \"` escaped, and every character that would not show as itself — a
    combining mark (Grapheme_Extend) or a character outside the printable classes — written
    as `\u{hex}`.
  * `callQuote`: the string literal of a builder call: `\" \\ \n \r \t` escaped and the other
    control characters written as `\u{hex}`; everything else as itself.

  `\u{hex}` uses lower-case hex digits without leading zeros.
-/
namespace PgMigrate

/-- Lower-case hex digits of a number, without leading zeros (`0` for zero). -/
def hexLower (n : Nat) : String := String.ofList (Nat.toDigits 16 n)

/-- Upper-case hex digits of a number, without leading zeros. -/
def hexUpper (n : Nat) : String := String.ofList ((Nat.toDigits 16 n).map Char.toUpper)

/-- Two upper-case hex digits of a byte. -/
def hexByteUpper (n : Nat) : String :=
  let s := hexUpper n
  if s.length < 2 then "0" ++ s else s

/-- Two lower-case hex digits of a byte. -/
def hexByteLower (n : Nat) : String :=
  let s := hexLower n
  if s.length < 2 then "0" ++ s else s

/-- The escape `\u{hex}` of a character. -/
def unicodeEscape (c : Char) : String := "\\u\x7b" ++ hexLower c.toNat ++ "\x7d"

/-- An SQL string constant. -/
def sqlQuote (s : String) : String :=
  "'" ++ String.join (s.toList.map fun c => if c == '\'' then "''" else c.toString) ++ "'"

/-- One character of a source-code string literal. -/
def sourceEscape (c : Char) : String :=
  if c.toNat == 0 then "\\0"
  else if c == '\t' then "\\t"
  else if c == '\r' then "\\r"
  else if c == '\n' then "\\n"
  else if c == '\\' then "\\\\"
  else if c == '"' then "\\\""
  else if Unicode.isGraphemeExtend c then unicodeEscape c
  else if Unicode.isPrintable c then c.toString
  else unicodeEscape c

/-- A source-code string literal, as a debugging printer writes it. -/
def sourceQuote (s : String) : String :=
  "\"" ++ String.join (s.toList.map sourceEscape) ++ "\""

/-- One character of a builder-call string literal. -/
def callEscape (c : Char) : String :=
  if c == '"' then "\\\""
  else if c == '\\' then "\\\\"
  else if c == '\n' then "\\n"
  else if c == '\r' then "\\r"
  else if c == '\t' then "\\t"
  else if Unicode.isControl c then unicodeEscape c
  else c.toString

/-- A builder-call string literal. -/
def callQuote (s : String) : String :=
  "\"" ++ String.join (s.toList.map callEscape) ++ "\""

end PgMigrate
