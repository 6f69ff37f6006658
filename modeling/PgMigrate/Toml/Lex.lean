import PgMigrate.Toml.Tree
import PgMigrate.Time.Calendar
/-
  The tokens of TOML: blanks, comments, keys, strings, numbers and date-times.

  Every reader takes the text as a list of characters and gives what it read with the rest,
  or nothing when the text does not start with a well-formed token.

  * Blanks are spaces and tabs; a line ends with LF or CR LF (a CR alone is an error).  A
    comment runs from `#` to the end of the line and holds any character but NUL and the
    line-ending controls LF, VT, FF and CR.
  * A bare key is letters, digits, `_` and `-`; a quoted key is a one-line string.
  * A basic string `"..."` takes the escapes `\b \t \n \f \r \e \" \\`, `\xHH`,
    `\uXXXX` and `\UXXXXXXXX` (a Unicode scalar value); a literal string `'...'` takes none.  Their
    multi-line forms (`"""`, `'''`) drop a line break right after the opening quotes, keep
    line breaks (as LF), allow one or two quotes inside and right before the closing ones,
    and in the basic form a backslash at the end of a line drops the line break and all
    blanks and line breaks after it.
  * An integer is decimal (an optional sign, no leading zero), or `0x`, `0o`, `0b` digits;
    single underscores may stand between digits; it must fit in 64 bits.  A float is a
    decimal integer part with a fraction, an exponent or both, or `inf` / `nan` with an
    optional sign.
  * A date-time is a date `YYYY-MM-DD` that exists, optionally followed by `T`, `t` or a
    space and a time `HH:MM[:SS[.fraction]]` (second 60 allowed), optionally followed by an
    offset `Z`, `z` or `±HH:MM`; or a time alone.
-/
namespace PgMigrate

namespace Toml

/-- Spaces and tabs. -/
def isBlank (c : Char) : Bool := c == ' ' || c == '\t'

/-- Drops leading blanks. -/
def skipBlanks (cs : List Char) : List Char := cs.dropWhile isBlank

/-- Characters a comment may hold: everything but NUL, LF, VT, FF and CR. -/
def isCommentChar (c : Char) : Bool := c.toNat != 0 && (c.toNat < 0x0A || 0x0D < c.toNat)

/-- Characters a basic string may hold as they are. -/
def isBasicChar (c : Char) : Bool :=
  c == '\t' || (' ' ≤ c && c.toNat < 0x7F && c != '"' && c != '\\') || c.toNat ≥ 0x80

/-- Characters a literal string may hold. -/
def isLiteralChar (c : Char) : Bool :=
  c == '\t' || (' ' ≤ c && c.toNat < 0x7F && c != '\'') || c.toNat ≥ 0x80

/-- Characters of a bare key. -/
def isBareKeyChar (c : Char) : Bool := c.isAlphanum || c == '_' || c == '-'

/-- Skips blanks, line breaks and comments (`inComment`: inside a comment). -/
def skipBlankLines : Bool → List Char → Option (List Char)
  | true, '\n' :: r => skipBlankLines false r
  | true, '\r' :: '\n' :: r => skipBlankLines false r
  | true, c :: r => if isCommentChar c then skipBlankLines true r else none
  | true, [] => some []
  | false, ' ' :: r => skipBlankLines false r
  | false, '\t' :: r => skipBlankLines false r
  | false, '\n' :: r => skipBlankLines false r
  | false, '\r' :: '\n' :: r => skipBlankLines false r
  | false, '#' :: r => skipBlankLines true r
  | false, cs => some cs

/-- Skips a comment to the end of its line, leaving the line break. -/
def skipComment : List Char → Option (List Char)
  | '#' :: r =>
    let rest := r.dropWhile isCommentChar
    match rest with
    | [] | '\n' :: _ | '\r' :: '\n' :: _ => some rest
    | _ => none
  | cs => some cs

/-- The end of a line: blanks, perhaps a comment, then a line break or the end of the text. -/
def lineEnd (cs : List Char) : Option (List Char) := do
  match ← skipComment (skipBlanks cs) with
  | [] => some []
  | '\n' :: r => some r
  | '\r' :: '\n' :: r => some r
  | _ => none

/-- The value of a hex digit. -/
def hexValue (c : Char) : Option Nat :=
  if c.isDigit then some (c.toNat - '0'.toNat)
  else if 'a' ≤ c ∧ c ≤ 'f' then some (c.toNat - 'a'.toNat + 10)
  else if 'A' ≤ c ∧ c ≤ 'F' then some (c.toNat - 'A'.toNat + 10)
  else none

/-- The character with the code a run of hex digits gives, if it is a scalar value. -/
def scalarOf (ds : List Char) : Option Char := do
  let n ← ds.foldlM (fun acc c => (hexValue c).map (acc * 16 + ·)) 0
  if n < 0xD800 || (0xE000 ≤ n && n ≤ 0x10FFFF) then some (Char.ofNat n) else none

/-- An escape after its backslash: the character and the rest. -/
def readEscape : List Char → Option (Char × List Char)
  | 'b' :: r => some ('\x08', r)
  | 't' :: r => some ('\t', r)
  | 'n' :: r => some ('\n', r)
  | 'f' :: r => some ('\x0c', r)
  | 'r' :: r => some ('\r', r)
  | 'e' :: r => some ('\x1b', r)
  | '"' :: r => some ('"', r)
  | '\\' :: r => some ('\\', r)
  | 'x' :: a :: b :: r => (scalarOf [a, b]).map (·, r)
  | 'u' :: a :: b :: c :: d :: r => (scalarOf [a, b, c, d]).map (·, r)
  | 'U' :: a :: b :: c :: d :: e :: f :: g :: h :: r => (scalarOf [a, b, c, d, e, f, g, h]).map (·, r)
  | _ => none

/-- A line break at the front: LF or CR LF. -/
def lineBreak? : List Char → Option (List Char)
  | '\n' :: r => some r
  | '\r' :: '\n' :: r => some r
  | _ => none

/-- A one-line basic string after its opening quote (`fuel` bounds the steps). -/
def readBasic : Nat → List Char → List Char → Option (String × List Char)
  | 0, _, _ => none
  | fuel + 1, acc, cs =>
    match cs with
    | '"' :: r => some (String.ofList acc.reverse, r)
    | '\\' :: r => do
      let (c, r) ← readEscape r
      readBasic fuel (c :: acc) r
    | c :: r => if isBasicChar c then readBasic fuel (c :: acc) r else none
    | [] => none

/-- A one-line literal string after its opening quote. -/
def readLiteral (cs : List Char) : Option (String × List Char) :=
  let body := cs.takeWhile isLiteralChar
  match cs.drop body.length with
  | '\'' :: r => some (String.ofList body, r)
  | _ => none

/-- A multi-line basic string's body after its opening quotes. -/
def readMultiBasic : Nat → List Char → List Char → Option (String × List Char)
  | 0, _, _ => none
  | fuel + 1, acc, cs =>
    match cs with
    | '"' :: '"' :: '"' :: '"' :: '"' :: r => some (String.ofList ('"' :: '"' :: acc).reverse, r)
    | '"' :: '"' :: '"' :: '"' :: r => some (String.ofList ('"' :: acc).reverse, r)
    | '"' :: '"' :: '"' :: r => some (String.ofList acc.reverse, r)
    | '"' :: r => readMultiBasic fuel ('"' :: acc) r
    | '\\' :: r =>
      let afterBlanks := skipBlanks r
      match lineBreak? afterBlanks with
      | some _ => readMultiBasic fuel acc (dropBlankLines afterBlanks)
      | none => do
        let (c, r) ← readEscape r
        readMultiBasic fuel (c :: acc) r
    | '\n' :: r => readMultiBasic fuel ('\n' :: acc) r
    | '\r' :: '\n' :: r => readMultiBasic fuel ('\n' :: acc) r
    | c :: r => if isBasicChar c then readMultiBasic fuel (c :: acc) r else none
    | [] => none
where
  /-- Drops blanks and line breaks. -/
  dropBlankLines : List Char → List Char
    | ' ' :: r => dropBlankLines r
    | '\t' :: r => dropBlankLines r
    | '\n' :: r => dropBlankLines r
    | '\r' :: '\n' :: r => dropBlankLines r
    | cs => cs

/-- A multi-line literal string's body after its opening quotes. -/
def readMultiLiteral : List Char → List Char → Option (String × List Char)
  | acc, '\'' :: '\'' :: '\'' :: '\'' :: '\'' :: r => some (String.ofList ('\'' :: '\'' :: acc).reverse, r)
  | acc, '\'' :: '\'' :: '\'' :: '\'' :: r => some (String.ofList ('\'' :: acc).reverse, r)
  | acc, '\'' :: '\'' :: '\'' :: r => some (String.ofList acc.reverse, r)
  | acc, '\'' :: r => readMultiLiteral ('\'' :: acc) r
  | acc, '\n' :: r => readMultiLiteral ('\n' :: acc) r
  | acc, '\r' :: '\n' :: r => readMultiLiteral ('\n' :: acc) r
  | acc, c :: r => if isLiteralChar c then readMultiLiteral (c :: acc) r else none
  | _, [] => none

/-- Drops the line break right after the opening quotes of a multi-line string. -/
def dropFirstBreak (cs : List Char) : List Char := (lineBreak? cs).getD cs

/-- A string of any of the four forms, from its first quote. -/
def readString (cs : List Char) : Option (String × List Char) :=
  match cs with
  | '"' :: '"' :: '"' :: r => readMultiBasic (r.length + 1) [] (dropFirstBreak r)
  | '"' :: r => readBasic (r.length + 1) [] r
  | '\'' :: '\'' :: '\'' :: r => readMultiLiteral [] (dropFirstBreak r)
  | '\'' :: r => readLiteral r
  | _ => none

/-- One part of a key: bare, or a one-line string. -/
def readSimpleKey (cs : List Char) : Option (String × List Char) :=
  match cs with
  | '"' :: r => readBasic (r.length + 1) [] r
  | '\'' :: r => readLiteral r
  | _ =>
    let bare := cs.takeWhile isBareKeyChar
    if bare.isEmpty then none else some (String.ofList bare, cs.drop bare.length)

/-- A dotted key: its parts and the rest (`fuel` bounds the parts). -/
def readKey : Nat → List Char → Option (List String × List Char)
  | 0, _ => none
  | fuel + 1, cs => do
    let (k, rest) ← readSimpleKey cs
    match skipBlanks rest with
    | '.' :: r => do
      let (ks, rest) ← readKey fuel (skipBlanks r)
      pure (k :: ks, rest)
    | _ => pure ([k], rest)

/-- Digits under `p`, single underscores between them allowed; the first digit is already
    taken. -/
def digitRun (p : Char → Bool) : List Char → List Char × List Char
  | '_' :: c :: r =>
    if p c then
      let (ds, rest) := digitRun p r
      (c :: ds, rest)
    else ([], '_' :: c :: r)
  | c :: r =>
    if p c then
      let (ds, rest) := digitRun p r
      (c :: ds, rest)
    else ([], c :: r)
  | [] => ([], [])

/-- One digit under `p` and the run after it. -/
def digits (p : Char → Bool) : List Char → Option (List Char × List Char)
  | c :: r =>
    if p c then
      let (ds, rest) := digitRun p r
      some (c :: ds, rest)
    else none
  | [] => none

/-- The value of digits in a radix. -/
def digitsValue (radix : Nat) (ds : List Char) : Nat :=
  ds.foldl (fun acc c => acc * radix + (hexValue c).getD 0) 0

/-- The largest 64-bit integer. -/
def intMax : Int := 9223372036854775807

/-- A number at the front: an integer or a float. -/
def readNumber (cs : List Char) : Option (TomlValue × List Char) :=
  let (negative, signed, body) := match cs with
    | '+' :: r => (false, true, r)
    | '-' :: r => (true, true, r)
    | _ => (false, false, cs)
  let text := fun (rest : List Char) => String.ofList (cs.take (cs.length - rest.length))
  match body with
  | 'i' :: 'n' :: 'f' :: r => some (.float (text r), r)
  | 'n' :: 'a' :: 'n' :: r => some (.float (text r), r)
  | '0' :: 'x' :: r => if signed then none else prefixed 16 (fun c => (hexValue c).isSome) r
  | '0' :: 'o' :: r => if signed then none else prefixed 8 (fun c => '0' ≤ c ∧ c ≤ '7') r
  | '0' :: 'b' :: r => if signed then none else prefixed 2 (fun c => c == '0' || c == '1') r
  | _ => do
    let (intDigits, rest) ← match body with
      | '0' :: r => some (['0'], r)
      | _ => digits Char.isDigit body
    let (hasFraction, rest) ← match rest with
      | '.' :: r => do
        let (_, r) ← digits Char.isDigit r
        pure (true, r)
      | _ => pure (false, rest)
    let (hasExponent, rest) ← match rest with
      | 'e' :: r | 'E' :: r => do
        let r := match r with
          | '+' :: s => s
          | '-' :: s => s
          | _ => r
        let (_, r) ← digits Char.isDigit r
        pure (true, r)
      | _ => pure (false, rest)
    if hasFraction || hasExponent then pure (.float (text rest), rest)
    else
      let n : Int := digitsValue 10 intDigits
      let value := if negative then -n else n
      if -intMax - 1 ≤ value ∧ value ≤ intMax then pure (.integer value, rest) else none
where
  /-- Digits after a radix prefix. -/
  prefixed (radix : Nat) (p : Char → Bool) (r : List Char) : Option (TomlValue × List Char) := do
    let (ds, rest) ← digits p r
    let n := digitsValue radix ds
    if n ≤ intMax.toNat then pure (.integer n, rest) else none

/-- Exactly `n` ASCII digits and their value. -/
def fixedDigits (n : Nat) (cs : List Char) : Option (Nat × List Char) :=
  let ds := cs.take n
  if ds.length == n && ds.all Char.isDigit then some (digitsValue 10 ds, cs.drop n) else none

/-- A date `YYYY-MM-DD` that exists. -/
def readDate (cs : List Char) : Option (List Char) := do
  let (y, r) ← fixedDigits 4 cs
  let r ← match r with | '-' :: r => some r | _ => none
  let (m, r) ← fixedDigits 2 r
  let r ← match r with | '-' :: r => some r | _ => none
  let (d, r) ← fixedDigits 2 r
  if 1 ≤ m ∧ m ≤ 12 ∧ 1 ≤ d ∧ d ≤ Date.daysInMonth y m then some r else none

/-- Seconds `:SS[.fraction]` after the minutes of a time, or nothing at all. -/
def readSeconds (cs : List Char) : Option (Nat × List Char) :=
  match cs with
  | ':' :: r => do
    let (s, r) ← fixedDigits 2 r
    match r with
    | '.' :: r =>
      let fraction := r.takeWhile Char.isDigit
      if fraction.isEmpty then none else some (s, r.drop fraction.length)
    | _ => some (s, r)
  | _ => some (0, cs)

/-- A time `HH:MM[:SS[.fraction]]`. -/
def readTime (cs : List Char) : Option (List Char) := do
  let (h, r) ← fixedDigits 2 cs
  let r ← match r with | ':' :: r => some r | _ => none
  let (m, r) ← fixedDigits 2 r
  let (s, r) ← readSeconds r
  if h ≤ 23 ∧ m ≤ 59 ∧ s ≤ 60 then some r else none

/-- An offset `Z`, `z` or `±HH:MM`. -/
def readOffset (cs : List Char) : Option (List Char) :=
  match cs with
  | 'Z' :: r | 'z' :: r => some r
  | '+' :: r | '-' :: r => do
    let (h, r) ← fixedDigits 2 r
    let r ← match r with | ':' :: r => some r | _ => none
    let (m, r) ← fixedDigits 2 r
    if h ≤ 23 ∧ m ≤ 59 then some r else none
  | _ => none

/-- Whether the text starts like a date (`DDDD-`) or a time (`DD:`). -/
def looksLikeDate (cs : List Char) : Bool :=
  match cs with
  | a :: b :: c :: d :: '-' :: _ => a.isDigit && b.isDigit && c.isDigit && d.isDigit
  | _ => false

/-- Whether the text starts like a time (`DD:`). -/
def looksLikeTime (cs : List Char) : Bool :=
  match cs with
  | a :: b :: ':' :: _ => a.isDigit && b.isDigit
  | _ => false

/-- A date-time at the front. -/
def readDateTime (cs : List Char) : Option (TomlValue × List Char) := do
  let text := fun (rest : List Char) => String.ofList (cs.take (cs.length - rest.length))
  if looksLikeDate cs then
    let r ← readDate cs
    let withTime := match r with
      | c :: t => if c == 'T' || c == 't' || c == ' ' then readTime t else none
      | [] => none
    match withTime with
    | some r => do
      let r := (readOffset r).getD r
      pure (.dateTime (text r), r)
    | none => pure (.dateTime (text r), r)
  else
    let r ← readTime cs
    pure (.dateTime (text r), r)

end Toml

end PgMigrate
