import PgMigrate.Json.Basic
/-
  Reading JSON text (RFC 8259), strictly.

  Every reader takes the characters still to read and gives back what it read with the rest,
  or `none` when the text is not JSON.  A value nests, so the readers carry a `fuel` bound:
  each nested value costs one unit, and `Json.parse?` starts with one unit per character of
  the text, more than any text can use, so fuel never decides an answer.

  Strict means: no leading zeros (`01`), no bare `.5` or `5.`, no control character inside a
  string, a `\u` escape names a scalar value (a high surrogate must be followed by a low one),
  and nothing but blanks may follow the value.

  An object is read as a map: its members come out sorted by key, and a key written twice
  keeps the value written last.
-/
namespace PgMigrate

namespace Json

/-- Blanks between tokens. -/
def isBlank (c : Char) : Bool := c == ' ' || c == '\t' || c == '\n' || c == '\r'

/-- Drops the blanks at the front. -/
def skipBlank : List Char → List Char
  | c :: cs => if isBlank c then skipBlank cs else c :: cs
  | [] => []

/-- The value of a hex digit. -/
def hexValue? (c : Char) : Option Nat :=
  if '0' ≤ c ∧ c ≤ '9' then some (c.toNat - '0'.toNat)
  else if 'a' ≤ c ∧ c ≤ 'f' then some (c.toNat - 'a'.toNat + 10)
  else if 'A' ≤ c ∧ c ≤ 'F' then some (c.toNat - 'A'.toNat + 10)
  else none

/-- Four hex digits. -/
def readHex4 : List Char → Option (Nat × List Char)
  | a :: b :: c :: d :: rest => do
    let x ← hexValue? a
    let y ← hexValue? b
    let z ← hexValue? c
    let w ← hexValue? d
    pure (((x * 16 + y) * 16 + z) * 16 + w, rest)
  | _ => none

/-- The character a `\u` escape starts, with a surrogate pair joined. -/
def readUnicodeEscape (cs : List Char) : Option (Char × List Char) := do
  let (hi, rest) ← readHex4 cs
  if 0xD800 ≤ hi ∧ hi < 0xDC00 then
    match rest with
    | '\\' :: 'u' :: rest' =>
      let (lo, rest'') ← readHex4 rest'
      if 0xDC00 ≤ lo ∧ lo < 0xE000 then
        pure (Char.ofNat (0x10000 + (hi - 0xD800) * 0x400 + (lo - 0xDC00)), rest'')
      else none
    | _ => none
  else if 0xDC00 ≤ hi ∧ hi < 0xE000 then none
  else pure (Char.ofNat hi, rest)

/-- The character a short escape (after the backslash) stands for. -/
def shortEscape? : Char → Option Char
  | '"' => some '"'
  | '\\' => some '\\'
  | '/' => some '/'
  | 'b' => some (Char.ofNat 8)
  | 'f' => some (Char.ofNat 12)
  | 'n' => some '\n'
  | 'r' => some '\r'
  | 't' => some '\t'
  | _ => none

/-- The body of a string after its opening quote; `acc` holds what was read, last first. -/
def readStringBody : Nat → List Char → List Char → Option (String × List Char)
  | 0, _, _ => none
  | _ + 1, [], _ => none
  | fuel + 1, c :: cs, acc =>
    if c == '"' then some (String.ofList acc.reverse, cs)
    else if c == '\\' then
      match cs with
      | 'u' :: rest => do
        let (ch, rest') ← readUnicodeEscape rest
        readStringBody fuel rest' (ch :: acc)
      | e :: rest => do
        let ch ← shortEscape? e
        readStringBody fuel rest (ch :: acc)
      | [] => none
    else if c.toNat < 0x20 then none
    else readStringBody fuel cs (c :: acc)

/-- A run of decimal digits: its value, its length and the rest. -/
def digitRun : List Char → Nat → Nat → Nat × Nat × List Char
  | c :: cs, value, count =>
    if c.isDigit then digitRun cs (value * 10 + (c.toNat - '0'.toNat)) (count + 1)
    else (value, count, c :: cs)
  | [], value, count => (value, count, [])

/-- The integer part of a number: `0` alone, or digits not starting with `0`. -/
def readIntPart : List Char → Option (Nat × Nat × List Char)
  | '0' :: rest => some (0, 1, rest)
  | c :: rest =>
    if c.isDigit then some (digitRun (c :: rest) 0 0) else none
  | [] => none

/-- A number, from its optional minus sign on. -/
def readNumber (cs : List Char) : Option (Numeral × List Char) := do
  let (negative, cs) := match cs with
    | '-' :: rest => (true, rest)
    | _ => (false, cs)
  let (whole, _, cs) ← readIntPart cs
  let (frac, fracLen, hasFrac, cs) ← match cs with
    | '.' :: rest =>
      let (f, n, rest') := digitRun rest 0 0
      if n == 0 then none else some (f, n, true, rest')
    | _ => some (0, 0, false, cs)
  let (exp, hasExp, cs) ← match cs with
    | e :: rest =>
      if e == 'e' || e == 'E' then
        let (sign, rest) := match rest with
          | '+' :: r => ((1 : Int), r)
          | '-' :: r => (-1, r)
          | r => (1, r)
        let (v, n, rest') := digitRun rest 0 0
        if n == 0 then none else some (sign * (v : Int), true, rest')
      else some (0, false, e :: rest)
    | [] => some (0, false, [])
  pure (⟨negative, whole * Nat.pow 10 fracLen + frac, exp - fracLen, !(hasFrac || hasExp)⟩, cs)

/-- A literal word such as `true`. -/
def readWord : List Char → List Char → Option (List Char)
  | [], cs => some cs
  | w :: ws, c :: cs => if w == c then readWord ws cs else none
  | _ :: _, [] => none

/-- Adds a member to a key-sorted member list, replacing the value of an equal key. -/
def insertMember (k : String) (v : Json) : List (String × Json) → List (String × Json)
  | [] => [(k, v)]
  | (k', v') :: ms =>
    if k == k' then (k, v) :: ms
    else if k < k' then (k, v) :: (k', v') :: ms
    else (k', v') :: insertMember k v ms

mutual
/-- One value, blanks before it skipped. -/
def readValue : Nat → List Char → Option (Json × List Char)
  | 0, _ => none
  | fuel + 1, cs =>
    match skipBlank cs with
    | '{' :: rest =>
      match skipBlank rest with
      | '}' :: rest' => some (.obj [], rest')
      | _ => do
        let (ms, rest') ← readMembers fuel rest []
        pure (.obj ms, rest')
    | '[' :: rest =>
      match skipBlank rest with
      | ']' :: rest' => some (.arr [], rest')
      | _ => do
        let (xs, rest') ← readItems fuel rest []
        pure (.arr xs, rest')
    | '"' :: rest => do
      let (s, rest') ← readStringBody (rest.length + 1) rest []
      pure (.str s, rest')
    | 't' :: rest => (readWord ['r', 'u', 'e'] rest).map fun r => (.bool true, r)
    | 'f' :: rest => (readWord ['a', 'l', 's', 'e'] rest).map fun r => (.bool false, r)
    | 'n' :: rest => (readWord ['u', 'l', 'l'] rest).map fun r => (.null, r)
    | other => (readNumber other).map fun (n, r) => (.num n, r)

/-- Elements of an array after `[`, each followed by `,` or the closing `]`. -/
def readItems : Nat → List Char → List Json → Option (List Json × List Char)
  | 0, _, _ => none
  | fuel + 1, cs, acc => do
    let (x, rest) ← readValue fuel cs
    match skipBlank rest with
    | ',' :: rest' => readItems fuel rest' (x :: acc)
    | ']' :: rest' => pure ((x :: acc).reverse, rest')
    | _ => none

/-- Members of an object after `{`, each followed by `,` or the closing `}`. -/
def readMembers : Nat → List Char → List (String × Json) →
    Option (List (String × Json) × List Char)
  | 0, _, _ => none
  | fuel + 1, cs, acc =>
    match skipBlank cs with
    | '"' :: rest => do
      let (k, rest) ← readStringBody (rest.length + 1) rest []
      match skipBlank rest with
      | ':' :: rest => do
        let (v, rest) ← readValue fuel rest
        match skipBlank rest with
        | ',' :: rest' => readMembers fuel rest' (insertMember k v acc)
        | '}' :: rest' => pure (insertMember k v acc, rest')
        | _ => none
      | _ => none
    | _ => none
end

/-- A whole JSON text: one value with nothing but blanks around it. -/
def parse? (text : String) : Option Json :=
  let cs := text.toList
  match readValue (cs.length + 1) cs with
  | some (j, rest) => if skipBlank rest == [] then some j else none
  | none => none

end Json

end PgMigrate
