import PgMigrate.Literal.Scalar
import PgMigrate.Binary.Read
import PgMigrate.Time.Parse
import PgMigrate.Text.Trim
/-
  Range text, written and read as the server does.

  A range is written `empty`, or as `<open><lower>,<upper><close>`: `[` / `]` for an
  included end, `(` / `)` for an excluded or missing one, a missing end left blank.  A bound
  is the scalar text of its value, in double quotes (with `\` and `"` escaped by `\`) when
  it is blank, reads as `empty`, or holds a quote, a backslash, a bracket, a parenthesis, a
  comma or white space.

  Reading takes the trimmed text: `empty` in any case, or an opening bracket, the two sides
  split at the comma outside double quotes (`""` inside quotes is a quote, `\` takes the
  next character as it is), and a closing bracket.  A side that is blank and was never
  quoted is a missing end.  Bounds are read as integers of the subtype's width, floats,
  text, dates or timestamps; other subtypes have no reader.
-/
namespace PgMigrate

namespace Literal

/-- Whether a bound's text must be quoted to read back as one bound. -/
def needsQuoting (s : String) : Bool :=
  s.isEmpty || String.ofList (s.toList.map asciiLower) == "empty" ||
    s.toList.any fun c =>
      c == '"' || c == '\\' || c == '(' || c == ')' || c == '[' || c == ']' || c == ',' ||
        Unicode.isWhiteSpace c

/-- A bound's text in double quotes, `\` and `"` escaped. -/
def quoteBound (s : String) : String :=
  "\"" ++ String.join (s.toList.map fun c =>
    if c == '\\' then "\\\\" else if c == '"' then "\\\"" else c.toString) ++ "\""

/-- The text of a bound's value, quoted when needed. -/
def boundText (v : Value) (subtype : SqlType) : Except LiteralError String := do
  let text ← scalarText v subtype
  pure (if needsQuoting text then quoteBound text else text)

/-- A bound's bracket and text: the `included` bracket for an included end, the `excluded` one
    for an excluded or missing end, whose text is blank. -/
def boundPart (included excluded : Char) (b : Bound Value) (subtype : SqlType) :
    Except LiteralError (Char × String) :=
  match b with
  | .included v => do pure (included, ← boundText v subtype)
  | .excluded v => do pure (excluded, ← boundText v subtype)
  | .unbounded => pure (excluded, "")

/-- The text of a range of values of a subtype. -/
def rangeText (r : Range Value) (subtype : SqlType) : Except LiteralError String :=
  match r with
  | .empty => .ok "empty"
  | .bounded lower upper => do
    let (opening, lo) ← boundPart '[' '(' lower subtype
    let (closing, hi) ← boundPart ']' ')' upper subtype
    pure (opening.toString ++ lo ++ "," ++ hi ++ closing.toString)

/-- Reads one bound's text as a value of the subtype; `whole` is the text named in errors. -/
def readBound (text : String) (subtype : SqlType) (whole : String) :
    Except LiteralError Value :=
  let invalid := Except.error (LiteralError.invalidRange whole "bound does not parse as the subtype")
  let orInvalid := fun (r : Option Value) => match r with
    | some v => Except.ok v
    | none => invalid
  match subtype with
  | .smallInt => orInvalid ((readInteger? text true i16Min i16Max).map .smallInt)
  | .integer => orInvalid ((readInteger? text true i32Min i32Max).map .integer)
  | .bigInt => orInvalid ((readInteger? text true i64Min i64Max).map .bigInt)
  | .real => orInvalid ((FloatText.read? text).map fun f => .real f.toBinary32)
  | .doublePrecision | .numeric => orInvalid ((FloatText.read? text).map fun f => .double f.toBinary64)
  | .text => .ok (.text text)
  | .date => orInvalid ((readDate? text).map .date)
  | .timestamp => orInvalid ((readTimestamp? text).map .timestamp)
  | .timestamptz =>
    let cs := text.toList
    let suffix := " UTC".toList
    if suffix.isSuffixOf cs then
      orInvalid ((readTimestamp? (String.ofList (cs.take (cs.length - suffix.length)))).map .timestampUtc)
    else orInvalid ((readZoned? text).map fun (dt, o) => .timestampTz dt o)
  | t => .error (.unmapped "range bound" t.storeType)

/-- The state of splitting a range's inside: the sides done, the current side, whether it
    was quoted, and whether a quote is open. -/
structure SplitState where
  sides : List (Option String) := []
  current : List Char := []
  quotedSide : Bool := false
  inQuotes : Bool := false

/-- The side just read: missing when blank and never quoted. -/
def SplitState.side (st : SplitState) : Option String :=
  if st.quotedSide || !st.current.isEmpty then some (String.ofList st.current.reverse) else none

/-- Splits the inside of a range at its comma, honouring quotes and escapes. -/
def splitSides (whole : String) : List Char → SplitState → Except LiteralError SplitState
  | [], st => .ok st
  | '"' :: '"' :: rest, st =>
    if st.inQuotes then splitSides whole rest { st with current := '"' :: st.current }
    else splitSides whole ('"' :: rest) { st with inQuotes := true, quotedSide := true }
  | '"' :: rest, st =>
    if st.inQuotes then splitSides whole rest { st with inQuotes := false }
    else splitSides whole rest { st with inQuotes := true, quotedSide := true }
  | ['\\'], _ => .error (.invalidRange whole "dangling escape")
  | '\\' :: c :: rest, st => splitSides whole rest { st with current := c :: st.current }
  | ',' :: rest, st =>
    if st.inQuotes then splitSides whole rest { st with current := ',' :: st.current }
    else
      let sides := st.sides ++ [st.side]
      if sides.length > 1 then .error (.invalidRange whole "more than two bounds")
      else splitSides whole rest { sides := sides }
  | c :: rest, st => splitSides whole rest { st with current := c :: st.current }
termination_by cs _ => cs.length

/-- The two sides of a range's inside, each missing when blank. -/
def splitBounds (inner : List Char) (whole : String) :
    Except LiteralError (Option String × Option String) := do
  let st ← splitSides whole inner {}
  if st.inQuotes then throw (.invalidRange whole "unterminated quote")
  match st.sides ++ [st.side] with
  | [lower, upper] => pure (lower, upper)
  | _ => throw (.invalidRange whole "expected two bounds")

/-- Reads one side of a range from its bracket and its text, missing when blank: an end
    included or excluded by the bracket, or none; any other bracket is refused with
    `expected`. -/
def readSide (included excluded : Char) (expected : String) (bracket : Char)
    (side : Option String) (subtype : SqlType) (whole : String) :
    Except LiteralError (Bound Value) :=
  match side with
  | none =>
    if bracket == included || bracket == excluded then pure .unbounded
    else throw (.invalidRange whole expected)
  | some v =>
    if bracket == included then do pure (.included (← readBound v subtype whole))
    else if bracket == excluded then do pure (.excluded (← readBound v subtype whole))
    else throw (.invalidRange whole expected)

/-- Reads range text as the server prints it (`[4,7)`, `(,7]`, `empty`). -/
def parseRange (text : String) (subtype : SqlType) : Except LiteralError (Range Value) := do
  let trimmed := trimChars text.toList
  if (trimmed.map asciiLower) == "empty".toList then return .empty
  match trimmed with
  | [] | [_] => throw (.invalidRange text "too short")
  | opening :: rest =>
    let closing := rest.getLast?.getD ' '
    let inner := rest.dropLast
    let (lower, upper) ← splitBounds inner text
    let lowerBound ← readSide '[' '(' "expected '[' or '('" opening lower subtype text
    let upperBound ← readSide ']' ')' "expected ']' or ')'" closing upper subtype text
    pure (.bounded lowerBound upperBound)

/-- Reads a quoted literal's body up to its closing quote (`''` is a quote): the text and
    what follows the literal. -/
def unquoteBody : List Char → List Char → Option (String × List Char)
  | [], _ => none
  | '\'' :: '\'' :: rest, acc => unquoteBody rest ('\'' :: acc)
  | '\'' :: rest, acc => some (String.ofList acc.reverse, rest)
  | c :: rest, acc => unquoteBody rest (c :: acc)

/-- Reads a range literal such as `'[4,7]'::int4range`; the cast is optional and the
    subtype says how to read the bounds. -/
def parseRangeLiteral (literal : String) (subtype : SqlType) :
    Except LiteralError (Range Value) :=
  match trimChars literal.toList with
  | '\'' :: body =>
    match unquoteBody body [] with
    | some (text, rest) =>
      let rest := trimChars rest
      if rest.isEmpty || [':', ':'].isPrefixOf rest then parseRange text subtype
      else .error (.invalidRange literal "unexpected text after literal")
    | none => .error (.invalidRange literal "unterminated literal")
  | _ => .error (.invalidRange literal "expected a quoted literal")

end Literal

end PgMigrate
