import PgMigrate.Unicode.Class
/-
  Upper camel case: `"happy path"` and `"happy_path"` both become `HappyPath`.

  The text is cut at every character that is neither a letter nor a digit.  Inside a piece a
  new word starts before an upper-case letter that follows a lower-case one (`fooBar`), and
  before the last capital of a run that a lower-case letter follows (`HTTPServer` gives
  `HTTP`, `Server`).  Each word is written with its first character in upper case and the
  rest in lower case; a capital sigma that ends a word becomes the final form `ς`.
  Characters that are neither upper nor lower case keep the case state of what came before.
-/
namespace PgMigrate

/-- The case of the last cased character of the word being read. -/
inductive WordCase where
  | none
  | lower
  | upper
deriving DecidableEq

/-- Splits one run of letters and digits into words.  `piece` is the current word so far,
    last character first. -/
def splitWords : List Char → List Char → WordCase → List (List Char) → List (List Char)
  | [], _, _, acc => acc.reverse
  | [c], piece, _, acc => ((c :: piece).reverse :: acc).reverse
  | c :: next :: rest, piece, mode, acc =>
    let mode' :=
      if Unicode.isLowercase c then WordCase.lower
      else if Unicode.isUppercase c then WordCase.upper
      else mode
    if mode' == .lower && Unicode.isUppercase next then
      splitWords (next :: rest) [] .none ((c :: piece).reverse :: acc)
    else if mode == .upper && Unicode.isUppercase c && Unicode.isLowercase next then
      splitWords (next :: rest) [c] .none (piece.reverse :: acc)
    else splitWords (next :: rest) (c :: piece) mode' acc

/-- Lower case of the rest of a word, with a final capital sigma written `ς`. -/
def lowerRest : List Char → List Char
  | [] => []
  | [c] => if c.toNat == 0x3A3 then [Char.ofNat 0x3C2] else Unicode.toLower c
  | c :: rest => Unicode.toLower c ++ lowerRest rest

/-- A word with its first character upper-cased and the rest lower-cased. -/
def capitalize : List Char → List Char
  | [] => []
  | c :: rest => Unicode.toUpper c ++ lowerRest rest

/-- The runs of letters and digits of a text, in order (empty runs included). -/
def alphanumericRuns (cs : List Char) : List (List Char) :=
  let runs := cs.splitBy fun a b => Unicode.isAlphanumeric a && Unicode.isAlphanumeric b
  runs.filter fun run => run.all Unicode.isAlphanumeric

/-- Upper camel case of a text. -/
def upperCamel (s : String) : String :=
  let words := (alphanumericRuns s.toList).flatMap fun run => splitWords run [] .none []
  String.ofList (words.flatMap capitalize)

end PgMigrate
