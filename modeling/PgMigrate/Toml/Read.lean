import PgMigrate.Toml.Tree
import PgMigrate.Toml.Lex
/-
  Reading a TOML document.

  A document is a sequence of lines, each blank, a comment, a table header `[key]` or
  `[[key]]`, or a key–value pair `key = value`, with an optional comment after it.  A value
  is a string, an integer, a float, a boolean, a date-time, an array `[v, v, ...]` (blanks,
  line breaks and comments allowed between items, a trailing comma allowed) or an inline
  table `{k = v, ...}` (the same blanks, line breaks, comments and trailing comma allowed
  around its pairs).  Every header and pair goes through
  the table rules of `Toml.Tree`, so a key or table defined twice makes the whole document
  unreadable.  A byte-order mark may open the text.

  Nesting is bounded by the text's length: every array or inline table takes at least one
  character, so the readers carry that length as fuel.
-/
namespace PgMigrate

namespace Toml

mutual
/-- A value at the front. -/
def readValue : Nat → List Char → Option (TomlValue × List Char)
  | 0, _ => none
  | fuel + 1, cs =>
    match cs with
    | '"' :: _ | '\'' :: _ => (readString cs).map fun (s, r) => (.string s, r)
    | 't' :: 'r' :: 'u' :: 'e' :: r => some (.boolean true, r)
    | 'f' :: 'a' :: 'l' :: 's' :: 'e' :: r => some (.boolean false, r)
    | '[' :: r => do
      let r ← skipBlankLines false r
      match r with
      | ']' :: r => some (.array [], r)
      | _ => do
        let (items, r) ← readItems fuel r
        pure (.array items, r)
    | '{' :: r => do
      match ← skipBlankLines false r with
      | '}' :: r => some (.table .inline [], r)
      | r => do
        let (es, r) ← readEntries fuel [] r
        pure (.table .inline es, r)
    | c :: _ =>
      if looksLikeDate cs || looksLikeTime cs then readDateTime cs
      else if c.isDigit || c == '+' || c == '-' || c == 'i' || c == 'n' then readNumber cs
      else none
    | [] => none

/-- The items of an array after its first blanks, through the closing bracket. -/
def readItems : Nat → List Char → Option (List TomlValue × List Char)
  | 0, _ => none
  | fuel + 1, cs => do
    let (v, r) ← readValue fuel cs
    let r ← skipBlankLines false r
    match r with
    | ']' :: r => pure ([v], r)
    | ',' :: r => do
      let r ← skipBlankLines false r
      match r with
      | ']' :: r => pure ([v], r)
      | _ => do
        let (vs, r) ← readItems fuel r
        pure (v :: vs, r)
    | _ => none

/-- The pairs of an inline table after its first blanks, through the closing brace. -/
def readEntries : Nat → Entries → List Char → Option (Entries × List Char)
  | 0, _, _ => none
  | fuel + 1, es, cs => do
    let (path, r) ← readKey (cs.length + 1) cs
    let r ← match skipBlanks r with
      | '=' :: r => some (skipBlanks r)
      | _ => none
    let (v, r) ← readValue fuel r
    let es ← addKeyValue true path v es
    match ← skipBlankLines false r with
    | '}' :: r => pure (es, r)
    | ',' :: r => do
      match ← skipBlankLines false r with
      | '}' :: r => pure (es, r)
      | r => readEntries fuel es r
    | _ => none
end

/-- A document being read: its root table and the path of the table lines go to. -/
structure Reading where
  root : Entries := []
  current : List String := []

/-- A header's key between its brackets, and the rest after them. -/
def readHeader (closing : List Char) (cs : List Char) : Option (List String × List Char) := do
  let (path, r) ← readKey (cs.length + 1) (skipBlanks cs)
  let r := skipBlanks r
  if closing.isPrefixOf r then some (path, r.drop closing.length) else none

/-- Reads the lines of a document (`fuel` bounds the lines). -/
def readLines : Nat → Reading → List Char → Option Entries
  | 0, _, _ => none
  | fuel + 1, doc, cs =>
    match skipBlanks cs with
    | [] => some doc.root
    | '\n' :: r => readLines fuel doc r
    | '\r' :: '\n' :: r => readLines fuel doc r
    | '#' :: r => do readLines fuel doc (← lineEnd ('#' :: r))
    | '[' :: '[' :: r => do
      let (path, r) ← readHeader [']', ']'] r
      let root ← openTableArray path doc.root
      readLines fuel { root, current := path } (← lineEnd r)
    | '[' :: r => do
      let (path, r) ← readHeader [']'] r
      let root ← openTable path doc.root
      readLines fuel { root, current := path } (← lineEnd r)
    | r => do
      let (path, r) ← readKey (r.length + 1) r
      let r ← match skipBlanks r with
        | '=' :: r => some (skipBlanks r)
        | _ => none
      let (v, r) ← readValue (r.length + 1) r
      let root ← atPath (addKeyValue false path v) doc.current doc.root
      readLines fuel { doc with root } (← lineEnd r)

/-- The root table of a TOML text, or nothing when the text is not a valid document. -/
def parse (text : String) : Option Entries :=
  let cs := match text.toList with
    | c :: r => if c.toNat == 0xFEFF then r else c :: r
    | [] => []
  readLines (cs.length + 1) {} cs

end Toml

end PgMigrate
