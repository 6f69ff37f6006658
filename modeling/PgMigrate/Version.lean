import PgMigrate.Binary.Read
import PgMigrate.Text.Trim
import PgMigrate.Text.Quote
/-
  Server versions.

  A version is a `(major, minor)` pair of 32-bit unsigned numbers, ordered lexicographically.
  Its text is `major[.minor[.anything]]` with blanks around it allowed: a third component is
  ignored, an absent minor is `0`.  A generator that targets no particular version
  (`Option.none`) targets the newest, so every gate asks `atLeast`, which is true for `none`.
-/
namespace PgMigrate

/-- A server version. -/
structure ServerVersion where
  major : Nat
  minor : Nat
deriving Repr, DecidableEq

/-- Version text that does not read as a version; it keeps the trimmed text. -/
structure VersionError where
  text : String
deriving Repr, DecidableEq

namespace VersionError

/-- `invalid PostgreSQL version: "…"`, the text in source-code quotes. -/
def message (e : VersionError) : String := "invalid PostgreSQL version: " ++ sourceQuote e.text

end VersionError

namespace ServerVersion

/-- The largest component a version may have. -/
def componentLimit : Int := 4294967295

/-- Reads one component. -/
def readComponent? (s : String) : Option Nat :=
  (readInteger? s false 0 componentLimit).map Int.toNat

/-- Reads a version. -/
def parse (s : String) : Except VersionError ServerVersion :=
  let t := trimWhite s
  let err := Except.error ⟨t⟩
  match (t.toList.splitOn '.').map String.ofList with
  | [] => err
  | major :: rest =>
    match (if major.isEmpty then none else readComponent? major) with
    | none => err
    | some ma =>
      match rest with
      | [] => .ok ⟨ma, 0⟩
      | minor :: _ =>
        match readComponent? minor with
        | some mi => .ok ⟨ma, mi⟩
        | none => err

/-- `major.minor`. -/
def render (v : ServerVersion) : String := toString v.major ++ "." ++ toString v.minor

/-- Lexicographic order. -/
def le (a b : ServerVersion) : Bool :=
  a.major < b.major || (a.major == b.major && a.minor ≤ b.minor)

/-- The first release with identity columns and typed sequences. -/
def v10 : ServerVersion := ⟨10, 0⟩

/-- The first release with stored generated columns. -/
def v12 : ServerVersion := ⟨12, 0⟩

end ServerVersion

/-- Whether a target (none meaning the newest) is at least `major.minor`. -/
def atLeast (target : Option ServerVersion) (major minor : Nat) : Bool :=
  match target with
  | none => true
  | some v => ServerVersion.le ⟨major, minor⟩ v

end PgMigrate
