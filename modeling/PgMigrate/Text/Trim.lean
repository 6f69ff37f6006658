import PgMigrate.Unicode.Class
/-
  Trimming white space (the Unicode White_Space property, not only ASCII blanks).
-/
namespace PgMigrate

/-- Drops white space at the front. -/
def trimStartChars (cs : List Char) : List Char := cs.dropWhile Unicode.isWhiteSpace

/-- Drops white space at the end. -/
def trimEndChars (cs : List Char) : List Char := (trimStartChars cs.reverse).reverse

/-- Drops white space at both ends. -/
def trimChars (cs : List Char) : List Char := trimEndChars (trimStartChars cs)

/-- Drops white space at both ends of a text. -/
def trimWhite (s : String) : String := String.ofList (trimChars s.toList)

theorem trimStartChars_head {cs : List Char} {c : Char} {rest : List Char}
    (h : trimStartChars cs = c :: rest) : Unicode.isWhiteSpace c = false := by
  unfold trimStartChars at h
  have := List.head_dropWhile_not (p := Unicode.isWhiteSpace) (l := cs)
  simp_all

end PgMigrate
