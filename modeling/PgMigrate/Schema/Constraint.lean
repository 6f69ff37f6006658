import PgMigrate.Unicode.Class
/-
  Table constraints: primary keys, unique constraints, checks and foreign keys.

  A constraint without a name gets one chosen by the server.  A foreign key references
  the principal table's listed columns (its primary key when the list is empty) and says
  what happens to referencing rows on update and on delete.
-/
namespace PgMigrate

/-- A primary key. -/
structure PrimaryKey where
  name : Option String := none
  columns : List String
deriving Repr, DecidableEq, Inhabited

/-- A unique constraint. -/
structure UniqueConstraint where
  name : Option String := none
  columns : List String
deriving Repr, DecidableEq, Inhabited

/-- A check constraint; `sql` is the condition without its parentheses. -/
structure CheckConstraint where
  name : Option String := none
  sql : String
deriving Repr, DecidableEq, Inhabited

/-- What a foreign key does to referencing rows. -/
inductive ReferentialAction where
  | noAction | restrict | cascade | setNull | setDefault
deriving Repr, DecidableEq, Inhabited

namespace ReferentialAction

/-- All actions. -/
def all : List ReferentialAction := [.noAction, .restrict, .cascade, .setNull, .setDefault]

/-- The SQL words of the action. -/
def sql : ReferentialAction → String
  | .noAction => "NO ACTION"
  | .restrict => "RESTRICT"
  | .cascade => "CASCADE"
  | .setNull => "SET NULL"
  | .setDefault => "SET DEFAULT"

/-- The action's name in descriptors. -/
def snakeName : ReferentialAction → String
  | .noAction => "no_action"
  | .restrict => "restrict"
  | .cascade => "cascade"
  | .setNull => "set_null"
  | .setDefault => "set_default"

/-- The action named by a descriptor name. -/
def ofSnakeName? (s : String) : Option ReferentialAction := all.find? (·.snakeName == s)

/-- The action whose SQL words the text is, in any case: the text is upper-cased
    character by character with the full Unicode mapping (so `ſ` reads as `S`). -/
def fromSql? (s : String) : Option ReferentialAction :=
  let upper := String.ofList (s.toList.flatMap Unicode.toUpper)
  all.find? (·.sql == upper)

end ReferentialAction

/-- A foreign key. -/
structure ForeignKey where
  name : Option String := none
  columns : List String
  principalSchema : Option String := none
  principalTable : String
  principalColumns : List String := []
  onUpdate : ReferentialAction := .noAction
  onDelete : ReferentialAction := .noAction
deriving Repr, DecidableEq, Inhabited

end PgMigrate
