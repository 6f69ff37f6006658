import PgMigrate.Version
/-
  How a key column gets its values.

  `hiLo` draws keys from blocks of a shared sequence, `serial` from a sequence the column
  owns, `identityAlways` / `identityByDefault` from an identity column (`GENERATED … AS
  IDENTITY`), which needs server version 10.  The conventional choice follows the target:
  identity by default from version 10 on (or with no target), serial before.
-/
namespace PgMigrate

/-- A value generation strategy. -/
inductive Generation where
  | none
  | hiLo
  | serial
  | identityAlways
  | identityByDefault
deriving Repr, DecidableEq, Inhabited

namespace Generation

/-- The strategy used when the model says nothing. -/
def conventional (target : Option ServerVersion) : Generation :=
  if atLeast target 10 0 then .identityByDefault else .serial

/-- Whether the column is an identity column. -/
def isIdentity : Generation → Bool
  | .identityAlways | .identityByDefault => true
  | _ => false

/-- The words after `GENERATED` for an identity column. -/
def identityClause : Generation → Option String
  | .identityAlways => some "ALWAYS"
  | .identityByDefault => some "BY DEFAULT"
  | _ => Option.none

/-- The strategy's name. -/
def name : Generation → String
  | .none => "None"
  | .hiLo => "SequenceHiLo"
  | .serial => "SerialColumn"
  | .identityAlways => "IdentityAlwaysColumn"
  | .identityByDefault => "IdentityByDefaultColumn"

/-- Every strategy, in declaration order. -/
def all : List Generation := [.none, .hiLo, .serial, .identityAlways, .identityByDefault]

/-- The strategy with a given name. -/
def ofName? (s : String) : Option Generation := all.find? (·.name == s)

end Generation

end PgMigrate
