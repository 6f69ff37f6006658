import PgMigrate.Text.Trim
/-
  Command batches and migration scripts.

  The generator appends SQL text to a `CommandList` and cuts it into commands.  Each
  statement of a command ends in `;` and a newline; a command marked `suppressTransaction`
  must run outside any transaction (`CREATE DATABASE`, `DROP DATABASE`).  Cutting an empty
  buffer makes no command.

  A command's statements are found by scanning for `;` followed by a newline outside
  quotes.  A single-quoted string right after `E` or `e` takes `\` as an escape; a doubled
  quote reopens the string it just closed (and keeps its escaping); a double-quoted
  identifier has no escapes.  Dollar quoting is not recognized.

  A script joins commands, each ended by a newline, separated by the delimiter line when
  breakpoints are on.
-/
namespace PgMigrate

/-- The line separating commands in a script. -/
def breakpoint : String := "--> statement-breakpoint"

/-- One batch of SQL statements. -/
structure MigrationCommand where
  sql : String
  suppressTransaction : Bool := false
deriving Repr, DecidableEq, Inhabited

/-- The state of the statement scanner: the quote character open, if any, and whether a
    backslash escapes inside it. -/
structure QuoteState where
  quote : Option Char := none
  escapes : Bool := false

/-- Splits SQL at `;` + newline outside quotes; `prev` is the character before `cs`,
    `current` the statement read so far (reversed), `done` the statements before it. -/
def splitStatementsFrom : List Char → Option Char → QuoteState → List Char → List String →
    List String
  | [], _, _, current, done => (String.ofList current.reverse :: done).reverse
  | c :: rest, prev, st, current, done =>
    match st.quote with
    | some q =>
      if st.escapes && c == '\\' then
        match rest with
        | d :: rest' => splitStatementsFrom rest' (some d) st (d :: c :: current) done
        | [] => splitStatementsFrom [] (some c) st (c :: current) done
      else if c == q then splitStatementsFrom rest (some c) { st with quote := none } (c :: current) done
      else splitStatementsFrom rest (some c) st (c :: current) done
    | none =>
      if c == '\'' then
        let reopened := prev == some '\''
        let escapes := if reopened then st.escapes else (prev == some 'E' || prev == some 'e')
        splitStatementsFrom rest (some c) { quote := some c, escapes } (c :: current) done
      else if c == '"' then
        splitStatementsFrom rest (some c) { quote := some c, escapes := false } (c :: current) done
      else if c == ';' && rest.head? == some '\n' then
        splitStatementsFrom rest.tail (some '\n') st [] (String.ofList current.reverse :: done)
      else splitStatementsFrom rest (some c) st (c :: current) done
termination_by cs => cs.length

/-- The pieces of SQL between statement ends. -/
def splitStatements (sql : String) : List String := splitStatementsFrom sql.toList none {} [] []

/-- The statements of a command, trimmed, without empty ones. -/
def MigrationCommand.statements (c : MigrationCommand) : List String :=
  ((splitStatements c.sql).map trimWhite).filter (!·.isEmpty)

/-- SQL text being cut into commands. -/
structure CommandList where
  buffer : String := ""
  commands : List MigrationCommand := []
deriving Inhabited

namespace CommandList

/-- Appends text to the current command. -/
def append (b : CommandList) (sql : String) : CommandList := { b with buffer := b.buffer ++ sql }

/-- Appends one statement and its terminator. -/
def appendStatement (b : CommandList) (sql : String) : CommandList := b.append (sql ++ ";\n")

/-- Whether the current command is empty. -/
def isEmpty (b : CommandList) : Bool := b.buffer.isEmpty

/-- Closes the current command; an empty one makes no command. -/
def endCommand (b : CommandList) (suppressTransaction : Bool) : CommandList :=
  if b.buffer.isEmpty then b
  else { buffer := "", commands := b.commands ++ [{ sql := b.buffer, suppressTransaction }] }

/-- The commands, the current one closed. -/
def build (b : CommandList) : List MigrationCommand := (b.endCommand false).commands

end CommandList

/-- One action on a `CommandList`, as the generator performs them. -/
inductive Emission where
  /-- Text appended as it is. -/
  | text (sql : String)
  /-- One statement, appended with its terminator. -/
  | statement (sql : String)
  /-- The current command closed, with its transaction flag. -/
  | cut (suppressTransaction : Bool)
deriving Repr, DecidableEq, Inhabited

namespace CommandList

/-- Performs one action. -/
def emit (b : CommandList) : Emission → CommandList
  | .text sql => b.append sql
  | .statement sql => b.appendStatement sql
  | .cut suppressTransaction => b.endCommand suppressTransaction

/-- Performs actions in order. -/
def emitAll (b : CommandList) (es : List Emission) : CommandList := es.foldl emit b

end CommandList

/-- Joins commands into one script, separated by the delimiter line when `breakpoints`. -/
def renderScript (commands : List MigrationCommand) (breakpoints : Bool) (delimiter : String) :
    String :=
  let pieces := commands.map fun c => if c.sql.endsWith "\n" then c.sql else c.sql ++ "\n"
  let separator := if breakpoints then delimiter ++ "\n" else ""
  separator.intercalate pieces

end PgMigrate
