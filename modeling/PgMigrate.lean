import PgMigrate.Unicode.Class
import PgMigrate.Json.Basic
import PgMigrate.Json.Write
import PgMigrate.Json.Read
import PgMigrate.Binary.Format
import PgMigrate.Binary.Shortest
import PgMigrate.Binary.Text
import PgMigrate.Binary.Read
import PgMigrate.Text.Quote
import PgMigrate.Text.Words
import PgMigrate.Text.Trim
import PgMigrate.Search
import PgMigrate.Ident
import PgMigrate.Version
import PgMigrate.Generation
import PgMigrate.SqlType
import PgMigrate.Json.Decode
import PgMigrate.Codec.Types
import PgMigrate.Time.Calendar
import PgMigrate.Time.Text
import PgMigrate.Time.Parse
import PgMigrate.Net
import PgMigrate.Value.Basic
import PgMigrate.Literal.Error
import PgMigrate.Literal.Scalar
import PgMigrate.Literal.RangeText
import PgMigrate.Literal.Sql
import PgMigrate.Literal.Code
import PgMigrate.Codec.Value
import PgMigrate.Codec.Document
import PgMigrate.Toml.Tree
import PgMigrate.Toml.Lex
import PgMigrate.Toml.Read
import PgMigrate.Schema.Column
import PgMigrate.Schema.Constraint
import PgMigrate.Schema.Storage
import PgMigrate.Schema.Table
import PgMigrate.Schema.Index
import PgMigrate.Schema.Sequence
import PgMigrate.Schema.Objects
import PgMigrate.Schema.Model
import PgMigrate.Schema.Build
import PgMigrate.Annotation.Basic
import PgMigrate.Annotation.Options
import PgMigrate.Codec.Schema
import PgMigrate.Migration.Storage
import PgMigrate.Codec.Annotation
import PgMigrate.Migration.Command
import PgMigrate.Migration.Operation
import PgMigrate.Migration.Error
import PgMigrate.Migration.Clause
import PgMigrate.Migration.Generator
import PgMigrate.Migration.Config
import PgMigrate.Codec.Migration
import PgMigrate.Scaffold.Call
import PgMigrate.Scaffold.Classifier
import PgMigrate.Migration.HiLo
import PgMigrate.Proofs.Batching
import PgMigrate.Proofs.Scanner
import PgMigrate.Proofs.NeutralText
import PgMigrate.Proofs.NeutralSql
import PgMigrate.Proofs.Statements
import PgMigrate.Proofs.ReadBack
import PgMigrate.Proofs.LiteralAgreement
import PgMigrate.Proofs.TextReadBack
import PgMigrate.Proofs.RangeReadBack
import PgMigrate.Proofs.AnnotationRoundTrip
import PgMigrate.Proofs.ModelChanges
import PgMigrate.Proofs.TypeDiff
import PgMigrate.Proofs.ColumnTransitions
import PgMigrate.Proofs.HiLoBlocks
import PgMigrate.Proofs.IndexStatement
import PgMigrate.Proofs.StorageChanges
import PgMigrate.Proofs.AlterationFailures
import PgMigrate.Proofs.SequenceCache
import PgMigrate.Proofs.ScaffoldCalls
import PgMigrate.Proofs.TemporalText
import PgMigrate.Proofs.TableCreation
import PgMigrate.Proofs.VersionText
import PgMigrate.Proofs.SortedSearch
import PgMigrate.Proofs.IdentifierText
import PgMigrate.Proofs.CallLiterals
