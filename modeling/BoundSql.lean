import BoundSql.Document.Dialect
import BoundSql.Document.Value
import BoundSql.Proofs.AliasOrder
import BoundSql.Proofs.AliasRegistry
import BoundSql.Proofs.BareWordGrammar
import BoundSql.Proofs.BareWordPatterns
import BoundSql.Proofs.ClauseIndependence
import BoundSql.Proofs.ColumnResolution
import BoundSql.Proofs.Documents.Dialects
import BoundSql.Proofs.Documents.Values
import BoundSql.Proofs.FailedStatements
import BoundSql.Proofs.FirstVisits
import BoundSql.Proofs.FormatReading
import BoundSql.Proofs.GeneratedNames
import BoundSql.Proofs.LexicalSafety
import BoundSql.Proofs.NameConfinement
import BoundSql.Proofs.Nesting.Standing
import BoundSql.Proofs.ParameterOrder
import BoundSql.Proofs.PieceWriting
import BoundSql.Proofs.Recovery.Joins
import BoundSql.Proofs.RelationRenaming
import BoundSql.Proofs.Rerendering
import BoundSql.Proofs.ResultWidths
import BoundSql.Proofs.TwoPassRendering
import BoundSql.Proofs.UndeclaredTargets
import BoundSql.Proofs.ValueIndependence
import BoundSql.Proofs.Writes.BuilderCalls
import BoundSql.Proofs.Writes.ScalarQueries
import BoundSql.Proofs.Writes.Spellings
import BoundSql.Proofs.Writes.Upserts
import BoundSql.Proofs.Writes.WrittenColumns
import BoundSql.Render
import BoundSql.Tree.Builder
