import QueryLoom.Batch.Insert
import QueryLoom.Batch.Select
import QueryLoom.Batch.Update
import QueryLoom.Config.Reader
import QueryLoom.Entity.Catalog
import QueryLoom.Execution
import QueryLoom.Registry.Compile
import QueryLoom.Registry.Directory
import QueryLoom.Proofs.BatchText
import QueryLoom.Proofs.NamedMarkers
import QueryLoom.Proofs.Program
import QueryLoom.Proofs.QuotedText
import QueryLoom.Proofs.Dml.Command
import QueryLoom.Proofs.Dml.Steps
import QueryLoom.Proofs.Dml.Inserts
import QueryLoom.Proofs.Dml.Accepted
import QueryLoom.Proofs.JsonEquality
import QueryLoom.Proofs.Dml.Meaning
import QueryLoom.Proofs.Results
import QueryLoom.Proofs.UpdatePlan
import QueryLoom.Proofs.ChunkRevision
import QueryLoom.Proofs.UpdateEffect
import QueryLoom.Proofs.UpdateOutcome
import QueryLoom.Proofs.InsertedRows
import QueryLoom.Proofs.AddressedRows
import QueryLoom.Proofs.DeletedRows
import QueryLoom.Proofs.Mentions
import QueryLoom.Proofs.Acyclic
import QueryLoom.Proofs.InsertionText
import QueryLoom.Proofs.Nesting
import QueryLoom.Proofs.Slots
import QueryLoom.Proofs.RenderSteps
import QueryLoom.Proofs.OpenIncludes
import QueryLoom.Proofs.ScopeDiscipline
import QueryLoom.Proofs.LayeredLookup
import QueryLoom.Proofs.OwnFragments
import QueryLoom.Proofs.RefusedCalls
import QueryLoom.Proofs.OpaqueText
import QueryLoom.Proofs.IncludeDepth
import QueryLoom.Proofs.LayoutTokens
import QueryLoom.Proofs.QuotedTokens
import QueryLoom.Proofs.Expressions.Parsing
import QueryLoom.Proofs.WrittenForests
import QueryLoom.Proofs.QueryDocuments
import QueryLoom.Proofs.AppendedClauses
import QueryLoom.Proofs.SpelledIdents
import QueryLoom.Proofs.LiteralValues
import QueryLoom.Proofs.MarkerPass
import QueryLoom.Proofs.WhereClauses
import QueryLoom.Proofs.SpacedWords
import QueryLoom.Proofs.AssignmentLists
import QueryLoom.Proofs.LoopBodies
import QueryLoom.Proofs.Dml.Joins
import QueryLoom.Proofs.JoinedTables
import QueryLoom.Proofs.SelectedIds
import QueryLoom.Proofs.ExistenceChecks
import QueryLoom.Proofs.AbsentRows
import QueryLoom.Proofs.QueriedRows
import QueryLoom.Proofs.ClosedPlans
import QueryLoom.Proofs.Insertions.Remainders
import QueryLoom.Proofs.Insertions.Places
import QueryLoom.Proofs.Insertions.Spelling
import QueryLoom.Proofs.BoundText
import QueryLoom.Proofs.ColumnAliases
import QueryLoom.Proofs.WellFormedEntities
import QueryLoom.Proofs.IndexNames
import QueryLoom.Proofs.RangeClauses
import QueryLoom.Proofs.Surveys
import QueryLoom.Proofs.IntegerComparisons
import QueryLoom.Proofs.Sections
import QueryLoom.Proofs.ClippedText
import QueryLoom.Proofs.SpelledPaths
