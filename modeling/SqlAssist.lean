import SqlAssist.Character.Case
import SqlAssist.Character.Letter
import SqlAssist.Character.Word
import SqlAssist.Clause
import SqlAssist.CommonTable
import SqlAssist.Completion
import SqlAssist.Identifier
import SqlAssist.Json.Basic
import SqlAssist.Json.Number
import SqlAssist.Json.Reader
import SqlAssist.Proofs.Alias
import SqlAssist.Proofs.Clause.Condition
import SqlAssist.Proofs.Clause.Operand
import SqlAssist.Proofs.Clause.Precedence
import SqlAssist.Proofs.Clause.Query
import SqlAssist.Proofs.Clause.Target
import SqlAssist.Proofs.CommonTable
import SqlAssist.Proofs.CommonTable.Matching
import SqlAssist.Proofs.CommonTable.WithClause
import SqlAssist.Proofs.Completion.Comments
import SqlAssist.Proofs.Completion.FromTarget
import SqlAssist.Proofs.Completion.InsertColumns
import SqlAssist.Proofs.Completion.JoinTarget
import SqlAssist.Proofs.Completion.Locality
import SqlAssist.Proofs.Completion.SortText
import SqlAssist.Proofs.Identifier
import SqlAssist.Proofs.Identifier.Qualified
import SqlAssist.Proofs.Identifier.Quoting
import SqlAssist.Proofs.Json.Scalar
import SqlAssist.Proofs.Keyword
import SqlAssist.Proofs.Keyword.Occurrence
import SqlAssist.Proofs.Keyword.Rightmost
import SqlAssist.Proofs.LetterCase.Clause
import SqlAssist.Proofs.LetterCase.Condition
import SqlAssist.Proofs.LetterCase.Reading
import SqlAssist.Proofs.LetterCase.Reference
import SqlAssist.Proofs.LetterCase.Scan
import SqlAssist.Proofs.Literal.CommonTable
import SqlAssist.Proofs.Literal.Outside
import SqlAssist.Proofs.Literal.Reading
import SqlAssist.Proofs.Literal.Reference
import SqlAssist.Proofs.Mask.Alignment
import SqlAssist.Proofs.Mask.Scan
import SqlAssist.Proofs.Mask.Skeleton
import SqlAssist.Proofs.Position
import SqlAssist.Proofs.Reference.Anchor
import SqlAssist.Proofs.Reference.Named
import SqlAssist.Proofs.Reference.Reduction
import SqlAssist.Proofs.Reference.Target
import SqlAssist.Proofs.Reference.Written
import SqlAssist.Proofs.Scope.Alias
import SqlAssist.Proofs.Scope.Item
import SqlAssist.Proofs.Scope.Listing
import SqlAssist.Proofs.Scope.Located
import SqlAssist.Proofs.Scope.Neighbours
import SqlAssist.Proofs.Search
import SqlAssist.Proofs.Search.Break
import SqlAssist.Proofs.Search.Places
import SqlAssist.Proofs.Snapshot.Lookup
import SqlAssist.Proofs.Snapshot.RoundTrip
import SqlAssist.Proofs.Stability
import SqlAssist.Proofs.Statement.Placement
import SqlAssist.Proofs.Statement.Segments
import SqlAssist.Proofs.Statement.Splitting
import SqlAssist.Proofs.Suggestion.Ranking
import SqlAssist.Proofs.Text
import SqlAssist.Proofs.Token.Decomposition
import SqlAssist.Proofs.Token.Extension
import SqlAssist.Proofs.Token.Shape
import SqlAssist.Proofs.Validation.Independence
import SqlAssist.Proofs.Validation.LetterCase
import SqlAssist.Proofs.Validation.Literals
import SqlAssist.Proofs.Validation.Places
import SqlAssist.Reference
import SqlAssist.Scope
import SqlAssist.Script
import SqlAssist.Search
import SqlAssist.Settings
import SqlAssist.Snapshot.Basic
import SqlAssist.Snapshot.Decode
import SqlAssist.Snapshot.Encode
import SqlAssist.Suggestion
import SqlAssist.Text
import SqlAssist.Validation
