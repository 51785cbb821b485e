import FederatedQuery.Engine.Session
import FederatedQuery.Logging
import FederatedQuery.Query.Wire
import FederatedQuery.Source.Memory
import FederatedQuery.Proofs.Predicate.Basic
import FederatedQuery.Proofs.Predicate.Filtering
import FederatedQuery.Proofs.Predicate.Evaluation
import FederatedQuery.Proofs.Engine.Residual
import FederatedQuery.Proofs.Statement.Condition
import FederatedQuery.Proofs.Statement.Parsing
import FederatedQuery.Proofs.Statement.Spelling
import FederatedQuery.Proofs.Query.Written
import FederatedQuery.Proofs.Text.LowerCase
import FederatedQuery.Proofs.Query.RoundTrip
import FederatedQuery.Proofs.Engine.Names
import FederatedQuery.Proofs.Json.Scalar
import FederatedQuery.Proofs.Json.Value
import FederatedQuery.Proofs.Query.Wire
import FederatedQuery.Proofs.Engine.Registry
import FederatedQuery.Proofs.Engine.Sessions
import FederatedQuery.Proofs.Query.Parsed
import FederatedQuery.Proofs.Pattern.Search
import FederatedQuery.Proofs.Pattern.Reader
import FederatedQuery.Proofs.Query.Like
import FederatedQuery.Proofs.Predicate.Pinned
import FederatedQuery.Proofs.Source.Memory
import FederatedQuery.Proofs.Engine.Prefiltered
import FederatedQuery.Proofs.Statement.Parentheses
import FederatedQuery.Proofs.Statement.Repeated
import FederatedQuery.Proofs.Statement.Cursor
import FederatedQuery.Proofs.Statement.Cursor.InStep
import FederatedQuery.Proofs.Statement.Cursor.Calls
import FederatedQuery.Proofs.Text.LetterCase
import FederatedQuery.Proofs.Statement.Lexeme
import FederatedQuery.Proofs.Statement.Trailing
import FederatedQuery.Proofs.Statement.Refusal
import FederatedQuery.Proofs.Statement.Canonical
import FederatedQuery.Proofs.Statement.LetterCase
import FederatedQuery.Proofs.Query.LetterCase
import FederatedQuery.Proofs.Query.Meaning
import FederatedQuery.Proofs.Statement.OutsideQuotes
import FederatedQuery.Proofs.Statement.Scanning
import FederatedQuery.Proofs.Statement.Words
import FederatedQuery.Proofs.Predicate.Leftmost
import FederatedQuery.Proofs.Statement.Cursor.Lookahead
import FederatedQuery.Proofs.Query.WellFormed
import FederatedQuery.Proofs.Query.Like.Recovery
import FederatedQuery.Proofs.Query.Like.Literal
import FederatedQuery.Proofs.Engine.Warnings
import FederatedQuery.Proofs.Engine.Widening
