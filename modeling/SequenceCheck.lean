import SequenceCheck.Check.Descent
import SequenceCheck.Farm.Grammar
import SequenceCheck.Grammar.Document
import SequenceCheck.Outline.Build
import SequenceCheck.Tree.Document
import SequenceCheck.Tree.Walk
import SequenceCheck.Proofs.Tree.Placement
import SequenceCheck.Proofs.Tree.Content
import SequenceCheck.Proofs.Check.Obligations
import SequenceCheck.Proofs.Check.Failures
import SequenceCheck.Proofs.Check.Validity
import SequenceCheck.Proofs.Equality
import SequenceCheck.Proofs.Tree.Ancestry
import SequenceCheck.Proofs.Scope.Resolution
import SequenceCheck.Proofs.Outline.RoundTrip
import SequenceCheck.Proofs.Tree.RoundTrip
import SequenceCheck.Proofs.Tree.Allocation
import SequenceCheck.Proofs.Tree.LeafOrder
import SequenceCheck.Proofs.Tree.Numbering
import SequenceCheck.Proofs.Check.Course
import SequenceCheck.Proofs.Check.Precedence
import SequenceCheck.Proofs.Check.Blame
import SequenceCheck.Proofs.Check.Guarantees
import SequenceCheck.Proofs.Tree.Reading
import SequenceCheck.Proofs.Tree.BuiltRoundTrip
import SequenceCheck.Proofs.Tree.TextRoundTrip
import SequenceCheck.Proofs.Tree.Embedding
import SequenceCheck.Proofs.Scope.Context
import SequenceCheck.Proofs.Grammar.Building
import SequenceCheck.Proofs.Grammar.Alike
import SequenceCheck.Proofs.Grammar.Loading
import SequenceCheck.Proofs.Check.Consulted
import SequenceCheck.Proofs.Grammar.Reload
import SequenceCheck.Proofs.Json.Lines
import SequenceCheck.Proofs.Check.Closed
import SequenceCheck.Proofs.Check.Context
import SequenceCheck.Proofs.Check.Rearranged
import SequenceCheck.Proofs.Check.Relabelled
import SequenceCheck.Proofs.Check.Relaxed
import SequenceCheck.Proofs.Check.Locality
import SequenceCheck.Proofs.Tree.Comments
import SequenceCheck.Proofs.Check.Comments
import SequenceCheck.Proofs.Tree.Equality
import SequenceCheck.Proofs.Tree.Walks
import SequenceCheck.Proofs.Tree.Rejection
import SequenceCheck.Proofs.Check.LeafTypes
import SequenceCheck.Proofs.Grammar.Canonical
import SequenceCheck.Proofs.Grammar.Runs
import SequenceCheck.Proofs.Text.Filling
import SequenceCheck.Proofs.Check.Remarks
import SequenceCheck.Proofs.Check.Wording
import SequenceCheck.Proofs.Outline.Changes
import SequenceCheck.Proofs.Outline.Edited
import SequenceCheck.Proofs.Tree.Edited
import SequenceCheck.Proofs.Scope.Edited
import SequenceCheck.Proofs.Check.Order
import SequenceCheck.Proofs.Check.Arity
