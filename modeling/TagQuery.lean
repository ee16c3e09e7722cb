import TagQuery.Main
import TagQuery.Proofs.Expression
import TagQuery.Proofs.Placement
import TagQuery.Proofs.Printing
import TagQuery.Proofs.Relabelling
import TagQuery.Proofs.Shape
import TagQuery.Proofs.TagSets
import TagQuery.Proofs.Provenance
import TagQuery.Proofs.Carets
import TagQuery.Proofs.Joining
import TagQuery.Proofs.Grouping
import TagQuery.Proofs.Fallback
import TagQuery.Proofs.Words
import TagQuery.Proofs.Combining
import TagQuery.Proofs.Spans
import TagQuery.Proofs.Continuation
import TagQuery.Proofs.Monotonicity
import TagQuery.Proofs.Brackets
import TagQuery.Proofs.Duties
import TagQuery.Proofs.Accounting
import TagQuery.Proofs.Unfinished
import TagQuery.Proofs.ItemLines
import TagQuery.Proofs.Pipelines
import TagQuery.Proofs.Stepping
