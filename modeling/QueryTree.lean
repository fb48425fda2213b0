import QueryTree.Dialect.Read
import QueryTree.Main
import QueryTree.Tree.Build
import QueryTree.Value.Convert
import QueryTree.Proofs.Outcome
import QueryTree.Proofs.Rendering
import QueryTree.Proofs.Literals
import QueryTree.Proofs.Conditions
import QueryTree.Proofs.WhereClause
import QueryTree.Proofs.Noninterference
import QueryTree.Proofs.Meaning
import QueryTree.Proofs.Node
import QueryTree.Proofs.Independence
import QueryTree.Proofs.Nesting
import QueryTree.Proofs.WellFormed
import QueryTree.Proofs.AcceptedTrees
import QueryTree.Proofs.DepthLimit
import QueryTree.Proofs.ValidatedFilters
import QueryTree.Proofs.OwnAliases
import QueryTree.Proofs.Pruning
import QueryTree.Proofs.Convertible
import QueryTree.Proofs.Describing
import QueryTree.Proofs.RowMajor
import QueryTree.Proofs.DescribedConditions
import QueryTree.Proofs.BoundNumbers
import QueryTree.Proofs.LastWrite
import QueryTree.Proofs.CellOrder
import QueryTree.Proofs.ValidatedNodes
import QueryTree.Proofs.Descents
