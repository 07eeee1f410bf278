import Motif.Document.Annotation
import Motif.Folder
import Motif.Main
import Motif.Proofs.Search.Fitting
import Motif.Proofs.Search.Exact
import Motif.Proofs.Text.Classes
import Motif.Proofs.Expression.Spelling
import Motif.Proofs.Expression.Grammar
import Motif.Proofs.Expression.Meaning
import Motif.Proofs.Pattern.Scan
import Motif.Proofs.Expression.Rendering
import Motif.Proofs.Pattern.Name
import Motif.Proofs.Pattern.Edge
import Motif.Proofs.Pattern.Node
import Motif.Proofs.Catalogue.Duplicates
import Motif.Proofs.Matcher.Flip
import Motif.Proofs.Catalogue.Run
import Motif.Proofs.Search.Reflection
import Motif.Proofs.Conllu.RoundTrip
import Motif.Proofs.Search.Captures
import Motif.Proofs.Pattern.Composition
import Motif.Proofs.Catalogue.Loading
import Motif.Proofs.Document.Export
import Motif.Proofs.Search.Faults
import Motif.Proofs.Expression.Place
import Motif.Proofs.Pattern.Place
import Motif.Proofs.Matcher.Construction
import Motif.Proofs.Pattern.Refusal
import Motif.Proofs.Pattern.NormalForm
import Motif.Proofs.Pattern.Reflection
import Motif.Proofs.Catalogue.AllOrNothing
import Motif.Proofs.Pattern.Layout
import Motif.Proofs.Graph.Construction
import Motif.Proofs.Graph.Walk
import Motif.Proofs.Matcher.Conjunction
import Motif.Proofs.Pattern.Conjunction
import Motif.Proofs.Pattern.Interleaving
import Motif.Proofs.Conllu.WordGraph
import Motif.Proofs.Conllu.Tag
import Motif.Proofs.CommandLine.Filling
import Motif.Proofs.Conllu.Numbering
import Motif.Proofs.Document.Dependencies
import Motif.Proofs.Document.Chunks
import Motif.Proofs.Catalogue.Order
