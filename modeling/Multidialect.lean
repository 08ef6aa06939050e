import Multidialect.Files.Listing
import Multidialect.Main
import Multidialect.Proofs.Barrel
import Multidialect.Proofs.Files.Change
import Multidialect.Proofs.Files.Loaded
import Multidialect.Proofs.Files.Reach
import Multidialect.Proofs.Files.Same
import Multidialect.Proofs.Files.Sources
import Multidialect.Proofs.Generation.Clearing
import Multidialect.Proofs.Generation.Confinement
import Multidialect.Proofs.Generation.Failure
import Multidialect.Proofs.Generation.Keeping
import Multidialect.Proofs.Generation.Prepared
import Multidialect.Proofs.Generation.Preview
import Multidialect.Proofs.Generation.Rebuild
import Multidialect.Proofs.Generation.Reference
import Multidialect.Proofs.Generation.Targets
import Multidialect.Proofs.Generation.Written
import Multidialect.Proofs.Path.Route
import Multidialect.Proofs.Pipeline.Order
import Multidialect.Proofs.Pipeline.Residue
import Multidialect.Proofs.Generation.Independence
import Multidialect.Proofs.Text.LineEndings
import Multidialect.Proofs.Template.Sites
import Multidialect.Proofs.Template.LineEndings
import Multidialect.Proofs.Pipeline.LineEndings
import Multidialect.Proofs.Text.Indent
import Multidialect.Proofs.Template.Regions
import Multidialect.Proofs.Text.Characters
import Multidialect.Proofs.Text.Insertion
import Multidialect.Proofs.Text.Arguments
import Multidialect.Proofs.Pipeline.Calls
import Multidialect.Proofs.Files.Enumeration
import Multidialect.Proofs.Generation.Enumeration
import Multidialect.Proofs.Template.Openings
import Multidialect.Proofs.Template.Injection
import Multidialect.Proofs.Template.Arity
import Multidialect.Proofs.Template.Interpretation
import Multidialect.Proofs.Template.Literals
import Multidialect.Proofs.Template.Placeholder
import Multidialect.Proofs.Script.Folding
import Multidialect.Proofs.Template.Markers
import Multidialect.Proofs.Template.Forms
import Multidialect.Proofs.Template.WholeNames
import Multidialect.Proofs.Text.Traced
import Multidialect.Proofs.Template.Traced
import Multidialect.Proofs.Pipeline.FaultLines
import Multidialect.Proofs.Template.Annotations
import Multidialect.Proofs.Template.Renaming
import Multidialect.Proofs.Text.Words
import Multidialect.Proofs.Text.Rewording
import Multidialect.Proofs.Template.Vocabulary
import Multidialect.Proofs.Template.RegionKeys
import Multidialect.Proofs.Path.Normal
import Multidialect.Proofs.Generation.Layout
import Multidialect.Proofs.Manifest.Overrides
import Multidialect.Proofs.Lint.ScopedOverrides
import Multidialect.Proofs.Pipeline.Filling
import Multidialect.Proofs.Generation.Adapted
import Multidialect.Proofs.Lint.UnusedOverrides
import Multidialect.Proofs.Text.Lookahead
import Multidialect.Proofs.Replacer.Closures
import Multidialect.Proofs.Replacer.CountDecoding
import Multidialect.Proofs.Sorting
import Multidialect.Proofs.Pipeline.Placement
import Multidialect.Proofs.Generation.Barrels
import Multidialect.Proofs.Replacer.Starts
import Multidialect.Proofs.Replacer.Once
import Multidialect.Proofs.Generation.WriteOrder
import Multidialect.Proofs.Text.Splitting
import Multidialect.Proofs.Text.Parameters
import Multidialect.Proofs.Manifest.Slots
import Multidialect.Proofs.Pipeline.Numbering
import Multidialect.Proofs.Generation.Recording
import Multidialect.Proofs.Text.Quoting
import Multidialect.Proofs.Text.CommonIndent
import Multidialect.Proofs.Text.Reindenting
import Multidialect.Proofs.Template.Grammar
import Multidialect.Proofs.Text.Occurrences
import Multidialect.Proofs.Manifest.Places
