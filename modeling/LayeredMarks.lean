import LayeredMarks.Main
import LayeredMarks.Proofs.Dataflow
import LayeredMarks.Proofs.Mirror
import LayeredMarks.Proofs.Assembly
import LayeredMarks.Proofs.Clashes
import LayeredMarks.Proofs.Defaults
import LayeredMarks.Proofs.Absorbed
import LayeredMarks.Proofs.Warnings
import LayeredMarks.Proofs.SummaryInputs
import LayeredMarks.Proofs.Reordering
import LayeredMarks.Proofs.Layering
import LayeredMarks.Proofs.OuterFields
import LayeredMarks.Proofs.ChannelProperties
import LayeredMarks.Proofs.RunEndings
import LayeredMarks.Proofs.MarkProperties
import LayeredMarks.Proofs.BoundExpressions
import LayeredMarks.Proofs.Registrations
import LayeredMarks.Proofs.NormalForm
import LayeredMarks.Proofs.PartWords
import LayeredMarks.Proofs.Computations
import LayeredMarks.Proofs.Grammar
import LayeredMarks.Proofs.Positions
import LayeredMarks.Proofs.Spelling
