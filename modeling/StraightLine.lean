import StraightLine.Text.Classes
import StraightLine.Text.Glyphless
import StraightLine.Token.Scan
import StraightLine.Source.Parse
import StraightLine.Source.Bind
import StraightLine.Bound.Fold
import StraightLine.Bound.Code
import StraightLine.Compile
import StraightLine.Build
import StraightLine.CommandLine.Run
import StraightLine.Sandbox
import StraightLine.Source.Run
import StraightLine.Bound.Run
import StraightLine.Code.Run
import StraightLine.Code.Read
import StraightLine.Main
import StraightLine.Proofs.Outcome
import StraightLine.Proofs.WordArithmetic
import StraightLine.Proofs.FoldSteps
import StraightLine.Proofs.FoldRun
import StraightLine.Proofs.CodeText
import StraightLine.Proofs.CodeRun
import StraightLine.Proofs.BindRun
import StraightLine.Proofs.Compilation
import StraightLine.Proofs.Grammar
import StraightLine.Proofs.ParseSound
import StraightLine.Proofs.ParseSteps
import StraightLine.Proofs.ParseComplete
import StraightLine.Source.Exact
import StraightLine.Proofs.FoldRange
import StraightLine.Proofs.FoldExact
import StraightLine.Proofs.AssignedFirst
import StraightLine.Proofs.CodeInPlace
import StraightLine.Token.Layout
import StraightLine.Proofs.ScanSteps
import StraightLine.Proofs.ScanLayout
import StraightLine.Source.Grammar
import StraightLine.Proofs.RenderParse
import StraightLine.Proofs.FoldReduced
import StraightLine.Proofs.BindRename
import StraightLine.Proofs.CommandVerdict
import StraightLine.Build.Steps
import StraightLine.Proofs.BuildCourse
import StraightLine.Proofs.BuildFailStop
import StraightLine.Bound.Redex
import StraightLine.Proofs.FoldKnown
import StraightLine.Bound.Named
import StraightLine.Proofs.BindPlaces
import StraightLine.Source.Walk
import StraightLine.Proofs.BindNamed
import StraightLine.Proofs.BindFaults
import StraightLine.Code.Temps
import StraightLine.Proofs.SingleAssignment
import StraightLine.Proofs.ParseFaults
import StraightLine.Proofs.ScanWords
import StraightLine.Proofs.ParseLines
import StraightLine.Proofs.Respacing
import StraightLine.Proofs.ScanFaults
import StraightLine.Code.Cost
import StraightLine.Proofs.FoldCost
import StraightLine.Proofs.NoLookahead
import StraightLine.Proofs.ParseEnd
import StraightLine.Proofs.FoldInvariant
import StraightLine.Source.Reading
