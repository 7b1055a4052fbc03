import DataGrid.Main
import DataGrid.Request.Builder
import DataGrid.Proofs.Filter.LetterCase
import DataGrid.Proofs.Filter.Literal
import DataGrid.Proofs.Filter.Resolving
import DataGrid.Proofs.Group.Scope
import DataGrid.Proofs.Load.Answers
import DataGrid.Proofs.Load.Buckets
import DataGrid.Proofs.Load.DateArithmetic
import DataGrid.Proofs.Load.DateUnits
import DataGrid.Proofs.Load.DrillDown
import DataGrid.Proofs.Load.Gathering
import DataGrid.Proofs.Load.Leafing
import DataGrid.Proofs.Load.OnePoll
import DataGrid.Proofs.Load.Opening
import DataGrid.Proofs.Load.Refusals
import DataGrid.Proofs.Load.Selection
import DataGrid.Proofs.Load.Shape
import DataGrid.Proofs.Load.Sorted
import DataGrid.Proofs.Load.Summaries
import DataGrid.Proofs.Load.Trace
import DataGrid.Proofs.Load.WholeNumbers
import DataGrid.Proofs.Pipeline.RunningTotal
import DataGrid.Proofs.Request.Searching
import DataGrid.Proofs.Request.Wire
