import DataGrid.Plan.Recipe
import DataGrid.Request.Record
/-!
The pipelines that a call sends at its top level, before any answer is known.
-/
namespace DataGrid

/-- `data` loads the rows or the entries of the top level. -/
structure Plan where
  data : Pipeline
  totalCount : Option Pipeline
  groupCount : Option Pipeline
  totalSummary : Option Pipeline
  deriving DecidableEq, Repr

namespace Plan

def ofRequest (request : Request) (options : Options) : Plan :=
  let recipe := Recipe.ofRequest request options
  { data := match recipe.levels with
      | [] => recipe.flatStages
      | level :: _ => recipe.levelStages level []
    totalCount := if request.needsTotalCount then some recipe.countStages else none
    groupCount := if request.groupCount then recipe.groupCountStages? else none
    totalSummary :=
      if request.totalSummary.isEmpty then none
      else some (recipe.summaryStages [] request.totalSummary) }

def toValue (plan : Plan) : Value :=
  .object (("data", plan.data.tagged) ::
    (Record.present "totalCount" Pipeline.tagged plan.totalCount ++
      Record.present "groupCount" Pipeline.tagged plan.groupCount ++
      Record.present "totalSummary" Pipeline.tagged plan.totalSummary))

end Plan

end DataGrid
