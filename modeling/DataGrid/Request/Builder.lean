import DataGrid.Request.Basic
/-!
Building of requests step by step. Sort keys, levels and summaries are added behind those that are
there; every other step replaces what was given before.
-/
namespace DataGrid

namespace GroupLevel

def descend (level : GroupLevel) : GroupLevel := { level with descending := true }

def expand (level : GroupLevel) : GroupLevel := { level with expanded := true }

def bucket (level : GroupLevel) (width : Int) : GroupLevel :=
  { level with interval := some (.width width) }

def unit (level : GroupLevel) (name : String) : GroupLevel :=
  { level with interval := some (.named name) }

end GroupLevel

namespace Request

def withFilter (request : Request) (filter : Value) : Request :=
  { request with filter := some filter }

def withSearch (request : Request) (search : Search) : Request :=
  { request with search := some search }

def sortBy (request : Request) (selector : String) : Request :=
  { request with sort := request.sort ++ [⟨selector, false⟩] }

def sortDescending (request : Request) (selector : String) : Request :=
  { request with sort := request.sort ++ [⟨selector, true⟩] }

def groupBy (request : Request) (level : GroupLevel) : Request :=
  { request with group := request.group ++ [level] }

def selecting (request : Request) (paths : List String) : Request :=
  { request with select := paths }

def skipping (request : Request) (number : UInt64) : Request :=
  { request with skip := some number }

def taking (request : Request) (number : UInt64) : Request :=
  { request with take := some number }

def withTotalCount (request : Request) : Request := { request with totalCount := true }

def withGroupCount (request : Request) : Request := { request with groupCount := true }

def summarize (request : Request) (summary : Summary) : Request :=
  { request with totalSummary := request.totalSummary ++ [summary] }

def summarizeGroups (request : Request) (summary : Summary) : Request :=
  { request with groupSummary := request.groupSummary ++ [summary] }

end Request

end DataGrid
