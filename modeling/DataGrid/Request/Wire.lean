import DataGrid.Request.Basic
import DataGrid.Request.Record
/-!
The wire form of requests and options. Writing leaves out what is none; reading takes null for none
and fills in what is missing.
-/
namespace DataGrid
open Record

namespace SortKey

def toValue (key : SortKey) : Value :=
  .object [("selector", .string key.selector), ("desc", .bool key.descending)]

def ofValue? (value : Value) : Option SortKey := do
  let fields ← fields? ["selector", "desc"] value
  some ⟨← required fields "selector" Value.string?, ← withDefault fields "desc" bool? false⟩

end SortKey

namespace SearchFields

def toValue : SearchFields → Value
  | .one field => .string field
  | .several fields => strings fields

def ofValue? (value : Value) : Option SearchFields :=
  (value.string?.map .one).or ((list Value.string? value).map .several)

end SearchFields

namespace Search

def toValue (search : Search) : Value :=
  .object [("expr", search.fields.toValue), ("operation", .string search.operation),
    ("value", search.operand)]

def ofValue? (value : Value) : Option Search := do
  let fields ← fields? ["expr", "operation", "value"] value
  some ⟨← required fields "expr" SearchFields.ofValue?,
    ← required fields "operation" Value.string?,
    ← withDefault fields "value" some .null⟩

end Search

namespace GroupLevel

def toValue (level : GroupLevel) : Value :=
  .object ([("selector", .string level.selector), ("desc", .bool level.descending),
      ("isExpanded", .bool level.expanded)] ++
    present "groupInterval" Interval.toValue level.interval)

def ofValue? (value : Value) : Option GroupLevel := do
  let fields ← fields? ["selector", "desc", "isExpanded", "groupInterval"] value
  some ⟨← required fields "selector" Value.string?,
    ← withDefault fields "desc" bool? false,
    ← withDefault fields "isExpanded" bool? false,
    ← optional fields "groupInterval" Interval.ofValue?⟩

end GroupLevel

namespace Summary

def toValue (summary : Summary) : Value :=
  .object (("summaryType", .string summary.kind) ::
    present "selector" Value.string summary.selector)

def ofValue? (value : Value) : Option Summary := do
  let fields ← fields? ["summaryType", "selector"] value
  some ⟨← required fields "summaryType" Value.string?, ← optional fields "selector" Value.string?⟩

end Summary

namespace Request

def number (n : UInt64) : Value := .int n.toNat

def names : List String :=
  ["filter", "search", "searchExpr", "searchOperation", "searchValue", "sort", "group", "select",
    "skip", "take", "requireTotalCount", "requireGroupCount", "totalSummary", "groupSummary"]

def toValue (request : Request) : Value :=
  .object (present "filter" id request.filter ++
    present "search" Search.toValue request.search ++
    present "searchExpr" SearchFields.toValue request.searchFields ++
    present "searchOperation" Value.string request.searchOperation ++
    present "searchValue" id request.searchOperand ++
    [("sort", .array (request.sort.map SortKey.toValue)),
      ("group", .array (request.group.map GroupLevel.toValue)),
      ("select", strings request.select)] ++
    present "skip" number request.skip ++
    present "take" number request.take ++
    [("requireTotalCount", .bool request.totalCount),
      ("requireGroupCount", .bool request.groupCount),
      ("totalSummary", .array (request.totalSummary.map Summary.toValue)),
      ("groupSummary", .array (request.groupSummary.map Summary.toValue))])

def ofValue? (value : Value) : Option Request := do
  let fields ← fields? names value
  some
    { filter := ← optional fields "filter" some
      search := ← optional fields "search" Search.ofValue?
      searchFields := ← optional fields "searchExpr" SearchFields.ofValue?
      searchOperation := ← optional fields "searchOperation" Value.string?
      searchOperand := ← optional fields "searchValue" some
      sort := ← withDefault fields "sort" (list SortKey.ofValue?) []
      group := ← withDefault fields "group" (list GroupLevel.ofValue?) []
      select := ← withDefault fields "select" (list Value.string?) []
      skip := ← optional fields "skip" uint64?
      take := ← optional fields "take" uint64?
      totalCount := ← withDefault fields "requireTotalCount" bool? false
      groupCount := ← withDefault fields "requireGroupCount" bool? false
      totalSummary := ← withDefault fields "totalSummary" (list Summary.ofValue?) []
      groupSummary := ← withDefault fields "groupSummary" (list Summary.ofValue?) [] }

end Request

namespace Options

def names : List String :=
  ["replaceIds", "summaryQueryLimit", "timezoneOffset", "caseInsensitiveRegex",
    "preProcessingPipeline"]

def toValue (options : Options) : Value :=
  .object [("replaceIds", .bool options.replaceIds),
    ("summaryQueryLimit", .int options.summaryLimit),
    ("timezoneOffset", .int options.offset),
    ("caseInsensitiveRegex", .bool options.ignoreCase),
    ("preProcessingPipeline", options.before.tagged)]

def ofValue? (value : Value) : Option Options := do
  let fields ← fields? names value
  let standard : Options := {}
  some
    { replaceIds := ← withDefault fields "replaceIds" bool? standard.replaceIds
      summaryLimit := ← withDefault fields "summaryQueryLimit" Value.nat64? standard.summaryLimit
      offset := ← withDefault fields "timezoneOffset" int32? standard.offset
      ignoreCase := ← withDefault fields "caseInsensitiveRegex" bool? standard.ignoreCase
      before := ← withDefault fields "preProcessingPipeline" (list Stage.ofValue?) standard.before }

end Options

end DataGrid
