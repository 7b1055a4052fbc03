import DataGrid.Filter.Condition
import DataGrid.Group.Shape
import DataGrid.Request.Basic
/-!
A request compiled once for a call: the pieces that every pipeline of the call is put together from.
All pipelines open with the stages given before the call and those of the filter.
-/
namespace DataGrid

/-- A compiled group level; `last` marks the deepest one of the request. -/
structure RecipeLevel where
  key : GroupKey
  descending : Bool
  last : Bool
  withItems : Bool
  deriving DecidableEq, Repr

namespace RecipeLevel

/-- Entries are counted by what they contain, unless the store has to count them. -/
def countedElsewhere (level : RecipeLevel) : Bool := !level.last || level.withItems

def ofLevels (offset : Int) : (index : Nat) → List GroupLevel → List RecipeLevel
  | _, [] => []
  | index, level :: rest =>
      let last := rest.isEmpty
      ⟨.ofInterval level.selector level.interval index offset, level.descending, last,
        last && level.expanded⟩ :: ofLevels offset (index + 1) rest

end RecipeLevel

def Filtering.keyCountStages (filtering : Filtering) (key : GroupKey) : Pipeline :=
  -- one document for each key is left, and these are counted
  filtering.stages ++ key.stages ++ [key.distinct, .count "groupCount"]

structure Recipe where
  before : Pipeline
  filtering : Filtering
  sort : Pipeline
  paging : Pipeline
  select : Pipeline
  levels : List RecipeLevel
  rowForm : Option Document
  deriving DecidableEq, Repr

namespace Recipe

def ofRequest (request : Request) (options : Options) : Recipe where
  before := options.before
  filtering :=
    .ofFilter (Search.combine? request.filter request.effectiveSearch?) options.offset
      options.ignoreCase
  sort := SortKey.stages request.sort
  paging := Paging.stages request.skip request.take
  select := Select.stages request.select
  levels := RecipeLevel.ofLevels options.offset 0 request.group
  rowForm := GroupShape.rowForm? request.select

def filtered (recipe : Recipe) : Pipeline := recipe.before ++ recipe.filtering.stages

def flatStages (recipe : Recipe) : Pipeline :=
  recipe.filtered ++ recipe.sort ++ recipe.paging ++ recipe.select

def shape (recipe : Recipe) (level : RecipeLevel) : GroupShape :=
  ⟨level.descending, level.withItems, level.countedElsewhere, recipe.rowForm⟩

def levelStages (recipe : Recipe) (level : RecipeLevel) (scope : Pipeline) : Pipeline :=
  -- only the top level is cut into pages
  recipe.filtered ++ recipe.sort ++ scope ++ level.key.stages ++
    (recipe.shape level).stages level.key ++ (if level.key.level = 0 then recipe.paging else [])

/-- The scope of one group: its parent's scope, narrowed to the documents with its key. -/
def keyScope (level : RecipeLevel) (scope : Pipeline) (key : Value) : Pipeline :=
  scope ++ level.key.stages ++ [level.key.keyMatch key]

def countStages (recipe : Recipe) : Pipeline := recipe.before ++ recipe.filtering.countStages

def groupCountStages? (recipe : Recipe) : Option Pipeline :=
  recipe.levels.head?.map fun level => recipe.before ++ recipe.filtering.keyCountStages level.key

def summaryStages (recipe : Recipe) (scope : Pipeline) (summaries : List Summary) : Pipeline :=
  recipe.filtered ++ scope ++ Summary.stages summaries

/-- Fields that are computed for grouping and must not be seen in rows. -/
def keyNames (recipe : Recipe) : List String := recipe.levels.flatMap fun level => level.key.names

end Recipe

end DataGrid
