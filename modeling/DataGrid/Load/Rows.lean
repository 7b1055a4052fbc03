import DataGrid.Load.Error
import DataGrid.Value.Native
/-!
Rows on their way out: computed fields are taken away, and a native object id in `_id` is replaced
by its digits.
-/
namespace DataGrid

structure RowCleaner where
  replaceIds : Bool
  strip : List String
  deriving DecidableEq, Repr

namespace RowCleaner

def stripNothing (replaceIds : Bool) : RowCleaner := ⟨replaceIds, []⟩

def stripping (cleaner : RowCleaner) (names : List String) : RowCleaner :=
  { cleaner with
    strip := names.foldl (fun strip name => if strip.contains name then strip else strip ++ [name])
      cleaner.strip }

def replaceId (row : Document) : Document :=
  match (row.get? "_id").bind Value.oidHex? with
  | some hex => row.put "_id" (.string hex)
  | none => row

def clean (cleaner : RowCleaner) (row : Document) : Document :=
  let stripped := cleaner.strip.foldl Document.remove row
  if cleaner.replaceIds then replaceId stripped else stripped

def cleanAll (cleaner : RowCleaner) (rows : List Document) : List Document := rows.map cleaner.clean

def cleanItem (cleaner : RowCleaner) : Value → Except LoadError Document
  | .object row => pure (cleaner.clean row)
  | item => throw (.malformed (.itemKind item))

def cleanItems (cleaner : RowCleaner) : Value → Except LoadError (List Document)
  | .array items => items.mapM cleaner.cleanItem
  | items => throw (.malformed (.itemsKind items))

end RowCleaner

end DataGrid
