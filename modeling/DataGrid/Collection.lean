import DataGrid.Load.Session
import DataGrid.Pipeline.Untyped
/-!
Collections of documents in memory, as stores that run pipelines themselves.
-/
namespace DataGrid

structure Collection where
  name : String
  documents : List Document
  deriving DecidableEq, Repr

namespace Collection

def ofDocuments (documents : List Document) : Collection := ⟨"memory", documents⟩

def documents? : List Value → StoreResult (List Document)
  | [] => pure []
  | .object doc :: rest => do pure (doc :: (← documents? rest))
  | other :: _ => throw (.notADocument other)

def ofValues (rows : List Value) : StoreResult Collection := do
  pure (ofDocuments (← documents? rows))

def run (patterns : PatternCompiler) (collection : Collection) (pipeline : Pipeline) :
    StoreResult (List Document) :=
  Pipeline.run patterns pipeline collection.documents

/-- The run over values, asked for documents at its end. -/
def runValues (patterns : PatternCompiler) (collection : Collection) (pipeline : Pipeline) :
    Except RunFault (List Document) := do
  let values ← (Untyped.run patterns pipeline (collection.documents.map .object)).mapError .stage
  Untyped.documents values

def store (patterns : PatternCompiler) (collection : Collection) : Store :=
  -- what was sent before plays no part in an answer
  fun _ pipeline => collection.run patterns pipeline

end Collection

end DataGrid
