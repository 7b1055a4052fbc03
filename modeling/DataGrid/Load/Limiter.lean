/-!
A limit on how many tasks may be started. A task beyond the limit is dropped: it is neither queued
nor an error.
-/
namespace DataGrid

structure Limiter where
  limit : Nat
  started : Nat
  deriving DecidableEq, Repr

namespace Limiter

def ofLimit (limit : Nat) : Limiter := ⟨limit, 0⟩

def standard : Limiter := .ofLimit 100

def acquire? (limiter : Limiter) : Option Limiter :=
  if limiter.started < limiter.limit then some ⟨limiter.limit, limiter.started + 1⟩ else none

end Limiter

end DataGrid
