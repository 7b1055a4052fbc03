import DataGrid.Proofs.Pipeline.Run
import DataGrid.Request.Sort
/-!
Pages of a list. The paging stages of a request never fail: they leave out what comes before the
page and what comes behind it, and a page that starts behind the end is empty.
-/
namespace DataGrid.Paging

variable {α β : Type}

/-- The part of a list that a request shows. A number of zero counts as none. -/
def page (skip take : Option UInt64) (items : List α) : List α :=
  let rest := items.drop (((positive skip).map UInt64.toNat).getD 0)
  match positive take with
  | some number => rest.take number.toNat
  | none => rest

/-- How many of so many items a page shows. -/
def shown (skip take : Option UInt64) (total : Nat) : Nat :=
  let rest := total - (skip.map UInt64.toNat).getD 0
  match take with
  | some number => if number = 0 then rest else min number.toNat rest
  | none => rest

theorem skipped_eq (skip : Option UInt64) :
    ((positive skip).map UInt64.toNat).getD 0 = (skip.map UInt64.toNat).getD 0 := by
  cases skip with
  | none => rfl
  | some number =>
      by_cases above : number > 0
      · simp [positive, Option.filter, above]
      · have zero : number = 0 := by
          apply UInt64.toNat_inj.mp
          have bound : ¬ 0 < number.toNat := fun more => above (UInt64.lt_iff_toNat_lt.mpr more)
          simpa using bound
        simp [zero, positive, Option.filter]

theorem length_page (skip take : Option UInt64) (items : List α) :
    (page skip take items).length = shown skip take items.length := by
  simp only [page, shown, skipped_eq]
  cases take with
  | none => simp [positive]
  | some number =>
      by_cases zero : number = 0
      · simp [zero, positive, Option.filter]
      · have above : number > 0 := by
          apply UInt64.lt_iff_toNat_lt.mpr
          have nonzero : number.toNat ≠ 0 := fun same => zero (UInt64.toNat_inj.mp same)
          simpa using Nat.pos_of_ne_zero nonzero
        simp [positive, Option.filter, above, zero]

theorem page_map (skip take : Option UInt64) (change : α → β) (items : List α) :
    page skip take (items.map change) = (page skip take items).map change := by
  unfold page
  cases positive take with
  | none => simp
  | some number => simp

theorem page_none (items : List α) : page none none items = items := rfl

theorem page_sublist (skip take : Option UInt64) (items : List α) :
    (page skip take items).Sublist items := by
  unfold page
  cases positive take with
  | none => exact List.drop_sublist _ _
  | some number => exact (List.take_sublist _ _).trans (List.drop_sublist _ _)

theorem run_stages (patterns : PatternCompiler) (skip take : Option UInt64)
    (docs : List Document) :
    Pipeline.run patterns (stages skip take) docs = .ok (page skip take docs) := by
  unfold stages page
  cases positive skip <;> cases positive take <;> rfl

end DataGrid.Paging
