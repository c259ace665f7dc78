/-
Functions on the numbers from 0 to `n` that are worked out at most once for each number: a table of
suspended values. A table is the function it was made from (`get_tabulate`), so that a search through tables
means what the plain recursion means and costs one visit for each cell.
-/

namespace DocumentaryCredit

/-- The values of a function, each worked out when it is first asked for. -/
structure Tabulated (α : Type) where
  cells : Array (Thunk α)
  /-- The function itself, for the numbers beyond the table. -/
  beyond : Nat → α

namespace Tabulated

variable {α : Type}

/-- The table of `f` for the numbers below `n`. -/
def tabulate (n : Nat) (f : Nat → α) : Tabulated α :=
  ⟨Array.ofFn fun i : Fin n => Thunk.mk fun _ => f i.val, f⟩

/-- The value at `i`. -/
def get (t : Tabulated α) (i : Nat) : α :=
  if h : i < t.cells.size then t.cells[i].get else t.beyond i

@[simp] theorem get_tabulate (n : Nat) (f : Nat → α) (i : Nat) : (tabulate n f).get i = f i := by
  unfold get tabulate
  split <;> simp [Thunk.get]

end Tabulated

end DocumentaryCredit
