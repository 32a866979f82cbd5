import Mathlib.Data.List.Basic
import MmsHttp.Text.CodeTable

namespace MmsHttp.Text.CodeTable

theorem mem_of_search {runs : Array CodeRun} {code low high : Nat} {run : CodeRun}
    (h : search runs code low high = some run) :
    run ∈ runs ∧ run.first ≤ code ∧ code ≤ run.last := by
  fun_induction search runs code low high with
  | case1 => cases h
  | case2 low high _ middle own hown hbelow ih => exact ih h
  | case3 low high _ middle own hown _ habove ih => exact ih h
  | case4 low high _ middle own hown hbelow habove =>
      obtain rfl := Option.some.inj h
      exact ⟨Array.mem_of_getElem? hown, Nat.le_of_not_lt hbelow, Nat.le_of_not_lt habove⟩
  | case5 => cases h

theorem mem_of_find? {table : CodeTable} {code : Nat} {run : CodeRun}
    (h : table.find? code = some run) :
    run ∈ table.runs ∧ run.first ≤ code ∧ code ≤ run.last :=
  mem_of_search h

end MmsHttp.Text.CodeTable
