import QueryLoom.Template.Request

/-!
# Pages

A page is a number of rows behind an offset. Pages are counted from one; size zero stands for all
rows at once. All numbers have 64 bits, and the product of two of them wraps around.
-/

namespace QueryLoom

/-- A number in 64 bits. -/
scoped instance coeUInt64 : Coe Nat UInt64 := ⟨.ofNat⟩

/-- Which page of a query is asked for, and what is asked for beside its rows. -/
structure PageRequest where
  number : UInt64
  size : UInt64
  /-- The template limits its rows itself. -/
  limitsItself : Bool
  /-- Rows are counted with a template of their own. -/
  hasCountTemplate : Bool
  /-- A summary is asked for. -/
  wantsSum : Bool
  /-- The summary has a template of its own. -/
  hasSumTemplate : Bool

namespace PageRequest

/-- Page `number` of `size` rows, and the number of rows. -/
def ofNumber (number size : Nat) : PageRequest := ⟨number, size, false, false, false, false⟩

/-- The number of rows before the page; page zero is the first page. -/
def offset (p : PageRequest) : Nat := ((max p.number 1 - 1) * p.size).toNat

/-- The rows of the pages before are counted in 64 bits. -/
theorem offset_eq (p : PageRequest) :
    p.offset = (p.number.toNat - 1) * p.size.toNat % UInt64.size := by
  have hmax : (max p.number 1).toNat = max p.number.toNat 1 := by
    change (if p.number ≤ 1 then 1 else p.number).toNat = _
    split <;> simp_all only [UInt64.le_iff_toNat_le, UInt64.toNat_one]
    all_goals omega
  have hle : 1 ≤ max p.number 1 := by
    rw [UInt64.le_iff_toNat_le, hmax]
    exact Nat.le_max_right ..
  have hsub : max p.number.toNat 1 - 1 = p.number.toNat - 1 := by omega
  rw [offset, UInt64.toNat_mul, UInt64.toNat_sub_of_le _ _ hle, hmax, UInt64.toNat_one, hsub]

/-- How many pages `total` rows make. -/
def pageCount (p : PageRequest) (total : Nat) : Nat :=
  if p.size = 0 then (if total = 0 then 0 else 1)
  else (total + p.size.toNat - 1) / p.size.toNat

end PageRequest

/-- The request for the rows of a page. Its bounds also become parameters, where the parameters
are an object or absent. -/
def Request.paged (r : Request) (p : PageRequest) : Request :=
  let bounds (bag : KeyMap Json) : Json :=
    .object ((bag.insert "limitStart" (.int p.offset)).insert "limitEnd" (.int p.size.toNat))
  let params := match r.params with
    | .object entries => bounds entries
    | .null => bounds []
    | other => other
  { r with limitStart? := some p.offset, limitEnd? := some p.size.toNat, params }

end QueryLoom
