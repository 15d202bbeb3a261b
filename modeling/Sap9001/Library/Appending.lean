import Sap9001.Library.Records
import Mathlib.Algebra.Order.BigOperators.Group.List
import Mathlib.Algebra.Order.Ring.Nat

/-! A file to which several writers append: each of them a record and then, in a step of its own,
the delimiter. When the file holds the records that were written. -/
namespace Records

variable {α : Type*} {delim : α}

variable (delim) in
/-- What such writers can make of an empty file: how many of them have not put the delimiter yet,
the records written, whether one was written behind another without its delimiter, and the file. -/
inductive Appended : ℕ → List (List α) → Bool → List α → Prop
  | nil : Appended 0 [] false []
  | record {n rs torn file r} (h : Appended n rs torn file) (hr : r ≠ []) :
    Appended (n+1) (rs ++ [r]) (torn || decide (n ≠ 0)) (file ++ r)
  | delim {n rs torn file} (h : Appended (n+1) rs torn file) :
    Appended n rs torn (file ++ [delim])

namespace Appended

variable {n : ℕ} {rs extra : List (List α)} {torn : Bool} {file : List α}

theorem ne_nil (h : Appended delim n rs torn file) : ∀ r ∈ rs, r ≠ [] := by
  induction h with
  | nil => simp
  | record _ hr ih =>
    intro r hmem
    rcases List.mem_append.mp hmem with hmem | hmem
    · exact ih r hmem
    · exact List.mem_singleton.mp hmem ▸ hr
  | delim _ ih => exact ih

/-- Nothing but the delimiters that are still to come is missing. -/
theorem length (h : Appended delim n rs torn file) :
    file.length + n = (encode delim rs).length := by
  induction h with
  | nil => rfl
  | record _ _ ih =>
    rw [encode_append,encode_singleton]
    simp only [List.length_append,List.length_singleton]
    omega
  | delim _ ih =>
    simp only [List.length_append,List.length_singleton]
    omega

theorem nil_iff (h : Appended delim n rs torn file) : file = [] ↔ rs = [] := by
  constructor
  · intro hfile
    cases h with
    | nil => rfl
    | record _ hr => exact absurd (List.append_eq_nil_iff.mp hfile).2 hr
    | delim => simp at hfile
  · intro hrs
    have hlength := h.length
    rw [hrs,encode_nil,List.length_nil] at hlength
    exact List.length_eq_zero_iff.mp (by omega)

end Appended

section Runs

variable [DecidableEq α]

variable {n : ℕ} {rs extra : List (List α)} {torn : Bool} {file : List α}

end Runs

end Records
