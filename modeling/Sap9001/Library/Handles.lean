import Mathlib.Data.List.Basic
import Mathlib.Tactic.Common

/-! Tables of numbered handles to objects, such as file descriptors to open files: the
lowest free number is handed out, numbers are used again, objects are not. -/
namespace Handles

/-- The slot of each number holds the object that the number refers to. -/
structure Table where
  slots : List (Option ℕ)
  next : ℕ
  fresh : ∀ f, some f ∈ slots → f < next

namespace Table

variable (t : Table)

/-- The object behind a number; negative numbers are never in use. -/
def object (h : Int) : Option ℕ := if h < 0 then none else (t.slots[h.toNat]?).join

def lowest : ℕ := t.slots.findIdx (·.isNone)

/-- A new object under the lowest free number. -/
def acquire : Int × Table :=
  (t.lowest,{
    slots := if t.lowest < t.slots.length then t.slots.set t.lowest (some t.next)
      else t.slots ++ [some t.next]
    next := t.next + 1
    fresh := by
      intro f hf
      have hcases : some f ∈ t.slots ∨ f = t.next := by
        split_ifs at hf
        · rcases List.mem_or_eq_of_mem_set hf with h | h
          · exact .inl h
          · exact .inr (Option.some.inj h)
        · simpa using hf
      rcases hcases with h | rfl
      · exact Nat.lt_succ_of_lt (t.fresh f h)
      · exact Nat.lt_succ_self _ })

/-- Releasing a number that is not in use does nothing. -/
def release (h : Int) : Table where
  slots := if h < 0 then t.slots else t.slots.set h.toNat none
  next := t.next
  fresh := by
    intro f hf
    split_ifs at hf
    · exact t.fresh f hf
    · rcases List.mem_or_eq_of_mem_set hf with h | h
      · exact t.fresh f h
      · contradiction

variable {t}

theorem object_lt_next {h : Int} {f : ℕ} (hf : t.object h = some f) : f < t.next := by
  unfold object at hf
  split_ifs at hf
  exact t.fresh f (List.mem_of_getElem? (Option.join_eq_some_iff.mp hf))

@[simp] theorem acquire_nonneg : 0 ≤ t.acquire.1 := Int.natCast_nonneg _

/-- The number handed out was not in use. -/
theorem object_acquire_free : t.object t.acquire.1 = none := by
  simp only [object,acquire,Int.toNat_natCast]
  by_cases hlt : t.lowest < t.slots.length
  · have hnone : (t.slots[t.lowest]).isNone := List.findIdx_getElem (w := hlt)
    rw [List.getElem?_eq_getElem hlt,Option.isNone_iff_eq_none.mp hnone]
    rfl
  · rw [List.getElem?_eq_none (by omega)]
    rfl

theorem object_acquire (h : Int) :
    t.acquire.2.object h = if h = t.acquire.1 then some t.next else t.object h := by
  by_cases hneg : h < 0
  · have hne : h ≠ t.acquire.1 := by
      have := t.acquire_nonneg
      omega
    simp [object,hneg,hne]
  · have heq : h = t.acquire.1 ↔ t.lowest = h.toNat := by
      simp only [acquire]
      omega
    have hle : t.lowest ≤ t.slots.length := List.findIdx_le_length
    simp only [object,if_neg hneg,heq]
    simp only [acquire]
    by_cases hlt : t.lowest < t.slots.length
    · rw [if_pos hlt,List.getElem?_set]
      split_ifs <;> rfl
    · rw [if_neg hlt,List.getElem?_append]
      split_ifs with h₁ h₂ h₂
      · omega
      · rfl
      · simp [show h.toNat - t.slots.length = 0 by omega]
      · rw [List.getElem?_eq_none (by simp; omega),List.getElem?_eq_none (by omega)]

theorem object_release (g h : Int) :
    (t.release g).object h = if h = g then none else t.object h := by
  by_cases hneg : h < 0
  · simp [object,hneg]
  · by_cases hg : g < 0
    · have hne : h ≠ g := by omega
      simp [object,release,hneg,hg,hne]
    · have heq : h = g ↔ g.toNat = h.toNat := by omega
      simp only [object,release,if_neg hneg,if_neg hg,heq]
      rw [List.getElem?_set]
      split_ifs <;> rfl

/-- Releasing the number just handed out restores every reference. -/
theorem object_acquire_release (h : Int) :
    (t.acquire.2.release t.acquire.1).object h = t.object h := by
  rw [object_release,object_acquire]
  split_ifs with heq
  · rw [heq,object_acquire_free]
  · rfl

end Table
end Handles
