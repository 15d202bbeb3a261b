import Mathlib.Data.Nat.Notation

/-! The pool of fixed-size blocks (`infra/memory_pool.h`). Blocks are numbered by their
place in the storage, and `n` is the number of blocks. -/
namespace Sap9001

structure MemoryPool (n : ℕ) where
  freeList : List ℕ
  allocatedCount : ℕ

namespace MemoryPool

variable {n : ℕ}

/-- The constructor pushes the blocks in order, so the last one is on top. -/
def new (n : ℕ) : MemoryPool n := ⟨(List.range n).reverse,0⟩

/-- The top of the free list, or no block when the list is empty. -/
def allocate (p : MemoryPool n) : Option ℕ × MemoryPool n :=
  match p.freeList with
  | [] => (none,p)
  | block::rest => (some block,⟨rest,p.allocatedCount + 1⟩)

/-- `none` is the null pointer, and a number from `n` on a pointer outside the storage. -/
def deallocate (p : MemoryPool n) (ptr : Option ℕ) : MemoryPool n :=
  match ptr with
  | none => p
  | some block =>
    if block < n then ⟨block::p.freeList,p.allocatedCount - 1⟩ else p

def capacity (_ : MemoryPool n) : ℕ := n

def available (p : MemoryPool n) : ℕ := p.freeList.length

/-- A null pointer, or one outside the storage. -/
def Foreign (n : ℕ) (ptr : Option ℕ) : Prop := ∀ block, ptr = some block → n ≤ block

theorem deallocate_foreign (p : MemoryPool n) {ptr : Option ℕ} (h : Foreign n ptr) :
    p.deallocate ptr = p := by
  cases ptr with
  | none => rfl
  | some block =>
    have hge := h block rfl
    simp only [deallocate]
    rw [if_neg (by omega)]

theorem allocate_eq_none_iff (p : MemoryPool n) : p.allocate.1 = none ↔ p.available = 0 := by
  cases hfree : p.freeList <;> simp [allocate,available,hfree]

/-- An exhausted pool stays as it is. -/
theorem allocate_none {p q : MemoryPool n} (h : p.allocate = (none,q)) : q = p := by
  cases hfree : p.freeList with
  | nil => simpa [allocate,hfree,eq_comm] using h
  | cons top rest => simp [allocate,hfree] at h

/-- A block that is released at once goes back to the top of the free list. -/
theorem deallocate_allocate {p : MemoryPool n} (hfree : ∀ block ∈ p.freeList, block < n)
    {block : ℕ} {q : MemoryPool n} (h : p.allocate = (some block,q)) :
    q.deallocate (some block) = p := by
  obtain ⟨freeList,count⟩ := p
  cases freeList with
  | nil => simp [allocate] at h
  | cons top rest =>
    obtain ⟨rfl,rfl⟩ : top = block ∧ ⟨rest,count+1⟩ = q := by simpa [allocate] using h
    have hlt : top < n := hfree top (by simp)
    simp [deallocate,hlt]

end MemoryPool
end Sap9001
