import Sap9001.HJ212Builder
import Sap9001.Library.StepSystem
import Mathlib.Data.List.Perm.Basic
import Mathlib.Data.List.Range

/-! Who holds the blocks of a pool (`infra/memory_pool.h`) after any sequence of calls, and
the pool that the packets are built in (`protocol/hj212_builder.h`). -/
namespace Sap9001
namespace MemoryPool

variable {n : ℕ}

inductive Call
  | allocate
  | deallocate (ptr : Option ℕ)

/-- A pool with the blocks that `allocate` has returned and that are not released since. -/
structure History (n : ℕ) where
  pool : MemoryPool n
  outstanding : List ℕ

namespace History

def start (n : ℕ) : History n := ⟨.new n,[]⟩

def next (s : History n) : Call → History n
  | .allocate => ⟨s.pool.allocate.2,s.pool.allocate.1.toList ++ s.outstanding⟩
  | .deallocate ptr =>
    ⟨s.pool.deallocate ptr,match ptr with
      | none => s.outstanding
      | some block => s.outstanding.erase block⟩

/-- What is released is null, outside the pool, or held. -/
def Admits (s : History n) : Call → Prop
  | .allocate => True
  | .deallocate ptr => Foreign n ptr ∨ ∃ block ∈ s.outstanding, ptr = some block

def Reachable (s : History n) : Prop :=
  StepSystem.Reachable (· = start n) (fun s c t => s.Admits c ∧ s.next c = t) s

/-- The blocks that are held and the free ones are those of the pool, each once. -/
structure Inv (s : History n) : Prop where
  partition : (s.outstanding ++ s.pool.freeList).Perm (List.range n)
  counted : s.pool.allocatedCount = s.outstanding.length

theorem start_inv (n : ℕ) : Inv (start n) where
  partition := List.reverse_perm _
  counted := rfl

variable {s : History n}

theorem Inv.lt (h : Inv s) {block : ℕ} (hmem : block ∈ s.outstanding ++ s.pool.freeList) :
    block < n :=
  List.mem_range.mp (h.partition.mem_iff.mp hmem)

theorem allocate_inv (h : Inv s) : Inv (s.next .allocate) := by
  obtain ⟨⟨freeList,count⟩,outstanding⟩ := s
  obtain ⟨hpart,hcount⟩ := h
  cases freeList with
  | nil => exact ⟨hpart,hcount⟩
  | cons block rest =>
    constructor
    · -- The block moves from the free list to the ones that are held.
      have hmove : (block::(outstanding ++ rest)).Perm (outstanding ++ block::rest) :=
        List.perm_middle.symm
      exact hmove.trans hpart
    · show count + 1 = outstanding.length + 1
      rw [show count = outstanding.length from hcount]

/-- A held block goes back to the free list. -/
theorem deallocate_inv (h : Inv s) {block : ℕ} (hheld : block ∈ s.outstanding) :
    Inv (s.next (.deallocate (some block))) := by
  have hlt : block < n := h.lt (List.mem_append_left _ hheld)
  have hpos : 0 < s.outstanding.length := List.length_pos_of_mem hheld
  constructor
  · have hback : (s.outstanding.erase block ++ block::s.pool.freeList).Perm
        (s.outstanding ++ s.pool.freeList) := by
      refine List.perm_middle.trans ?_
      exact (List.perm_cons_erase hheld).symm.append_right s.pool.freeList
    simpa [next,deallocate,hlt] using hback.trans h.partition
  · have hcount := h.counted
    simp only [next,deallocate,if_pos hlt,List.length_erase_of_mem hheld]
    omega

/-- A pointer that is not to a block of the pool changes nothing: no block of that number is
held either. -/
theorem foreign_next (h : Inv s) {ptr : Option ℕ} (hforeign : Foreign n ptr) :
    s.next (.deallocate ptr) = s := by
  have hpool := s.pool.deallocate_foreign hforeign
  cases ptr with
  | none => rfl
  | some block =>
    have hge : n ≤ block := hforeign block rfl
    have hnot : block ∉ s.outstanding := by
      intro hmem
      have hlt := h.lt (List.mem_append_left _ hmem)
      omega
    simp only [next,hpool,List.erase_of_not_mem hnot]

theorem next_inv (h : Inv s) {c : Call} (hc : s.Admits c) : Inv (s.next c) := by
  cases c with
  | allocate => exact allocate_inv h
  | deallocate ptr =>
    rcases hc with hforeign | ⟨block,hheld,rfl⟩
    · rw [foreign_next h hforeign]
      exact h
    · exact deallocate_inv h hheld

theorem reachable_inv (h : Reachable s) : Inv s := by
  refine StepSystem.Reachable.invariant (I := Inv) ?_ ?_ h
  · intro s₀ hs
    rw [hs]
    exact start_inv n
  · rintro s c t hs ⟨hc,rfl⟩
    exact next_inv hs hc

/-- What the invariant says about the calls of the pool. -/
structure Sound (s : History n) : Prop where
  /-- No block is held twice. -/
  owner : s.outstanding.Nodup
  partition : (s.outstanding ++ s.pool.freeList).Perm (List.range n)
  counted : s.pool.allocatedCount = s.outstanding.length
  conserved : s.pool.allocatedCount + s.pool.available = s.pool.capacity
  exhausted : s.pool.allocate.1 = none ↔ s.outstanding.length = n
  fresh : ∀ block, s.pool.allocate.1 = some block → block < n ∧ block ∉ s.outstanding
  foreign : ∀ ptr, Foreign n ptr → s.pool.deallocate ptr = s.pool

theorem Inv.nodup (h : Inv s) : (s.outstanding ++ s.pool.freeList).Nodup :=
  h.partition.nodup_iff.mpr List.nodup_range

theorem Inv.length (h : Inv s) : s.outstanding.length + s.pool.available = n := by
  have hlen := h.partition.length_eq
  rwa [List.length_append,List.length_range] at hlen

theorem Inv.fresh (h : Inv s) {block : ℕ} (hblock : s.pool.allocate.1 = some block) :
    block < n ∧ block ∉ s.outstanding := by
  have hfree : block ∈ s.pool.freeList := by
    cases hlist : s.pool.freeList with
    | nil => simp [allocate,hlist] at hblock
    | cons top rest =>
      have htop : top = block := by simpa [allocate,hlist] using hblock
      simp [htop]
  constructor
  · exact h.lt (List.mem_append_right _ hfree)
  · intro hheld
    exact (List.nodup_append.mp h.nodup).2.2 block hheld block hfree rfl

theorem Inv.sound (h : Inv s) : Sound s where
  owner := (List.nodup_append.mp h.nodup).1
  partition := h.partition
  counted := h.counted
  conserved := by
    rw [h.counted]
    exact h.length
  exhausted := by
    have hlen := h.length
    rw [allocate_eq_none_iff]
    omega
  fresh := fun _ hblock => h.fresh hblock
  foreign := fun _ hforeign => s.pool.deallocate_foreign hforeign

end History
end MemoryPool

namespace HJ212PacketBuilder

open MemoryPool

/-- Every exit of `build` behind the allocation releases the buffer. -/
theorem build_pool {pool : MemoryPool 8} (hfree : ∀ block ∈ pool.freeList, block < 8)
    (b : HJ212PacketBuilder) (activeId : Int) : (b.build activeId pool).2 = pool := by
  cases halloc : pool.allocate with
  | mk ptr rest =>
    cases ptr with
    | none =>
      simp only [build,halloc]
      exact allocate_none halloc
    | some block =>
      have hback := deallocate_allocate hfree halloc
      simp only [build,halloc]
      split_ifs
      · exact hback
      · exact hback

/-- The pool after these packets are built one after the other. -/
def buildAll (packets : List (HJ212PacketBuilder × Int)) (pool : MemoryPool 8) : MemoryPool 8 :=
  packets.foldl (fun pool packet => (packet.1.build packet.2 pool).2) pool

theorem buildAll_pool {pool : MemoryPool 8} (hfree : ∀ block ∈ pool.freeList, block < 8)
    (packets : List (HJ212PacketBuilder × Int)) : buildAll packets pool = pool := by
  induction packets with
  | nil => rfl
  | cons packet packets ih =>
    simp only [buildAll,List.foldl_cons] at ih ⊢
    rw [build_pool hfree]
    exact ih

/-- After any calls that release only what is held, every block is free or has one holder.
Building packets leaves such a pool as it is, and never exhausts it. -/
theorem blocks_conserved :
    (∀ (n : ℕ) (s : History n), s.Reachable → s.Sound) ∧
    (∀ s : History 8, s.Reachable → ∀ packets, buildAll packets s.pool = s.pool) ∧
    ∀ packets, (buildAll packets (.new 8)).allocate.1 ≠ none := by
  have hsame : ∀ s : History 8, s.Reachable → ∀ packets, buildAll packets s.pool = s.pool := by
    intro s hs packets
    have hinv := History.reachable_inv hs
    exact buildAll_pool (fun block hblock => hinv.lt (List.mem_append_right _ hblock)) packets
  refine ⟨fun n s hs => (History.reachable_inv hs).sound,hsame,fun packets => ?_⟩
  have hstart : (History.start 8).Reachable := ⟨History.start 8,[],rfl,.refl _⟩
  have hpool : buildAll packets (.new 8) = .new 8 := hsame (History.start 8) hstart packets
  rw [hpool]
  decide

/-- Two blocks are handed out, the first of them comes back, and so does a null pointer. -/
theorem one_block_outstanding : (⟨⟨[1],1⟩,[0]⟩ : History 2).Sound := by
  have hreach : (⟨⟨[1],1⟩,[0]⟩ : History 2).Reachable := by
    refine ⟨History.start 2,[.allocate,.allocate,.deallocate (some 1),.deallocate none],rfl,?_⟩
    have hnull : (⟨⟨[1],1⟩,[0]⟩ : History 2).Admits (.deallocate none) := .inl (by simp [Foreign])
    have hheld : (⟨⟨[],2⟩,[0,1]⟩ : History 2).Admits (.deallocate (some 1)) :=
      .inr ⟨1,by decide,rfl⟩
    exact .cons ⟨trivial,rfl⟩ (.cons ⟨trivial,rfl⟩ (.cons ⟨hheld,rfl⟩ (.cons ⟨hnull,rfl⟩ (.refl _))))
  exact blocks_conserved.1 2 _ hreach

end HJ212PacketBuilder
end Sap9001
