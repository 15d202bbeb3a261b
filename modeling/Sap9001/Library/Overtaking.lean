import Mathlib.Data.List.Perm.Basic
import Mathlib.Tactic.Common

/-! Waiting lines whose customers carry the number of their arrival, and which of them may be
served before an earlier one: those that overtake a customer sent back to the end. -/
namespace Overtaking

variable {α : Type*} (num : α → ℕ)

/-- All arrivals, the line, those served and those who lost their place. -/
structure Ordered (all line served displaced : List α) : Prop where
  accounted : (line ++ served).Perm all
  placed : line.Pairwise fun a b => num b < num a → b ∈ displaced
  earlier : ∀ p ∈ served, ∀ q ∈ all, num q < num p → q ∈ served ∨ q ∈ displaced
  undisturbed : displaced = [] → served ++ line = all

namespace Ordered

variable {num} {all line served displaced : List α}

/-- A line in the order of arrival. -/
theorem start (h : all.Pairwise fun a b => num a < num b) : Ordered num all all [] [] where
  accounted := by simp
  placed := h.imp fun hab hba => absurd hab (by omega)
  earlier := by simp
  undisturbed := fun _ => rfl

theorem arrive (h : Ordered num all line served displaced) {p : α} (hp : ∀ q ∈ all, num q < num p) :
    Ordered num (all ++ [p]) (line ++ [p]) served displaced where
  accounted := by
    have hmove : (line ++ [p] ++ served).Perm (line ++ served ++ [p]) := by
      rw [List.append_assoc,List.append_assoc]
      exact List.perm_append_comm.append_left line
    exact hmove.trans (h.accounted.append_right [p])
  placed := by
    refine List.pairwise_append.mpr ⟨h.placed,by simp,?_⟩
    intro a ha b hb hlt
    obtain rfl := List.mem_singleton.mp hb
    have hmem : a ∈ all := h.accounted.subset (List.mem_append_left _ ha)
    exact absurd (hp a hmem) (by omega)
  earlier := by
    intro q hq r hr hlt
    rcases List.mem_append.mp hr with hr | hr
    · exact h.earlier q hq r hr hlt
    · obtain rfl := List.mem_singleton.mp hr
      have hmem : q ∈ all := h.accounted.subset (List.mem_append_right _ hq)
      exact absurd (hp q hmem) (by omega)
  undisturbed := by
    intro hnone
    rw [← List.append_assoc,h.undisturbed hnone]

/-- The customer served is the first of those who did not lose their place. -/
theorem serve {p : α} {front rest : List α}
    (h : Ordered num all (front ++ p::rest) served displaced) (hfront : ∀ q ∈ front, q ∈ displaced) :
    Ordered num all (front ++ rest) (served ++ [p]) displaced where
  accounted := by
    refine List.Perm.trans ?_ h.accounted
    have hmove : (rest ++ (served ++ [p])).Perm (p::rest ++ served) := by
      rw [← List.append_assoc]
      exact List.perm_append_singleton p (rest ++ served)
    simpa using hmove.append_left front
  placed := by
    have hsub : (front ++ rest).Sublist (front ++ p::rest) :=
      (List.sublist_cons_self p rest).append_left front
    exact h.placed.sublist hsub
  earlier := by
    intro q hq r hr hlt
    rcases List.mem_append.mp hq with hq | hq
    · exact (h.earlier q hq r hr hlt).imp_left (List.mem_append_left _)
    · obtain rfl := List.mem_singleton.mp hq
      rcases List.mem_append.mp (h.accounted.symm.subset hr) with hline | hserved
      · rcases List.mem_append.mp hline with hmem | hmem
        · exact .inr (hfront r hmem)
        · rcases List.mem_cons.mp hmem with rfl | hmem
          · omega
          · -- The earlier one stands behind.
            have hpair := (List.pairwise_append.mp h.placed).2.1
            exact .inr (List.rel_of_pairwise_cons hpair hmem hlt)
      · exact .inl (List.mem_append_left _ hserved)
  undisturbed := by
    intro hnone
    have hempty : front = [] := List.eq_nil_iff_forall_not_mem.mpr fun q hq => by
      have := hfront q hq
      simp [hnone] at this
    have h₀ := h.undisturbed hnone
    rw [hempty] at h₀ ⊢
    simpa using h₀

theorem mono (h : Ordered num all line served displaced) (more : List α) :
    Ordered num all line served (displaced ++ more) where
  accounted := h.accounted
  placed := h.placed.imp fun hab hlt => List.mem_append_left _ (hab hlt)
  earlier := fun p hp q hq hlt => (h.earlier p hp q hq hlt).imp_right (List.mem_append_left _)
  undisturbed := fun hnone => h.undisturbed (List.append_eq_nil_iff.mp hnone).1

/-- The first customer goes to the end of the line. -/
theorem sendBack {p : α} {rest : List α} (h : Ordered num all (p::rest) served displaced) :
    Ordered num all (rest ++ [p]) served
      (displaced ++ if rest = [] then [] else [p]) := by
  by_cases hrest : rest = []
  · subst hrest
    simpa using h
  · have hline := (List.pairwise_cons.mp h.placed).2
    rw [if_neg hrest]
    refine ⟨(List.perm_append_singleton p rest).append_right served |>.trans h.accounted,?_,
      (h.mono [p]).earlier,by simp⟩
    refine List.pairwise_append.mpr ⟨(hline.imp fun hab hlt => List.mem_append_left _ (hab hlt)),
      by simp,?_⟩
    intro a _ b hb _
    obtain rfl := List.mem_singleton.mp hb
    simp

end Ordered
end Overtaking
