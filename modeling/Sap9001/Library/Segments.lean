import Mathlib.Data.List.Nodup
import Mathlib.Data.List.Sort
import Mathlib.Tactic.Common

/-! A stream cut into consecutive pieces. Two cuts of one stream are compared through the
positions at which their pieces start. -/
namespace Segments

variable {α β : Type*}

/-- Every piece with the stream position of its first element. -/
def offsets : ℕ → List (List α) → List (ℕ × List α)
  | _, [] => []
  | n, p::ps => (n,p)::offsets (n + p.length) ps

theorem le_of_mem_offsets {n o : ℕ} {p : List α} {ps : List (List α)}
    (h : (o,p) ∈ offsets n ps) : n ≤ o := by
  induction ps generalizing n with
  | nil => simp [offsets] at h
  | cons q ps ih =>
    rw [offsets,List.mem_cons,Prod.mk.injEq] at h
    rcases h with ⟨rfl,-⟩ | h
    · exact le_refl _
    · have hle := ih h
      omega

theorem mem_of_mem_offsets {n o : ℕ} {p : List α} {ps : List (List α)}
    (h : (o,p) ∈ offsets n ps) : p ∈ ps := by
  induction ps generalizing n with
  | nil => simp [offsets] at h
  | cons q ps ih =>
    rw [offsets,List.mem_cons,Prod.mk.injEq] at h
    rcases h with ⟨-,rfl⟩ | h
    · simp
    · simp [ih h]

/-- Pieces that are not empty start at strictly increasing positions. -/
theorem offsets_strict {ps : List (List α)} (h : ∀ p ∈ ps, p ≠ []) (n : ℕ) :
    (offsets n ps).Pairwise (fun a b => a.1 < b.1) := by
  induction ps generalizing n with
  | nil => exact List.Pairwise.nil
  | cons p ps ih =>
    refine List.Pairwise.cons ?_ (ih (fun q hq => h q (by simp [hq])) _)
    rintro ⟨o,q⟩ hq
    have hle := le_of_mem_offsets hq
    have hpos := List.length_pos_iff.mpr (h p (by simp))
    simp only
    omega

theorem offset_unique {ps : List (List α)} (h : ∀ p ∈ ps, p ≠ []) {n o : ℕ} {p q : List α}
    (hp : (o,p) ∈ offsets n ps) (hq : (o,q) ∈ offsets n ps) : p = q := by
  induction ps generalizing n with
  | nil => simp [offsets] at hp
  | cons r ps ih =>
    have hpos := List.length_pos_iff.mpr (h r (by simp))
    rw [offsets,List.mem_cons,Prod.mk.injEq] at hp hq
    rcases hp with ⟨rfl,rfl⟩ | hp <;> rcases hq with ⟨hq₁,hq₂⟩ | hq
    · exact hq₂.symm
    · have hle := le_of_mem_offsets hq
      omega
    · have hle := le_of_mem_offsets hp
      omega
    · exact ih (fun s hs => h s (by simp [hs])) hp hq

/-- A piece that starts at `o` is what the stream begins with from `o` on. -/
theorem isPrefix_of_mem_offsets {n o : ℕ} {p : List α} {ps : List (List α)}
    (h : (o,p) ∈ offsets n ps) : p <+: ps.flatten.drop (o - n) := by
  induction ps generalizing n with
  | nil => simp [offsets] at h
  | cons q ps ih =>
    rw [offsets,List.mem_cons,Prod.mk.injEq] at h
    rcases h with ⟨rfl,rfl⟩ | h
    · simp
    · have hle := le_of_mem_offsets h
      have hdrop : (q::ps).flatten.drop (o - n) = ps.flatten.drop (o - (n + q.length)) := by
        rw [List.flatten_cons,show o - n = q.length + (o - (n + q.length)) by omega,
          List.drop_length_add_append]
      rw [hdrop]
      exact ih h

/-- Two pieces that start at the same position of the same stream agree as far as both go. -/
theorem take_eq_of_offsets {ps qs : List (List α)} (hst : ps.flatten = qs.flatten) {o : ℕ}
    {p q : List α} (hp : (o,p) ∈ offsets 0 ps) (hq : (o,q) ∈ offsets 0 qs) {k : ℕ}
    (hkp : k ≤ p.length) (hkq : k ≤ q.length) : p.take k = q.take k := by
  have h₁ := isPrefix_of_mem_offsets hp
  have h₂ := isPrefix_of_mem_offsets hq
  rw [hst] at h₁
  rw [List.prefix_iff_eq_take.mp ((List.take_prefix k p).trans h₁),
    List.prefix_iff_eq_take.mp ((List.take_prefix k q).trans h₂),List.length_take,
    List.length_take,min_eq_left hkp,min_eq_left hkq]

/-- The pieces a partial reading accepts, each with its position. -/
def accepted (f : List α → Option β) (ps : List (List α)) : List (ℕ × β) :=
  (offsets 0 ps).filterMap fun e => (f e.2).map fun b => (e.1,b)

theorem mem_accepted {f : List α → Option β} {ps : List (List α)} {o : ℕ} {b : β} :
    (o,b) ∈ accepted f ps ↔ ∃ p, (o,p) ∈ offsets 0 ps ∧ f p = some b := by
  simp only [accepted,List.mem_filterMap,Option.map_eq_some_iff,Prod.exists,Prod.mk.injEq]
  constructor
  · rintro ⟨o',p,hp,b',hb,rfl,rfl⟩
    exact ⟨p,hp,hb⟩
  · rintro ⟨p,hp,hb⟩
    exact ⟨o,p,hp,b,hb,rfl,rfl⟩

theorem accepted_strict {f : List α → Option β} {ps : List (List α)} (h : ∀ p ∈ ps, p ≠ []) :
    (accepted f ps).Pairwise (fun a b => a.1 < b.1) := by
  refine List.Pairwise.filterMap _ ?_ (offsets_strict h 0)
  intro a a' hlt b hb b' hb'
  simp only [Option.map_eq_some_iff] at hb hb'
  obtain ⟨_,_,rfl⟩ := hb
  obtain ⟨_,_,rfl⟩ := hb'
  exact hlt

/-- Readings of two cuts are equal when they accept the same values at the same positions. -/
theorem accepted_ext {f : List α → Option β} {ps qs : List (List α)} (hp : ∀ p ∈ ps, p ≠ [])
    (hq : ∀ q ∈ qs, q ≠ []) (h : ∀ e, e ∈ accepted f ps ↔ e ∈ accepted f qs) :
    accepted f ps = accepted f qs := by
  have hsp := accepted_strict (f := f) hp
  have hsq := accepted_strict (f := f) hq
  have hnp : (accepted f ps).Nodup := hsp.imp (fun h heq => by simp [heq] at h)
  have hnq : (accepted f qs).Nodup := hsq.imp (fun h heq => by simp [heq] at h)
  have hperm := (List.perm_ext_iff_of_nodup hnp hnq).mpr h
  refine List.Perm.eq_of_pairwise ?_ hsp hsq hperm
  intro a b _ _ hab hba
  omega

end Segments
