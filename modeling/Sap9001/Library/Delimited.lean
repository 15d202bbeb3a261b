import Mathlib.Data.List.DropRight
import Mathlib.Data.List.TakeWhile
import Mathlib.Tactic.Common

/-! Text with padding around it and separators in it: trimming both ends, and splitting at the first
or the last occurrence of a separator. -/
namespace Delimited

variable {α : Type*}

section Padding

variable (p : α → Bool)

/-- The text without the padding in front of it and behind it. -/
def trim (s : List α) : List α := (s.dropWhile p).rdropWhile p

def Padding (ws : List α) : Prop := ∀ c ∈ ws, p c = true

/-- No padding at either end. -/
def Trimmed (s : List α) : Prop :=
  (∀ c ∈ s.head?, p c = false) ∧ ∀ c ∈ s.getLast?, p c = false

instance (ws : List α) : Decidable (Padding p ws) := inferInstanceAs (Decidable (∀ c ∈ ws, _))

instance (s : List α) : Decidable (Trimmed p s) := inferInstanceAs (Decidable (_ ∧ _))

variable {p} {c : α} {ws pre post s : List α}

theorem rdropWhile_append_padding (hpost : Padding p post) (s : List α) :
    (s ++ post).rdropWhile p = s.rdropWhile p := by
  have hrev : ∀ c ∈ post.reverse, p c = true := fun c hc => hpost c (List.mem_reverse.mp hc)
  rw [List.rdropWhile,List.reverse_append,List.dropWhile_append_of_pos hrev,List.rdropWhile]

/-- Behind the last character that is no padding everything goes. -/
theorem rdropWhile_append_cons (hc : p c = false) (s t : List α) :
    (s ++ c::t).rdropWhile p = s ++ c::t.rdropWhile p := by
  induction t using List.reverseRecOn with
  | nil => simp [hc]
  | append_singleton t x ih =>
    rw [← List.cons_append,← List.append_assoc,List.rdropWhile_concat,List.rdropWhile_concat]
    split_ifs
    · exact ih
    · simp

theorem trim_padding (hws : Padding p ws) : trim p ws = [] := by
  rw [trim,List.dropWhile_eq_nil_iff.mpr hws,List.rdropWhile_nil]

theorem trim_cons (hpre : Padding p pre) (hc : p c = false) (s : List α) :
    trim p (pre ++ c::s) = c::s.rdropWhile p := by
  rw [trim,List.dropWhile_append_of_pos hpre,List.dropWhile_cons_of_neg (by simp [hc])]
  exact rdropWhile_append_cons hc [] s

theorem mem_of_mem_trim (h : c ∈ trim p s) : c ∈ s :=
  List.dropWhile_subset _ ((List.rdropWhile_prefix p _).subset h)

/-- Every text is padding, or has a first character that is none. -/
theorem padding_or_cons (s : List α) :
    Padding p s ∨ ∃ pre c t, Padding p pre ∧ p c = false ∧ s = pre ++ c::t := by
  cases h : s.dropWhile p with
  | nil => exact .inl (List.dropWhile_eq_nil_iff.mp h)
  | cons c t =>
    have hc : p c = false := by
      have hnot := List.head_dropWhile_not p (l := s) (by simp [h])
      simpa [h] using hnot
    refine .inr ⟨s.takeWhile p,c,t,fun x hx => List.mem_takeWhile_imp hx,hc,?_⟩
    rw [← h,List.takeWhile_append_dropWhile]

theorem trim_rdropWhile (s : List α) : trim p (s.rdropWhile p) = trim p s := by
  rcases padding_or_cons (p := p) s with hs | ⟨pre,c,t,hpre,hc,rfl⟩
  · rw [List.rdropWhile_eq_nil_iff.mpr hs,trim_padding hs]
    rfl
  · rw [rdropWhile_append_cons hc,trim_cons hpre hc,trim_cons hpre hc,List.rdropWhile_idempotent]

theorem trim_padded (hpre : Padding p pre) (hs : Trimmed p s) (hpost : Padding p post) :
    trim p (pre ++ (s ++ post)) = s := by
  cases s with
  | nil =>
    refine trim_padding fun c hc => ?_
    rcases List.mem_append.mp hc with hc | hc
    · exact hpre c hc
    · exact hpost c hc
  | cons c s =>
    have hc : p c = false := hs.1 c rfl
    rw [List.cons_append,trim_cons hpre hc,rdropWhile_append_padding hpost]
    have hself := rdropWhile_append_cons hc [] s
    rw [List.nil_append,List.nil_append] at hself
    rw [← hself,List.rdropWhile_eq_self_iff]
    intro hne
    simp [hs.2 _ (List.getLast?_eq_some_getLast hne)]

end Padding

section Separator

variable [DecidableEq α] {c : α} {pre post : List α}

/-- The position of the last occurrence. -/
def lastIdxOf? (s : List α) (c : α) : Option ℕ :=
  (s.reverse.idxOf? c).map fun i => s.length - 1 - i

theorem idxOf?_append_cons (h : c ∉ pre) (post : List α) :
    (pre ++ c::post).idxOf? c = some pre.length := by
  have hnone : pre.findIdx? (· == c) = none := by
    rw [List.findIdx?_eq_none_iff]
    intro x hx
    simpa using ne_of_mem_of_not_mem hx h
  rw [List.idxOf?,List.findIdx?_append,hnone]
  simp [List.findIdx?_cons]

theorem lastIdxOf?_append_cons (pre : List α) (h : c ∉ post) :
    lastIdxOf? (pre ++ c::post) c = some pre.length := by
  have hrev : (pre ++ c::post).reverse = post.reverse ++ c::pre.reverse := by simp
  rw [lastIdxOf?,hrev,idxOf?_append_cons (by simpa using h)]
  simp

end Separator

end Delimited
