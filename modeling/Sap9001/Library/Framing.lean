import Mathlib.Data.List.TakeWhile
import Mathlib.Tactic.Common

/-! Frames in a stream: a start symbol, a body, and the next stop symbol. A scanner that takes one
symbol at a time against the stream as a whole. -/
namespace Framing

variable {α β : Type*} (start stop : α → Bool)

/-- The bodies of the frames that the stream completes; other symbols stand between them. -/
def bodies (s : List α) : List (List α) :=
  match _hs : s.dropWhile (!start ·) with
  | [] => []
  | _::opened =>
    match _ho : opened.dropWhile (!stop ·) with
    | [] => []
    | _::rest => opened.takeWhile (!stop ·)::bodies rest
termination_by s.length
decreasing_by
  have hopened := (s.dropWhile_sublist (!start ·)).length_le
  have hrest := (opened.dropWhile_sublist (!stop ·)).length_le
  rw [_hs,List.length_cons] at hopened
  rw [_ho,List.length_cons] at hrest
  omega

/-- What the scanner holds after a symbol, the body so far of a frame that is open, and the body
that the symbol completes. -/
def next (held : Option (List α)) (c : α) : Option (List α) × Option (List α) :=
  match held with
  | none => (if start c then some [] else none,none)
  | some body => if stop c then (none,some body) else (some (body ++ [c]),none)

/-- The bodies that a scanner completes on the stream. -/
def emitted : Option (List α) → List α → List (List α)
  | _, [] => []
  | held, c::s => (next start stop held c).2.toList ++ emitted (next start stop held c).1 s

variable {start stop} {c : α} {s : List α}

theorem bodies_nil : bodies start stop [] = [] := by
  rw [bodies]
  rfl

theorem bodies_skip (hc : start c = false) : bodies start stop (c::s) = bodies start stop s := by
  have hdrop : (c::s).dropWhile (!start ·) = s.dropWhile (!start ·) :=
    List.dropWhile_cons_of_pos (by simp [hc])
  rw [bodies,bodies,hdrop]

theorem bodies_open (hc : start c = true) : bodies start stop (c::s) =
    match s.dropWhile (!stop ·) with
    | [] => []
    | _::rest => s.takeWhile (!stop ·)::bodies start stop rest := by
  have hdrop : (c::s).dropWhile (!start ·) = c::s := List.dropWhile_cons_of_neg (by simp [hc])
  rw [bodies,hdrop]
  dsimp only
  split <;> rename_i heq <;> rw [heq]

/-- The scanner completes the bodies of the stream; with a frame open it first completes that
one. -/
theorem emitted_eq (s : List α) : emitted start stop none s = bodies start stop s ∧
    ∀ body, emitted start stop (some body) s =
      match s.dropWhile (!stop ·) with
      | [] => []
      | _::rest => (body ++ s.takeWhile (!stop ·))::bodies start stop rest := by
  induction s with
  | nil => exact ⟨bodies_nil.symm,fun body => rfl⟩
  | cons c s ih =>
    obtain ⟨hnone,hsome⟩ := ih
    constructor
    · cases hc : start c with
      | false =>
        rw [bodies_skip hc,← hnone]
        simp [emitted,next,hc]
      | true =>
        have hrest := hsome []
        rw [bodies_open hc]
        simpa [emitted,next,hc] using hrest
    · intro body
      cases hc : stop c with
      | false =>
        have hrest := hsome (body ++ [c])
        rw [List.dropWhile_cons_of_pos (by simp [hc]),List.takeWhile_cons_of_pos (by simp [hc])]
        simpa [emitted,next,hc] using hrest
      | true =>
        rw [List.dropWhile_cons_of_neg (by simp [hc]),List.takeWhile_cons_of_neg (by simp [hc])]
        simp [emitted,next,hc,hnone]

end Framing
