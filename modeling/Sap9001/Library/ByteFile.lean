import Mathlib.Data.List.Basic
import Mathlib.Tactic.Common

/-! A file as a list of symbols with a filler for holes: writing at an offset and cutting to a
length. -/
namespace ByteFile

variable {α : Type*} (filler : α)

/-- Writing behind the end leaves a hole of fillers. -/
def writeAt (offset : ℕ) (data file : List α) : List α :=
  file.take offset ++ List.replicate (offset - file.length) filler ++ data ++
    file.drop (offset + data.length)

def truncate (length : ℕ) (file : List α) : List α :=
  file.take length ++ List.replicate (length - file.length) filler

variable {filler} {p : α → Prop} {offset length : ℕ} {data file : List α}

/-- What holds of the old symbols, of the new ones and of the filler, holds after a write. -/
theorem forall_writeAt (hfiller : p filler) (hdata : ∀ c ∈ data, p c) (hfile : ∀ c ∈ file, p c) :
    ∀ c ∈ writeAt filler offset data file, p c := by
  intro c hc
  simp only [writeAt,List.mem_append] at hc
  rcases hc with ((hc | hc) | hc) | hc
  · exact hfile c (List.mem_of_mem_take hc)
  · exact List.eq_of_mem_replicate hc ▸ hfiller
  · exact hdata c hc
  · exact hfile c (List.mem_of_mem_drop hc)

/-- The first symbol after a write at the start, or at any offset if it was one before. -/
theorem head_writeAt (hfiller : p filler) (hdata : ∀ c ∈ data, p c) (hne : data ≠ [])
    (h : offset = 0 ∨ ∀ c ∈ file.head?, p c) :
    ∀ c ∈ (writeAt filler offset data file).head?, p c := by
  intro c hc
  cases data with
  | nil => exact absurd rfl hne
  | cons d data =>
    cases offset with
    | zero =>
      have hd : d = c := by simpa [writeAt] using hc
      exact hd ▸ hdata d (by simp)
    | succ n =>
      cases file with
      | nil =>
        have hf : filler = c := by simpa [writeAt,List.replicate_succ] using hc
        exact hf ▸ hfiller
      | cons f file =>
        have hf : f = c := by simpa [writeAt] using hc
        exact hf ▸ h.resolve_left (by omega) f (by simp)

/-- A file cut to one symbol has only its first one. -/
theorem forall_truncate_one (hfiller : p filler) (h : ∀ c ∈ file.head?, p c) :
    ∀ c ∈ truncate filler 1 file, p c := by
  cases file with
  | nil => simpa [truncate] using hfiller
  | cons f file => simpa [truncate] using h

end ByteFile
