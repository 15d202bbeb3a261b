import Mathlib.Data.List.Flatten
import Mathlib.Data.List.Perm.Subperm

/-! Files of records that each end with a delimiter. -/
namespace Records

variable {α : Type*} (delim : α)

def encode (records : List (List α)) : List α := records.flatMap (· ++ [delim])

@[simp] theorem encode_nil : encode delim ([] : List (List α)) = [] := rfl

theorem encode_append (rs qs : List (List α)) :
    encode delim (rs ++ qs) = encode delim rs ++ encode delim qs := by
  simp [encode]

@[simp] theorem encode_singleton (r : List α) : encode delim [r] = r ++ [delim] := by
  simp [encode]

theorem length_le_length_encode (rs : List (List α)) : rs.length ≤ (encode delim rs).length := by
  induction rs with
  | nil => simp
  | cons r rs ih =>
    have h : (encode delim (r::rs)).length = r.length + 1 + (encode delim rs).length := by
      simp [encode]
      omega
    rw [h,List.length_cons]
    omega

theorem length_encode_le_of_subperm {rs qs : List (List α)} (h : rs.Subperm qs) :
    (encode delim rs).length ≤ (encode delim qs).length := by
  obtain ⟨l,hperm,hsub⟩ := h
  rw [encode,← (hperm.flatMap_right _).length_eq]
  exact (hsub.flatMap _).length_le

/-- The file is empty or ends with the delimiter. -/
def Terminated (file : List α) : Prop := ∀ c ∈ file.getLast?, c = delim

instance [DecidableEq α] (file : List α) : Decidable (Terminated delim file) :=
  inferInstanceAs (Decidable (∀ c ∈ file.getLast?, c = delim))

theorem terminated_encode (rs : List (List α)) : Terminated delim (encode delim rs) := by
  rcases List.eq_nil_or_concat rs with rfl | ⟨rs,r,rfl⟩
  · simp [Terminated]
  · intro c hc
    rw [List.concat_eq_append,encode_append,encode_singleton,← List.append_assoc,
      List.getLast?_concat] at hc
    exact (Option.mem_some_iff.mp hc).symm

section Decode

variable [DecidableEq α]

/-- The complete records of a file, and what stands behind the last delimiter. -/
def decode : List α → List (List α) × List α
  | [] => ([],[])
  | c::cs =>
    if c = delim then ([]::(decode cs).1,(decode cs).2)
    else
      match (decode cs).1 with
      | [] => ([],c::(decode cs).2)
      | r::rs => ((c::r)::rs,(decode cs).2)

def records (file : List α) : List (List α) := (decode delim file).1

theorem decode_record_append {r : List α} (h : delim ∉ r) (file : List α) :
    decode delim (r ++ delim::file) = (r::(decode delim file).1,(decode delim file).2) := by
  induction r with
  | nil => simp [decode]
  | cons c r ih =>
    have hc : c ≠ delim := by
      rintro rfl
      exact h (by simp)
    simp [decode,hc,ih (fun hmem => h (by simp [hmem]))]

theorem decode_of_not_mem {r : List α} (h : delim ∉ r) : decode delim r = ([],r) := by
  induction r with
  | nil => rfl
  | cons c r ih =>
    have hc : c ≠ delim := by
      rintro rfl
      exact h (by simp)
    simp [decode,hc,ih (fun hmem => h (by simp [hmem]))]

/-- Records without the delimiter are read back, whatever stands behind them. -/
theorem decode_encode_append {rs : List (List α)} (h : ∀ r ∈ rs, delim ∉ r) (file : List α) :
    decode delim (encode delim rs ++ file) = (rs ++ (decode delim file).1,(decode delim file).2) := by
  induction rs with
  | nil => rfl
  | cons r rs ih =>
    have hcons : encode delim (r::rs) ++ file = r ++ delim::(encode delim rs ++ file) := by
      simp [encode]
    rw [hcons,decode_record_append delim (h r (by simp)),ih (fun q hq => h q (by simp [hq]))]
    rfl

/-- Every file is a series of records and an unfinished one. -/
theorem encode_decode (file : List α) :
    encode delim (decode delim file).1 ++ (decode delim file).2 = file := by
  induction file with
  | nil => rfl
  | cons c cs ih =>
    by_cases hc : c = delim
    · simp [decode,hc,encode] at ih ⊢
      exact ih
    · cases hcs : (decode delim cs).1 with
      | nil => simpa [decode,hc,hcs] using ih
      | cons r rs =>
        rw [hcs] at ih
        simpa [decode,hc,hcs,encode] using ih

theorem not_mem_decode (file : List α) :
    (∀ r ∈ (decode delim file).1, delim ∉ r) ∧ delim ∉ (decode delim file).2 := by
  induction file with
  | nil => simp [decode]
  | cons c cs ih =>
    by_cases hc : c = delim
    · simpa [decode,hc] using ih
    · cases hcs : (decode delim cs).1 with
      | nil =>
        rw [hcs] at ih
        simpa [decode,hc,hcs,Ne.symm hc] using ih
      | cons r rs =>
        rw [hcs] at ih
        simpa [decode,hc,hcs,Ne.symm hc] using ih

/-- In a terminated file no record is unfinished. -/
theorem terminated_iff (file : List α) : Terminated delim file ↔ (decode delim file).2 = [] := by
  have hfile := encode_decode delim file
  constructor
  · intro h
    have hclean := (not_mem_decode delim file).2
    rcases List.eq_nil_or_concat (decode delim file).2 with hrest | ⟨tail,c,hrest⟩
    · exact hrest
    · rw [List.concat_eq_append] at hrest
      rw [hrest,← List.append_assoc] at hfile
      have hc : c = delim := h c (by rw [← hfile,List.getLast?_concat]; rfl)
      simp [hrest,hc] at hclean
  · intro hrest
    rw [hrest,List.append_nil] at hfile
    exact hfile ▸ terminated_encode delim (decode delim file).1

/-- A terminated file is the encoding of its records. -/
theorem encode_records {file : List α} (h : Terminated delim file) :
    encode delim (records delim file) = file := by
  have hfile := encode_decode delim file
  rwa [(terminated_iff delim file).mp h,List.append_nil] at hfile

theorem records_encode {rs : List (List α)} (h : ∀ r ∈ rs, delim ∉ r) :
    records delim (encode delim rs) = rs := by
  have hdecode := decode_encode_append delim h []
  rw [List.append_nil] at hdecode
  simp [records,hdecode,decode]

end Decode

end Records
