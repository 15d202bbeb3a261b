import Mathlib.Data.Nat.Digits.Lemmas

/-! Positional numerals over any alphabet of digits, most significant digit first. -/
namespace Numerals

variable {α : Type*} (b : ℕ) (render : ℕ → α) (value : α → ℕ)

def numeral (n : ℕ) : List α :=
  if n = 0 then [render 0] else ((Nat.digits b n).map render).reverse

/-- The numeral with zeros in front of it, up to `k` digits. -/
def padded (k n : ℕ) : List α :=
  List.replicate (k - (numeral b render n).length) (render 0) ++ numeral b render n

def read (s : List α) : ℕ := Nat.ofDigits b (s.reverse.map value)

theorem numeral_of_lt {n : ℕ} (h : n < b) : numeral b render n = [render n] := by
  by_cases hn : n = 0
  · simp [numeral,hn]
  · simp [numeral,hn,Nat.digits_of_lt b n hn h]

/-- The numeral of the quotient followed by the digit of the remainder. -/
theorem numeral_step {n : ℕ} (hb : 1 < b) (h : b ≤ n) :
    numeral b render n = numeral b render (n / b) ++ [render (n % b)] := by
  have hn : n ≠ 0 := by omega
  have hq : n / b ≠ 0 := by
    have := Nat.div_pos h (by omega)
    omega
  simp [numeral,hn,hq,Nat.digits_def' hb (Nat.pos_of_ne_zero hn)]

/-- The first digit is not zero. -/
theorem numeral_leading {n : ℕ} (hb : 1 < b) (hn : n ≠ 0) :
    ∃ d t, d ≠ 0 ∧ d < b ∧ numeral b render n = render d :: t := by
  induction n using Nat.strong_induction_on with
  | _ n ih =>
    by_cases h : n < b
    · exact ⟨n,[],hn,h,numeral_of_lt b render h⟩
    · have hq : n / b ≠ 0 := by
        have := Nat.div_pos (not_lt.mp h) (by omega)
        omega
      obtain ⟨d,t,hd,hlt,heq⟩ := ih (n / b) (Nat.div_lt_self (by omega) hb) hq
      refine ⟨d,t ++ [render (n % b)],hd,hlt,?_⟩
      rw [numeral_step b render hb (not_lt.mp h),heq,List.cons_append]

theorem length_numeral_le {n k : ℕ} (hb : 1 < b) (hk : 0 < k) (h : n < b^k) :
    (numeral b render n).length ≤ k := by
  by_cases hn : n = 0
  · simp only [numeral,if_pos hn,List.length_singleton]
    omega
  · simpa [numeral,hn] using (Nat.digits_length_le_iff hb n).mpr h

theorem length_numeral_pos (n : ℕ) : 0 < (numeral b render n).length := by
  by_cases hn : n = 0
  · simp [numeral,hn]
  · have hne := List.length_pos_iff.mpr (Nat.digits_ne_nil_iff_ne_zero.mpr hn : Nat.digits b n ≠ [])
    simpa [numeral,hn] using hne

theorem lt_length_numeral {n k : ℕ} (hb : 1 < b) (h : b^k ≤ n) :
    k < (numeral b render n).length := by
  have hn : n ≠ 0 := by
    have := Nat.pow_pos (n := k) (Nat.zero_lt_of_lt hb)
    omega
  simpa [numeral,hn] using (Nat.lt_digits_length_iff hb n).mpr h

/-- The zeros that bring a numeral of `d + 1` digits to `k`. -/
theorem padded_of_lt {n d k : ℕ} (hb : 1 < b) (hge : b^d ≤ n ∨ d = 0) (hlt : n < b^(d+1)) :
    padded b render k n = List.replicate (k - (d+1)) (render 0) ++ numeral b render n := by
  have hle := length_numeral_le b render hb (Nat.succ_pos d) hlt
  have hlen : (numeral b render n).length = d+1 := by
    rcases hge with hge | rfl
    · exact Nat.le_antisymm hle (lt_length_numeral b render hb hge)
    · exact Nat.le_antisymm hle (length_numeral_pos b render n)
  rw [padded,hlen]

/-- A numeral that already has `k` digits gets no zeros. -/
theorem padded_of_le {n k : ℕ} (hb : 1 < b) (hge : b^k ≤ n) :
    padded b render k n = numeral b render n := by
  have hlen := lt_length_numeral b render hb hge
  rw [padded,Nat.sub_eq_zero_of_le (by omega)]
  rfl

theorem le_length_padded (k n : ℕ) : k ≤ (padded b render k n).length := by
  simp only [padded,List.length_append,List.length_replicate]
  omega

theorem length_padded {n k : ℕ} (hb : 1 < b) (hk : 0 < k) (h : n < b^k) :
    (padded b render k n).length = k := by
  have hle := length_numeral_le b render hb hk h
  simp only [padded,List.length_append,List.length_replicate]
  omega

/-- A numeral is made of digits. -/
theorem mem_numeral {n : ℕ} {c : α} (hb : 1 < b) (h : c ∈ numeral b render n) :
    ∃ d < b, c = render d := by
  by_cases hn : n = 0
  · exact ⟨0,by omega,by simpa [numeral,hn] using h⟩
  · simp only [numeral,if_neg hn,List.mem_reverse,List.mem_map] at h
    obtain ⟨d,hd,rfl⟩ := h
    exact ⟨d,Nat.digits_lt_base hb hd,rfl⟩

theorem mem_padded {n k : ℕ} {c : α} (hb : 1 < b) (h : c ∈ padded b render k n) :
    ∃ d < b, c = render d := by
  rcases List.mem_append.mp h with hzero | hdigit
  · exact ⟨0,by omega,List.eq_of_mem_replicate hzero⟩
  · exact mem_numeral b render hb hdigit

/-- What is not a digit does not occur in a numeral. -/
theorem not_mem_numeral {c : α} (hb : 1 < b) (hc : ∀ d < b, render d ≠ c) (n : ℕ) :
    c ∉ numeral b render n := by
  intro h
  obtain ⟨d,hd,rfl⟩ := mem_numeral b render hb h
  exact hc d hd rfl

theorem not_mem_padded {c : α} (hb : 1 < b) (hc : ∀ d < b, render d ≠ c) (k n : ℕ) :
    c ∉ padded b render k n := by
  intro h
  obtain ⟨d,hd,rfl⟩ := mem_padded b render hb h
  exact hc d hd rfl

section ReadBack

variable {b render value} (hvalue : ∀ d < b, value (render d) = d)
include hvalue

theorem read_numeral (hb : 1 < b) (n : ℕ) : read b value (numeral b render n) = n := by
  by_cases hn : n = 0
  · simp [read,numeral,hn,hvalue 0 (by omega)]
  · have hid : ∀ d ∈ Nat.digits b n, (value ∘ render) d = d :=
      fun d hd => hvalue d (Nat.digits_lt_base hb hd)
    have hmap : (Nat.digits b n).map (value ∘ render) = Nat.digits b n := by
      rw [List.map_congr_left hid,List.map_id']
    simp only [read,numeral,if_neg hn,List.reverse_reverse,List.map_map,hmap]
    exact Nat.ofDigits_digits b n

/-- Leading zeros do not count. -/
theorem read_zeros (hb : 0 < b) (k : ℕ) (s : List α) :
    read b value (List.replicate k (render 0) ++ s) = read b value s := by
  simp [read,Nat.ofDigits_append,hvalue 0 hb,Nat.ofDigits_replicate_zero]

theorem read_padded (hb : 1 < b) (k n : ℕ) : read b value (padded b render k n) = n := by
  rw [padded,read_zeros hvalue (by omega),read_numeral hvalue hb]

theorem padded_inj (hb : 1 < b) {k n m : ℕ} :
    padded b render k n = padded b render k m ↔ n = m := by
  refine ⟨fun h => ?_,fun h => by rw [h]⟩
  have hread := congrArg (read b value) h
  rwa [read_padded hvalue hb,read_padded hvalue hb] at hread

end ReadBack

theorem read_concat (s : List α) (c : α) :
    read b value (s ++ [c]) = value c + b * read b value s := by
  simp [read,Nat.ofDigits_cons]

/-- The last digit of a numeral that is filled up. -/
theorem padded_succ {k : ℕ} (hb : 1 < b) (hk : 0 < k) (n : ℕ) :
    padded b render (k+1) n = padded b render k (n / b) ++ [render (n % b)] := by
  by_cases hn : n < b
  · have hk1 : k = k - 1 + 1 := by omega
    rw [Nat.div_eq_of_lt hn,Nat.mod_eq_of_lt hn,padded,padded,numeral_of_lt b render hn,
      numeral_of_lt b render (by omega)]
    simp only [List.length_singleton,Nat.add_sub_cancel]
    rw [← List.replicate_succ',← hk1]
  · rw [padded,padded,numeral_step b render hb (not_lt.mp hn)]
    simp only [List.length_append,List.length_singleton,Nat.add_sub_add_right,List.append_assoc]

section Order

/-- Texts that begin with parts of one length are compared by these parts first. -/
theorem append_lt_append_iff [LT α] {s t s' t' : List α} (h : s.length = t.length) :
    s ++ s' < t ++ t' ↔ s < t ∨ s = t ∧ s' < t' := by
  induction s generalizing t with
  | nil =>
    obtain rfl := List.length_eq_zero_iff.mp h.symm
    simp
  | cons c s ih =>
    cases t with
    | nil => simp at h
    | cons d t =>
      rw [List.cons_append,List.cons_append,List.cons_lt_cons_iff,List.cons_lt_cons_iff,
        ih (by simpa using h),List.cons.injEq]
      tauto

variable {b render value} [LT α]

/-- Numerals of one width are in the order of the numbers. -/
theorem padded_lt_iff (hvalue : ∀ d < b, value (render d) = d)
    (hrender : ∀ d < b, ∀ e < b, render d < render e ↔ d < e) (hb : 1 < b) {k n m : ℕ} (hk : 0 < k)
    (hn : n < b^k) (hm : m < b^k) : padded b render k n < padded b render k m ↔ n < m := by
  induction k, hk using Nat.le_induction generalizing n m with
  | base =>
    simp only [Nat.succ_eq_add_one,Nat.zero_add,pow_one] at hn hm ⊢
    have hone {n : ℕ} (hn : n < b) : padded b render 1 n = [render n] := by
      rw [padded,numeral_of_lt b render hn]
      rfl
    rw [hone hn,hone hm,List.cons_lt_cons_iff,hrender n hn m hm]
    simp
  | succ k hk ih =>
    have hdiv {n : ℕ} (hn : n < b^(k+1)) : n / b < b^k :=
      Nat.div_lt_of_lt_mul (by rwa [← Nat.pow_succ'])
    have hmod (n : ℕ) : n % b < b := Nat.mod_lt n (by omega)
    have hlen := (length_padded b render hb hk (hdiv hn)).trans
      (length_padded b render hb hk (hdiv hm)).symm
    rw [padded_succ b render hb hk,padded_succ b render hb hk,append_lt_append_iff hlen,
      ih (hdiv hn) (hdiv hm),padded_inj hvalue hb,List.cons_lt_cons_iff,
      hrender _ (hmod n) _ (hmod m)]
    constructor
    · rintro (h | ⟨hq,h | ⟨-,h⟩⟩)
      · exact Nat.lt_of_div_lt_div h
      · rw [← Nat.div_add_mod n b,← Nat.div_add_mod m b,hq]
        exact Nat.add_lt_add_left h _
      · exact absurd h (by simp)
    · intro h
      rcases Nat.lt_or_eq_of_le (Nat.div_le_div_right (c := b) h.le) with hq | hq
      · exact .inl hq
      · rw [← Nat.div_add_mod n b,← Nat.div_add_mod m b,hq] at h
        exact .inr ⟨hq,.inl (Nat.lt_of_add_lt_add_left h)⟩

end Order

end Numerals
