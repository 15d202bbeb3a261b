import Mathlib.Data.List.Nodup
import Mathlib.Data.List.Sort
import Mathlib.Tactic.Common

/-! Finite maps that remember insertion order: a list of entries with distinct keys.
The lemmas say how the list operations a program performs by position (find the first,
erase the first, update the first) act on such a list. -/

/-- An insertion-ordered finite map. -/
structure OrderedMap (K V : Type*) where
  entries : List (K × V)
  nodup : (entries.map Prod.fst).Nodup

namespace OrderedMap

variable {K V W : Type*}

@[ext] theorem ext_entries {m n : OrderedMap K V} (h : m.entries = n.entries) : m = n := by
  cases m; cases n; cases h; rfl

def empty : OrderedMap K V := ⟨[],by simp⟩

@[simp] theorem empty_entries : (empty : OrderedMap K V).entries = [] := rfl

def keys (m : OrderedMap K V) : List K := m.entries.map Prod.fst

variable [DecidableEq K]

def contains (m : OrderedMap K V) (k : K) : Bool := decide (k ∈ m.keys)

def lookup (m : OrderedMap K V) (k : K) : Option V :=
  (m.entries.find? (fun e => e.1 = k)).map Prod.snd

/-- Append the entry when its key is new; the flag says whether it was. -/
def append (m : OrderedMap K V) (k : K) (v : V) : Bool × OrderedMap K V :=
  if h : k ∈ m.keys then (false,m)
  else (true,⟨m.entries ++ [(k,v)],by
    rw [List.map_append,List.nodup_append]
    refine ⟨m.nodup,by simp,?_⟩
    intro a ha b hb hab
    simp only [List.map_cons,List.map_nil,List.mem_singleton] at hb
    exact h (by rw [← hb,← hab]; exact ha)⟩)

/-- Remove the entry of a key; the flag says whether there was one. -/
def erase (m : OrderedMap K V) (k : K) : Bool × OrderedMap K V :=
  (m.contains k,⟨m.entries.filter (fun e => e.1 ≠ k),
    List.Nodup.sublist ((List.filter_sublist).map _) m.nodup⟩)

/-- Change the value of a key in place; the flag says whether there was one. -/
def modify (m : OrderedMap K V) (k : K) (f : V → V) : Bool × OrderedMap K V :=
  (m.contains k,⟨m.entries.map (fun e => if e.1 = k then (e.1,f e.2) else e),by
    have hkeys : (m.entries.map (fun e => if e.1 = k then (e.1,f e.2) else e)).map Prod.fst =
        m.entries.map Prod.fst := by
      rw [List.map_map]
      apply List.map_congr_left
      intro e _
      by_cases he : e.1 = k <;> simp [he]
    rw [hkeys]
    exact m.nodup⟩)

/-- The first entry, in insertion order, whose value passes the test. -/
def first (m : OrderedMap K V) (p : V → Bool) : Option (K × V) :=
  m.entries.find? (fun e => p e.2)

omit [DecidableEq K] in
theorem mem_keys {m : OrderedMap K V} {k : K} : k ∈ m.keys ↔ ∃ v, (k,v) ∈ m.entries := by
  simp [keys]

theorem contains_iff {m : OrderedMap K V} {k : K} :
    m.contains k = true ↔ ∃ v, (k,v) ∈ m.entries := by
  simp [contains,mem_keys]

omit [DecidableEq K] in
theorem ne_of_mem_tail {e x : K × V} {es : List (K × V)}
    (hd : ((e::es).map Prod.fst).Nodup) (hx : x ∈ es) : x.1 ≠ e.1 := by
  rw [List.map_cons,List.nodup_cons] at hd
  intro hxe
  exact hd.1 (List.mem_map.mpr ⟨x,hx,hxe⟩)

/-- Distinct keys make lookup exact. -/
theorem lookup_eq_some {m : OrderedMap K V} {k : K} {v : V} :
    m.lookup k = some v ↔ (k,v) ∈ m.entries := by
  rcases m with ⟨es,hd⟩
  simp only [lookup]
  induction es with
  | nil => simp
  | cons e es ih =>
    by_cases he : e.1 = k
    · subst he
      have hnot : (e.1,v) ∉ es := fun hmem => ne_of_mem_tail hd hmem rfl
      rcases e with ⟨k',v'⟩
      simp [hnot,eq_comm]
    · have hne : (k,v) ≠ e := by
        rintro rfl
        exact he rfl
      simpa [List.find?_cons,he,hne] using ih (List.nodup_cons.mp hd).2

/-- Erasing the first entry of a key erases all of them. -/
theorem eraseP_eq_filter (m : OrderedMap K V) (k : K) :
    m.entries.eraseP (fun e => e.1 = k) = m.entries.filter (fun e => e.1 ≠ k) := by
  rcases m with ⟨es,hd⟩
  simp only
  induction es with
  | nil => rfl
  | cons e es ih =>
    by_cases he : e.1 = k
    · have hrest : es.filter (fun x => x.1 ≠ k) = es := by
        apply List.filter_eq_self.mpr
        intro x hx
        simpa [← he] using ne_of_mem_tail hd hx
      rw [List.eraseP_cons_of_pos (by simpa using he),List.filter_cons_of_neg (by simpa using he),
        hrest]
    · rw [List.eraseP_cons_of_neg (by simpa using he),List.filter_cons_of_pos (by simpa using he),
        ih (List.nodup_cons.mp hd).2]

theorem ne_of_absent {m : OrderedMap K V} {k : K} (h : m.contains k = false)
    {e : K × V} (he : e ∈ m.entries) : e.1 ≠ k := by
  rintro rfl
  have hc : m.contains e.1 = true := contains_iff.mpr ⟨e.2,he⟩
  rw [h] at hc
  contradiction

theorem erase_absent {m : OrderedMap K V} {k : K} (h : m.contains k = false) :
    (m.erase k).2 = m := by
  apply ext_entries
  apply List.filter_eq_self.mpr
  intro e he
  simpa using ne_of_absent h he

theorem modify_absent {m : OrderedMap K V} {k : K} {f : V → V} (h : m.contains k = false) :
    (m.modify k f).2 = m := by
  apply ext_entries
  apply (List.map_congr_left _).trans (List.map_id m.entries)
  intro e he
  simp [ne_of_absent h he]

theorem not_mem_keys_erase (m : OrderedMap K V) (k : K) : k ∉ (m.erase k).2.keys := by
  simp [erase,keys]

theorem erase_modify (m : OrderedMap K V) (k : K) (f : V → V) :
    ((m.modify k f).2.erase k).2 = (m.erase k).2 := by
  apply ext_entries
  simp only [erase,modify,List.filter_map]
  apply (List.map_congr_left _).trans (List.map_id _) |>.trans
  · apply List.filter_congr
    intro e _
    by_cases he : e.1 = k <;> simp [he]
  · intro e he
    have hne : e.1 ≠ k := by
      intro hk
      simp [hk] at he
    simp [hne]

theorem modify_modify (m : OrderedMap K V) (k : K) (f g : V → V) :
    ((m.modify k f).2.modify k g).2 = (m.modify k (g ∘ f)).2 := by
  apply ext_entries
  simp only [modify,List.map_map]
  apply List.map_congr_left
  intro e _
  by_cases he : e.1 = k <;> simp [he]

theorem entries_ne_nil {m : OrderedMap K V} {k : K} {v : V} (h : m.lookup k = some v) :
    m.entries ≠ [] := by
  intro hnil
  simp [lookup,hnil] at h

theorem keys_modify (m : OrderedMap K V) (k : K) (f : V → V) : (m.modify k f).2.keys = m.keys := by
  simp only [keys,modify,List.map_map]
  refine List.map_congr_left fun e _ => ?_
  by_cases he : e.1 = k <;> simp [he]

theorem mem_keys_erase {m : OrderedMap K V} {k j : K} (h : j ∈ (m.erase k).2.keys) : j ∈ m.keys :=
  ((List.filter_sublist (l := m.entries)).map Prod.fst).subset h

theorem modify_ne_nil {m : OrderedMap K V} (h : m.entries ≠ []) (k : K) (f : V → V) :
    (m.modify k f).2.entries ≠ [] := by
  simpa [modify] using h

theorem append_of_not_mem {m : OrderedMap K V} {k : K} (h : k ∉ m.keys) (v : V) :
    (m.append k v).1 = true ∧ (m.append k v).2.entries = m.entries ++ [(k,v)] := by
  simp [append,h]

theorem modify_append {m : OrderedMap K V} {k : K} (h : k ∉ m.keys) (v : V) (f : V → V) :
    ((m.append k v).2.modify k f).2 = (m.append k (f v)).2 := by
  apply ext_entries
  have hc : m.contains k = false := by simpa [contains] using h
  have hrest : m.entries.map (fun e => if e.1 = k then (e.1,f e.2) else e) = m.entries :=
    congrArg OrderedMap.entries (modify_absent (f := f) hc)
  simp only [modify,(append_of_not_mem h _).2,List.map_append,hrest,List.map_cons,List.map_nil,
    if_true]

/-- A key stands at one place of the map, and that is where it is removed or changed. -/
theorem split_of_lookup {m : OrderedMap K V} {k : K} {v : V} (h : m.lookup k = some v) :
    ∃ before rest, m.entries = before ++ (k,v)::rest ∧ (m.erase k).2.entries = before ++ rest ∧
      ∀ f, (m.modify k f).2.entries = before ++ (k,f v)::rest := by
  obtain ⟨before,rest,hsplit⟩ := List.append_of_mem (lookup_eq_some.mp h)
  have hother : ∀ e ∈ before ++ rest, e.1 ≠ k := by
    have hnd := m.nodup
    rw [hsplit,List.map_append,List.map_cons,List.nodup_middle,← List.map_append,
      List.nodup_cons] at hnd
    intro e he hk
    exact hnd.1 (List.mem_map.mpr ⟨e,he,hk⟩)
  have hbefore : ∀ e ∈ before, e.1 ≠ k := fun e he => hother e (by simp [he])
  have hrest : ∀ e ∈ rest, e.1 ≠ k := fun e he => hother e (by simp [he])
  refine ⟨before,rest,hsplit,?_,fun f => ?_⟩
  · simp only [erase,hsplit,List.filter_append,List.filter_cons]
    rw [List.filter_eq_self.mpr (by simpa using hbefore),
      List.filter_eq_self.mpr (by simpa using hrest)]
    simp
  · have hsame {es : List (K × V)} (hes : ∀ e ∈ es, e.1 ≠ k) :
        es.map (fun e => if e.1 = k then (e.1,f e.2) else e) = es :=
      (List.map_congr_left fun e he => if_neg (hes e he)).trans (List.map_id es)
    simp only [modify,hsplit,List.map_append,List.map_cons,hsame hbefore,hsame hrest,if_true]

/-- Apply `f` to the first element that passes the test. -/
def updateFirst {α : Type*} (p : α → Bool) (f : α → α) : List α → List α
  | [] => []
  | x::xs => if p x then f x::xs else x::updateFirst p f xs

theorem updateFirst_map {α β : Type*} (g : α → β) {p : β → Bool} {f : β → β} (f' : α → α)
    (hf : ∀ a, f (g a) = g (f' a)) (xs : List α) :
    updateFirst p f (xs.map g) = (updateFirst (fun a => p (g a)) f' xs).map g := by
  induction xs with
  | nil => rfl
  | cons x xs ih => cases hp : p (g x) <;> simp [updateFirst,hp,ih,hf]

/-- What the function keeps, the update keeps. -/
theorem map_updateFirst {α β : Type*} {g : α → β} {p : α → Bool} {f : α → α}
    (hf : ∀ a, g (f a) = g a) (xs : List α) : (updateFirst p f xs).map g = xs.map g := by
  induction xs with
  | nil => rfl
  | cons x xs ih => cases hp : p x <;> simp [updateFirst,hp,ih,hf]

theorem of_mem_updateFirst {α : Type*} {p : α → Bool} {f : α → α} {xs : List α} {y : α}
    (h : y ∈ updateFirst p f xs) : y ∈ xs ∨ ∃ x ∈ xs, y = f x := by
  induction xs with
  | nil => exact absurd h List.not_mem_nil
  | cons x xs ih =>
    unfold updateFirst at h
    split_ifs at h
    · rcases List.mem_cons.mp h with rfl | h
      · exact .inr ⟨x,by simp,rfl⟩
      · exact .inl (by simp [h])
    · rcases List.mem_cons.mp h with rfl | h
      · exact .inl (by simp)
      · rcases ih h with h | ⟨x',hx',rfl⟩
        · exact .inl (by simp [h])
        · exact .inr ⟨x',by simp [hx'],rfl⟩

/-- Updating the first entry of a key updates all of them. -/
theorem updateFirst_eq_map (m : OrderedMap K V) (k : K) (f : V → V) :
    updateFirst (fun e => e.1 = k) (fun e => (e.1,f e.2)) m.entries =
      m.entries.map (fun e => if e.1 = k then (e.1,f e.2) else e) := by
  rcases m with ⟨es,hd⟩
  simp only
  induction es with
  | nil => rfl
  | cons e es ih =>
    by_cases he : e.1 = k
    · have hrest : es.map (fun x => if x.1 = k then (x.1,f x.2) else x) = es := by
        apply (List.map_congr_left _).trans (List.map_id es)
        intro x hx
        simp [← he,ne_of_mem_tail hd hx]
      simp only [updateFirst,he,decide_true,if_true,List.map_cons,hrest]
    · simp only [updateFirst,he,decide_false,Bool.false_eq_true,if_false,List.map_cons,
        ih (List.nodup_cons.mp hd).2]

section Sorted

variable [LinearOrder K]

/-- The keys with a projection of their values, in ascending key order. -/
def ascending (m : OrderedMap K V) (f : V → W) : List (K × W) :=
  (m.entries.map (fun e => (e.1,f e.2))).mergeSort (fun a b => a.1 ≤ b.1)

omit [DecidableEq K] in
theorem ascending_perm (m : OrderedMap K V) (f : V → W) :
    (m.ascending f).Perm (m.entries.map (fun e => (e.1,f e.2))) :=
  List.mergeSort_perm _ _

omit [DecidableEq K] in
/-- Distinct keys make the ascending order strict. -/
theorem ascending_strict (m : OrderedMap K V) (f : V → W) :
    (m.ascending f).Pairwise (fun a b => a.1 < b.1) := by
  have hle : (m.ascending f).Pairwise (fun a b => a.1 ≤ b.1) := by
    have htrans (a b c : K × W) : decide (a.1 ≤ b.1) = true → decide (b.1 ≤ c.1) = true →
        decide (a.1 ≤ c.1) = true := by
      simp only [decide_eq_true_eq]
      exact le_trans
    have htotal (a b : K × W) : (decide (a.1 ≤ b.1) || decide (b.1 ≤ a.1)) = true := by
      simpa using le_total a.1 b.1
    have h := List.pairwise_mergeSort htrans htotal (m.entries.map (fun e => (e.1,f e.2)))
    simpa [ascending] using h
  have hne : (m.ascending f).Pairwise (fun a b => a.1 ≠ b.1) := by
    have hperm := (m.ascending_perm f).map Prod.fst
    have hnd : ((m.ascending f).map Prod.fst).Nodup := by
      rw [hperm.nodup_iff,List.map_map]
      exact m.nodup
    exact List.pairwise_map.mp hnd
  exact (hle.and hne).imp (fun h => lt_of_le_of_ne h.1 h.2)

omit [DecidableEq K] in
/-- Keys that were added in ascending order stay as they are. -/
theorem ascending_of_pairwise {m : OrderedMap K V} (h : m.keys.Pairwise (· ≤ ·)) (f : V → W) :
    m.ascending f = m.entries.map (fun e => (e.1,f e.2)) := by
  refine List.mergeSort_of_pairwise ?_
  rw [List.pairwise_map]
  exact (List.pairwise_map.mp h).imp fun hle => by simpa using hle

end Sorted

end OrderedMap
