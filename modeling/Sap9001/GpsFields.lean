import Sap9001.Gps
import Mathlib.Data.List.GetD

/-! The fields of a sentence that `process_gps` stores as the position (`hal/gps.cpp`):
`strtok` passes over empty fields, so the fields of a sentence and its tokens differ. -/
namespace Sap9001
namespace Gps

/-- The sentence cut at every comma. -/
def fields (line : Str) : List Str := line.splitOn (byte ',')

def field (line : Str) (i : ℕ) : Str := (fields line).getD i []

/-- What `strtok` returns one after the other. -/
def tokens (line : Str) : List Str := (fields line).filter (· ≠ [])

/-- The latitude, longitude and flags in the first four texts, cut to their buffers. -/
def copied (texts : List Str) : Position where
  lat := strncpy 10 (texts.getD 0 [])
  flagLat := strncpy 5 (texts.getD 1 [])
  lon := strncpy 12 (texts.getD 2 [])
  flagLon := strncpy 5 (texts.getD 3 [])

/-- A status V. -/
def Void (status : Str) : Prop := status.head? = some (byte 'V')

instance (status : Str) : Decidable (Void status) :=
  inferInstanceAs (Decidable (status.head? = some (byte 'V')))

/-- The sentences without a position: too few tokens, another sentence or a void status. -/
def Rejected (line : Str) : Prop :=
  (tokens line).length < 7 ∨ (tokens line).getD 0 [] ≠ str "$GNRMC" ∨ Void ((tokens line).getD 2 [])

/-- The position comes from the fields 3 to 6 of a valid sentence. -/
structure ProperFields (line : Str) (p : Position) : Prop where
  sentence : field line 0 = str "$GNRMC"
  valid : ¬ Void (field line 2)
  present : ∀ i, 3 ≤ i → i ≤ 6 → field line i ≠ []
  position : p = copied ((fields line).drop 3)

/-- What is stored for the buffer is taken from the proper fields, or nothing is stored. -/
def StoresProper (s : State) : Prop :=
  (∀ p, processGps (cstr s.buf) = some p → ProperFields (cstr s.buf) p) ∧
  (processGps (cstr s.buf) = none → (parseLine s).lat = s.lat ∧ (parseLine s).lon = s.lon)

/-- No field up to the last one that is stored is empty. -/
def Unshifted (line : Str) : Prop := ∀ i < 7, field line i ≠ []

/-- The fields without a text between the name of the sentence and the latitude. -/
def skipped (line : Str) : ℕ := (((fields line).drop 1).take 2).countP (· = [])

/-- The fields of the position are there, and as many texts further on the same texts follow as
there are empty fields before them. -/
structure Repeats (line : Str) : Prop where
  named : field line 0 ≠ []
  valid : ¬ Void (field line 2)
  present : ∀ i, 3 ≤ i → i ≤ 6 → field line i ≠ []
  same : copied ((((fields line).drop 3).filter (· ≠ [])).drop (skipped line)) =
    copied ((fields line).drop 3)

variable {line : Str}

/-- The first seven of a list. -/
theorem exists_seven {α : Type} {l : List α} (h : 7 ≤ l.length) :
    ∃ a b c d e f g rest, l = a::b::c::d::e::f::g::rest := by
  match l, h with
  | a::b::c::d::e::f::g::rest, _ => exact ⟨a,b,c,d,e,f,g,rest,rfl⟩

/-- The tokens decide, wherever they stand in the sentence. -/
theorem processGps_of_tokens {t0 t1 t2 t3 t4 t5 t6 : Str} {rest : List Str}
    (h : tokens line = t0::t1::t2::t3::t4::t5::t6::rest) :
    processGps line =
      if Void t2 then none
      else if t0 = str "$GNRMC" then some (copied (t3::t4::t5::t6::rest)) else none := by
  have htokens : (line.splitOn (byte ',')).filter (· ≠ []) = tokens line := rfl
  rw [processGps,htokens,h]
  simp [Void,copied]

theorem processGps_short (h : (tokens line).length < 7) : processGps line = none := by
  have htokens : (line.splitOn (byte ',')).filter (· ≠ []) = tokens line := rfl
  rw [processGps,htokens]
  cases hlist : tokens line with
  | nil => rfl
  | cons token rest =>
    rw [hlist,List.length_cons] at h
    simp only
    split_ifs
    · rfl
    · split
      · rename_i hrest
        have hlen := congrArg List.length hrest
        simp only [List.length_drop,List.length_cons] at hlen
        omega
      · rfl
    · rfl

theorem processGps_rejected (h : Rejected line) : processGps line = none := by
  by_cases hlen : (tokens line).length < 7
  · exact processGps_short hlen
  · obtain ⟨t0,t1,t2,t3,t4,t5,t6,rest,hlist⟩ := exists_seven (not_lt.mp hlen)
    have hwhy : t0 ≠ str "$GNRMC" ∨ Void t2 := by
      rw [Rejected,hlist] at h
      exact h.resolve_left (by simp)
    rw [processGps_of_tokens hlist]
    split_ifs with hvoid hname
    · rfl
    · exact absurd hwhy (by simp [hname,hvoid])
    · rfl

theorem processGps_accepted (h : ¬ Rejected line) :
    processGps line = some (copied ((tokens line).drop 3)) := by
  rw [Rejected,not_or,not_or,not_lt,not_not] at h
  obtain ⟨hlen,hname,hvalid⟩ := h
  obtain ⟨t0,t1,t2,t3,t4,t5,t6,rest,hlist⟩ := exists_seven hlen
  rw [hlist] at hname hvalid
  have hstatus : ¬ Void t2 := hvalid
  have hsentence : t0 = str "$GNRMC" := hname
  rw [processGps_of_tokens hlist,if_neg hstatus,if_pos hsentence,hlist]
  rfl

/-- A field that is not empty is one of the sentence. -/
theorem lt_of_field_ne_nil {i : ℕ} (h : field line i ≠ []) : i < (fields line).length := by
  by_contra hge
  exact h (by rw [field,List.getD_eq_default _ _ (not_lt.mp hge)])

/-- The name of the sentence is the first token. -/
theorem tokens_head (h : field line 0 ≠ []) : (tokens line).getD 0 [] = field line 0 := by
  have hlen := lt_of_field_ne_nil h
  rw [tokens]
  rw [field] at h ⊢
  cases hlist : fields line with
  | nil => simp [hlist] at hlen
  | cons name rest =>
    rw [hlist] at h
    have hname : name ≠ [] := h
    simp [hname]

/-- Of the tokens from the third on, as many are left out as fields were empty before them. -/
theorem tokens_drop (hlen : 3 ≤ (fields line).length) (hname : field line 0 ≠ []) :
    (tokens line).drop 3 = (((fields line).drop 3).filter (· ≠ [])).drop (skipped line) := by
  rw [tokens,skipped]
  rw [field] at hname
  match fields line, hlen, hname with
  | f0::f1::f2::rest, _, hname =>
    have h0 : f0 ≠ [] := hname
    by_cases h1 : f1 = [] <;> by_cases h2 : f2 = [] <;> simp [h0,h1,h2]

/-- An accepted sentence gives its position the proper texts when they are repeated. -/
theorem properFields_iff (h : ¬ Rejected line) :
    ProperFields line (copied ((tokens line).drop 3)) ↔ Repeats line := by
  have hsentence : (tokens line).getD 0 [] = str "$GNRMC" := by
    rw [Rejected,not_or,not_or,not_not] at h
    exact h.2.1
  constructor
  · intro hp
    have hname : field line 0 ≠ [] := by
      rw [hp.sentence]
      decide
    have hlen := lt_of_field_ne_nil (hp.present 6 (by decide) (by decide))
    refine ⟨hname,hp.valid,hp.present,?_⟩
    rw [← tokens_drop (by omega) hname]
    exact hp.position
  · intro hr
    have hlen := lt_of_field_ne_nil (hr.present 6 (by decide) (by decide))
    refine ⟨?_,hr.valid,hr.present,?_⟩
    · rw [← tokens_head hr.named]
      exact hsentence
    · rw [tokens_drop (by omega) hr.named]
      exact hr.same

/-- Without an empty field nothing is left out. -/
theorem repeats_of_unshifted (h : ¬ Rejected line) (hu : Unshifted line) : Repeats line := by
  have hlen : 7 ≤ (fields line).length := lt_of_field_ne_nil (hu 6 (by decide))
  have hvalid : ¬ Void ((tokens line).getD 2 []) := by
    rw [Rejected,not_or,not_or] at h
    exact h.2.2
  have hne : ∀ i < 7, (fields line).getD i [] ≠ [] := hu
  obtain ⟨f0,f1,f2,f3,f4,f5,f6,rest,hlist⟩ := exists_seven hlen
  rw [hlist] at hne
  have h0 : f0 ≠ [] := hne 0 (by decide)
  have h1 : f1 ≠ [] := hne 1 (by decide)
  have h2 : f2 ≠ [] := hne 2 (by decide)
  have h3 : f3 ≠ [] := hne 3 (by decide)
  have h4 : f4 ≠ [] := hne 4 (by decide)
  have h5 : f5 ≠ [] := hne 5 (by decide)
  have h6 : f6 ≠ [] := hne 6 (by decide)
  refine ⟨hu 0 (by decide),?_,fun i _ hi => hu i (by omega),?_⟩
  · simpa [tokens,field,hlist,h0,h1,h2] using hvalid
  · simp [skipped,hlist,h1,h2,h3,h4,h5,h6,copied]

/-- What `strtok` passes over makes no difference just when the sentence is rejected, when none
of its first seven fields is empty, or when the texts are repeated. -/
theorem stores_proper_iff (s : State) :
    StoresProper s ↔ Rejected (cstr s.buf) ∨ Unshifted (cstr s.buf) ∨ Repeats (cstr s.buf) := by
  have hkept : processGps (cstr s.buf) = none →
      (parseLine s).lat = s.lat ∧ (parseLine s).lon = s.lon := by
    intro hnone
    simp [parseLine,hnone]
  by_cases hrejected : Rejected (cstr s.buf)
  · have hnone := processGps_rejected hrejected
    refine iff_of_true ⟨fun p hp => ?_,hkept⟩ (.inl hrejected)
    rw [hnone] at hp
    contradiction
  · have hsome := processGps_accepted hrejected
    have hproper := properFields_iff hrejected
    constructor
    · intro h
      exact .inr (.inr (hproper.mp (h.1 _ hsome)))
    · intro h
      have hrepeats : Repeats (cstr s.buf) := by
        rcases h with h | h | h
        · exact absurd h hrejected
        · exact repeats_of_unshifted hrejected h
        · exact h
      refine ⟨fun p hp => ?_,hkept⟩
      obtain rfl := Option.some.inj (hsome.symm.trans hp)
      exact hproper.mpr hrepeats

/-- A void sentence without a time: its status is taken for the time. -/
theorem void_sentence_stored : ¬ ∀ s : State, StoresProper s := by
  intro hall
  have h := hall { start with buf := str "$GNRMC,,V,2932.1234,N,10636.5678,E,0.5,,230394" }
  have hsome : processGps (cstr (str "$GNRMC,,V,2932.1234,N,10636.5678,E,0.5,,230394")) =
      some ⟨str "N",str "1063",str "E",str "0.5"⟩ := rfl
  exact (h.1 _ hsome).valid (by decide)

end Gps
end Sap9001
