import Sap9001.GpsFields
import Sap9001.Library.Framing

/-! The byte loop of `GET_GPS` against the sentences of the receiver's stream: what is stored at the
end is the position of the last sentence that has one. -/
namespace Sap9001
namespace Gps

/-- The byte that starts a sentence, and those that end it. -/
def opens (c : UInt8) : Bool := c = byte '$'

def closes (c : UInt8) : Bool := c = byte '\n' || c = byte '*'

/-- The sentences of a stream, without the `$` in front. -/
def sentences (bytes : Str) : List Str := Framing.bodies opens closes bytes

/-- The buffer at the end of a sentence: a `$` inside of it is left out, and what is too long. -/
def buffered (body : Str) : Str := (byte '$'::body.filter (!opens ·)).take (300 - 1)

/-- What a sentence stores. -/
def stored (body : Str) : Option (Str × Str) :=
  (processGps (cstr (buffered body))).map fun p => (p.flagLat ++ p.lat.eraseIdx 4,
    p.flagLon ++ p.lon.eraseIdx 5)

def State.location (s : State) : Str × Str := (s.lat,s.lon)

/-- What the receiver sends before the device is closed or fails. -/
def delivered (inputs : List (Option UInt8)) : Str := (inputs.takeWhile (·.isSome)).reduceOption

variable {s : State} {held : Option Str} {body : Str} {c : UInt8}

/-- A line without a comma has no position. -/
theorem processGps_of_no_comma {line : Str} (h : byte ',' ∉ line) : processGps line = none := by
  have hsplit : line.splitOn (byte ',') = [line] :=
    List.splitOnP_eq_singleton fun c hc => by
      simp only [beq_eq_false_iff_ne]
      rintro rfl
      exact h hc
  have hle : (tokens line).length ≤ 1 := by
    rw [tokens,fields,hsplit]
    exact List.length_filter_le _ [line]
  exact processGps_short (by omega)

/-- The state of the loop for what a scanner of sentences holds. Between two sentences the buffer
has nothing that could be stored. -/
structure Scans (held : Option Str) (s : State) : Prop where
  running : s.running = true
  flagRead : s.flagRead = held.isSome
  buf : ∀ body, held = some body → s.buf = buffered body
  between : held = none → processGps (cstr s.buf) = none

theorem scans_some (hrunning : s.running = true) (hflag : s.flagRead = true)
    (hbuf : s.buf = buffered body) : Scans (some body) s where
  running := hrunning
  flagRead := hflag
  buf _ h := Option.some.inj h ▸ hbuf
  between h := absurd h (by simp)

theorem scans_none (hrunning : s.running = true) (hflag : s.flagRead = false)
    (hbetween : processGps (cstr s.buf) = none) : Scans none s where
  running := hrunning
  flagRead := hflag
  buf _ h := absurd h (by simp)
  between _ := hbetween

theorem buffered_concat (body : Str) (c : UInt8) : buffered (body ++ [c]) =
    if opens c then buffered body
    else if (buffered body).length < 300 - 1 then buffered body ++ [c] else buffered body := by
  unfold buffered
  cases hc : opens c with
  | true => simp [hc]
  | false =>
    have hbody : byte '$'::(body ++ [c]).filter (!opens ·) =
        (byte '$'::body.filter (!opens ·)) ++ [c] := by simp [hc]
    rw [hbody]
    generalize byte '$'::body.filter (!opens ·) = line
    simp only [Bool.false_eq_true,if_false,List.length_take]
    by_cases hlen : line.length < 300 - 1
    · rw [if_pos (by omega),List.take_of_length_le (by simp; omega),List.take_of_length_le hlen.le]
    · rw [if_neg (by omega),List.take_append_of_le_length (by omega)]

theorem parseLine_buffered (hbuf : s.buf = buffered body) :
    (parseLine s).location = (stored body).getD s.location ∧
      processGps (cstr (parseLine s).buf) = none ∧
      (parseLine s).running = s.running ∧ (parseLine s).flagRead = s.flagRead := by
  unfold parseLine stored
  rw [hbuf]
  cases processGps (cstr (buffered body)) with
  | none =>
    refine ⟨rfl,processGps_of_no_comma fun h => ?_,rfl,rfl⟩
    have hmem := (List.takeWhile_prefix _).subset h
    simpa using List.mem_takeWhile_imp hmem
  | some p => exact ⟨rfl,rfl,rfl,rfl⟩

/-- One byte is one step of the scanner, and what is stored changes with a sentence only. -/
theorem receive_scans (h : Scans held s) (c : UInt8) :
    Scans (Framing.next opens closes held c).1 (receive s (some c)) ∧
      (receive s (some c)).location =
        ((Framing.next opens closes held c).2.bind stored).getD s.location := by
  have hrunning := h.running
  have hflag := h.flagRead
  by_cases hopens : c = byte '$'
  · subst hopens
    cases held with
    | none =>
      have hreceive : receive s (some (byte '$')) =
          { s with flagRead := true, buf := [byte '$'] } := by
        simp only [receive,hrunning,hflag]
        rfl
      rw [hreceive]
      exact ⟨scans_some hrunning rfl rfl,rfl⟩
    | some body =>
      have hreceive : receive s (some (byte '$')) = s := by
        simp only [receive,hrunning,hflag]
        rfl
      rw [hreceive]
      refine ⟨scans_some hrunning hflag ?_,rfl⟩
      have hdollar : opens (byte '$') = true := rfl
      rw [buffered_concat,if_pos hdollar]
      exact h.buf body rfl
  · have hnot : opens c = false := decide_eq_false hopens
    cases held with
    | none =>
      have hreceive : receive s (some c) = s := by
        simp only [receive,hrunning,hflag,ne_eq,hopens,not_false_eq_true,if_true]
        rfl
      have hnext : Framing.next opens closes none c = (none,none) := by simp [Framing.next,hnot]
      rw [hreceive,hnext]
      exact ⟨h,rfl⟩
    | some body =>
      have hbuf := h.buf body rfl
      cases hc : closes c with
      | true =>
        have hreceive : receive s (some c) = parseLine { s with flagRead := false } := by
          simp only [receive,hrunning,hflag,ne_eq,hopens,not_false_eq_true,if_true]
          exact if_pos hc
        have hnext : Framing.next opens closes (some body) c = (none,some body) := by
          simp [Framing.next,hc]
        rw [hreceive,hnext]
        obtain ⟨hloc,hbetween,hrun,hflag'⟩ := parseLine_buffered (s := { s with flagRead := false }) hbuf
        exact ⟨scans_none (hrun.trans hrunning) hflag' hbetween,hloc⟩
      | false =>
        have hreceive : receive s (some c) =
            if s.buf.length < 300 - 1 then { s with buf := s.buf ++ [c] } else s := by
          simp only [receive,hrunning,hflag,ne_eq,hopens,not_false_eq_true,if_true]
          exact if_neg (Bool.eq_false_iff.mp hc)
        have hnext : Framing.next opens closes (some body) c = (some (body ++ [c]),none) := by
          simp [Framing.next,hc]
        have hconcat := buffered_concat body c
        rw [hnot,← hbuf] at hconcat
        rw [hreceive,hnext]
        split_ifs with hlen
        · rw [if_pos hlen] at hconcat
          exact ⟨scans_some hrunning hflag hconcat.symm,rfl⟩
        · rw [if_neg hlen] at hconcat
          exact ⟨scans_some hrunning hflag hconcat.symm,rfl⟩

/-- The end of the device stores nothing more. -/
theorem receive_end (h : Scans held s) :
    (receive s none).location = s.location ∧ (receive s none).running = false := by
  have hrunning := h.running
  have hflag := h.flagRead
  cases held with
  | some body =>
    have hreceive : receive s none = { s with running := false, flagRead := false, buf := [] } := by
      simp only [receive,hrunning,hflag]
      rfl
    rw [hreceive]
    exact ⟨rfl,rfl⟩
  | none =>
    have hreceive : receive s none = parseLine { s with running := false } := by
      simp only [receive,hrunning,hflag]
      rfl
    have hbetween : processGps (cstr { s with running := false }.buf) = none := h.between rfl
    rw [hreceive,parseLine,hbetween]
    exact ⟨rfl,rfl⟩

theorem foldl_closed (h : s.running = false) (inputs : List (Option UInt8)) :
    inputs.foldl receive s = s := by
  have hclosed (input : Option UInt8) : receive s input = s := by simp [receive,h]
  induction inputs with
  | nil => rfl
  | cons input inputs ih => rw [List.foldl_cons,hclosed,ih]

theorem run_location (inputs : List (Option UInt8)) (h : Scans held s) :
    (inputs.foldl receive s).location =
      ((Framing.emitted opens closes held (delivered inputs)).filterMap stored).getLast?.getD
        s.location := by
  induction inputs generalizing held s with
  | nil => rfl
  | cons input inputs ih =>
    rw [List.foldl_cons]
    cases input with
    | none =>
      obtain ⟨hloc,hclosed⟩ := receive_end h
      rw [foldl_closed hclosed,hloc]
      rfl
    | some c =>
      obtain ⟨hscans,hloc⟩ := receive_scans h c
      have hdelivered : delivered (some c::inputs) = c::delivered inputs := rfl
      rw [ih hscans,hloc,hdelivered,Framing.emitted,List.filterMap_append,List.getLast?_append]
      cases (Framing.next opens closes held c).2 with
      | none => simp
      | some body => cases hb : stored body <;> simp [hb]

/-- Whatever the receiver sends, in whatever pieces it is read: the location is the one of the last
sentence that has a position, and at first the unknown one. -/
theorem last_position_stored (inputs : List (Option UInt8)) :
    (inputs.foldl receive start).location =
      ((sentences (delivered inputs)).filterMap stored).getLast?.getD
        (str "NFFFF",str "EFFFFF") := by
  have hstart : Scans none start :=
    scans_none rfl rfl (processGps_of_no_comma List.not_mem_nil)
  rw [run_location inputs hstart,(Framing.emitted_eq _).1]
  rfl

end Gps
end Sap9001
