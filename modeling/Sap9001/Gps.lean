import Sap9001.Bytes
import Sap9001.Library.StepSystem

/-! The location that `GET_GPS` stores from the lines of the receiver (`hal/gps.cpp`). -/
namespace Sap9001
namespace Gps

/-- `strncpy` into an array of `size` bytes with a NUL at its end. -/
def strncpy (size : ℕ) (s : Str) : Str := (cstr s).take (size - 1)

structure Position where
  lat : Str
  flagLat : Str
  lon : Str
  flagLon : Str

/-- The position in a line; `strtok` gives the fields that are not empty. -/
def processGps (line : Str) : Option Position :=
  match (line.splitOn (byte ',')).filter (· ≠ []) with
  | [] => none
  | token::fields =>
    -- The time is skipped, the status V is an invalid position.
    if (fields.drop 1).head?.any (fun status => status.head? = some (byte 'V')) then none
    else if token = str "$GNRMC" then
      match fields.drop 2 with
      | latitude::nsFlag::longitude::ewFlag::_ =>
        some ⟨strncpy 10 latitude,strncpy 5 nsFlag,strncpy 12 longitude,strncpy 5 ewFlag⟩
      | _ => none
    else none

structure State where
  lat : Str
  lon : Str
  buf : Str
  flagRead : Bool
  running : Bool

def start : State where
  lat := str "NFFFF"
  lon := str "EFFFFF"
  buf := []
  flagRead := false
  running := true

/-- The parsing of the buffer; the decimal points are left out of what is stored. -/
def parseLine (s : State) : State :=
  match processGps (cstr s.buf) with
  -- `strtok` has put a NUL behind the first field.
  | none => { s with buf := (cstr s.buf).takeWhile (· ≠ byte ',') }
  | some p =>
    { s with
      lat := p.flagLat ++ p.lat.eraseIdx 4
      lon := p.flagLon ++ p.lon.eraseIdx 5
      buf := [] }

/-- One `read` of a byte; `none` is the end of the device or an error. -/
def receive (s : State) (input : Option UInt8) : State :=
  if !s.running then s
  else match input with
    | none =>
      if s.flagRead then { s with running := false, flagRead := false, buf := [] }
      else parseLine { s with running := false }
    | some c =>
      if c ≠ byte '$' then
        if !s.flagRead then s
        else if c = byte '\n' || c = byte '*' then parseLine { s with flagRead := false }
        else if s.buf.length < 300 - 1 then { s with buf := s.buf ++ [c] }
        else s
      else if !s.flagRead then { s with flagRead := true, buf := [c] }
      else s

def getLocation (s : State) : Str := s.lat ++ s.lon

/-- A location that some input of the receiver leaves behind. -/
def Storable (location : Str) : Prop :=
  ∃ inputs : List (Option UInt8), getLocation (inputs.foldl receive start) = location

theorem strncpy_no_nul (size : ℕ) (s : Str) : (0 : UInt8) ∉ strncpy size s :=
  fun h => cstr_no_nul s (List.mem_of_mem_take h)

theorem length_strncpy (size : ℕ) (s : Str) : (strncpy size s).length ≤ size - 1 :=
  List.length_take_le _ _

/-- The fields of a position are strings of their arrays. -/
theorem processGps_copied {line : Str} {p : Position} (h : processGps line = some p) :
    ∃ latitude nsFlag longitude ewFlag : Str, p =
      ⟨strncpy 10 latitude,strncpy 5 nsFlag,strncpy 12 longitude,strncpy 5 ewFlag⟩ := by
  unfold processGps at h
  split at h
  · cases h
  · split_ifs at h
    split at h
    · exact ⟨_,_,_,_,(Option.some.inj h).symm⟩
    · cases h

/-- One half of the location. -/
def Bounded (n : ℕ) (s : Str) : Prop := s.length ≤ n ∧ (0 : UInt8) ∉ s

theorem bounded_erase {flag value : Str} {n m k : ℕ} (hflag : flag.length ≤ n)
    (hvalue : value.length ≤ m + 1) (hk : k ≤ m) (hnulflag : (0 : UInt8) ∉ flag)
    (hnul : (0 : UInt8) ∉ value) : Bounded (n+m) (flag ++ value.eraseIdx k) := by
  constructor
  · rw [List.length_append,List.length_eraseIdx]
    split_ifs <;> omega
  · intro hmem
    rcases List.mem_append.mp hmem with h | h
    · exact hnulflag h
    · exact hnul (List.mem_of_mem_eraseIdx h)

structure Inv (s : State) : Prop where
  lat : Bounded 12 s.lat
  lon : Bounded 14 s.lon

theorem parseLine_inv {s : State} (h : Inv s) : Inv (parseLine s) := by
  unfold parseLine
  split <;> rename_i hp
  · exact ⟨h.lat,h.lon⟩
  · obtain ⟨latitude,nsFlag,longitude,ewFlag,rfl⟩ := processGps_copied hp
    have hlat := length_strncpy 10 latitude
    have hns := length_strncpy 5 nsFlag
    have hlon := length_strncpy 12 longitude
    have hew := length_strncpy 5 ewFlag
    constructor
    · exact bounded_erase (n := 4) (m := 8) hns hlat (by decide) (strncpy_no_nul _ _)
        (strncpy_no_nul _ _)
    · exact bounded_erase (n := 4) (m := 10) hew hlon (by decide) (strncpy_no_nul _ _)
        (strncpy_no_nul _ _)

theorem receive_inv {s : State} (input : Option UInt8) (h : Inv s) : Inv (receive s input) := by
  cases input with
  | none =>
    simp only [receive]
    split_ifs
    · exact h
    · exact ⟨h.lat,h.lon⟩
    · exact parseLine_inv ⟨h.lat,h.lon⟩
  | some c =>
    simp only [receive]
    -- Only the end of a line stores anything.
    split_ifs <;> first
      | exact h
      | exact ⟨h.lat,h.lon⟩
      | exact parseLine_inv ⟨h.lat,h.lon⟩

/-- Whatever the receiver sends, the location has at most 26 characters. -/
theorem storable_bounded {location : Str} (h : Storable location) : Bounded 26 location := by
  obtain ⟨inputs,rfl⟩ := h
  have hrun := StepSystem.Run.foldl receive start inputs
  have hstart : Inv start := by
    constructor
    · exact ⟨by decide,by decide⟩
    · exact ⟨by decide,by decide⟩
  have hinv : Inv (inputs.foldl receive start) := by
    refine hrun.invariant ?_ hstart
    rintro s input t hs rfl
    exact receive_inv input hs
  obtain ⟨⟨hlat,hnulLat⟩,hlon,hnulLon⟩ := hinv
  constructor
  · rw [getLocation,List.length_append]
    omega
  · simp [getLocation,hnulLat,hnulLon]

end Gps
end Sap9001
