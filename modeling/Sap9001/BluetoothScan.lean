import Sap9001.DeviceInit
import Sap9001.Library.Records

/-! The scan for the device to connect to (`hal/bluetooth.cpp`): what the bytes of the module say,
in whatever pieces they come. -/
namespace Sap9001
namespace BluetoothScan

/-- `strstr(s.c_str(), needle) != NULL`. -/
def contains (s needle : Str) : Bool := needle <:+: cstr s

/-- The result of `blue_proc_message`, with the line it leaves. -/
def blueProcMessage (meg : Str) : Int × Str :=
  if meg = [] then (1,meg)
  else if contains meg (str "END") then (3,meg)
  else if contains meg (str "g2020") then (2,if 12 ≤ meg.length then substr meg 0 12 else meg)
  else (1,meg)

/-- What one round of the loop sees: `select` does not find the port ready, `read` fails, or a byte
is read. -/
inductive Event
  | silent
  | failed
  | read (c : UInt8)

/-- The loop of the scan, which returns the MAC; `none` while it still waits. -/
def scan : ℕ → Str → List Event → Option (Option Str)
  | 0, _, _ => some none
  | _+1, _, [] => none
  | retryCount+1, proMessage, .silent::es => scan retryCount proMessage es
  | _+1, _, .failed::_ => some none
  | retryCount+1, proMessage, .read c::es =>
    if c ≠ byte '\n' then scan (retryCount + 1) (proMessage ++ [c]) es
    else if (blueProcMessage proMessage).1 = 1 then scan (retryCount + 1) [] es
    else if (blueProcMessage proMessage).1 = 2 then some (some (blueProcMessage proMessage).2)
    else some none

/-- The answers of the module: to the reset, none if there is none in time, to the two commands, and
to the scan. -/
structure Answers where
  reset : Option Str
  openVisual : Bool
  atScan : Bool
  events : List Event

/-- `bluetooth_open` once the port is configured. -/
def dialog (a : Answers) : Option (Option Str) :=
  match a.reset with
  | none => some none
  | some buf =>
    if !contains (buf.take 60) (str "OK") then some none
    else if !a.openVisual then some none
    else if !a.atScan then some none
    else scan 5 [] a.events

/-- The bytes that are read before the last of `n` silent rounds, or before a failure. -/
def heard : ℕ → List Event → Str
  | 0, _ => []
  | _+1, [] => []
  | n+1, .silent::es => heard n es
  | _+1, .failed::_ => []
  | n+1, .read c::es => c::heard (n+1) es

/-- Whether the loop is over without an answer. -/
def ended : ℕ → List Event → Bool
  | 0, _ => true
  | _+1, [] => false
  | n+1, .silent::es => ended n es
  | _+1, .failed::_ => true
  | n+1, .read _::es => ended (n+1) es

/-- A line that decides the scan. -/
def decisive (line : Str) : Bool := contains line (str "END") || contains line (str "g2020")

/-- The MAC that a decisive line gives, unless it says that the scan is at its end. -/
def verdict (line : Str) : Option Str :=
  if contains line (str "END") then none else some (line.take 12)

theorem not_decisive_iff {line : Str} : decisive line = false ↔
    contains line (str "END") = false ∧ contains line (str "g2020") = false := by
  rw [decisive,Bool.or_eq_false_iff]

theorem verdict_iff {line mac : Str} : decisive line = true ∧ verdict line = some mac ↔
    contains line (str "g2020") = true ∧ contains line (str "END") = false ∧ mac = line.take 12 := by
  unfold decisive verdict
  cases contains line (str "END") with
  | true => simp
  | false =>
    rw [Bool.false_or,if_neg Bool.false_ne_true,Option.some_inj]
    exact ⟨fun h => ⟨h.1,rfl,h.2.symm⟩,fun h => ⟨h.1,h.2.2.symm⟩⟩

/-- A line that decides nothing is skipped. -/
theorem blueProcMessage_skips {line : Str} (h : decisive line = false) :
    (blueProcMessage line).1 = 1 := by
  obtain ⟨hend,hfound⟩ := not_decisive_iff.mp h
  simp [blueProcMessage,hend,hfound]

theorem blueProcMessage_decides {line : Str} (h : decisive line = true) :
    (blueProcMessage line).1 ≠ 1 ∧ verdict line =
      if (blueProcMessage line).1 = 2 then some (blueProcMessage line).2 else none := by
  have hne : line ≠ [] := by
    rintro rfl
    exact absurd h (by decide)
  unfold decisive at h
  unfold blueProcMessage verdict
  rw [if_neg hne]
  by_cases hend : contains line (str "END") = true
  · simp [hend]
  · have hfound : contains line (str "g2020") = true := by simpa [hend] using h
    rw [if_neg hend,if_neg hend,if_pos hfound]
    refine ⟨show (2 : Int) ≠ 1 by decide,?_⟩
    by_cases hlong : 12 ≤ line.length
    · rw [if_pos rfl,if_pos hlong]
      rfl
    · rw [if_pos rfl,if_neg hlong,List.take_of_length_le (by omega)]

/-- What the lines say that were read in time. -/
def answer (bytes : Str) (ended : Bool) : Option (Option Str) :=
  match (Records.records (byte '\n') bytes).find? decisive with
  | some line => some (verdict line)
  | none => if ended then some none else none

theorem answer_of_not_mem {bytes : Str} (h : byte '\n' ∉ bytes) (ended : Bool) :
    answer bytes ended = if ended then some none else none := by
  rw [answer,Records.records,Records.decode_of_not_mem _ h]
  rfl

theorem answer_line {line : Str} (h : byte '\n' ∉ line) (bytes : Str) (ended : Bool) :
    answer (line ++ byte '\n'::bytes) ended =
      if decisive line then some (verdict line) else answer bytes ended := by
  rw [answer,Records.records,Records.decode_record_append _ h,List.find?_cons]
  cases decisive line <;> rfl

theorem scan_eq {n : ℕ} {proMessage : Str} {es : List Event} (h : byte '\n' ∉ proMessage) :
    scan n proMessage es = answer (proMessage ++ heard n es) (ended n es) := by
  fun_induction scan n proMessage es with
  | case1 | case2 | case4 =>
    rw [heard,List.append_nil,answer_of_not_mem h]
    simp [ended]
  | case3 retryCount proMessage es ih => exact ih h
  | case5 retryCount proMessage c es hc ih =>
    have hmem : byte '\n' ∉ proMessage ++ [c] := by
      simp only [List.mem_append,List.mem_singleton,not_or]
      exact ⟨h,fun heq => hc heq.symm⟩
    rw [ih hmem,List.append_assoc]
    rfl
  | case6 retryCount proMessage c es hc hskip ih =>
    obtain rfl : c = byte '\n' := not_not.mp hc
    rw [heard,answer_line h,ih List.not_mem_nil]
    have hnot : ¬ decisive proMessage = true := fun hd => (blueProcMessage_decides hd).1 hskip
    rw [if_neg hnot]
    rfl
  | case7 retryCount proMessage c es hc hskip hfound =>
    obtain rfl : c = byte '\n' := not_not.mp hc
    have hd : decisive proMessage = true :=
      Bool.not_eq_false _ ▸ fun hd => hskip (blueProcMessage_skips hd)
    rw [heard,answer_line h,if_pos hd,(blueProcMessage_decides hd).2,if_pos hfound]
  | case8 retryCount proMessage c es hc hskip hfound =>
    obtain rfl : c = byte '\n' := not_not.mp hc
    have hd : decisive proMessage = true :=
      Bool.not_eq_false _ ▸ fun hd => hskip (blueProcMessage_skips hd)
    rw [heard,answer_line h,if_pos hd,(blueProcMessage_decides hd).2,if_neg hfound]

/-- The scan finds the device exactly if the module resets and takes both commands, and among the
lines that are complete before the fifth silence or a failure one names it, which does not say that
the scan is at its end, and no line before it decides anything. -/
theorem dialog_iff (a : Answers) (mac : Str) : dialog a = some (some mac) ↔
    (∃ buf, a.reset = some buf ∧ contains (buf.take 60) (str "OK") = true) ∧
      a.openVisual = true ∧ a.atScan = true ∧
      ∃ before line after, Records.records (byte '\n') (heard 5 a.events) = before ++ line::after ∧
        (∀ other ∈ before, contains other (str "END") = false ∧
          contains other (str "g2020") = false) ∧
        contains line (str "g2020") = true ∧ contains line (str "END") = false ∧
        mac = line.take 12 := by
  have hscan : scan 5 [] a.events = some (some mac) ↔
      ∃ line, (Records.records (byte '\n') (heard 5 a.events)).find? decisive = some line ∧
        verdict line = some mac := by
    rw [scan_eq List.not_mem_nil,List.nil_append,answer]
    cases (Records.records (byte '\n') (heard 5 a.events)).find? decisive with
    | none => cases ended 5 a.events <;> simp
    | some line => simp
  have hline : scan 5 [] a.events = some (some mac) ↔
      ∃ before line after, Records.records (byte '\n') (heard 5 a.events) = before ++ line::after ∧
        (∀ other ∈ before, contains other (str "END") = false ∧
          contains other (str "g2020") = false) ∧
        contains line (str "g2020") = true ∧ contains line (str "END") = false ∧
        mac = line.take 12 := by
    rw [hscan]
    simp only [List.find?_eq_some_iff_append]
    constructor
    · rintro ⟨line,⟨hline,before,after,hsplit,hbefore⟩,hmac⟩
      exact ⟨before,line,after,hsplit,fun other ho => not_decisive_iff.mp (by simpa using hbefore other ho),
        verdict_iff.mp ⟨hline,hmac⟩⟩
    · rintro ⟨before,line,after,hsplit,hbefore,hline⟩
      obtain ⟨hd,hmac⟩ := verdict_iff.mpr hline
      exact ⟨line,⟨hd,before,after,hsplit,fun other ho => by
        simpa using not_decisive_iff.mpr (hbefore other ho)⟩,hmac⟩
  unfold dialog
  cases a.reset with
  | none => simp
  | some buf =>
    dsimp only
    split_ifs with hreset hvisual hcommand
    all_goals simp_all

/-- Two rounds are silent, and the line of another device comes first. -/
example : dialog ⟨some (str "+OK"),true,true,.silent::((str "A0 phone\n").map Event.read ++
    .silent::(str "74DA38C3E2F1,g2020\n").map Event.read)⟩ = some (some (str "74DA38C3E2F1")) := by
  decide

/-- The port stays open exactly if it could be opened and the device is found on it. -/
theorem bluetoothOpen_iff (o : DeviceInit.Outcome) (a : Answers) (t : Handles.Table) :
    0 ≤ (DeviceInit.bluetoothOpen { o with btMac := (dialog a).getD none } t).1 ↔
      ((∃ j < 5, (o.ports j).ok = true) ∧ o.setOpt = true) ∧
        ∃ mac, dialog a = some (some mac) := by
  rw [(DeviceInit.bluetoothOpen_opens _ t).nonneg]
  cases hd : dialog a with
  | none => simp [DeviceInit.Outcome.bluetoothOk]
  | some r => cases r <;> simp [DeviceInit.Outcome.bluetoothOk]

/-- `bluetooth_open` returns a device, with this MAC, exactly if one of five attempts opens the port,
it can be configured, and the scan finds the device. When the bytes come does not matter. -/
theorem found_iff (o : DeviceInit.Outcome) (a : Answers) (t : Handles.Table) (mac : Str) :
    (0 ≤ (DeviceInit.bluetoothOpen { o with btMac := (dialog a).getD none } t).1 ∧
      dialog a = some (some mac)) ↔
    ((∃ j < 5, (o.ports j).ok = true) ∧ o.setOpt = true) ∧
      (∃ buf, a.reset = some buf ∧ contains (buf.take 60) (str "OK") = true) ∧
      a.openVisual = true ∧ a.atScan = true ∧
      ∃ before line after, Records.records (byte '\n') (heard 5 a.events) = before ++ line::after ∧
        (∀ other ∈ before, contains other (str "END") = false ∧
          contains other (str "g2020") = false) ∧
        contains line (str "g2020") = true ∧ contains line (str "END") = false ∧
        mac = line.take 12 := by
  rw [bluetoothOpen_iff,← dialog_iff a mac]
  constructor
  · rintro ⟨⟨hport,-⟩,hmac⟩
    exact ⟨hport,hmac⟩
  · rintro ⟨hport,hmac⟩
    exact ⟨⟨hport,mac,hmac⟩,hmac⟩

end BluetoothScan
end Sap9001
