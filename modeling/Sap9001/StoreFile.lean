import Sap9001.Bytes
import Sap9001.MessageQueue
import Sap9001.Library.Records

/-! The store file of unsent packets (`protocol/protocol_process.cpp`): one packet a line,
appended when the process is stopped, loaded and truncated at the next start. -/
namespace Sap9001

def newline : UInt8 := 10

/-- What the two `write` calls for one packet do: the result of the first, and whether the
second puts the newline. -/
structure ItemWrite where
  num : Int
  newlineWritten : Bool

/-- Both calls write all they are given. -/
def ItemWrite.complete (item : Str) : ItemWrite := ⟨item.length,true⟩

/-- One round of the loop of `drainAndPersist` and `drainAndPersistUnsafe`: whether the
packet is counted, and the file afterwards. -/
def persistItem (w : ItemWrite) (item file : Str) : Bool × Str :=
  if w.num ≤ 0 then (false,file)
  else (true,file ++ item.take w.num.toNat ++ (if w.newlineWritten then [newline] else []))

/-- The loop over the packets: how many are counted, and the file afterwards; `writes` gives the
outcome of the calls in their order. -/
def persistItems (writes : ℕ → ItemWrite) : List Str → Str → ℕ × Str
  | [], file => (0,file)
  | item::items, file =>
    let (counted,file) := persistItem (writes 0) item file
    let (count,file) := persistItems (fun k => writes (k+1)) items file
    ((if counted then 1 else 0) + count,file)

/-- The value returned, the queue and the store file after a call. -/
structure Persisted where
  count : Int
  buffer : MessageQueue Str
  storeFile : Option Str

/-- The common body of the two functions: whether `open` succeeds, what the writes do, the queue
and the file, `none` when there is none. -/
def persistWith (drain : MessageQueue Str → List Str × MessageQueue Str) (opened : Bool)
    (writes : ℕ → ItemWrite) (buffer : MessageQueue Str) (storeFile : Option Str) : Persisted :=
  let (items,buffer) := drain buffer
  if items.isEmpty then ⟨0,buffer,storeFile⟩
  else if !opened then ⟨-1,buffer,storeFile⟩
  else
    let (count,file) := persistItems writes items (storeFile.getD [])
    ⟨count,buffer,some file⟩

def drainAndPersist : Bool → (ℕ → ItemWrite) → MessageQueue Str → Option Str → Persisted :=
  persistWith MessageQueue.popAll

def drainAndPersistUnsafe : Bool → (ℕ → ItemWrite) → MessageQueue Str → Option Str → Persisted :=
  persistWith MessageQueue.drainUnsafe

/-- The successive results of `getline`. -/
def getlines : Str → List Str
  | [] => []
  | c::cs =>
    if c = newline then [c]::getlines cs
    else
      match getlines cs with
      | [] => [[c]]
      | line::lines => (c::line)::lines

/-- The packet that one line of the file gives: an 06 packet becomes a 21 packet. Lines that
are empty up to the first NUL are skipped. -/
def loadLine (buffer : Str) : Option Str :=
  let line := cstr buffer
  if line = [] then none
  else
    let line := if line.getLast? = some newline then line.dropLast else line
    if line = [] then none
    else
      let line := if 3 ≤ line.length ∧ line.head? = some (byte '$') then
        line.take 1 ++ str "21" ++ line.drop 3 else line
      some (if line.getLast? = some (byte '@') then line.dropLast else line)

/-- The packets loaded and the file afterwards; `none` is a file that cannot be opened. -/
def readFromFile (truncated : Bool) : Option Str → List Str × Option Str
  | none => ([],none)
  | some file => ((getlines file).filterMap loadLine,some (if truncated then [] else file))

/-- The loop of `readFromFile`: the queue that it fills and the counter. -/
def readLines (lines recvQueue : List Str) (count : ℕ) : List Str × ℕ :=
  lines.foldl (fun s buffer =>
    match loadLine buffer with
    | none => s
    | some packet => (s.1 ++ [packet],s.2 + 1)) (recvQueue,count)

/-- `readFromFile` with the number it returns and the queue it appends to. -/
def readFromFileInto (truncated : Bool) (recvQueue : List Str) :
    Option Str → ℕ × List Str × Option Str
  | none => (0,recvQueue,none)
  | some file =>
    let (recvQueue,count) := readLines (getlines file) recvQueue 0
    (count,recvQueue,some (if truncated then [] else file))

theorem readLines_eq (lines recvQueue : List Str) (count : ℕ) : readLines lines recvQueue count =
    (recvQueue ++ lines.filterMap loadLine,count + (lines.filterMap loadLine).length) := by
  induction lines generalizing recvQueue count with
  | nil => simp [readLines]
  | cons line lines ih =>
    cases h : loadLine line with
    | none => simpa [readLines,h] using ih recvQueue count
    | some packet =>
      have hstep : readLines (line::lines) recvQueue count =
          readLines lines (recvQueue ++ [packet]) (count + 1) := by
        simp [readLines,h]
      rw [hstep,ih]
      simp [h]
      omega

/-- What is appended to the queue, and counted, is what is loaded. -/
theorem readFromFileInto_eq (truncated : Bool) (recvQueue : List Str) (storeFile : Option Str) :
    readFromFileInto truncated recvQueue storeFile =
      ((readFromFile truncated storeFile).1.length,
        recvQueue ++ (readFromFile truncated storeFile).1,(readFromFile truncated storeFile).2) := by
  cases storeFile with
  | none => simp [readFromFileInto,readFromFile]
  | some file => simp [readFromFileInto,readFromFile,readLines_eq]

theorem getlines_line_append {line : Str} (h : newline ∉ line) (file : Str) :
    getlines (line ++ newline::file) = (line ++ [newline])::getlines file := by
  induction line with
  | nil => simp [getlines]
  | cons c line ih =>
    have hc : c ≠ newline := by
      rintro rfl
      exact h (by simp)
    simp [getlines,hc,ih (fun hmem => h (by simp [hmem]))]

/-- `getline` finds the records that were written. -/
theorem getlines_encode {lines : List Str} (h : ∀ line ∈ lines, newline ∉ line) :
    getlines (Records.encode newline lines) = lines.map (· ++ [newline]) := by
  induction lines with
  | nil => rfl
  | cons line lines ih =>
    have hcons : Records.encode newline (line::lines) =
        line ++ newline::Records.encode newline lines := by
      simp [Records.encode]
    rw [hcons,getlines_line_append (h line (by simp)),ih (fun l hl => h l (by simp [hl]))]
    rfl

/-- The packet that is sent again for a stored one. -/
def resend (packet : Str) : Str :=
  let packet := if 3 ≤ packet.length ∧ packet.head? = some (byte '$') then
    packet.take 1 ++ str "21" ++ packet.drop 3 else packet
  if packet.getLast? = some (byte '@') then packet.dropLast else packet

/-- The stored packet that a line gives: up to the first NUL and without the newline. -/
def storedPacket (buffer : Str) : Str :=
  let line := cstr buffer
  if line.getLast? = some newline then line.dropLast else line

theorem loadLine_eq (buffer : Str) : loadLine buffer =
    if cstr buffer = [] then none
    else if storedPacket buffer = [] then none
    else some (resend (storedPacket buffer)) := rfl

theorem loadLine_eq_some {buffer packet : Str} (h : loadLine buffer = some packet) :
    packet = resend (storedPacket buffer) := by
  rw [loadLine_eq] at h
  split_ifs at h
  exact (Option.some.inj h).symm

/-- A line is read up to its first NUL. -/
theorem loadLine_line {line : Str} (h : newline ∉ line) : loadLine (line ++ [newline]) =
    if cstr line = [] then none else some (resend (cstr line)) := by
  by_cases hnul : (0 : UInt8) ∈ line
  · -- The newline lies behind the NUL.
    have hlast : (cstr line).getLast? ≠ some newline := by
      intro hl
      have hmem : newline ∈ line := (List.takeWhile_sublist _).subset (List.mem_of_getLast? hl)
      exact h hmem
    rw [loadLine_eq,storedPacket,cstr_append_of_mem hnul,if_neg hlast]
    by_cases hempty : cstr line = [] <;> simp [hempty]
  · have hself : cstr (line ++ [newline]) = line ++ [newline] := by
      apply cstr_of_no_nul
      simp only [List.mem_append,hnul,List.mem_singleton,false_or]
      decide
    rw [loadLine_eq,storedPacket,hself,cstr_of_no_nul hnul]
    by_cases hempty : line = [] <;> simp [hempty]

/-- Both calls write all they are given, the first of them at least one byte. -/
def ItemWrite.Full (w : ItemWrite) (item : Str) : Prop :=
  0 < w.num ∧ (item.length : Int) ≤ w.num ∧ w.newlineWritten = true

/-- Every packet of the list is written in full by its two calls. -/
def AllFull (writes : ℕ → ItemWrite) (items : List Str) : Prop :=
  ∀ k item, items[k]? = some item → (writes k).Full item

theorem persistItem_full {w : ItemWrite} {item : Str} (h : w.Full item) (file : Str) :
    persistItem w item file = (true,file ++ (item ++ [newline])) := by
  obtain ⟨hpos,hnum,hnewline⟩ := h
  have htake : item.take w.num.toNat = item := List.take_of_length_le (by omega)
  simp [persistItem,htake,hnewline,hpos]

theorem AllFull.tail {writes : ℕ → ItemWrite} {item : Str} {items : List Str}
    (h : AllFull writes (item::items)) : AllFull (fun k => writes (k+1)) items :=
  fun k next hk => h (k+1) next (by simpa using hk)

theorem persistItems_full {writes : ℕ → ItemWrite} {items : List Str} (h : AllFull writes items)
    (file : Str) :
    persistItems writes items file = (items.length,file ++ Records.encode newline items) := by
  induction items generalizing writes file with
  | nil => simp [persistItems]
  | cons item items ih =>
    have hitem := persistItem_full (h 0 item rfl) file
    have htail := ih h.tail
    simp only [persistItems,hitem,htail]
    simp [Records.encode,Nat.add_comm]

/-- One call of `drainAndPersist`, or of `drainAndPersistUnsafe` in the signal handler. -/
structure Session where
  inHandler : Bool
  opened : Bool
  writes : ℕ → ItemWrite
  buffer : MessageQueue Str

def Session.run (s : Session) (storeFile : Option Str) : Persisted :=
  if s.inHandler then drainAndPersistUnsafe s.opened s.writes s.buffer storeFile
  else drainAndPersist s.opened s.writes s.buffer storeFile

/-- The calls one after the other: the queues afterwards and the store file. -/
def runSessions : List Session → Option Str → List (MessageQueue Str) × Option Str
  | [], storeFile => ([],storeFile)
  | s::sessions, storeFile =>
    let persisted := s.run storeFile
    let (buffers,storeFile) := runSessions sessions persisted.storeFile
    (persisted.buffer::buffers,storeFile)

/-- The file is opened and every packet is written in full. -/
def Session.Succeeds (s : Session) : Prop := s.opened = true ∧ AllFull s.writes s.buffer.queue

/-- Without interference the two functions are one. -/
theorem Session.run_eq (s : Session) (storeFile : Option Str) :
    s.run storeFile = drainAndPersist s.opened s.writes s.buffer storeFile := by
  rw [run]
  split_ifs <;> rfl

section Call

variable {opened : Bool} {writes : ℕ → ItemWrite} {buffer : MessageQueue Str}
  {storeFile : Option Str}

theorem drainAndPersist_buffer :
    (drainAndPersist opened writes buffer storeFile).buffer.queue = [] := by
  cases opened <;> by_cases h : buffer.queue = [] <;>
    simp [drainAndPersist,persistWith,MessageQueue.popAll,h]

theorem drainAndPersist_of_empty (h : buffer.queue = []) :
    (drainAndPersist opened writes buffer storeFile).count = 0 ∧
      (drainAndPersist opened writes buffer storeFile).storeFile = storeFile := by
  simp [drainAndPersist,persistWith,MessageQueue.popAll,h]

theorem drainAndPersist_of_not_opened (h : buffer.queue ≠ []) :
    (drainAndPersist false writes buffer storeFile).count = -1 ∧
      (drainAndPersist false writes buffer storeFile).storeFile = storeFile := by
  simp [drainAndPersist,persistWith,MessageQueue.popAll,h]

theorem drainAndPersist_of_opened (h : buffer.queue ≠ []) :
    (drainAndPersist true writes buffer storeFile).count =
        (persistItems writes buffer.queue (storeFile.getD [])).1 ∧
      (drainAndPersist true writes buffer storeFile).storeFile =
        some (persistItems writes buffer.queue (storeFile.getD [])).2 := by
  simp [drainAndPersist,persistWith,MessageQueue.popAll,h]

end Call

/-- A call that succeeds appends the packets of the queue as records. -/
theorem Session.run_storeFile {s : Session} (h : s.Succeeds) (file : Str) :
    (s.run (some file)).storeFile =
      some (file ++ Records.encode newline s.buffer.queue) := by
  rw [s.run_eq,h.1]
  by_cases hq : s.buffer.queue = []
  · simp [(drainAndPersist_of_empty hq).2,hq]
  · rw [(drainAndPersist_of_opened hq).2,Option.getD_some,persistItems_full h.2]

section RoundTrip

variable {sessions : List Session}

theorem runSessions_buffers (sessions : List Session) (storeFile : Option Str) :
    ∀ q ∈ (runSessions sessions storeFile).1, q.queue = [] := by
  induction sessions generalizing storeFile with
  | nil => simp [runSessions]
  | cons s sessions ih =>
    intro q hq
    rcases List.mem_cons.mp hq with rfl | hq
    · exact s.run_eq storeFile ▸ drainAndPersist_buffer
    · exact ih _ q hq

theorem runSessions_storeFile (hsuccess : ∀ s ∈ sessions, s.Succeeds) (file : Str) :
    (runSessions sessions (some file)).2 =
      some (file ++ Records.encode newline (sessions.flatMap (·.buffer.queue))) := by
  induction sessions generalizing file with
  | nil => simp [runSessions]
  | cons s sessions ih =>
    have hs := Session.run_storeFile (hsuccess s (by simp)) file
    have htail := ih (fun t ht => hsuccess t (by simp [ht]))
      (file ++ Records.encode newline s.buffer.queue)
    simp only [runSessions,hs,htail,List.flatMap_cons,Records.encode_append,List.append_assoc]

/-- The packets that the lines of a file are loaded as. -/
theorem readFromFile_encode {lines : List Str} (h : ∀ line ∈ lines, newline ∉ line) :
    (readFromFile true (some (Records.encode newline lines))).1 =
      ((lines.map cstr).filter (· ≠ [])).map resend := by
  rw [readFromFile,getlines_encode h,List.filterMap_map]
  induction lines with
  | nil => rfl
  | cons line lines ih =>
    have hline := loadLine_line (h line (by simp))
    have htail := ih (fun l hl => h l (by simp [hl]))
    by_cases hempty : cstr line = [] <;> simp_all

/-- What is persisted is loaded again: the old lines up to their first NUL, without those that
are empty, then the packets of the calls in their order. -/
theorem store_file_round_trip {old : Str} (hold : Records.Terminated newline old)
    (hpackets : ∀ s ∈ sessions, ∀ p ∈ s.buffer.queue, p ≠ [] ∧ newline ∉ p ∧ (0 : UInt8) ∉ p)
    (hsuccess : ∀ s ∈ sessions, s.Succeeds) (recvQueue : List Str) :
    (∀ q ∈ (runSessions sessions (some old)).1, q.queue = []) ∧
    ∃ loaded : List Str, loaded = ((Records.records newline old).map cstr).filter (· ≠ []) ++
      sessions.flatMap (·.buffer.queue) ∧
      readFromFileInto true recvQueue (runSessions sessions (some old)).2 =
        (loaded.length,recvQueue ++ loaded.map resend,some []) := by
  refine ⟨runSessions_buffers sessions (some old),_,rfl,?_⟩
  set packets := sessions.flatMap (·.buffer.queue) with hflat
  have hpacket (p : Str) (hp : p ∈ packets) : p ≠ [] ∧ newline ∉ p ∧ (0 : UInt8) ∉ p := by
    obtain ⟨s,hs,hmem⟩ := List.mem_flatMap.mp hp
    exact hpackets s hs p hmem
  have hlines : ∀ line ∈ Records.records newline old ++ packets, newline ∉ line := by
    intro line hline
    rcases List.mem_append.mp hline with h | h
    · exact (Records.not_mem_decode newline old).1 line h
    · exact (hpacket line h).2.1
  have hfile : (runSessions sessions (some old)).2 =
      some (Records.encode newline (Records.records newline old ++ packets)) := by
    rw [runSessions_storeFile hsuccess,Records.encode_append,Records.encode_records newline hold]
  have hkept : (packets.map cstr).filter (· ≠ []) = packets := by
    rw [map_cstr (fun p hp => (hpacket p hp).2.2),List.filter_eq_self]
    intro p hp
    simpa using (hpacket p hp).1
  have hread := readFromFile_encode hlines
  rw [List.map_append,List.filter_append,hkept] at hread
  rw [readFromFileInto_eq,hfile,hread]
  simp [readFromFile]

end RoundTrip

/-- A stored packet and a NUL in an old line. -/
def oldFile : Str := str "$06A@\n" ++ (str "a" ++ ([0] ++ str "b\n"))

/-- What stands behind a NUL in an old line is not loaded. -/
theorem nul_line_cut : ¬ ∀ (old : Str) (sessions : List Session), Records.Terminated newline old →
    (∀ s ∈ sessions, ∀ p ∈ s.buffer.queue, p ≠ [] ∧ newline ∉ p ∧ (0 : UInt8) ∉ p) →
    (∀ s ∈ sessions, s.Succeeds) → ∀ recvQueue : List Str,
    ∃ loaded : List Str, loaded = (Records.records newline old).filter (· ≠ []) ++
      sessions.flatMap (·.buffer.queue) ∧
      readFromFileInto true recvQueue (runSessions sessions (some old)).2 =
        (loaded.length,recvQueue ++ loaded.map resend,some []) := by
  intro hall
  obtain ⟨loaded,rfl,hread⟩ := hall oldFile [] (by decide) (by simp) (by simp) []
  exact absurd (congrArg (·.2.1) hread) (by decide)

theorem persisted_packet_loaded : readFromFileInto true []
    (runSessions [⟨false,true,fun _ => ⟨6,true⟩,⟨[str "$06BC@"],false⟩⟩] (some oldFile)).2 =
      (3,[str "$21A",str "a",str "$21BC"],some []) := by
  have hsuccess : AllFull (fun _ => ⟨6,true⟩) [str "$06BC@"] := by
    intro k item hk
    obtain ⟨rfl,rfl⟩ : k = 0 ∧ str "$06BC@" = item := by
      cases k <;> simp_all
    exact ⟨by decide,by decide,rfl⟩
  have hold : Records.Terminated newline oldFile := by decide
  have hsucceeds : ∀ s ∈ [(⟨false,true,fun _ => ⟨6,true⟩,⟨[str "$06BC@"],false⟩⟩ : Session)],
      s.Succeeds := by simpa [Session.Succeeds] using hsuccess
  obtain ⟨-,loaded,hloaded,hread⟩ := store_file_round_trip hold (by simp; decide) hsucceeds []
  rw [hread,hloaded]
  decide

/-- The lines of the store file that a call has written from their start: behind an unfinished
old line the first one does not count. -/
def ownLines (old file : Str) : List Str :=
  let lines := Records.records newline (file.drop old.length)
  if Records.Terminated newline old then lines else lines.tail

/-- How many packets of the list are stored completely, each followed by its newline. -/
def storedCount (writes : ℕ → ItemWrite) : List Str → ℕ
  | [] => 0
  | item::items =>
    (if (persistItem (writes 0) item []).2 = item ++ [newline] then 1 else 0) +
      storedCount (fun k => writes (k+1)) items

/-- Every packet that was in the queue has a line of its own or is still there, and a number that
is returned is that of the packets stored. -/
def Session.LosesNothing (s : Session) (storeFile : Option Str) : Prop :=
  s.buffer.queue.Subperm (ownLines (storeFile.getD []) ((s.run storeFile).storeFile.getD []) ++
    (s.run storeFile).buffer.queue) ∧
  (0 ≤ (s.run storeFile).count → (s.run storeFile).count = storedCount s.writes s.buffer.queue)

theorem persistItem_append (w : ItemWrite) (item file : Str) :
    persistItem w item file = ((persistItem w item []).1,file ++ (persistItem w item []).2) := by
  rw [persistItem,persistItem]
  split_ifs <;> simp

/-- The file is only appended to. -/
theorem persistItems_append (writes : ℕ → ItemWrite) (items : List Str) (file : Str) :
    persistItems writes items file =
      ((persistItems writes items []).1,file ++ (persistItems writes items []).2) := by
  induction items generalizing writes file with
  | nil => simp [persistItems]
  | cons item items ih =>
    have hitem := persistItem_append (writes 0) item file
    have hfile := ih (fun k => writes (k+1)) (file ++ (persistItem (writes 0) item []).2)
    have hnil := ih (fun k => writes (k+1)) (persistItem (writes 0) item []).2
    simp only [persistItems]
    rw [hitem,hfile,hnil,List.append_assoc]

/-- A packet takes at most its length and a newline, and only a complete one takes as much. -/
theorem length_persistItem (w : ItemWrite) (item : Str) :
    (persistItem w item []).2.length ≤ item.length + 1 ∧
      ((persistItem w item []).2.length = item.length + 1 → w.Full item) := by
  rw [persistItem]
  split_ifs with hnum hnewline
  · simp
  · refine ⟨by simp,fun h => ⟨by omega,?_,hnewline⟩⟩
    simp at h
    omega
  · refine ⟨by simp,fun h => ?_⟩
    simp at h
    omega

theorem length_persistItems (writes : ℕ → ItemWrite) (items : List Str) :
    (persistItems writes items []).2.length ≤ (Records.encode newline items).length ∧
      ((persistItems writes items []).2.length = (Records.encode newline items).length →
        AllFull writes items) := by
  induction items generalizing writes with
  | nil => exact ⟨Nat.le_refl _,fun _ k item hk => by simp at hk⟩
  | cons item items ih =>
    obtain ⟨hle,hfull⟩ := length_persistItem (writes 0) item
    obtain ⟨hles,hfulls⟩ := ih (fun k => writes (k+1))
    have hsplit : (persistItems writes (item::items) []).2 = (persistItem (writes 0) item []).2 ++
        (persistItems (fun k => writes (k+1)) items []).2 := by
      simp only [persistItems]
      rw [persistItems_append]
    have hencode : (Records.encode newline (item::items)).length =
        item.length + 1 + (Records.encode newline items).length := by
      simp [Records.encode]
      omega
    rw [hsplit,List.length_append,hencode]
    refine ⟨by omega,fun heq k next hk => ?_⟩
    cases k with
    | zero =>
      obtain rfl : item = next := by simpa using hk
      exact hfull (by omega)
    | succ k => exact hfulls (by omega) k next (by simpa using hk)

theorem storedCount_full {writes : ℕ → ItemWrite} {items : List Str} (h : AllFull writes items) :
    storedCount writes items = items.length := by
  induction items generalizing writes with
  | nil => rfl
  | cons item items ih =>
    simp [storedCount,persistItem_full (h 0 item rfl) [],ih h.tail]
    omega

/-- The lines of its own leave no room for an incomplete packet, or behind an unfinished line. -/
theorem full_of_subperm {writes : ℕ → ItemWrite} {items : List Str} {old : Str}
    (hne : items ≠ []) (h : items.Subperm (ownLines old (old ++ (persistItems writes items []).2))) :
    Records.Terminated newline old ∧ AllFull writes items ∧ ∀ item ∈ items, newline ∉ item := by
  set added := (persistItems writes items []).2 with hadded
  obtain ⟨hle,hfull⟩ := length_persistItems writes items
  rw [← hadded] at hle hfull
  have hroom := Records.length_encode_le_of_subperm newline h
  have hadd : (Records.encode newline (Records.records newline added)).length ≤ added.length := by
    have hlen := congrArg List.length (Records.encode_decode newline added)
    rw [List.length_append] at hlen
    exact Nat.le.intro hlen
  have hclean := (Records.not_mem_decode newline added).1
  simp only [ownLines,List.drop_left] at h hroom
  split_ifs at h hroom with hold
  · exact ⟨hold,hfull (by omega),fun item hitem => hclean item (h.subset hitem)⟩
  · -- The first line is not one of its own, so there is too little room.
    exfalso
    have hpos := Records.length_le_length_encode newline items
    have hitems := List.length_pos_iff.mpr hne
    cases hr : Records.records newline added with
    | nil =>
      rw [hr,List.tail_nil,Records.encode_nil,List.length_nil] at hroom
      omega
    | cons r rs =>
      rw [hr] at hroom hadd
      have hcons : (Records.encode newline (r::rs)).length =
          r.length + 1 + (Records.encode newline rs).length := by
        simp [Records.encode]
        omega
      rw [List.tail_cons] at hroom
      omega

theorem Session.losesNothing_of_full {s : Session} {storeFile : Option Str} (hopen : s.opened = true)
    (hold : Records.Terminated newline (storeFile.getD [])) (hfull : AllFull s.writes s.buffer.queue)
    (hclean : ∀ item ∈ s.buffer.queue, newline ∉ item) (hq : s.buffer.queue ≠ []) :
    s.LosesNothing storeFile := by
  have hdrain : s.run storeFile = drainAndPersist true s.writes s.buffer storeFile := by
    rw [s.run_eq,hopen]
  obtain ⟨hcount,hfile⟩ := hdrain ▸ drainAndPersist_of_opened hq
  rw [LosesNothing,hcount,hfile,hdrain,persistItems_full hfull,drainAndPersist_buffer,
    storedCount_full hfull,Option.getD_some,ownLines,List.drop_left,if_pos hold,
    Records.records_encode newline hclean,List.append_nil]
  exact ⟨List.Subperm.refl _,fun _ => rfl⟩

/-- Nothing is lost exactly when there is nothing to persist, or the file can be opened, it ends
with a newline, and every packet is one line and is written in full. -/
theorem losesNothing_iff (s : Session) (storeFile : Option Str) : s.LosesNothing storeFile ↔
    s.buffer.queue = [] ∨
      (s.opened = true ∧ Records.Terminated newline (storeFile.getD []) ∧
        AllFull s.writes s.buffer.queue ∧ ∀ item ∈ s.buffer.queue, newline ∉ item) := by
  by_cases hq : s.buffer.queue = []
  · have hcount : (drainAndPersist s.opened s.writes s.buffer storeFile).count = 0 :=
      (drainAndPersist_of_empty hq).1
    have hnone : s.LosesNothing storeFile := by
      rw [Session.LosesNothing,s.run_eq,hcount,hq]
      exact ⟨List.nil_subperm,fun _ => rfl⟩
    simp [hq,hnone]
  · simp only [hq,false_or]
    constructor
    · rintro ⟨hlines,-⟩
      rw [s.run_eq,drainAndPersist_buffer,List.append_nil] at hlines
      cases hopen : s.opened with
      | false =>
        -- Nothing is appended.
        rw [hopen,(drainAndPersist_of_not_opened hq).2] at hlines
        have hnil : ownLines (storeFile.getD []) (storeFile.getD []) = [] := by
          simp [ownLines,Records.records,Records.decode]
        rw [hnil] at hlines
        exact absurd (List.subperm_nil.mp hlines) hq
      | true =>
        rw [hopen,(drainAndPersist_of_opened hq).2,Option.getD_some,persistItems_append] at hlines
        obtain ⟨hold,hfull,hclean⟩ := full_of_subperm hq hlines
        exact ⟨rfl,hold,hfull,hclean⟩
    · rintro ⟨hopen,hold,hfull,hclean⟩
      exact Session.losesNothing_of_full hopen hold hfull hclean hq

/-- The file cannot be opened: the packet is in neither place. -/
theorem unopened_file_loses : ¬ ∀ (s : Session) (storeFile : Option Str),
    s.LosesNothing storeFile := by
  intro hall
  have h := (hall ⟨false,false,fun _ => ⟨6,true⟩,⟨[str "$06BC@"],false⟩⟩ none).1
  exact absurd h.length_le (by decide)

end Sap9001
