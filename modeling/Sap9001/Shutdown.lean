import Sap9001.MessageTransmitter
import Sap9001.StoreFile
import Sap9001.Library.Appending

/-! A signalled shutdown (`modbus_9001.cpp`, `protocol/protocol_process.cpp`): handlers empty
`transmit` into the store file and end the process. `sa_mask` is empty, so signals may come at any
time, also while the file is loaded or while another handler runs, and the other threads go on.
An access to `transmit` (a push, a pop, or a round of the loop of `drainUnsafe`) is one step: one
that breaks into another is undefined in the source. -/
namespace Sap9001
namespace Shutdown

open MessageTransmitter

/-- `readFromFile`: the lines that are still to be read, or done. -/
inductive Loader
  | reading (lines : List Str)
  | done

@[simp] def Loader.packets : Loader → List Str
  | .reading lines => lines.filterMap loadLine
  | .done => []

/-- What is next in `signal_cleanup_and_exit`, with the packets that the handler holds: a round of
`drainUnsafe`, `open`, the `write` of a packet, that of its newline, or `_exit`. -/
inductive Handler
  | draining (items : List Str)
  | opening (items : List Str)
  | writing (items : List Str)
  | newline (items : List Str)
  | leaving

namespace Handler

@[simp] def items : Handler → List Str
  | .draining items | .opening items | .writing items | .newline items => items
  | .leaving => []

/-- The newline of a packet is still to come. -/
@[simp] def pending : Handler → Bool
  | .newline _ => true
  | _ => false

end Handler

/-- `kept` records what `readFromFile` leaves in the store file, `stored` and `unsaved` the packets
that handlers have written whole and those they have given up, `torn` whether one was written while
the newline of another was still to come. -/
structure Process where
  threads : State Str
  storeFile : Option Str
  loader : Loader
  handlers : List Handler
  exited : Bool
  kept : Str
  stored : List Str
  unsaved : List Str
  torn : Bool

/-- The process before `readFromFile`; `none` stands for a file that cannot be opened. -/
def boot (storeFile : Option Str) : Process where
  threads := start []
  storeFile := storeFile
  loader :=
    match storeFile with
    | some file => .reading (getlines file)
    | none => .done
  handlers := []
  exited := false
  kept := storeFile.getD []
  stored := []
  unsaved := []
  torn := false

namespace Process

def read (packets : List Str) (p : Process) : Process :=
  { p with
    threads := { p.threads with
      offlineCache := p.threads.offlineCache ++ packets
      loaded := p.threads.loaded ++ packets } }

def append (s : Str) (p : Process) : Process :=
  { p with storeFile := some (p.storeFile.getD [] ++ s) }

/-- The first `write` for a packet. -/
def writeItem (num : Int) (item : Str) (p : Process) : Process :=
  let q := p.append (item.take num.toNat)
  { q with
    stored := if item.length ≤ num then p.stored ++ [item] else p.stored
    unsaved := if item.length ≤ num then p.unsaved else p.unsaved ++ [item]
    torn := p.torn || p.handlers.any Handler.pending }

/-- Everything that handlers took from `transmit`. -/
def taken (p : Process) : List Str := p.handlers.flatMap Handler.items ++ (p.stored ++ p.unsaved)

end Process

/-- The next step of a handler: what `open` answers, and what `write` does where it is called. -/
def handlerStep (opened : Bool) (w : ItemWrite) (h : Handler) (p : Process) : Handler × Process :=
  match h with
  | .draining items =>
    match p.threads.transmit.queue with
    | [] => (.opening items,p)
    | item::queue =>
      (.draining (items ++ [item]),{ p with
        threads := { p.threads with transmit := { p.threads.transmit with queue := queue } } })
  | .opening [] => (.leaving,p)
  | .opening items =>
    if opened then (.writing items,p.append [])
    else (.leaving,{ p with unsaved := p.unsaved ++ items })
  | .writing [] => (.leaving,p)
  | .writing (item::items) =>
    if w.num ≤ 0 then (.writing items,{ p with unsaved := p.unsaved ++ [item] })
    else (.newline items,p.writeItem w.num item)
  | .newline items => (.writing items,if w.newlineWritten then p.append [newline] else p)
  | .leaving => (.leaving,{ p with exited := true })

/-- The process after the next step of the handler `h`, the `i`-th. -/
def Process.advance (i : ℕ) (opened : Bool) (w : ItemWrite) (h : Handler) (p : Process) : Process :=
  { (handlerStep opened w h p).2 with handlers := p.handlers.set i (handlerStep opened w h p).1 }

inductive Op
  | load (truncated : Bool)
  | thread (e : Event Str)
  | signal
  | handler (i : ℕ) (opened : Bool) (w : ItemWrite)

/-- One step of the process. The threads that use the queues are created after `readFromFile`. -/
def step (mac : Str) (p : Process) (op : Op) : Option Process :=
  if p.exited then none
  else
    match op with
    | .load truncated =>
      match p.loader with
      | .reading (line::lines) =>
        some { p.read (loadLine line).toList with loader := .reading lines }
      | .reading [] =>
        some (if truncated then { p with storeFile := some [], kept := [], loader := .done }
          else { p with loader := .done })
      | .done => none
    | .thread e =>
      match p.loader with
      | .done => some { p with threads := next mac p.threads e }
      | .reading _ => none
    | .signal => some { p with handlers := p.handlers ++ [.draining []] }
    | .handler i opened w => (p.handlers[i]?).map fun h => p.advance i opened w h

abbrev Run (mac : Str) : Process → List Op → Process → Prop :=
  StepSystem.Run fun p op q => step mac p op = some q

/-- All file operations of the handlers succeed. -/
def Op.Succeeds (p : Process) : Op → Prop
  | .handler i opened w => opened = true ∧ w.newlineWritten = true ∧
    match p.handlers[i]? with
    | some (.writing (item::_)) => w.num = item.length
    | _ => True
  | _ => True

/-- What a process can come to whose handlers succeed. -/
def Reachable (mac : Str) (p : Process) : Prop :=
  StepSystem.Reachable (fun p => ∃ storeFile, p = boot storeFile)
    (fun p op q => op.Succeeds p ∧ step mac p op = some q) p

variable {mac : Str} {p q : Process}

/-- What a step does. -/
inductive Goes (mac : Str) (p : Process) : Op → Process → Prop
  | read {truncated line lines} (hl : p.loader = .reading (line::lines)) : Goes mac p
      (.load truncated) { p.read (loadLine line).toList with loader := .reading lines }
  | truncated (hl : p.loader = .reading []) : Goes mac p (.load true)
      { p with storeFile := some [], kept := [], loader := .done }
  | untruncated (hl : p.loader = .reading []) : Goes mac p (.load false)
      { p with loader := .done }
  | thread {e} (hl : p.loader = .done) : Goes mac p (.thread e)
      { p with threads := next mac p.threads e }
  | signal : Goes mac p .signal { p with handlers := p.handlers ++ [.draining []] }
  | handler {i opened w h} (hi : p.handlers[i]? = some h) : Goes mac p (.handler i opened w)
      (p.advance i opened w h)

theorem step_goes {op : Op} (h : step mac p op = some q) : Goes mac p op q := by
  unfold step at h
  split_ifs at h
  cases op with
  | load truncated =>
    dsimp only at h
    split at h <;> rename_i hl
    · exact Option.some.inj h ▸ .read hl
    · cases truncated with
      | true => exact Option.some.inj h ▸ .truncated hl
      | false => exact Option.some.inj h ▸ .untruncated hl
    · cases h
  | thread e =>
    dsimp only at h
    split at h <;> rename_i hl
    · exact Option.some.inj h ▸ .thread hl
    · cases h
  | signal => exact Option.some.inj h ▸ .signal
  | handler i opened w =>
    obtain ⟨handler,hi,rfl⟩ := Option.map_eq_some_iff.mp h
    exact .handler hi

/-- A handler leaves the other threads where they are and only takes from `transmit`. -/
structure Takes (p q : Process) : Prop where
  pc : q.threads.pc = p.threads.pc
  offlineCache : q.threads.offlineCache = p.threads.offlineCache
  queue : q.threads.transmit.queue ⊆ p.threads.transmit.queue
  loaded : q.threads.loaded = p.threads.loaded
  pushed : q.threads.pushed = p.threads.pushed
  deliveredOffline : q.threads.deliveredOffline = p.threads.deliveredOffline
  deliveredLive : q.threads.deliveredLive = p.threads.deliveredLive
  loader : q.loader = p.loader
  kept : q.kept = p.kept

theorem Takes.refl (p : Process) : Takes p p :=
  ⟨rfl,rfl,List.Subset.refl _,rfl,rfl,rfl,rfl,rfl,rfl⟩

theorem handlerStep_takes (opened : Bool) (w : ItemWrite) (h : Handler) (p : Process) :
    Takes p (handlerStep opened w h p).2 := by
  cases h with
  | draining items =>
    simp only [handlerStep]
    split
    · exact .refl p
    · rename_i item queue hqueue
      exact ⟨rfl,rfl,by simp [hqueue],rfl,rfl,rfl,rfl,rfl,rfl⟩
  | opening items =>
    cases items with
    | nil => exact .refl p
    | cons item items =>
      simp only [handlerStep]
      split_ifs <;> exact ⟨rfl,rfl,List.Subset.refl _,rfl,rfl,rfl,rfl,rfl,rfl⟩
  | writing items =>
    cases items with
    | nil => exact .refl p
    | cons item items =>
      simp only [handlerStep]
      split_ifs <;> exact ⟨rfl,rfl,List.Subset.refl _,rfl,rfl,rfl,rfl,rfl,rfl⟩
  | newline items =>
    simp only [handlerStep]
    split_ifs
    · exact ⟨rfl,rfl,List.Subset.refl _,rfl,rfl,rfl,rfl,rfl,rfl⟩
    · exact .refl p
  | leaving => exact ⟨rfl,rfl,List.Subset.refl _,rfl,rfl,rfl,rfl,rfl,rfl⟩

theorem advance_takes (i : ℕ) (opened : Bool) (w : ItemWrite) (h : Handler) (p : Process) :
    Takes p (p.advance i opened w h) := by
  have ht := handlerStep_takes opened w h p
  exact ⟨ht.pc,ht.offlineCache,ht.queue,ht.loaded,ht.pushed,ht.deliveredOffline,ht.deliveredLive,
    ht.loader,ht.kept⟩

/-- A handler moves packets from `transmit` into its hands and from there into the file, or gives
them up. -/
theorem handlerStep_conserves (opened : Bool) (w : ItemWrite) (h : Handler) (p : Process)
    (packet : Str) :
    (handlerStep opened w h p).1.items.count packet +
      (handlerStep opened w h p).2.stored.count packet +
      (handlerStep opened w h p).2.unsaved.count packet +
      (handlerStep opened w h p).2.threads.transmit.queue.count packet =
    h.items.count packet + p.stored.count packet + p.unsaved.count packet +
      p.threads.transmit.queue.count packet := by
  cases h with
  | draining items =>
    simp only [handlerStep]
    split
    · rfl
    · rename_i item queue hqueue
      simp only [Handler.items,hqueue,List.count_append,List.count_cons,List.count_nil]
      omega
  | opening items =>
    cases items with
    | nil => rfl
    | cons item items =>
      simp only [handlerStep]
      split_ifs
      · rfl
      · simp only [Handler.items,List.count_append,List.count_nil]
        omega
  | writing items =>
    cases items with
    | nil => rfl
    | cons item items =>
      simp only [handlerStep]
      split_ifs
      · simp only [Handler.items,List.count_append,List.count_cons,List.count_nil]
        omega
      · simp only [Process.writeItem,Process.append,Handler.items]
        split_ifs
        · simp only [List.count_append,List.count_cons,List.count_nil]
          omega
        · simp only [List.count_append,List.count_cons,List.count_nil]
          omega
  | newline items =>
    simp only [handlerStep]
    split_ifs <;> rfl
  | leaving => rfl

/-- What holds whatever the file operations answer. -/
structure Inv (p : Process) : Prop where
  cacheTaken : p.threads.CacheTaken
  offline : (p.threads.offline ++ p.threads.deliveredOffline).Perm p.threads.loaded
  live : (p.taken ++ (p.threads.live ++ p.threads.deliveredLive)).Perm p.threads.pushed
  loading : p.loader ≠ .done → p.threads.pushed = [] ∧ p.threads.pc = .waiting
  kept : p.kept ≠ [] →
    p.threads.loaded ++ p.loader.packets = (getlines p.kept).filterMap loadLine
  written : ∃ chunks, p.storeFile.getD [] = p.kept ++ chunks.flatten ∧ p.stored.Sublist chunks

theorem boot_inv (storeFile : Option Str) : Inv (boot storeFile) := by
  refine ⟨?_,?_,?_,?_,?_,[],?_,?_⟩
  all_goals
    cases storeFile <;> simp [boot,start,State.CacheTaken,State.offline,State.live,Process.taken]

theorem read_inv (hinv : Inv p) {line : Str} {lines : List Str}
    (hl : p.loader = .reading (line::lines)) :
    Inv { p.read (loadLine line).toList with loader := .reading lines } := by
  obtain ⟨hpushed,hpc⟩ := hinv.loading (by simp [hl])
  refine ⟨?_,?_,hinv.live,fun _ => ⟨hpushed,hpc⟩,fun hk => ?_,hinv.written⟩
  · intro pending failed hflush
    exact absurd (hpc.symm.trans hflush) (by simp)
  · classical
    have hc := List.perm_iff_count.mp hinv.offline
    refine List.perm_iff_count.mpr fun packet => ?_
    have hp := hc packet
    simp only [State.offline,Process.read,List.count_append] at hp ⊢
    omega
  · have hkept := hinv.kept hk
    rw [hl] at hkept
    simp only [Process.read,Loader.packets,List.filterMap_cons] at hkept ⊢
    cases hline : loadLine line <;> simpa [hline] using hkept

/-- Before `readFromFile` is done no handler has found a packet. -/
theorem stored_of_loading (hinv : Inv p) (hl : p.loader ≠ .done) : p.stored = [] := by
  have hlive := hinv.live
  rw [(hinv.loading hl).1] at hlive
  have htaken := (List.append_eq_nil_iff.mp hlive.eq_nil).1
  simp only [Process.taken,List.append_eq_nil_iff] at htaken
  exact htaken.2.1

/-- The store file grows by what is written, a packet that is stored in one piece. -/
theorem handlerStep_written (opened : Bool) (w : ItemWrite) (h : Handler)
    (hw : ∃ chunks, p.storeFile.getD [] = p.kept ++ chunks.flatten ∧ p.stored.Sublist chunks) :
    ∃ chunks, (handlerStep opened w h p).2.storeFile.getD [] =
        (handlerStep opened w h p).2.kept ++ chunks.flatten ∧
      (handlerStep opened w h p).2.stored.Sublist chunks := by
  obtain ⟨chunks,hfile,hsub⟩ := hw
  have happend (s : Str) : (p.append s).storeFile.getD [] = p.kept ++ (chunks ++ [s]).flatten := by
    simp [Process.append,hfile]
  cases h with
  | draining items =>
    simp only [handlerStep]
    split <;> exact ⟨chunks,hfile,hsub⟩
  | opening items =>
    cases items with
    | nil => exact ⟨chunks,hfile,hsub⟩
    | cons item items =>
      simp only [handlerStep]
      split_ifs
      · exact ⟨_,happend [],hsub.trans (List.sublist_append_left _ _)⟩
      · exact ⟨chunks,hfile,hsub⟩
  | writing items =>
    cases items with
    | nil => exact ⟨chunks,hfile,hsub⟩
    | cons item items =>
      simp only [handlerStep]
      split_ifs
      · exact ⟨chunks,hfile,hsub⟩
      refine ⟨_,happend _,?_⟩
      simp only [Process.writeItem]
      split_ifs with hwhole
      · rw [List.take_of_length_le (by omega)]
        exact hsub.append (List.Sublist.refl _)
      · exact hsub.trans (List.sublist_append_left _ _)
  | newline items =>
    simp only [handlerStep]
    split_ifs
    · exact ⟨_,happend _,hsub.trans (List.sublist_append_left _ _)⟩
    · exact ⟨chunks,hfile,hsub⟩
  | leaving => exact ⟨chunks,hfile,hsub⟩

theorem handler_inv (hinv : Inv p) {opened : Bool} {w : ItemWrite} {i : ℕ} {h : Handler}
    (hi : p.handlers[i]? = some h) : Inv (p.advance i opened w h) := by
  have ht := advance_takes i opened w h p
  refine ⟨?_,?_,?_,fun hl => ?_,?_,handlerStep_written opened w h hinv.written⟩
  · intro pending failed hflush
    exact ht.offlineCache.trans (hinv.cacheTaken pending failed (ht.pc.symm.trans hflush))
  · simpa only [State.offline,ht.pc,ht.offlineCache,ht.loaded,ht.deliveredOffline] using hinv.offline
  · have hc := List.perm_iff_count.mp hinv.live
    refine List.perm_iff_count.mpr fun packet => ?_
    have hp := hc packet
    have hcount := handlerStep_conserves opened w h p packet
    have hset := StepSystem.count_flatMap_set Handler.items hi (handlerStep opened w h p).1 packet
    simp only [Process.taken,State.live,ht.pc,ht.pushed,ht.deliveredLive,List.count_append] at hp ⊢
    simp only [Process.advance]
    omega
  · obtain ⟨hpushed,hpc⟩ := hinv.loading (ht.loader ▸ hl)
    exact ⟨ht.pushed.trans hpushed,ht.pc.trans hpc⟩
  · simpa only [ht.kept,ht.loader,ht.loaded] using hinv.kept

theorem step_inv {op : Op} (hinv : Inv p) (h : step mac p op = some q) : Inv q := by
  cases step_goes h with
  | read hl => exact read_inv hinv hl
  | truncated hl =>
    have hstored := stored_of_loading hinv (by simp [hl])
    exact ⟨hinv.cacheTaken,hinv.offline,hinv.live,by simp,by simp,[],rfl,hstored ▸ List.Sublist.refl _⟩
  | untruncated hl =>
    refine ⟨hinv.cacheTaken,hinv.offline,hinv.live,by simp,fun hk => ?_,hinv.written⟩
    simpa [hl] using hinv.kept hk
  | @thread e hl =>
    obtain ⟨hcache,hoffline⟩ := next_offline e hinv.cacheTaken hinv.offline
    refine ⟨hcache,hoffline,next_live e _ hinv.live,fun hnot => absurd hl hnot,fun hk => ?_,
      hinv.written⟩
    have hloaded : (next mac p.threads e).loaded = p.threads.loaded := by
      cases e with
      | push packet => rfl
      | transmitter i => exact transmitterStep_loaded i _
    simpa only [hloaded] using hinv.kept hk
  | signal =>
    refine ⟨hinv.cacheTaken,hinv.offline,?_,hinv.loading,hinv.kept,hinv.written⟩
    simpa [Process.taken] using hinv.live
  | handler hi => exact handler_inv hinv hi

theorem run_inv {storeFile : Option Str} {ops : List Op} (hrun : Run mac (boot storeFile) ops p) :
    Inv p :=
  hrun.invariant (fun _ _ _ hs hstep => step_inv hs hstep) (boot_inv storeFile)

/-- What also holds if the handlers succeed: the store file is what writers of whole records make
of it. -/
structure FileInv (p : Process) : Prop where
  unsaved : ∀ packet ∈ p.unsaved, packet = []
  appended : ∃ written, p.storeFile.getD [] = p.kept ++ written ∧
    Records.Appended newline (p.handlers.countP Handler.pending) p.stored p.torn written

theorem boot_fileInv (storeFile : Option Str) : FileInv (boot storeFile) :=
  ⟨by simp [boot],[],by cases storeFile <;> simp [boot],.nil⟩

/-- The number of pending newlines after a step of a handler. -/
theorem countP_pending_set {handlers : List Handler} {i : ℕ} {h : Handler}
    (hi : handlers[i]? = some h) (h' : Handler) :
    (handlers.set i h').countP Handler.pending + (if h.pending then 1 else 0) =
      handlers.countP Handler.pending + (if h'.pending then 1 else 0) := by
  obtain ⟨hlt,rfl⟩ := List.getElem?_eq_some_iff.mp hi
  have hle := List.boole_getElem_le_countP (p := Handler.pending) hlt
  rw [List.countP_set hlt]
  omega

/-- A step of a handler that is not a `write`. -/
theorem FileInv.quiet (hinv : FileInv p) {i : ℕ} {h h' : Handler} (hi : p.handlers[i]? = some h)
    (hpending : h'.pending = h.pending) (hfile : q.storeFile.getD [] = p.storeFile.getD [])
    (hkept : q.kept = p.kept) (hstored : q.stored = p.stored) (htorn : q.torn = p.torn)
    (hunsaved : ∀ packet ∈ q.unsaved, packet = []) :
    FileInv { q with handlers := p.handlers.set i h' } := by
  obtain ⟨written,hwritten,happended⟩ := hinv.appended
  have hset := countP_pending_set hi h'
  rw [hpending,Nat.add_right_cancel_iff] at hset
  exact ⟨hunsaved,written,by rw [hfile,hkept,hwritten],by rwa [hset,hstored,htorn]⟩

theorem handler_fileInv (hinv : FileInv p) {w : ItemWrite} {i : ℕ} {h : Handler}
    (hi : p.handlers[i]? = some h) (hnewline : w.newlineWritten = true)
    (hnum : ∀ item items, h = .writing (item::items) → w.num = item.length) :
    FileInv (p.advance i true w h) := by
  obtain ⟨written,hwritten,happended⟩ := hinv.appended
  cases h with
  | draining items =>
    simp only [Process.advance,handlerStep]
    split <;> exact hinv.quiet hi rfl rfl rfl rfl rfl hinv.unsaved
  | opening items =>
    cases items with
    | nil => exact hinv.quiet hi rfl rfl rfl rfl rfl hinv.unsaved
    | cons item items =>
      simp only [Process.advance,handlerStep,if_true]
      exact hinv.quiet hi rfl (by simp [Process.append]) rfl rfl rfl hinv.unsaved
  | leaving => exact hinv.quiet hi rfl rfl rfl rfl rfl hinv.unsaved
  | newline items =>
    simp only [Process.advance,handlerStep,hnewline,if_true]
    have hset := countP_pending_set hi (.writing items)
    simp only [Handler.pending,if_true,Bool.false_eq_true,if_false,Nat.add_zero] at hset
    rw [← hset] at happended
    exact ⟨hinv.unsaved,_,by simp [Process.append,hwritten],.delim happended⟩
  | writing items =>
    cases items with
    | nil => exact hinv.quiet hi rfl rfl rfl rfl rfl hinv.unsaved
    | cons item items =>
      have hlength := hnum item items rfl
      simp only [Process.advance,handlerStep]
      split_ifs with hempty
      · refine hinv.quiet hi rfl rfl rfl rfl rfl fun packet hp => ?_
        rcases List.mem_append.mp hp with hp | hp
        · exact hinv.unsaved packet hp
        · rw [List.mem_singleton.mp hp]
          exact List.length_eq_zero_iff.mp (by omega)
      have hne : item ≠ [] := by
        rintro rfl
        exact hempty (by simp [hlength])
      have hset := countP_pending_set hi (.newline items)
      simp only [Handler.pending,if_true,Bool.false_eq_true,if_false,Nat.add_zero] at hset
      have htake : item.take w.num.toNat = item := List.take_of_length_le (by omega)
      have hwhole : (item.length : Int) ≤ w.num := by omega
      have hany : p.handlers.any Handler.pending = decide (p.handlers.countP Handler.pending ≠ 0) := by
        rw [Bool.eq_iff_iff,List.any_eq_true,decide_eq_true_iff,← Nat.pos_iff_ne_zero,
          List.countP_pos_iff]
      simp only [Process.writeItem,if_pos hwhole]
      refine ⟨hinv.unsaved,written ++ item,by simp [Process.append,hwritten,htake],?_⟩
      rw [hset,hany]
      exact .record happended hne

theorem step_fileInv {op : Op} (hinv : Inv p) (hfile : FileInv p) (hop : op.Succeeds p)
    (h : step mac p op = some q) : FileInv q := by
  cases step_goes h with
  | read hl => exact ⟨hfile.unsaved,hfile.appended⟩
  | untruncated hl => exact ⟨hfile.unsaved,hfile.appended⟩
  | thread hl => exact ⟨hfile.unsaved,hfile.appended⟩
  | signal => exact ⟨hfile.unsaved,by simpa using hfile.appended⟩
  | truncated hl =>
    obtain ⟨written,-,happended⟩ := hfile.appended
    obtain rfl := happended.nil_iff.mpr (stored_of_loading hinv (by simp [hl]))
    exact ⟨hfile.unsaved,[],rfl,happended⟩
  | handler hi =>
    obtain ⟨hopened,hnewline,hnum⟩ := hop
    subst hopened
    refine handler_fileInv hfile hi hnewline fun item items hh => ?_
    rw [hi,hh] at hnum
    exact hnum

theorem reachable_inv (h : Reachable mac p) : Inv p ∧ FileInv p := by
  refine StepSystem.Reachable.invariant (I := fun p => Inv p ∧ FileInv p) ?_ ?_ h
  · rintro p ⟨storeFile,rfl⟩
    exact ⟨boot_inv storeFile,boot_fileInv storeFile⟩
  · rintro p op q ⟨hinv,hfile⟩ ⟨hop,hstep⟩
    exact ⟨step_inv hinv hstep,step_fileInv hinv hfile hop hstep⟩

end Shutdown
end Sap9001
