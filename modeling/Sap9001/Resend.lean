import Sap9001.Shutdown
import Sap9001.HJ212Builder

/-! What reaches the gateway over several lives of the process: packets that are persisted at a
shutdown are loaded, rewritten and sent by the next process (`protocol/protocol_process.cpp`,
`app/message_transmitter.cpp`). -/
namespace Sap9001
namespace Resend

open MessageTransmitter Shutdown

/-- The delimiters of a packet. -/
def Frame (packet : Str) : Prop :=
  packet.head? = some (byte '$') ∧ packet.getLast? = some (byte '@')

/-- Two '@' at the end, of which one is left when the packet is sent again, and a command to be
rewritten behind the '$'. -/
def DoubleEnded (packet : Str) : Prop :=
  ∃ body : Str, 2 ≤ body.length ∧ packet = byte '$'::(body ++ [byte '@',byte '@'])

instance (packet : Str) : Decidable (Frame packet) := inferInstanceAs (Decidable (_ ∧ _))

theorem resend_long (a b : UInt8) (t : Str) (z : UInt8) : resend (byte '$'::a::b::(t ++ [z])) =
    if z = byte '@' then str "$21" ++ t else str "$21" ++ t ++ [z] := by
  have hrewritten : [byte '$'] ++ str "21" ++ (t ++ [z]) = str "$21" ++ t ++ [z] := by
    rw [← List.append_assoc]
    rfl
  have hlong : 3 ≤ (byte '$'::a::b::(t ++ [z])).length := by simp
  simp only [resend,List.head?_cons,hlong,and_self,if_true,List.take_succ_cons,List.take_zero,
    List.drop_succ_cons,List.drop_zero,hrewritten,List.getLast?_concat,List.dropLast_concat,
    Option.some.injEq]

/-- The rewriting keeps the delimiters only of a packet that ends with two '@'. -/
theorem frame_resend (packet : Str) : Frame (resend packet) ↔ DoubleEnded packet := by
  constructor
  · intro h
    by_cases hlong : 3 ≤ packet.length ∧ packet.head? = some (byte '$')
    · obtain ⟨a,b,t,rfl⟩ : ∃ a b t, packet = byte '$'::a::b::t := by
        match packet, hlong with
        | c::a::b::t, hlong => exact ⟨a,b,t,by simpa using hlong.2⟩
      rcases List.eq_nil_or_concat t with rfl | ⟨u,z,rfl⟩
      · exact absurd h (by simp [Frame,resend]; decide)
      rw [List.concat_eq_append,resend_long] at h
      by_cases hz : z = byte '@'
      · rw [if_pos hz] at h
        rcases List.eq_nil_or_concat u with rfl | ⟨v,y,rfl⟩
        · exact absurd h (by decide)
        · rw [List.concat_eq_append,Frame,← List.append_assoc,List.getLast?_concat] at h
          refine ⟨a::b::v,by simp,?_⟩
          simp [hz,Option.some.inj h.2]
      · rw [if_neg hz,Frame,List.getLast?_concat] at h
        exact absurd (Option.some.inj h.2) hz
    · -- A packet that is not rewritten loses its '@', or has none.
      simp only [resend,if_neg hlong] at h
      split_ifs at h with hlast
      · match packet, hlong, h with
        | [c], _, h => exact absurd h.1 (by simp)
        | [c,d], _, h =>
          obtain ⟨hc,hd⟩ := h
          simp at hc hd
          exact absurd (hc.symm.trans hd) (by decide)
        | c::d::e::t, hlong, h => exact absurd ⟨by simp,by simpa using h.1⟩ hlong
      · exact absurd h.2 hlast
  · rintro ⟨body,hbody,rfl⟩
    match body, hbody with
    | a::b::v, _ =>
      have hsplit : byte '$'::(a::b::v ++ [byte '@',byte '@']) =
          byte '$'::a::b::(v ++ [byte '@'] ++ [byte '@']) := by simp
      rw [hsplit,resend_long,if_pos rfl,Frame,← List.append_assoc,List.getLast?_concat]
      exact ⟨rfl,rfl⟩

/-- The process of the present, the lines of the store file that it loaded, and a record over all
lives of the data packets handed to `write_full` and of the lines that the offline ones come from. -/
structure Life where
  process : Process
  lines : List Str
  handed : List Str
  sources : List Str

def boot (storeFile : Option Str) : Life where
  process := Shutdown.boot storeFile
  lines := (storeFile.map getlines).getD []
  handed := []
  sources := []

/-- The packet that the next step of `send_mess` hands to `write_full`. -/
def handedBy (s : State Str) : List Str :=
  match s.pc with
  | .sendOffline (p::_) _ | .sendLive p => [p]
  | _ => []

/-- The first line that an offline packet can come from. -/
def sourceOf (lines : List Str) (s : State Str) : List Str :=
  match s.pc with
  | .sendOffline (p::_) _ => (lines.find? fun line => loadLine line = some p).toList
  | _ => []

inductive Op
  | process (op : Shutdown.Op)
  | restart

/-- One step of a life, or the start of the next process, after an exit or a loss of power. -/
def step (mac : Str) (l : Life) : Op → Option Life
  | .process op =>
    (Shutdown.step mac l.process op).map fun process =>
      match op with
      | .thread (.transmitter _) =>
        { l with
          process := process
          handed := l.handed ++ handedBy l.process.threads
          sources := l.sources ++ sourceOf l.lines l.process.threads }
      | _ => { l with process := process }
  | .restart =>
    some { boot l.process.storeFile with
      handed := l.handed
      sources := l.sources }

/-- What the sensor threads push is a frame. -/
def Op.Framed : Op → Prop
  | .process (.thread (.push p)) => Frame p
  | _ => True

def Reachable (mac : Str) (l : Life) : Prop :=
  StepSystem.Reachable (fun l => ∃ storeFile, l = boot storeFile)
    (fun l op k => op.Framed ∧ step mac l op = some k) l

variable {mac : Str} {l : Life}

structure Inv (l : Life) : Prop where
  process : Shutdown.Inv l.process
  unread : ∀ lines, l.process.loader = .reading lines → lines ⊆ l.lines
  live : ∀ p ∈ l.process.threads.live, Frame p
  offline : ∀ p ∈ l.process.threads.offline, ∃ line ∈ l.lines, loadLine line = some p
  handed : ∀ p ∈ l.handed, Frame p ∨ ∃ line ∈ l.sources, loadLine line = some p
  sources : ∀ line ∈ l.sources, ∃ p ∈ l.handed, loadLine line = some p

theorem restart_inv (storeFile : Option Str) (h : Inv l) :
    Inv { boot storeFile with
      handed := l.handed
      sources := l.sources } where
  process := Shutdown.boot_inv storeFile
  unread := by
    intro lines hlines
    cases storeFile with
    | none => simp [boot,Shutdown.boot] at hlines
    | some file =>
      obtain rfl : getlines file = lines := by simpa [boot,Shutdown.boot] using hlines
      exact List.Subset.refl _
  live := by simp [boot,Shutdown.boot,start,State.live]
  offline := by simp [boot,Shutdown.boot,start,State.offline]
  handed := h.handed
  sources := h.sources

theorem boot_inv (storeFile : Option Str) : Inv (boot storeFile) := by
  have hnone : Inv (boot none) := by
    refine ⟨Shutdown.boot_inv none,?_,?_,?_,?_,?_⟩ <;>
      simp [boot,Shutdown.boot,start,State.live,State.offline]
  exact restart_inv storeFile hnone

variable (mac) in
/-- A step of `send_mess` makes no new packets. -/
theorem transmitter_subset (i : Input) {s : State Str} (h : s.CacheTaken) :
    (transmitterStep mac i s).live ⊆ s.live ∧ (transmitterStep mac i s).offline ⊆ s.offline := by
  constructor
  · rcases transmitterStep_live mac i s with ⟨hl,-⟩ | ⟨p,-,hl,-⟩ | ⟨p,hpc,hl,-⟩
    · rw [hl]
      exact List.Subset.refl _
    · rw [hl]
      exact List.subset_cons_self _ _
    · rw [hl]
      intro q hq
      simpa [State.live,hpc,or_comm] using hq
  · rcases transmitterStep_offline mac i h with ⟨ho,-⟩ | ⟨p,pending,failed,-,ho,ho',-⟩
    · rw [ho]
      exact List.Subset.refl _
    · rw [ho,ho']
      intro q hq
      simp only [List.mem_append,List.mem_cons] at hq ⊢
      tauto

/-- What is handed over is nothing, a live packet, or a packet that comes from a line. -/
theorem handedBy_cases (h : Inv l) :
    (handedBy l.process.threads = [] ∧ sourceOf l.lines l.process.threads = []) ∨
    (∃ p, handedBy l.process.threads = [p] ∧ sourceOf l.lines l.process.threads = [] ∧ Frame p) ∨
    (∃ p line, handedBy l.process.threads = [p] ∧
      sourceOf l.lines l.process.threads = [line] ∧ loadLine line = some p) := by
  simp only [handedBy,sourceOf]
  split <;> rename_i hpc
  · rename_i p pending failed
    obtain ⟨line,hline,hload⟩ := h.offline p (by simp [State.offline,hpc])
    have hfound : (l.lines.find? fun line => loadLine line = some p).isSome := by
      rw [List.find?_isSome]
      exact ⟨line,hline,by simpa using hload⟩
    obtain ⟨found,hsome⟩ := Option.isSome_iff_exists.mp hfound
    have hp := List.find?_some hsome
    exact .inr (.inr ⟨p,found,rfl,by simp [hpc,hsome],by simpa using hp⟩)
  · rename_i p
    exact .inr (.inl ⟨p,rfl,by simp [hpc],h.live p (by simp [State.live,hpc])⟩)
  · refine .inl ⟨rfl,?_⟩
    split <;> simp_all

theorem handed_inv (h : Inv l) : (∀ p ∈ l.handed ++ handedBy l.process.threads, Frame p ∨
      ∃ line ∈ l.sources ++ sourceOf l.lines l.process.threads, loadLine line = some p) ∧
    ∀ line ∈ l.sources ++ sourceOf l.lines l.process.threads,
      ∃ p ∈ l.handed ++ handedBy l.process.threads, loadLine line = some p := by
  have hhanded := h.handed
  have hsources := h.sources
  rcases handedBy_cases h with ⟨hp,hl⟩ | ⟨p,hp,hl,hframe⟩ | ⟨p,line,hp,hl,hload⟩ <;> rw [hp,hl]
  · simpa using ⟨hhanded,hsources⟩
  · refine ⟨?_,?_⟩
    · intro q hq
      rcases List.mem_append.mp hq with hq | hq
      · simpa using hhanded q hq
      · exact .inl (List.mem_singleton.mp hq ▸ hframe)
    · intro line hline
      obtain ⟨q,hq,hload⟩ := hsources line (by simpa using hline)
      exact ⟨q,List.mem_append_left _ hq,hload⟩
  · refine ⟨?_,?_⟩
    · intro q hq
      rcases List.mem_append.mp hq with hq | hq
      · rcases hhanded q hq with hframe | ⟨old,hold,hold'⟩
        · exact .inl hframe
        · exact .inr ⟨old,List.mem_append_left _ hold,hold'⟩
      · exact .inr ⟨line,by simp,List.mem_singleton.mp hq ▸ hload⟩
    · intro old hold
      rcases List.mem_append.mp hold with hold | hold
      · obtain ⟨q,hq,hq'⟩ := hsources old hold
        exact ⟨q,List.mem_append_left _ hq,hq'⟩
      · exact ⟨p,by simp,List.mem_singleton.mp hold ▸ hload⟩

theorem process_inv {op : Shutdown.Op} {process : Process} (hframed : (Op.process op).Framed)
    (h : Inv l) (hstep : Shutdown.step mac l.process op = some process) :
    (∀ lines, process.loader = .reading lines → lines ⊆ l.lines) ∧
    (∀ p ∈ process.threads.live, Frame p) ∧
    ∀ p ∈ process.threads.offline, ∃ line ∈ l.lines, loadLine line = some p := by
  cases step_goes hstep with
  | @read truncated line lines hl =>
    have hlines := h.unread _ hl
    refine ⟨fun rest hrest => ?_,h.live,fun p hp => ?_⟩
    · obtain rfl := Loader.reading.inj hrest
      exact fun x hx => hlines (List.mem_cons_of_mem _ hx)
    · simp only [State.offline,Process.read,← List.append_assoc] at hp
      rcases List.mem_append.mp hp with hp | hp
      · exact h.offline p hp
      · exact ⟨line,hlines List.mem_cons_self,by simpa using hp⟩
  | truncated | untruncated => exact ⟨by simp,h.live,h.offline⟩
  | signal => exact ⟨h.unread,h.live,h.offline⟩
  | @thread e hl =>
    refine ⟨h.unread,?_⟩
    cases e with
    | push p =>
      refine ⟨fun q hq => ?_,h.offline⟩
      simp only [State.live,next,MessageQueue.push_queue,← List.append_assoc] at hq
      rcases List.mem_append.mp hq with hq | hq
      · exact h.live q hq
      · exact List.mem_singleton.mp hq ▸ hframed
    | transmitter i =>
      obtain ⟨hlive,hoffline⟩ := transmitter_subset mac i h.process.cacheTaken
      exact ⟨fun p hp => h.live p (hlive hp),fun p hp => h.offline p (hoffline hp)⟩
  | @handler i opened w handler hi =>
    have ht := advance_takes i opened w handler l.process
    have hoffline : (l.process.advance i opened w handler).threads.offline =
        l.process.threads.offline := by
      rw [State.offline,State.offline,ht.pc,ht.offlineCache]
    refine ⟨fun lines hl => h.unread lines (ht.loader ▸ hl),fun p hp => ?_,hoffline ▸ h.offline⟩
    rw [State.live,ht.pc] at hp
    refine h.live p ?_
    rcases List.mem_append.mp hp with hp | hp
    · exact List.mem_append_left _ hp
    · exact List.mem_append_right _ (ht.queue hp)

theorem step_inv {op : Op} {k : Life} (hframed : op.Framed) (h : Inv l)
    (hstep : step mac l op = some k) : Inv k := by
  cases op with
  | restart =>
    simp only [step,Option.some.injEq] at hstep
    exact hstep ▸ restart_inv l.process.storeFile h
  | process op =>
    obtain ⟨process,hprocess,rfl⟩ := Option.map_eq_some_iff.mp hstep
    obtain ⟨hunread,hlive,hoffline⟩ := process_inv hframed h hprocess
    obtain ⟨hhanded,hsources⟩ := handed_inv h
    have hinv := Shutdown.step_inv h.process hprocess
    split
    · exact ⟨hinv,hunread,hlive,hoffline,hhanded,hsources⟩
    · exact ⟨hinv,hunread,hlive,hoffline,h.handed,h.sources⟩

theorem reachable_inv (h : Reachable mac l) : Inv l := by
  refine StepSystem.Reachable.invariant ?_ ?_ h
  · rintro l ⟨storeFile,rfl⟩
    exact boot_inv storeFile
  · rintro l op k hl ⟨hframed,hstep⟩
    exact step_inv hframed hl hstep

/-- Every data packet handed to `write_full` is a frame exactly when every stored line whose
packet was sent again holds a packet that ends with two '@'. -/
theorem handed_frames_iff (h : Reachable mac l) :
    (∀ p ∈ l.handed, Frame p) ↔ ∀ line ∈ l.sources, DoubleEnded (storedPacket line) := by
  have hinv := reachable_inv h
  constructor
  · intro hframes line hline
    obtain ⟨p,hp,hload⟩ := hinv.sources line hline
    exact (frame_resend _).mp (loadLine_eq_some hload ▸ hframes p hp)
  · intro hlines p hp
    rcases hinv.handed p hp with hframe | ⟨line,hline,hload⟩
    · exact hframe
    · exact loadLine_eq_some hload ▸ (frame_resend _).mpr (hlines line hline)

/-- A stored packet that ends with two '@' is sent again. -/
theorem double_ended_resent : ∃ l, Reachable (str "SAP2400000000000") l ∧
    l.handed = [str "$21B@"] ∧ ∀ p ∈ l.handed, Frame p := by
  let load : Op := .process (.load true)
  let frame : Op := .process (.thread (.transmitter ⟨ReceiveBranch.requestFrame.bytes,false,true⟩))
  obtain ⟨l,hl,hhanded,hsources⟩ : ∃ l, Reachable (str "SAP2400000000000") l ∧
      l.handed = [str "$21B@"] ∧ l.sources = [str "$06B@@\n"] := by
    refine ⟨_,⟨_,[load,load,frame,frame,frame,frame],⟨some (str "$06B@@\n"),rfl⟩,
      .cons ⟨trivial,rfl⟩ (.cons ⟨trivial,rfl⟩ (.cons ⟨trivial,rfl⟩ (.cons ⟨trivial,rfl⟩
      (.cons ⟨trivial,rfl⟩ (.single ⟨trivial,rfl⟩)))))⟩,?_,?_⟩ <;> decide
  refine ⟨l,hl,hhanded,(handed_frames_iff hl).mpr ?_⟩
  rw [hsources]
  rintro line hline
  obtain rfl := List.mem_singleton.mp hline
  exact ⟨str "06B",by decide,by decide⟩

/-- The packet of an empty measurement, as `packet06` builds it. -/
def loggedPacket : Str :=
  str "$064010001000037ISR2700000000027SAP24000000000001000914110100##0002&&5D7F@"

theorem loggedPacket_built : (packet06 HJ212PacketBuilder.loggedIdentity (str "0914")
    (str "NFFFFEFFFFF") 4 (.new 8) (str "##0002&&5D7F") (str "100")).1 = loggedPacket := by
  have hlen : HJ212PacketBuilder.loggedBuilder.lenStr = str "0037" := by
    have hchange := change_eq 55 []
    rw [Numerals.numeral_step 16 hexDigit (by decide) (by decide),
      Numerals.numeral_of_lt 16 hexDigit (by decide)] at hchange
    show HJ212PacketBuilder.padLength (change ((55 : ℕ) : Int) []) = str "0037"
    rw [hchange]
    decide
  have hbuild := HJ212PacketBuilder.build_of_fits HJ212PacketBuilder.loggedBuilder_widths
    (by decide) HJ212PacketBuilder.loggedBuilder_fits (show (MemoryPool.new 8).freeList ≠ [] by decide)
  rw [hlen] at hbuild
  exact hbuild.trans (by decide)

/-- What the sensor threads push is a packet of `packet06`. -/
def Op.Built : Op → Prop
  | .process (.thread (.push p)) => Frame p ∧ ∃ identity cpuOccupy location activeId pool strT portInfo,
    (packet06 identity cpuOccupy location activeId pool strT portInfo).1 = p
  | _ => True

/-- A packet that is persisted and sent again by the next process has lost its '@'. -/
theorem resent_packet_unframed : ¬ ∀ (mac : Str) (ops : List Op) (l : Life),
    (∀ op ∈ ops, op.Built) → StepSystem.Run (fun l op k => step mac l op = some k) (boot none) ops l →
    ∀ p ∈ l.handed, Frame p := by
  intro hall
  let load : Op := .process (.load true)
  let frame : Op := .process (.thread (.transmitter ⟨ReceiveBranch.requestFrame.bytes,false,true⟩))
  let handler : Op := .process (.handler 0 true (.complete loggedPacket))
  let ops : List Op := [.process (.thread (.push loggedPacket)),.process .signal,handler,handler,
    handler,handler,handler,handler,handler,.restart,load,load,frame,frame,frame,frame]
  have hbuilt : ∀ op ∈ ops, op.Built := by
    intro op hop
    rcases List.mem_cons.mp hop with rfl | hop
    · exact ⟨by decide,_,_,_,_,_,_,_,loggedPacket_built⟩
    · simp only [List.mem_cons,List.not_mem_nil,or_false] at hop
      rcases hop with rfl | rfl | rfl | rfl | rfl | rfl | rfl | rfl | rfl | rfl | rfl | rfl | rfl |
        rfl | rfl <;> exact trivial
  obtain ⟨l,hl,hhanded⟩ : ∃ l, ops.foldlM (step (str "SAP2400000000000")) (boot none) = some l ∧
      l.handed = [resend loggedPacket] := by
    refine ⟨_,rfl,?_⟩
    decide
  have h := hall _ ops l hbuilt (StepSystem.Run.foldlM hl) (resend loggedPacket) (by simp [hhanded])
  exact absurd h (by decide)

end Resend
end Sap9001
