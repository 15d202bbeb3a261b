import Sap9001.ProtocolProcess
import Sap9001.Library.Segments

/-! The receive branch of `send_mess` (`app/message_transmitter.cpp`): each read is taken
for one message and looked at only at fixed offsets. The gateway's frames arrive on a byte
stream, and the stream may be cut into reads anywhere. -/
namespace Sap9001
namespace ReceiveBranch

/-- What `send_mess` does with one message: serve a data request, or handle a time frame
with the time stamp that `packet20` takes from it. -/
inductive Act
  | dataRequest
  | timeFrame (currentTime : Option Str)
  deriving DecidableEq

/-- The tests on one read, for the MAC of this device. -/
def receive (mac recvMessage : Str) : Option Act :=
  if recvMessage.length < 38 then none
  else if substr recvMessage 1 2 = reqData then
    if substr recvMessage 22 16 = mac then some .dataRequest else none
  else if substr recvMessage 1 2 = timeSend then
    some (.timeFrame (packet20Time mac recvMessage))
  else none

/-- The acts of successive reads, each with the stream position of its read. -/
def handled (mac : Str) (reads : List Str) : List (ℕ × Act) :=
  Segments.accepted (receive mac) reads

/-- A well-formed gateway frame. -/
structure GatewayFrame where
  bytes : Str
  starts : bytes.head? = some (byte '$')
  ends : bytes.getLast? = some (byte '@')
  inner : byte '@' ∉ bytes.dropLast
  dataLength : substr bytes 1 2 = reqData → 38 ≤ bytes.length
  timeLength : substr bytes 1 2 = timeSend → 49 ≤ bytes.length
  maxLength : bytes.length ≤ rxSize

/-- A cut of the frames' byte stream into reads. -/
structure Chunking (frames : List GatewayFrame) where
  reads : List Str
  nonempty : ∀ r ∈ reads, r ≠ []
  maxLength : ∀ r ∈ reads, r.length ≤ rxSize
  stream : reads.flatten = (frames.map (·.bytes)).flatten

/-- How much of a frame the handler has to see: a time frame for this device is read up to
the end of its time stamp, any other frame up to the MAC field. -/
def reach (mac frame : Str) : ℕ :=
  if substr frame 1 2 = timeSend ∧ substr frame 16 16 = mac then 49 else 38

theorem substr_of_take_eq {p q : Str} {k : ℕ} (h : p.take k = q.take k) {pos len : ℕ}
    (hk : pos + len ≤ k) : substr p pos len = substr q pos len := by
  have hcut (s : Str) : substr s pos len = ((s.take k).drop pos).take len := by
    rw [substr,List.drop_take,List.take_take,min_eq_left (by omega)]
  rw [hcut p,hcut q,h]

theorem GatewayFrame.ne_nil (f : GatewayFrame) : f.bytes ≠ [] := by
  intro h
  have hs := f.starts
  simp [h] at hs

/-- A frame of two bytes is "$@". -/
theorem GatewayFrame.short (f : GatewayFrame) (h : f.bytes.length < 3) :
    f.bytes = [byte '$',byte '@'] := by
  have hs := f.starts
  have he := f.ends
  match hb : f.bytes,h with
  | [],_ => simp [hb] at hs
  | [a],_ =>
    rw [hb,List.head?_cons,Option.some.injEq] at hs
    rw [hb,List.getLast?_singleton,Option.some.injEq,hs] at he
    exact absurd he (by decide)
  | [a,b],_ =>
    rw [hb,List.head?_cons,Option.some.injEq] at hs
    rw [hb] at he
    have he' : b = byte '@' := by simpa using he
    rw [hs,he']

theorem timeSend_ne_reqData : timeSend ≠ reqData := by decide

theorem reach_of_reqData {mac frame : Str} (h : substr frame 1 2 = reqData) :
    reach mac frame = 38 := by
  simp [reach,h,timeSend_ne_reqData.symm]

/-- The two kinds of message that are acted on. -/
theorem receive_isSome {mac m : Str} (h : (receive mac m).isSome) :
    38 ≤ m.length ∧ (substr m 1 2 = reqData ∧ substr m 22 16 = mac ∨ substr m 1 2 = timeSend) := by
  unfold receive at h
  split_ifs at h with hlen hdata hmac htime
  · simp at h
  · exact ⟨by omega,.inl ⟨hdata,hmac⟩⟩
  · simp at h
  · exact ⟨by omega,.inr htime⟩
  · simp at h

section SameOffset

variable {mac r : Str} {f : GatewayFrame}
  (hag : ∀ k, k ≤ r.length → k ≤ f.bytes.length → r.take k = f.bytes.take k)
include hag

/-- A read that starts with a frame and reaches far enough is handled as the frame is. -/
theorem receive_of_reach (hf : (receive mac f.bytes).isSome)
    (hr : reach mac f.bytes ≤ r.length) : receive mac r = receive mac f.bytes := by
  obtain ⟨hlen,hkind⟩ := receive_isSome hf
  have hr38 : 38 ≤ r.length := by
    unfold reach at hr
    split_ifs at hr <;> omega
  have h38 := hag 38 hr38 hlen
  have hcmd : substr r 1 2 = substr f.bytes 1 2 := substr_of_take_eq h38 (by omega)
  have hmac : substr r 22 16 = substr f.bytes 22 16 := substr_of_take_eq h38 (by omega)
  have hown : substr r 16 16 = substr f.bytes 16 16 := substr_of_take_eq h38 (by omega)
  have hr' : ¬ r.length < 38 := by omega
  have hf' : ¬ f.bytes.length < 38 := by omega
  rcases hkind with ⟨hdata,hm⟩ | htime
  · simp [receive,hr',hf',hcmd,hmac,hdata,hm]
  · have h49 := f.timeLength htime
    have htime' : packet20Time mac r = packet20Time mac f.bytes := by
      have hfl : ¬ f.bytes.length < 49 := by omega
      by_cases hm : substr f.bytes 16 16 = mac
      · have hr49 : 49 ≤ r.length := by simpa [reach,htime,hm] using hr
        have hrl : ¬ r.length < 49 := by omega
        have hstamp : substr r 32 17 = substr f.bytes 32 17 :=
          substr_of_take_eq (hag 49 hr49 h49) (by omega)
        simp [packet20Time,hfl,hrl,hown,hm,hstamp]
      · simp [packet20Time,hfl,hown,hm]
    simp [receive,hr',hf',hcmd,htime,timeSend_ne_reqData,htime']

omit hag in
/-- A read that stops short of what a frame needs is not handled as the frame is. -/
theorem receive_short (hf : (receive mac f.bytes).isSome)
    (hr : r.length < reach mac f.bytes) : receive mac r ≠ receive mac f.bytes := by
  intro heq
  obtain ⟨hlen,hkind⟩ := receive_isSome hf
  have hrlen := (receive_isSome (heq ▸ hf)).1
  have hnot : ¬ reach mac f.bytes = 38 := by omega
  rcases hkind with ⟨hdata,-⟩ | htime
  · exact hnot (reach_of_reqData hdata)
  · have hm : substr f.bytes 16 16 = mac := by
      by_contra hm
      exact hnot (by simp [reach,hm])
    have hr49 : r.length < 49 := by simpa [reach,htime,hm] using hr
    have hfl : ¬ f.bytes.length < 49 := by
      have h49 := f.timeLength htime
      omega
    have hfr : ¬ f.bytes.length < 38 := by omega
    -- The frame hands its time stamp on; the short read, if it acts, hands on none.
    have hact : receive mac f.bytes = some (.timeFrame (some (substr f.bytes 32 17))) := by
      simp [receive,hfr,htime,timeSend_ne_reqData,packet20Time,hfl,hm]
    have hnone : packet20Time mac r = none := by simp [packet20Time,hr49]
    rw [hact] at heq
    unfold receive at heq
    split_ifs at heq
    · simp at heq
    · simp [hnone] at heq

/-- A read that starts with a frame that asks for nothing asks for nothing. -/
theorem receive_none (hf : receive mac f.bytes = none) : receive mac r = none := by
  by_contra hne
  obtain ⟨hlen,hkind⟩ := receive_isSome (Option.isSome_iff_ne_none.mpr hne)
  by_cases h3 : 3 ≤ f.bytes.length
  · have hcmd : substr r 1 2 = substr f.bytes 1 2 :=
      substr_of_take_eq (hag 3 (by omega) h3) (by omega)
    rw [hcmd] at hkind
    unfold receive at hf
    rcases hkind with ⟨hdata,hm⟩ | htime
    · have h38 := f.dataLength hdata
      have hmac : substr r 22 16 = substr f.bytes 22 16 :=
        substr_of_take_eq (hag 38 hlen h38) (by omega)
      rw [if_neg (by omega),if_pos hdata,if_pos (hmac ▸ hm)] at hf
      contradiction
    · have h49 := f.timeLength htime
      rw [if_neg (by omega),if_neg (htime ▸ timeSend_ne_reqData),if_pos htime] at hf
      contradiction
  · -- The second byte of the read is '@', which starts neither command.
    have hb := f.short (by omega)
    have h2 := hag 2 (by omega) (by simp [hb])
    have hcmd : substr r 1 1 = [byte '@'] := by
      have h : substr r 1 1 = substr f.bytes 1 1 := substr_of_take_eq h2 (by omega)
      rw [h,hb]
      rfl
    have hhead : (substr r 1 2).take 1 = [byte '@'] := by
      rw [← hcmd,substr,substr,List.take_take,min_eq_left (by omega)]
    rcases hkind with ⟨hdata,-⟩ | htime
    · rw [hdata] at hhead
      exact absurd hhead (by decide)
    · rw [htime] at hhead
      exact absurd hhead (by decide)

end SameOffset

/-- Every frame that asks for something starts a read that reaches far enough, and no read
that starts inside a frame passes the tests. -/
structure CutsAtRequests (mac : Str) (frames : List GatewayFrame) (reads : List Str) : Prop where
  reached : ∀ o f, (o,f) ∈ Segments.offsets 0 (frames.map (·.bytes)) → (receive mac f).isSome →
    ∃ r, (o,r) ∈ Segments.offsets 0 reads ∧ reach mac f ≤ r.length
  inside : ∀ o r, (o,r) ∈ Segments.offsets 0 reads →
    (∀ f, (o,f) ∉ Segments.offsets 0 (frames.map (·.bytes))) → receive mac r = none

theorem frame_of_mem_offsets {frames : List GatewayFrame} {o : ℕ} {b : Str}
    (h : (o,b) ∈ Segments.offsets 0 (frames.map (·.bytes))) : ∃ f : GatewayFrame, f.bytes = b := by
  obtain ⟨f,-,hf⟩ := List.mem_map.mp (Segments.mem_of_mem_offsets h)
  exact ⟨f,hf⟩

/-- `send_mess` acts on the requests and time frames of the frames, each once and at its
place, exactly when the reads are cut at the requests. -/
theorem handled_eq_iff (mac : Str) (frames : List GatewayFrame) (c : Chunking frames) :
    handled mac c.reads = handled mac (frames.map (·.bytes)) ↔
      CutsAtRequests mac frames c.reads := by
  have hne : ∀ b ∈ frames.map (·.bytes), b ≠ [] := by
    intro b hb
    obtain ⟨f,-,rfl⟩ := List.mem_map.mp hb
    exact f.ne_nil
  have hag {o : ℕ} {r b : Str} (hr : (o,r) ∈ Segments.offsets 0 c.reads)
      (hb : (o,b) ∈ Segments.offsets 0 (frames.map (·.bytes))) (k : ℕ) (hkr : k ≤ r.length)
      (hkb : k ≤ b.length) : r.take k = b.take k :=
    Segments.take_eq_of_offsets c.stream hr hb hkr hkb
  constructor
  · intro heq
    constructor
    · intro o b hb hsome
      obtain ⟨f,rfl⟩ := frame_of_mem_offsets hb
      obtain ⟨act,hact⟩ := Option.isSome_iff_exists.mp hsome
      have hmem : (o,act) ∈ handled mac c.reads := by
        rw [heq]
        exact Segments.mem_accepted.mpr ⟨_,hb,hact⟩
      obtain ⟨r,hr,hract⟩ := Segments.mem_accepted.mp hmem
      refine ⟨r,hr,?_⟩
      by_contra hshort
      exact receive_short hsome (by omega) (hract.trans hact.symm)
    · intro o r hr hno
      by_contra hrn
      obtain ⟨act,hact⟩ := Option.ne_none_iff_exists'.mp hrn
      have hmem : (o,act) ∈ handled mac (frames.map (·.bytes)) := by
        rw [← heq]
        exact Segments.mem_accepted.mpr ⟨r,hr,hact⟩
      obtain ⟨b,hb,-⟩ := Segments.mem_accepted.mp hmem
      exact hno b hb
  · intro hcut
    apply Segments.accepted_ext c.nonempty hne
    rintro ⟨o,act⟩
    rw [Segments.mem_accepted,Segments.mem_accepted]
    constructor
    · rintro ⟨r,hr,hact⟩
      by_cases hframe : ∃ b, (o,b) ∈ Segments.offsets 0 (frames.map (·.bytes))
      · obtain ⟨b,hb⟩ := hframe
        obtain ⟨f,rfl⟩ := frame_of_mem_offsets hb
        have hsome : (receive mac f.bytes).isSome := by
          by_contra hnone
          have hrn := receive_none (hag hr hb) (by simpa using hnone)
          rw [hrn] at hact
          contradiction
        obtain ⟨r',hr',hreach⟩ := hcut.reached o _ hb hsome
        obtain rfl := Segments.offset_unique c.nonempty hr hr'
        exact ⟨_,hb,(receive_of_reach (hag hr hb) hsome hreach) ▸ hact⟩
      · push Not at hframe
        rw [hcut.inside o r hr hframe] at hact
        contradiction
    · rintro ⟨b,hb,hact⟩
      obtain ⟨f,rfl⟩ := frame_of_mem_offsets hb
      have hsome : (receive mac f.bytes).isSome := by simp [hact]
      obtain ⟨r,hr,hreach⟩ := hcut.reached o _ hb hsome
      exact ⟨r,hr,(receive_of_reach (hag hr hb) hsome hreach).trans hact⟩

/-- A data request for the MAC "SAP2400000000000". -/
def requestFrame : GatewayFrame where
  bytes := str "$03100000100001A010001SAP24000000000000001@"
  starts := by decide
  ends := by decide
  inner := by decide
  dataLength := by decide
  timeLength := by decide
  maxLength := by decide

/-- Two requests that arrive in one read. -/
def joined : Chunking [requestFrame,requestFrame] where
  reads := [requestFrame.bytes ++ requestFrame.bytes]
  nonempty := by decide
  maxLength := by decide
  stream := by simp

/-- The second of two joined requests is lost. -/
theorem second_request_lost : ¬ ∀ (mac : Str) (frames : List GatewayFrame) (c : Chunking frames),
    (handled mac c.reads).map Prod.snd = (handled mac (frames.map (·.bytes))).map Prod.snd := by
  intro h
  exact absurd (h (str "SAP2400000000000") _ joined) (by decide)

end ReceiveBranch
end Sap9001
