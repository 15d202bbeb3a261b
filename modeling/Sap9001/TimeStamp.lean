import Sap9001.ProtocolProcess

/-! The time stamps that `time_now_to_string` writes (`protocol/hj212.cpp`) and `packet20` reads.
`localtime_r` depends on the time zone of the device and is a parameter. -/
namespace Sap9001
namespace TimeStamp

/-- `%0<width>d` -/
def printInt (width : ℕ) (n : Int) : Str :=
  if n < 0 then byte '-'::Numerals.padded 10 hexDigit (width - 1) n.natAbs
  else Numerals.padded 10 hexDigit width n.natAbs

def stringFormater (source : Int) : Str := snprintf 3 [printInt 2 source]

def stringFormaterUsec (source : Int) : Str := snprintf 4 [printInt 3 source]

/-- The time `tv` as it is written; nothing when `localtime_r` fails. -/
def timeNowToString (localtime : Int → Option Tm) (tv : TimeVal) : Str :=
  match localtime tv.sec with
  | none => []
  | some p => snprintf 100 [snprintf 8 [printInt 0 (p.year + 1900)],stringFormater (p.mon + 1),
      stringFormater p.mday,stringFormater p.hour,stringFormater p.min,stringFormater p.sec,
      stringFormaterUsec (tv.usec.tdiv 1000)]

/-- Whatever the time, the buffers keep the stamp short. -/
theorem timeNowToString_short (localtime : Int → Option Tm) (tv : TimeVal) :
    (timeNowToString localtime tv).length ≤ 20 ∧ (0 : UInt8) ∉ timeNowToString localtime tv := by
  unfold timeNowToString
  cases localtime tv.sec with
  | none => exact ⟨Nat.zero_le 20,List.not_mem_nil⟩
  | some p =>
    have hfield (size : ℕ) (s : Str) : (cstr (snprintf size [s])).length ≤ size - 1 :=
      (length_cstr_le _).trans (length_snprintf_le size [s])
    dsimp only
    constructor
    · rw [snprintf,List.length_take]
      refine (Nat.min_le_right _ _).trans ?_
      simp only [List.flatMap_cons,List.flatMap_nil,List.length_append,List.length_nil]
      have hyear := hfield 8 (printInt 0 (p.year + 1900))
      have htwo (source : Int) : (cstr (stringFormater source)).length ≤ 2 := hfield 3 _
      have hmon := htwo (p.mon + 1)
      have hmday := htwo p.mday
      have hhour := htwo p.hour
      have hmin := htwo p.min
      have hsec := htwo p.sec
      have husec : (cstr (stringFormaterUsec (tv.usec.tdiv 1000))).length ≤ 3 := hfield 4 _
      omega
    · rw [← cstr_snprintf]
      exact cstr_no_nul _

/-- A broken-down time with a year of four digits. -/
structure Calendar (p : Tm) : Prop where
  year : -900 ≤ p.year ∧ p.year ≤ 8099
  mon : 0 ≤ p.mon ∧ p.mon ≤ 11
  mday : 1 ≤ p.mday ∧ p.mday ≤ 31
  hour : 0 ≤ p.hour ∧ p.hour ≤ 23
  min : 0 ≤ p.min ∧ p.min ≤ 59
  sec : 0 ≤ p.sec ∧ p.sec ≤ 60

/-- The microseconds of `gettimeofday`. -/
def Usec (tv : TimeVal) : Prop := 0 ≤ tv.usec ∧ tv.usec < 1000000

instance (tv : TimeVal) : Decidable (Usec tv) := inferInstanceAs (Decidable (_ ∧ _))

def digits (k n : ℕ) : Str := Numerals.padded 10 hexDigit k n

/-- The widths of the fields, and the numbers in them. -/
def stampFields (p : Tm) (tv : TimeVal) : List (ℕ × ℕ) :=
  [(4,(p.year + 1900).toNat),(2,(p.mon + 1).toNat),(2,p.mday.toNat),(2,p.hour.toNat),
    (2,p.min.toNat),(2,p.sec.toNat),(3,tv.usec.toNat / 1000)]

theorem digits_no_nul (k n : ℕ) : (0 : UInt8) ∉ digits k n :=
  Numerals.not_mem_padded 10 hexDigit (by decide) (fun d hd => hexDigit_ne_zero d (by omega)) k n

theorem length_digits {k n : ℕ} (hk : 0 < k) (h : n < 10^k) : (digits k n).length = k :=
  Numerals.length_padded 10 hexDigit (by decide) hk h

theorem printInt_of_nonneg {n : Int} (h : 0 ≤ n) (width : ℕ) : printInt width n = digits width n.toNat := by
  have habs : n.natAbs = n.toNat := by omega
  rw [printInt,if_neg (by omega),habs]
  rfl

/-- A field that fits its buffer. -/
theorem snprintf_digits {k n size : ℕ} (hk : 0 < k) (h : n < 10^k) (hsize : k < size) :
    snprintf size [digits k n] = digits k n := by
  have hlen := length_digits hk h
  rw [snprintf,List.flatMap_cons,List.flatMap_nil,List.append_nil,cstr_of_no_nul (digits_no_nul k n),
    List.take_of_length_le (by omega)]

theorem stringFormater_eq {n : Int} (h : 0 ≤ n) (hlt : n < 100) :
    stringFormater n = digits 2 n.toNat := by
  rw [stringFormater,printInt_of_nonneg h,snprintf_digits (by decide) (by omega) (by decide)]

theorem stringFormaterUsec_eq {n : Int} (h : 0 ≤ n) (hlt : n < 1000) :
    stringFormaterUsec n = digits 3 n.toNat := by
  rw [stringFormaterUsec,printInt_of_nonneg h,snprintf_digits (by decide) (by omega) (by decide)]

theorem year_eq {n : Int} (h : 1000 ≤ n) (hlt : n < 10000) :
    snprintf 8 [printInt 0 n] = digits 4 n.toNat := by
  have hpadded : digits 4 n.toNat = digits 0 n.toNat := by
    rw [digits,digits,Numerals.padded_of_lt (d := 3) 10 hexDigit (by decide) (by omega) (by omega),
      Numerals.padded,Nat.zero_sub]
  rw [printInt_of_nonneg (by omega),← hpadded,snprintf_digits (by decide) (by omega) (by decide)]

/-- Every field has its width. -/
theorem stampFields_fit {p : Tm} {tv : TimeVal} (hp : Calendar p) (htv : Usec tv) :
    ∀ f ∈ stampFields p tv, 0 < f.1 ∧ f.2 < 10^f.1 := by
  obtain ⟨hyear,hmon,hmday,hhour,hmin,hsec⟩ := hp
  obtain ⟨hlo,hhi⟩ := htv
  simp only [stampFields,List.forall_mem_cons]
  refine ⟨?_,?_,?_,?_,?_,?_,?_,by simp⟩ <;> omega

theorem length_fields {fs : List (ℕ × ℕ)} (h : ∀ f ∈ fs, 0 < f.1 ∧ f.2 < 10^f.1) :
    (fs.flatMap fun f => digits f.1 f.2).length = (fs.map Prod.fst).sum := by
  rw [List.length_flatMap]
  congr 1
  refine List.map_congr_left fun f hf => ?_
  exact length_digits (h f hf).1 (h f hf).2

/-- The stamp is its seven fields, one after the other. -/
theorem timeNowToString_eq {localtime : Int → Option Tm} {tv : TimeVal} {p : Tm}
    (hlocal : localtime tv.sec = some p) (hp : Calendar p) (htv : Usec tv) :
    timeNowToString localtime tv = (stampFields p tv).flatMap fun f => digits f.1 f.2 := by
  have hlen := length_fields (stampFields_fit hp htv)
  obtain ⟨hyear,hmon,hmday,hhour,hmin,hsec⟩ := hp
  obtain ⟨hlo,hhi⟩ := htv
  have hmsec : (tv.usec.tdiv 1000).toNat = tv.usec.toNat / 1000 := by
    rw [Int.tdiv_eq_ediv_of_nonneg hlo]
    omega
  have hmsec' : 0 ≤ tv.usec.tdiv 1000 ∧ tv.usec.tdiv 1000 < 1000 := by
    rw [Int.tdiv_eq_ediv_of_nonneg hlo]
    omega
  have hparts (fs : List (ℕ × ℕ)) : (fs.map fun f => digits f.1 f.2).flatMap cstr =
      fs.flatMap fun f => digits f.1 f.2 := by
    rw [flatMap_cstr]
    · rfl
    · intro a ha
      obtain ⟨f,-,rfl⟩ := List.mem_map.mp ha
      exact digits_no_nul f.1 f.2
  unfold timeNowToString
  rw [hlocal]
  simp only
  rw [year_eq (by omega) (by omega),stringFormater_eq (by omega) (by omega),
    stringFormater_eq (by omega) (by omega),stringFormater_eq (by omega) (by omega),
    stringFormater_eq (by omega) (by omega),stringFormater_eq (by omega) (by omega),
    stringFormaterUsec_eq hmsec'.1 hmsec'.2,hmsec]
  have hall := hparts (stampFields p tv)
  have hsum : ((stampFields p tv).map Prod.fst).sum = 17 := rfl
  rw [hsum] at hlen
  rw [snprintf]
  exact (congrArg (List.take (100 - 1)) hall).trans (List.take_of_length_le (by omega))

theorem hexDigit_spec : ∀ d < 10, isDigit (hexDigit d) = true ∧ isSpace (hexDigit d) = false ∧
    hexDigit d ≠ byte '-' ∧ hexDigit d ≠ byte '+' := by
  decide

theorem mem_digits {k n : ℕ} {c : UInt8} (h : c ∈ digits k n) : ∃ d < 10, c = hexDigit d :=
  Numerals.mem_padded 10 hexDigit (by decide) h

/-- Reading digits one by one gives the number that they stand for. -/
theorem foldl_digits {s : Str} (h : ∀ c ∈ s, ∃ d < 10, c = hexDigit d) :
    s.foldl (fun (n : Int) c => 10*n + (c.toNat - 48 : ℕ)) 0 = (Numerals.read 10 hexValue s : ℕ) := by
  induction s using List.reverseRecOn with
  | nil => rfl
  | append_singleton s c ih =>
    have hs : ∀ c ∈ s, ∃ d < 10, c = hexDigit d := fun c hc => h c (by simp [hc])
    obtain ⟨d,hd,rfl⟩ := h c (by simp)
    have hvalue : ∀ d < 10, (hexDigit d).toNat - 48 = hexValue (hexDigit d) := by decide
    rw [List.foldl_append,ih hs,Numerals.read_concat,List.foldl_cons,List.foldl_nil,hvalue d hd]
    push_cast
    omega

/-- `atoi` reads back what was printed. -/
theorem atoi_digits (k n : ℕ) : atoi (digits k n) = n := by
  have hmem : ∀ c ∈ digits k n, ∃ d < 10, c = hexDigit d := fun c hc => mem_digits hc
  have hread : Numerals.read 10 hexValue (digits k n) = n :=
    Numerals.read_padded (fun d hd => hexValue_hexDigit d (by omega)) (by decide) k n
  have hdigit : ∀ c ∈ digits k n, isDigit c = true ∧ isSpace c = false ∧ c ≠ byte '-' ∧
      c ≠ byte '+' := by
    intro c hc
    obtain ⟨d,hd,rfl⟩ := hmem c hc
    exact hexDigit_spec d hd
  have htake : (digits k n).takeWhile isDigit = digits k n :=
    List.takeWhile_eq_self_iff.mpr fun c hc => (hdigit c hc).1
  have hfold := foldl_digits hmem
  rw [hread] at hfold
  cases hs : digits k n with
  | nil =>
    rw [hs] at hfold
    exact hfold
  | cons c u =>
    rw [hs] at hfold htake hdigit
    obtain ⟨-,hspace,hminus,hplus⟩ := hdigit c (by simp)
    have hdrop : (c::u).dropWhile isSpace = c::u := List.dropWhile_cons_of_neg (by simp [hspace])
    simp only [atoi,hdrop,htake]
    rw [if_neg hminus,if_neg hplus]
    exact hfold

/-- A field is read back from where it stands. -/
theorem read_field {fs : List (ℕ × ℕ)} (h : ∀ f ∈ fs, 0 < f.1 ∧ f.2 < 10^f.1) (i : ℕ)
    (hi : i < fs.length) : atoi (substr (fs.flatMap fun f => digits f.1 f.2)
      ((fs.take i).map Prod.fst).sum fs[i].1) = (fs[i].2 : ℕ) := by
  have hsplit : fs = fs.take i ++ fs[i]::fs.drop (i+1) := by
    rw [List.cons_getElem_drop_succ,List.take_append_drop]
  have hpre : ((fs.take i).flatMap fun f => digits f.1 f.2).length = ((fs.take i).map Prod.fst).sum :=
    length_fields fun f hf => h f (List.mem_of_mem_take hf)
  obtain ⟨hpos,hlt⟩ := h fs[i] (List.getElem_mem hi)
  have hflat : (fs.flatMap fun f => digits f.1 f.2) = ((fs.take i).flatMap fun f => digits f.1 f.2) ++
      (digits fs[i].1 fs[i].2 ++ (fs.drop (i+1)).flatMap fun f => digits f.1 f.2) := by
    conv_lhs => rw [hsplit]
    rw [List.flatMap_append,List.flatMap_cons]
  rw [hflat,substr_field hpre (length_digits hpos hlt),atoi_digits]

/-- The stamp of a time reads back as that time. -/
theorem tmSet_stamp {p : Tm} {tv : TimeVal} (hp : Calendar p) (htv : Usec tv) :
    tmSet ((stampFields p tv).flatMap fun f => digits f.1 f.2) = p ∧
      atoi (substr ((stampFields p tv).flatMap fun f => digits f.1 f.2) 14 3) =
        (tv.usec.toNat / 1000 : ℕ) := by
  have hfit := stampFields_fit hp htv
  have hfield := read_field hfit
  obtain ⟨hyear,hmon,hmday,hhour,hmin,hsec⟩ := hp
  have hseven (i : ℕ) (hi : i < 7) : i < (stampFields p tv).length := hi
  refine ⟨?_,hfield 6 (hseven 6 (by decide))⟩
  generalize hs : ((stampFields p tv).flatMap fun f => digits f.1 f.2) = stamp at hfield
  have hy : atoi (substr stamp 0 4) = ((p.year + 1900).toNat : ℕ) := hfield 0 (hseven 0 (by decide))
  have hmo : atoi (substr stamp 4 2) = ((p.mon + 1).toNat : ℕ) := hfield 1 (hseven 1 (by decide))
  have hd : atoi (substr stamp 6 2) = (p.mday.toNat : ℕ) := hfield 2 (hseven 2 (by decide))
  have hh : atoi (substr stamp 8 2) = (p.hour.toNat : ℕ) := hfield 3 (hseven 3 (by decide))
  have hmi : atoi (substr stamp 10 2) = (p.min.toNat : ℕ) := hfield 4 (hseven 4 (by decide))
  have hse : atoi (substr stamp 12 2) = (p.sec.toNat : ℕ) := hfield 5 (hseven 5 (by decide))
  rw [tmSet,hy,hmo,hd,hh,hmi,hse]
  obtain ⟨year,mon,mday,hour,min,sec⟩ := p
  simp only at hyear hmon hmday hhour hmin hsec
  simp only [Tm.mk.injEq]
  omega

/-- A time frame whose stamp is written as `time_now_to_string` writes it sets the clock to that
time, without what is below a millisecond. -/
theorem stamp_sets_clock {localtime : Int → Option Tm} {mktime : Tm → Option Int}
    {identity : DeviceIdentity} {tv : TimeVal} {p : Tm} {pre post : Str}
    (hlocal : localtime tv.sec = some p) (hmktime : mktime p = some tv.sec) (hp : Calendar p)
    (htv : Usec tv) (hpre : pre.length = 16) (hmac : identity.mac.length = 16) :
    packet20 mktime identity (pre ++ (identity.mac ++ (timeNowToString localtime tv ++ post))) =
      ({ identity with currentTime := timeNowToString localtime tv },
        some ⟨tv.sec,tv.usec - tv.usec % 1000⟩) := by
  have hlen : (timeNowToString localtime tv).length = 17 := by
    rw [timeNowToString_eq hlocal hp htv,length_fields (stampFields_fit hp htv)]
    rfl
  have hbefore : (pre ++ identity.mac).length = 32 := by rw [List.length_append,hpre,hmac]
  have hmacAt := substr_field hpre hmac (timeNowToString localtime tv ++ post)
  have hstampAt := substr_field hbefore hlen post
  rw [List.append_assoc] at hstampAt
  have htime : packet20Time identity.mac
      (pre ++ (identity.mac ++ (timeNowToString localtime tv ++ post))) =
        some (timeNowToString localtime tv) := by
    rw [packet20Time,if_neg (by simp only [List.length_append]; omega),hmacAt,if_pos rfl,hstampAt]
  obtain ⟨hset,husec⟩ := tmSet_stamp hp htv
  rw [← timeNowToString_eq hlocal hp htv] at hset husec
  have hround : ((tv.usec.toNat / 1000 : ℕ) : Int) * 1000 = tv.usec - tv.usec % 1000 := by
    have hlo := htv.1
    omega
  rw [packet20,htime]
  simp only [tvSet,hset,hmktime,husec,Option.map_some,hround]

/-- Noon of a day in 2026, and a second later. -/
def noonLocaltime (s : Int) : Option Tm :=
  if s = 1767268800 then some ⟨126,0,1,12,0,0⟩
  else if s = 1767268801 then some ⟨126,0,1,12,0,1⟩
  else none

def noonMktime (p : Tm) : Option Int := if p = ⟨126,0,1,12,0,0⟩ then some 1767268800 else none

theorem noon_calendar : Calendar ⟨126,0,1,12,0,0⟩ ∧ Calendar ⟨126,0,1,12,0,1⟩ := by
  constructor <;> constructor <;> decide

/-- Of 250.75 ms the clock gets 250. -/
theorem noon_set : packet20 noonMktime { mac := str "SAP2400000000000" }
    (str "$2000010000100A0" ++ (str "SAP2400000000000" ++
      (timeNowToString noonLocaltime ⟨1767268800,250750⟩ ++ str "@"))) =
    ({ mac := str "SAP2400000000000",
       currentTime := timeNowToString noonLocaltime ⟨1767268800,250750⟩ },
      some ⟨1767268800,250000⟩) :=
  stamp_sets_clock rfl rfl noon_calendar.1 (by decide) rfl rfl

/-- The times in the order of their fields, down to the millisecond. -/
def chronology (p : Tm) (tv : TimeVal) : List Int :=
  [p.year,p.mon,p.mday,p.hour,p.min,p.sec,tv.usec / 1000]

theorem digits_lt_iff {k n m : ℕ} (hk : 0 < k) (hn : n < 10^k) (hm : m < 10^k) :
    digits k n < digits k m ↔ n < m :=
  Numerals.padded_lt_iff (fun d hd => hexValue_hexDigit d (by omega)) (by decide) (by decide) hk hn hm

/-- Fields of the same widths are compared one after the other. -/
theorem fields_lt_iff {fs gs : List (ℕ × ℕ)} (hwidths : fs.map Prod.fst = gs.map Prod.fst)
    (hf : ∀ f ∈ fs, 0 < f.1 ∧ f.2 < 10^f.1) (hg : ∀ g ∈ gs, 0 < g.1 ∧ g.2 < 10^g.1) :
    (fs.flatMap fun f => digits f.1 f.2) < (gs.flatMap fun g => digits g.1 g.2) ↔
      fs.map Prod.snd < gs.map Prod.snd := by
  induction fs generalizing gs with
  | nil =>
    obtain rfl := List.map_eq_nil_iff.mp hwidths.symm
    simp
  | cons f fs ih =>
    cases gs with
    | nil => simp at hwidths
    | cons g gs =>
      obtain ⟨hwidth,hwidths⟩ := List.cons.inj hwidths
      obtain ⟨hfpos,hflt⟩ := hf f (by simp)
      obtain ⟨hgpos,hglt⟩ := hg g (by simp)
      rw [← hwidth] at hglt
      have hlen : (digits f.1 f.2).length = (digits g.1 g.2).length := by
        rw [← hwidth,length_digits hfpos hflt,length_digits hfpos hglt]
      have hinj : digits f.1 f.2 = digits f.1 g.2 ↔ f.2 = g.2 :=
        Numerals.padded_inj (fun d hd => hexValue_hexDigit d (by omega)) (by decide)
      rw [List.flatMap_cons,List.flatMap_cons,Numerals.append_lt_append_iff hlen,← hwidth,
        digits_lt_iff hfpos hflt hglt,hinj,List.map_cons,List.map_cons,List.cons_lt_cons_iff,
        ih hwidths (fun f hmem => hf f (by simp [hmem])) fun g hmem => hg g (by simp [hmem])]

/-- Stamps compare as strings in the order of their times. -/
theorem stamps_chronological {localtime : Int → Option Tm} {tv tv' : TimeVal} {p p' : Tm}
    (hlocal : localtime tv.sec = some p) (hlocal' : localtime tv'.sec = some p') (hp : Calendar p)
    (hp' : Calendar p') (htv : Usec tv) (htv' : Usec tv') :
    timeNowToString localtime tv < timeNowToString localtime tv' ↔
      chronology p tv < chronology p' tv' := by
  have hwidths : (stampFields p tv).map Prod.fst = (stampFields p' tv').map Prod.fst := rfl
  rw [timeNowToString_eq hlocal hp htv,timeNowToString_eq hlocal' hp' htv',
    fields_lt_iff hwidths (stampFields_fit hp htv) (stampFields_fit hp' htv')]
  obtain ⟨hyear,hmon,hmday,hhour,hmin,hsec⟩ := hp
  obtain ⟨hyear',hmon',hmday',hhour',hmin',hsec'⟩ := hp'
  have hcompare {a b : Int} (ha : 0 ≤ a) (hb : 0 ≤ b) :
      (a.toNat < b.toNat ↔ a < b) ∧ (a.toNat = b.toNat ↔ a = b) := by omega
  have hy := hcompare (a := p.year + 1900) (b := p'.year + 1900) (by omega) (by omega)
  have hmo := hcompare (a := p.mon + 1) (b := p'.mon + 1) (by omega) (by omega)
  have hd := hcompare (a := p.mday) (b := p'.mday) (by omega) (by omega)
  have hh := hcompare hhour.1 hhour'.1
  have hmi := hcompare hmin.1 hmin'.1
  have hs := hcompare hsec.1 hsec'.1
  have hms : tv.usec.toNat / 1000 < tv'.usec.toNat / 1000 ↔ tv.usec / 1000 < tv'.usec / 1000 := by
    have hlo := htv.1
    have hlo' := htv'.1
    omega
  simp only [stampFields,chronology,List.map_cons,List.map_nil,List.cons_lt_cons_iff,
    List.not_lt_nil,and_false,or_false,hy.1,hy.2,hmo.1,hmo.2,hd.1,hd.2,hh.1,hh.2,hmi.1,hmi.2,hs.1,hs.2,
    hms,Int.add_lt_add_iff_right,Int.add_left_inj]

/-- The last millisecond of a second is before the next second. -/
theorem noon_before : timeNowToString noonLocaltime ⟨1767268800,999999⟩ <
    timeNowToString noonLocaltime ⟨1767268801,0⟩ := by
  refine Iff.mpr (stamps_chronological rfl rfl noon_calendar.1 noon_calendar.2 ?_ ?_) ?_ <;> decide

end TimeStamp
end Sap9001
