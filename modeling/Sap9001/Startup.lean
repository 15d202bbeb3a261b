import Sap9001.Config
import Sap9001.Registration
import Sap9001.Silence

/-! From the configuration file to `send_mess` (`main`, `core/communication_factory.cpp`): which
devices there are, which one registers, and where the packets go. -/
namespace Sap9001
namespace Startup

open CommunicaManage DeviceMap DeviceInit Reconnect SendLoop

def enableKey : Strategy → Str
  | .lora => str "enable_lora"
  | .wifi => str "enable_wifi"
  | .bluetooth => str "enable_bluetooth"
  | .lan => str "enable_lan"
  | .lanServer => str "enable_lan_server"
  | .cell4g => str "enable_4g"

def enableDefault : Strategy → Int
  | .cell4g => 0
  | _ => 1

/-- The condition on a strategy in `createAll`. -/
def enabledBy (c : Config) (s : Strategy) : Bool :=
  c.getInt (str "communication") (enableKey s) (enableDefault s) ≠ 0

/-- What a file says about a strategy. -/
def switchedOn (doc : List Config.Block) (s : Strategy) : Bool :=
  ((Config.lastValue doc (str "communication") (enableKey s)).bind stoi).getD (enableDefault s) ≠ 0

/-- `main` up to the registration; `none` for the file when there is none. -/
def boot (path : Str) (file : Option Str) (o : Strategy → Outcome) (files : Handles.Table)
    (macFile : Option Str) (cpuMem : Str) : Option (Int × CommunicaManage ReinitFn × World) :=
  (devInit o (enabledBy (Config.unloaded.load path file).2) files {}).map fun r =>
    (r.1,r.2.1,{ r.2.2 with
      identity := { getMac macFile r.2.2.identity with cpuOccupy := cpuMem } })

/-- The client devices that are switched on and come up, in the order of their ids. -/
def present (on : Strategy → Bool) (o : Strategy → Outcome) : List Strategy :=
  (Strategy.createAll on).filter fun s => s.isClient && s.ok (o s)

section Entries

variable {m m' : CommunicaManage ReinitFn} {x : DeviceMap ReinitFn} {w w' : World}

/-- The entries that the manager gets, for the strategies that add one. -/
structure Adds (ss : List Strategy) (x : DeviceMap ReinitFn) (w : World)
    (m' : CommunicaManage ReinitFn) (w' : World) (y : DeviceMap ReinitFn)
    (new : List (Int × DeviceEntry ReinitFn)) : Prop where
  represents : Represents false m' y
  entries : y.entries = x.entries ++ new
  ids : new.map Prod.fst = ss.map Strategy.deviceId
  off : ∀ e ∈ new, e.2.enabled = false
  fds : w'.fds.deviceId = w.fds.deviceId ++ new.map (·.2.com.fd)

theorem Adds.nothing (hx : Represents false m' x) (hw : w'.fds.deviceId = w.fds.deviceId) :
    Adds [] x w m' w' x [] :=
  ⟨hx,(List.append_nil _).symm,rfl,by simp,by simp [hw]⟩

theorem represents_marked {marked : Bool} (h : Represents marked m x) : Represents true m x := by
  cases h with
  | sentinel b hb => exact .sentinel b fun _ => rfl
  | live h => exact .live h

theorem storeFd_deviceId (st : Strategy) (fd : Int) (fds : CommFds) :
    (storeFd st fd fds).deviceId = fds.deviceId := by
  cases st <;> rfl

/-- One strategy of `dev_init` adds its device, if it is a client and comes up. -/
theorem initOne_adds (o : Outcome) (st : Strategy) (hx : Represents false m x)
    (hnew : st.deviceId ∉ x.keys) (h : initOne o st m w = some (m',w')) :
    ∃ y new, Adds ([st].filter fun s => s.isClient && s.ok o) x w m' w' y new := by
  have hopens := st.init_opens o w.files
  unfold initOne at h
  dsimp only at h
  by_cases hneg : (st.init o w.files).1 < 0
  · have hok : st.ok o = false := by
      by_contra hne
      have hpos := hopens.nonneg.mpr (by simpa using hne)
      omega
    rw [if_pos hneg] at h
    obtain ⟨rfl,rfl⟩ := Prod.mk.inj (Option.some.inj h)
    refine ⟨x,[],?_⟩
    simp only [List.filter_singleton,hok,Bool.and_false,cond_false]
    exact .nothing hx rfl
  · have hok : st.ok o = true := hopens.nonneg.mp (by omega)
    rw [if_neg hneg] at h
    cases hclient : st.isClient with
    | false =>
      rw [hclient,if_neg (by decide)] at h
      obtain ⟨rfl,rfl⟩ := Prod.mk.inj (Option.some.inj h)
      refine ⟨x,[],?_⟩
      simp only [List.filter_singleton,hclient,Bool.false_and,cond_false]
      exact .nothing hx (storeFd_deviceId st _ _)
    | true =>
      rw [hclient,if_pos rfl] at h
      obtain ⟨added,hadded,hpair⟩ := Option.map_eq_some_iff.mp h
      obtain ⟨rfl,rfl⟩ := Prod.mk.inj hpair
      have hfds (fd : Int) (t : Handles.Table) : (recordClient st (fd,t) w).fds.deviceId =
          w.fds.deviceId ++ [fd] := storeFd_deviceId st _ _
      have hid : st.deviceId ≠ -1 := by cases st <;> decide
      have hinsert := (insertNode_represents hx st.deviceId
        (createComnode (st.init o w.files).1 (-1))).2
      simp only [List.filter_singleton,hclient,hok,Bool.and_self,cond_true]
      cases hf : st.reinitFn with
      | none =>
        rw [hf] at hadded
        obtain rfl := Option.some.inj hadded
        exact ⟨_,_,hinsert,(OrderedMap.append_of_not_mem hnew _).2,rfl,by simp,hfds _ _⟩
      | some f =>
        obtain ⟨m₁,hm₁,hr⟩ := callbackRgist_represents hinsert st.deviceId 0 (some f) fun _ => hid
        rw [hf] at hadded
        obtain ⟨r,hr',rfl⟩ := Option.map_eq_some_iff.mp hadded
        obtain rfl := Option.some.inj (hm₁.symm.trans hr')
        refine ⟨_,[(st.deviceId,.withCallback 0 (some f)
          ⟨createComnode (st.init o w.files).1 (-1),false⟩)],hr,?_,rfl,?_,hfds _ _⟩
        · have hentries := OrderedMap.modify_append hnew
            (⟨createComnode (st.init o w.files).1 (-1),false⟩ : DeviceEntry ReinitFn)
            (.withCallback 0 (some f))
          have happend := (OrderedMap.append_of_not_mem hnew (DeviceEntry.withCallback 0 (some f)
            ⟨createComnode (st.init o w.files).1 (-1),false⟩)).2
          exact (congrArg OrderedMap.entries hentries).trans happend
        · simp [DeviceEntry.withCallback]

theorem initAll_adds (o : Strategy → Outcome) (ss : List Strategy) (hx : Represents false m x)
    (hids : (ss.map Strategy.deviceId).Nodup) (hnew : ∀ s ∈ ss, s.deviceId ∉ x.keys)
    (h : initAll o ss m w = some (m',w')) :
    ∃ y new, Adds (ss.filter fun s => s.isClient && s.ok (o s)) x w m' w' y new := by
  induction ss generalizing m x w with
  | nil =>
    obtain ⟨rfl,rfl⟩ := Prod.mk.inj (Option.some.inj h)
    exact ⟨x,[],.nothing hx rfl⟩
  | cons st ss ih =>
    obtain ⟨⟨m₁,w₁⟩,hone,hrest⟩ := Option.bind_eq_some_iff.mp h
    obtain ⟨y₁,new₁,hadds₁⟩ := initOne_adds (o st) st hx (hnew st (by simp)) hone
    rw [List.map_cons,List.nodup_cons] at hids
    have hkeys : y₁.keys = x.keys ++
        ([st].filter fun s => s.isClient && s.ok (o st)).map Strategy.deviceId := by
      rw [OrderedMap.keys,hadds₁.entries,List.map_append,hadds₁.ids]
      rfl
    obtain ⟨y,new,hadds⟩ := ih hadds₁.represents hids.2 (fun s hs hmem => by
      rw [hkeys,List.mem_append] at hmem
      rcases hmem with hmem | hmem
      · exact hnew s (by simp [hs]) hmem
      · obtain ⟨st',hst',hid⟩ := List.mem_map.mp hmem
        obtain rfl : st' = st := List.mem_singleton.mp (List.mem_of_mem_filter hst')
        exact hids.1 (hid ▸ List.mem_map_of_mem hs)) hrest
    refine ⟨y,new₁ ++ new,hadds.represents,?_,?_,?_,?_⟩
    · rw [hadds.entries,hadds₁.entries,List.append_assoc]
    · rw [List.map_append,hadds₁.ids,hadds.ids,← List.map_append]
      congr 1
      by_cases hst : (st.isClient && st.ok (o st)) = true <;> simp [hst]
    · intro e he
      rcases List.mem_append.mp he with he | he
      · exact hadds₁.off e he
      · exact hadds.off e he
    · rw [hadds.fds,hadds₁.fds,List.map_append,List.append_assoc]

end Entries

variable {o : Strategy → Outcome} {on : Strategy → Bool} {files : Handles.Table} {n : Int}
  {m : CommunicaManage ReinitFn} {w : World}

theorem createAll_ascending (on : Strategy → Bool) :
    ((Strategy.createAll on).map Strategy.deviceId).Pairwise (· < ·) := by
  refine List.Pairwise.sublist (List.filter_sublist.map _) ?_
  decide

theorem present_ascending (on : Strategy → Bool) (o : Strategy → Outcome) :
    ((present on o).map Strategy.deviceId).Pairwise (· < ·) :=
  (createAll_ascending on).sublist (List.filter_sublist.map _)

/-- The manager that `dev_init` leaves. -/
structure Lists (ss : List Strategy) (m : CommunicaManage ReinitFn) (w : World)
    (y : DeviceMap ReinitFn) : Prop where
  represents : Represents false m y
  ids : y.keys = ss.map Strategy.deviceId
  off : ∀ e ∈ y.entries, e.2.enabled = false
  fds : w.fds.deviceId = y.entries.map (·.2.com.fd)

theorem devInit_lists {identity : DeviceIdentity}
    (h : devInit o on files identity = some (n,m,w)) :
    (∃ y, Lists (present on o) m w y) ∧
      n = if present on o = [] then -1 else ((present on o).length : Int) := by
  obtain ⟨⟨m',w'⟩,hall,hpair⟩ := Option.map_eq_some_iff.mp h
  obtain ⟨hn,hrest⟩ := Prod.mk.inj hpair
  obtain ⟨rfl,rfl⟩ := Prod.mk.inj hrest
  have hstore : (storeBtMac (o .bluetooth) w').fds = w'.fds := by
    unfold storeBtMac
    split_ifs <;> rfl
  obtain ⟨y,new,hadds⟩ := initAll_adds o _ represents_new
    ((createAll_ascending on).imp (fun hlt => hlt.ne)) (fun s _ => by simp [OrderedMap.keys]) hall
  have hentries : y.entries = new := hadds.entries
  have hfds : w'.fds.deviceId = new.map (·.2.com.fd) := hadds.fds
  have hids : new.map Prod.fst = (present on o).map Strategy.deviceId := hadds.ids
  refine ⟨⟨y,hadds.represents,?_,hentries ▸ hadds.off,?_⟩,?_⟩
  · rw [OrderedMap.keys,hentries,hids]
  · rw [hstore,hentries,hfds]
  · have hlength : w'.fds.deviceId.length = (present on o).length := by
      rw [hfds,List.length_map]
      simpa using congrArg List.length hids
    rw [← hn,hlength]
    simp only [← List.length_eq_zero_iff,hlength]

theorem Lists.rows {ss : List Strategy} {y : DeviceMap ReinitFn}
    (hss : (ss.map Strategy.deviceId).Pairwise (· < ·)) (h : Lists ss m w y) :
    m.getALLIfd = y.entries.map fun e => (e.1,e.2.com.fd) := by
  rw [getALLIfd_represents h.represents]
  exact OrderedMap.ascending_of_pairwise (h.ids ▸ hss.imp le_of_lt) _

theorem Lists.nodes_off {ss : List Strategy} {y : DeviceMap ReinitFn} (h : Lists ss m w y) :
    ∀ k ∈ m.nodes, k.enabled = false := by
  obtain ⟨hy,-,hoff,-⟩ := h
  intro k hk
  cases hy with
  | sentinel b hb =>
    obtain rfl := List.mem_singleton.mp hk
    simpa using hb
  | live hnodes =>
    rw [hnodes] at hk
    obtain ⟨e,he,rfl⟩ := List.mem_map.mp hk
    exact hoff e he

/-- The file, or no file for an empty document. -/
def Reads (doc : List Config.Block) : Option Str → Prop
  | none => doc = []
  | some file => Config.WrittenAs doc file

theorem enabledBy_eq {doc : List Config.Block} {path : Str} {file : Option Str}
    (h : Reads doc file) : enabledBy (Config.unloaded.load path file).2 = switchedOn doc := by
  funext s
  unfold enabledBy switchedOn
  cases file with
  | some file => rw [Config.getInt_load h]
  | none =>
    obtain rfl := h
    rfl

theorem boot_lists {doc : List Config.Block} {path cpuMem : Str} {file macFile : Option Str}
    (h : Reads doc file) (hboot : boot path file o files macFile cpuMem = some (n,m,w)) :
    (∃ y, Lists (present (switchedOn doc) o) m w y) ∧ (∀ fd ∈ m.getAllFd, w.files.object fd ≠ none) ∧
      m.getAllFd.Nodup ∧
      n = if present (switchedOn doc) o = [] then -1
        else ((present (switchedOn doc) o).length : Int) := by
  obtain ⟨⟨n',m',w'⟩,hinit,hpair⟩ := Option.map_eq_some_iff.mp hboot
  simp only [Prod.mk.injEq] at hpair
  obtain ⟨rfl,rfl,rfl⟩ := hpair
  rw [enabledBy_eq h] at hinit
  obtain ⟨⟨y,hy⟩,hn⟩ := devInit_lists hinit
  obtain ⟨_,_,_,hinit',x,hx,hgood⟩ := devInit_good o (switchedOn doc) files {}
  simp only [hinit,Option.some.injEq,Prod.mk.injEq] at hinit'
  obtain ⟨rfl,rfl,rfl⟩ := hinit'
  have hfds : m'.getAllFd = storedFds x := getAllFd_represents hx
  exact ⟨⟨y,hy.represents,hy.ids,hy.off,hy.fds⟩,hfds ▸ hgood.isOpen,hfds ▸ hgood.distinct,hn⟩

/-- The devices that `main` hands to the registration are the client devices that the file leaves
switched on and that came up, in the order of their ids, each with an open descriptor of its own and
none of them enabled. -/
theorem devices_configured {doc : List Config.Block} {file : Option Str} (h : Reads doc file)
    (path : Str) (o : Strategy → Outcome) (files : Handles.Table) (macFile : Option Str)
    (cpuMem : Str) : ∃ n m w, boot path file o files macFile cpuMem = some (n,m,w) ∧
    m.getALLIfd.map Prod.fst = (present (switchedOn doc) o).map Strategy.deviceId ∧
      m.getALLIfd.map Prod.snd = w.fds.deviceId ∧ w.fds.deviceId.Nodup ∧
      (∀ fd ∈ w.fds.deviceId, w.files.object fd ≠ none) ∧ RegistManage.enabledIds m = [] ∧
      n = if m.getALLIfd = [] then -1 else (m.getALLIfd.length : Int) := by
  obtain ⟨_,_,_,hinit,-⟩ := devInit_good o (enabledBy (Config.unloaded.load path file).2) files {}
  obtain ⟨⟨n,m,w⟩,hboot⟩ : ∃ r, boot path file o files macFile cpuMem = some r :=
    ⟨_,by rw [boot,hinit]; rfl⟩
  obtain ⟨⟨y,hy⟩,hopen,hdistinct,hn⟩ := boot_lists h hboot
  have hrows := hy.rows (present_ascending _ o)
  have hids : m.getALLIfd.map Prod.fst = (present (switchedOn doc) o).map Strategy.deviceId := by
    rw [hrows,List.map_map,← hy.ids]
    rfl
  have hlength : m.getALLIfd.length = (present (switchedOn doc) o).length := by
    simpa using congrArg List.length hids
  have hfds : m.getAllFd = w.fds.deviceId := by rw [getAllFd_represents hy.represents,hy.fds]
  rw [hfds] at hopen hdistinct
  refine ⟨n,m,w,hboot,hids,?_,hdistinct,hopen,?_,?_⟩
  · rw [hrows,List.map_map,hy.fds]
    rfl
  · have hnone : m.nodes.filter (·.enabled) = [] :=
      List.filter_eq_nil_iff.mpr fun k hk => by simp [hy.nodes_off k hk]
    rw [RegistManage.enabledIds,hnone]
    rfl
  · rw [hn]
    simp only [← List.length_eq_zero_iff,hlength]

/-- Only LAN is left on; 4G is off by itself. -/
def lanOnly : List Config.Block :=
  [⟨⟨str "communication",by decide,by decide,by decide⟩,
    [some (⟨str "enable_lora",by decide,by decide,by decide,by decide⟩,⟨str "0",by decide⟩),
      some (⟨str "enable_wifi",by decide,by decide,by decide,by decide⟩,⟨str "0",by decide⟩),
      some (⟨str "enable_bluetooth",by decide,by decide,by decide,by decide⟩,⟨str "0",by decide⟩)]⟩]

def lanOnlyFile : Str :=
  str "[communication]\nenable_lora=0\nenable_wifi=0\nenable_bluetooth = 0\n"

theorem lanOnlyFile_read : Reads lanOnly (some lanOnlyFile) := by
  refine ⟨0,[str "[communication]",str "enable_lora=0",str "enable_wifi=0",
    str "enable_bluetooth = 0"],?_,by decide,.inl (by decide)⟩
  refine .cons ?_ (.cons ?_ (.cons ?_ (.cons ?_ .nil)))
  · exact .header [] [] [] [] _ (by decide) (by decide) (by decide) (by decide)
  · exact .assign [] [] [] [] _ _ (by decide) (by decide) (by decide) (by decide)
  · exact .assign [] [] [] [] _ _ (by decide) (by decide) (by decide) (by decide)
  · exact .assign [] (str " ") (str " ") [] _ _ (by decide) (by decide) (by decide) (by decide)

/-- The LAN server comes up as well but is no client. -/
theorem lanOnly_devices : ∃ n m w,
    boot (str "device.conf") (some lanOnlyFile) (fun _ => answers true) stdFiles none [] =
      some (n,m,w) ∧ m.getALLIfd.map Prod.fst = [4] := by
  obtain ⟨n,m,w,hboot,hids,-⟩ := devices_configured lanOnlyFile_read (str "device.conf")
    (fun _ => answers true) stdFiles none []
  exact ⟨n,m,w,hboot,hids.trans (by decide)⟩

section Loop

variable {th : Setup} {g t : Gateway}

theorem getSuccessFd_withBreaker {x : DeviceMap ReinitFn} {m' : CommunicaManage ReinitFn} {id : Int}
    {f : CircuitBreaker → CircuitBreaker} (hx : Represents true m x)
    (h : Represents true m' (x.modify id (.withBreaker f)).2) :
    m'.getSuccessFd = m.getSuccessFd := by
  have hsame (e : Int × DeviceEntry ReinitFn) :
      (if e.1 = id then (e.1,e.2.withBreaker f) else e).2.enabled = e.2.enabled ∧
      (if e.1 = id then (e.1,e.2.withBreaker f) else e).2.com.fd = e.2.com.fd := by
    split_ifs <;> exact ⟨rfl,rfl⟩
  rw [getSuccessFd_represents h,getSuccessFd_represents hx]
  simp only [OrderedMap.first,OrderedMap.modify,List.find?_map,Option.map_map]
  congr 1
  simp only [Function.comp_def,hsame]

/-- After an attempt that fails the same descriptor is the first enabled one. -/
theorem endOfFile_failed {a : Attempt} {s : Sys} {r : Bool × Sys} {x : DeviceMap ReinitFn}
    (hx : Represents true s.manager x) (h : endOfFile a s = some r) (hr : r.1 = false) :
    r.2.manager.getSuccessFd = s.manager.getSuccessFd := by
  unfold endOfFile at h
  dsimp only at h
  split_ifs at h with hid
  · have hout := Reinit.reinit_outcome (call a.outcome) a.t₁ a.t₂ s.manager.getSuccessId 0 s.world hx
      (by omega)
    generalize s.manager.reinit (call a.outcome) a.t₁ a.t₂ s.manager.getSuccessId 0 s.world = out
      at h hout
    cases hout with
    | unknown hd => exact Option.some.inj h ▸ rfl
    | refused hd ha hm => exact Option.some.inj h ▸ getSuccessFd_withBreaker hx hm
    | noCallback hd ha hc hm => exact Option.some.inj h ▸ getSuccessFd_withBreaker hx hm
    | failed hd ha hc hfd hm => exact Option.some.inj h ▸ getSuccessFd_withBreaker hx hm
    | replaced hd ha hc hfd hm =>
      obtain rfl := Option.some.inj h
      cases hr
  · exact Option.some.inj h ▸ rfl

/-- Everything so far was written to the descriptor, which is the first enabled one. -/
structure Calm (fd : Int) (g : Gateway) : Prop where
  represented : ∃ x, Represents true g.sys.manager x
  enabled : g.sys.manager.getSuccessFd = fd
  holdsFd : HoldsFd g
  targets : ∀ a ∈ g.actions, ∀ fd', a.target = some fd' → fd' = fd

theorem Calm.acts {fd : Int} (h : Calm fd g)
    (hacts : Acts (fun a => ∀ fd', a.target = some fd' → fd' = fd) g t) :
    ∀ a ∈ t.actions, ∀ fd', a.target = some fd' → fd' = fd := by
  obtain ⟨new,hnew,hall⟩ := hacts
  intro a ha
  rw [hnew,List.mem_append] at ha
  exact ha.elim (h.targets a) (hall a)

/-- Nothing that was recorded is taken back. -/
theorem step_grows {e : SendLoop.Event} (hstep : SendLoop.step th g e = some t) :
    Acts (fun _ => True) g t := by
  rcases step_passes hstep with ⟨-,rfl⟩ | ⟨-,hpasses⟩
  · exact .none rfl
  cases hpasses with
  | ordinary ho => exact ho.acts.imp fun _ _ => trivial
  | reinit => exact afterReinit_acts _ _ trivial fun _ => trivial
  | other _ _ _ ha => exact .none ha
  | enabled _ _ ha => exact .none ha

/-- Only a reconnect that succeeds changes the descriptor. -/
theorem step_calm {fd : Int} {e : SendLoop.Event} (he : e.enables = false) (h : Calm fd g)
    (hstep : SendLoop.step th g e = some t) : 0 < reconnects t.actions ∨ Calm fd t := by
  have hrep := (step_reconnects h.represented hstep).1
  have hhold := step_holdsFd he h.holdsFd hstep
  rcases step_passes hstep with ⟨-,rfl⟩ | ⟨-,hpasses⟩
  · exact .inr h
  cases hpasses with
  | ordinary ho =>
    refine .inr ⟨hrep,ho.manager ▸ h.enabled,hhold,h.acts (ho.acts.imp fun a ha fd' hfd => ?_)⟩
    have hfirst (hpc : g.pc = .selecting fd' ∨ g.pc = .serving fd') : fd' = fd :=
      (h.holdsFd fd' hpc).1.symm.trans h.enabled
    cases ha with
    | usleep | sleep | settimeofday => cases hfd
    | heartbeat hpc => exact hfirst (.inl (Option.some.inj hfd ▸ hpc))
    | write hpc => exact hfirst (.inr (Option.some.inj hfd ▸ hpc))
  | @reinit _ a r _ hend =>
    cases hr : r.1 with
    | true =>
      have hcount := reconnects_afterReinit a r g
      rw [hr] at hcount
      exact .inl (hcount ▸ Nat.succ_pos _)
    | false =>
      obtain ⟨x,hx⟩ := h.represented
      refine .inr ⟨hrep,?_,hhold,h.acts (afterReinit_acts a r (by simp [Action.target])
        (by simp [Action.target]))⟩
      rw [(afterReinit_pc a r g).2.1,endOfFile_failed hx hend hr,h.enabled]
  | other _ hm _ ha => exact .inr ⟨hrep,hm ▸ h.enabled,hhold,ha ▸ h.targets⟩
  | enabled => cases he

theorem run_calm {fd : Int} {es : List SendLoop.Event} (hes : ∀ e ∈ es, e.enables = false)
    (h : 0 < reconnects g.actions ∨ Calm fd g) (hrun : SendLoop.Run th g es t) :
    0 < reconnects t.actions ∨ Calm fd t := by
  induction hrun with
  | refl => exact h
  | @cons g e u es t hstep _ ih =>
    refine ih (fun e he => hes e (by simp [he])) ?_
    rcases h with hpos | hcalm
    · obtain ⟨new,hnew,-⟩ := step_grows hstep
      have happend : reconnects (g.actions ++ new) = reconnects g.actions + reconnects new :=
        List.countP_append
      left
      rw [hnew,happend]
      omega
    · exact step_calm (hes e (by simp)) hcalm hstep

/-- The enabled device of a manager in which there was none before. -/
theorem Lists.registered {ss : List Strategy} {y : DeviceMap ReinitFn}
    {m' : CommunicaManage ReinitFn} {c : RegistManage.Channel} (hy : Lists ss m w y)
    (hrow : c ∈ y.entries.map fun e => (e.1,e.2.com.fd))
    (henable : m.setEnable c.1 = (true,m')) :
    m'.getSuccessFd = c.2 ∧ ∃ x, Represents true m' x := by
  obtain ⟨e,he,rfl⟩ := List.mem_map.mp hrow
  have hid : y.entries = [] → e.1 ≠ -1 := fun hnil => absurd he (hnil ▸ List.not_mem_nil)
  have hrep := (setEnable_represents hy.represents e.1 hid).2
  rw [henable] at hrep
  obtain ⟨before,rest,hentries,-,hmodify⟩ :=
    OrderedMap.split_of_lookup (OrderedMap.lookup_eq_some.mpr he)
  have hbefore : ∀ d ∈ before, ¬ d.2.enabled = true := fun d hd => by
    simp [hy.off d (hentries ▸ List.mem_append_left _ hd)]
  refine ⟨?_,_,represents_marked hrep⟩
  rw [getSuccessFd_represents hrep,OrderedMap.first,hmodify,List.find?_append,
    List.find?_eq_none.mpr hbefore]
  rfl

/-- From the configuration file to the packets: as long as no reconnect has succeeded, all that
`send_mess` writes goes to the descriptor on which the registration went through, which is that of a
device that the file leaves switched on. -/
theorem writes_to_registered {doc : List Config.Block} {path cpuMem : Str}
    {file macFile : Option Str} {mktime : Tm → Option Int} {input : ℕ → RegistManage.Input} {k : ℕ}
    {s : RegistManage.State ReinitFn} {es : List SendLoop.Event} (h : Reads doc file)
    (hboot : boot path file o files macFile cpuMem = some (n,m,w))
    (hreg : StepSystem.drive (RegistManage.step mktime m.getALLIfd) input
      (RegistManage.start m.getALLIfd w.identity m) k = some s)
    (hret : s.returned = some 0) (hg : Starts th g)
    (hsys : g.sys = ⟨s.commManager,{ w with identity := s.identity }⟩)
    (hes : ∀ e ∈ es, e.enables = false) (hrun : SendLoop.Run th g es t)
    (hnone : reconnects t.actions = 0) :
    (∃ st ∈ present (switchedOn doc) o, s.deviceId = st.deviceId) ∧ w.files.object s.fd ≠ none ∧
      RegistManage.Handshake w.identity.mac s ∧
      ∀ a ∈ t.actions, ∀ fd, a.target = some fd → fd = s.fd := by
  obtain ⟨⟨y,hy⟩,hopen,-,-⟩ := boot_lists h hboot
  obtain ⟨s',hs',hinv,hsafe⟩ := StepSystem.drive_invariant
    (fun i _ hI => RegistManage.step_safe mktime i hI) input
    ⟨RegistManage.start_inv m.getALLIfd w.identity m,RegistManage.start_safe m.getALLIfd w.identity m⟩ k
  obtain rfl := Option.some.inj (hreg.symm.trans hs')
  have hstate := RegistManage.State.success_of_returned hret
  have hphase := hinv.phase
  have hprogress := hsafe.progress
  simp only [RegistManage.Phase,hstate] at hphase
  simp only [RegistManage.Progress,hstate] at hprogress
  have hrow := List.mem_of_getElem? hphase.row
  rw [hy.rows (present_ascending _ o)] at hrow
  obtain ⟨hfd,x,hrep⟩ := hy.registered hrow (hsafe.enabled hstate)
  have hmanager : g.sys.manager = s.commManager := congrArg Sys.manager hsys
  have hcalm : Calm s.fd g :=
    ⟨⟨x,hmanager ▸ hrep⟩,hmanager ▸ hfd,holdsFd_top hg.pc,by simp [hg.actions]⟩
  obtain ⟨e,he,hpair⟩ := List.mem_map.mp hrow
  obtain ⟨hid,hefd⟩ := Prod.mk.inj hpair
  refine ⟨?_,?_,hprogress,?_⟩
  · have hkey : s.deviceId ∈ y.keys := hid ▸ List.mem_map_of_mem he
    rw [hy.ids] at hkey
    obtain ⟨st,hst,hstid⟩ := List.mem_map.mp hkey
    exact ⟨st,hst,hstid.symm⟩
  · refine hopen _ ?_
    rw [getAllFd_represents hy.represents]
    exact List.mem_map.mpr ⟨e,he,hefd⟩
  · exact ((run_calm hes (.inr hcalm) hrun).resolve_left (by omega)).targets

/-- The boot with the file of `lanOnly`, the registration on its device, and `send_mess` after it. -/
def lanBoot : Option (Int × CommunicaManage ReinitFn × World) :=
  boot (str "device.conf") (some lanOnlyFile) (fun _ => answers true) stdFiles
    (some (str "SAP2400000000000\n")) []

def lanBooted : CommunicaManage ReinitFn × World :=
  (lanBoot.map Prod.snd).getD (.new,⟨stdFiles,{},{}⟩)

def lanRegistration : Option (RegistManage.State ReinitFn) :=
  StepSystem.drive (RegistManage.step RegistManage.utcNoon [(4,3)]) RegistManage.gateway
    (RegistManage.start [(4,3)] lanBooted.2.identity lanBooted.1) 6

def lanRegistered : RegistManage.State ReinitFn :=
  lanRegistration.getD (RegistManage.start [] {} .new)

def lanRunning : Gateway :=
  { lanGateway with
    sys := ⟨lanRegistered.commManager,{ lanBooted.2 with identity := lanRegistered.identity }⟩ }

/-- The packet that is requested goes to the LAN device. -/
theorem lanOnly_writes : ∃ t, SendLoop.Run lanSetup lanRunning oneRequest t ∧
    sent t.actions = [str "06"] ∧ ∀ a ∈ t.actions, ∀ fd, a.target = some fd → fd = 3 := by
  have hrows : lanBoot.map (fun r =>
      r.2.1.nodes.filterMap fun n => n.com.map fun c => (n.id,c.fd)) = some [(4,3)] := by
    decide +kernel
  have hends : lanRegistration.map (fun s => (s.fd,s.returned)) = some (3,some 0) := by
    decide +kernel
  have hsent : (oneRequest.foldlM (SendLoop.step lanSetup) lanRunning).map
      (fun t => (sent t.actions,reconnects t.actions)) = some ([str "06"],0) := by
    decide +kernel
  obtain ⟨⟨n,m,w⟩,hboot,hnodes⟩ := Option.map_eq_some_iff.mp hrows
  obtain ⟨s,hreg,hpair⟩ := Option.map_eq_some_iff.mp hends
  obtain ⟨t,hfold,hdone⟩ := Option.map_eq_some_iff.mp hsent
  obtain ⟨hfd,hret⟩ := Prod.mk.inj hpair
  obtain ⟨hwritten,hnone⟩ := Prod.mk.inj hdone
  have hrun := StepSystem.Run.foldlM hfold
  have hbooted : lanBooted = (m,w) := by rw [lanBooted,hboot]; rfl
  have hregistered : lanRegistered = s := by rw [lanRegistered,hreg]; rfl
  have hlist : m.getALLIfd = [(4,3)] := by rw [getALLIfd,hnodes,List.mergeSort_singleton]
  rw [lanRegistration,hbooted,← hlist] at hreg
  refine ⟨t,hrun,hwritten,hfd ▸ (writes_to_registered lanOnlyFile_read hboot hreg hret ?_ ?_ ?_ hrun
    hnone).2.2.2⟩
  · exact ⟨rfl,rfl,⟨true,[],rfl⟩,rfl,rfl,rfl⟩
  · rw [lanRunning,hregistered,hbooted]
  · decide

end Loop

end Startup
end Sap9001
