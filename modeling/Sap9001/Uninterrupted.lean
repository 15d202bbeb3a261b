import Sap9001.Shutdown

/-! Loading the store file and persisting `transmit` step by step, as a shutdown may interrupt them:
without an interruption they are `readFromFile` and `drainAndPersistUnsafe`. -/
namespace Sap9001
namespace Shutdown

open MessageTransmitter

variable {mac : Str} {p q : Process} {i : ℕ}

def Op.OfLoader : Op → Prop
  | .load _ => True
  | _ => False

def Op.OfHandler (i : ℕ) : Op → Prop
  | .handler j _ _ => j = i
  | _ => False

/-- There is a run in which nothing else comes in between. -/
def Alone (mac : Str) (who : Op → Prop) (p q : Process) : Prop :=
  ∃ ops, (∀ op ∈ ops, who op) ∧ Run mac p ops q

theorem alone_single {who : Op → Prop} {op : Op} (h : step mac p op = some q) (hop : who op) :
    Alone mac who p q :=
  ⟨[op],by simpa using hop,.single h⟩

theorem Alone.trans {who : Op → Prop} {r : Process} (h : Alone mac who p q)
    (h' : Alone mac who q r) : Alone mac who p r := by
  obtain ⟨ops,hops,hrun⟩ := h
  obtain ⟨ops',hops',hrun'⟩ := h'
  refine ⟨ops ++ ops',fun op hop => ?_,hrun.append hrun'⟩
  rcases List.mem_append.mp hop with hop | hop
  · exact hops op hop
  · exact hops' op hop

variable (mac) in
/-- The loop over the lines, and the truncation after it. -/
theorem lines_alone (truncated : Bool) {lines packets : List Str} {file : Str}
    (hexit : p.exited = false) (hloader : p.loader = .reading lines)
    (hthreads : p.threads = start packets) (hfile : p.storeFile = some file) :
    ∃ q, Alone mac Op.OfLoader p q ∧ q.loader = .done ∧
      q.threads = start (packets ++ lines.filterMap loadLine) ∧
      q.storeFile = some (if truncated then [] else file) := by
  induction lines generalizing p packets with
  | nil =>
    have hstep : step mac p (.load truncated) =
        some (if truncated then { p with storeFile := some [], kept := [], loader := .done }
          else { p with loader := .done }) := by
      simp [step,hexit,hloader]
    refine ⟨_,alone_single hstep trivial,?_,?_,?_⟩
    · split_ifs <;> rfl
    · split_ifs <;> simpa using hthreads
    · split_ifs
      · rfl
      · exact hfile
  | cons line lines ih =>
    have hstep : step mac p (.load truncated) =
        some { p.read (loadLine line).toList with loader := .reading lines } := by
      simp [step,hexit,hloader]
    have hread : (p.read (loadLine line).toList).threads =
        start (packets ++ (loadLine line).toList) := by
      simp [Process.read,hthreads,start]
    obtain ⟨q,hq,hdone,hloaded,hkept⟩ := ih (p := { p.read (loadLine line).toList with
      loader := .reading lines }) hexit rfl hread hfile
    refine ⟨q,(alone_single hstep trivial).trans hq,hdone,?_,hkept⟩
    rw [hloaded]
    cases hline : loadLine line <;> simp [hline]

/-- Loading that nothing comes in between is `readFromFile`. -/
theorem load_alone (truncated : Bool) (storeFile : Option Str) :
    ∃ q, Alone mac Op.OfLoader (boot storeFile) q ∧ q.loader = .done ∧
      q.threads = start (readFromFile truncated storeFile).1 ∧
      q.storeFile = (readFromFile truncated storeFile).2 := by
  cases storeFile with
  | none => exact ⟨boot none,⟨[],by simp,.refl _⟩,rfl,rfl,rfl⟩
  | some file => exact lines_alone (p := boot (some file)) mac truncated rfl rfl rfl rfl

variable (mac) in
/-- One step of a handler. -/
theorem alone_step {h h' : Handler} (opened : Bool) (w : ItemWrite) (hexit : p.exited = false)
    (hi : p.handlers[i]? = some h) (hstep : handlerStep opened w h p = (h',q)) :
    ∃ r, Alone mac (Op.OfHandler i) p r ∧ r.handlers[i]? = some h' ∧ r.exited = q.exited ∧
      r.threads = q.threads ∧ r.storeFile = q.storeFile := by
  obtain ⟨hlt,-⟩ := List.getElem?_eq_some_iff.mp hi
  have hgoes : step mac p (.handler i opened w) =
      some { q with handlers := p.handlers.set i h' } := by
    simp [step,hexit,hi,Process.advance,hstep]
  exact ⟨_,alone_single hgoes rfl,List.getElem?_set_self hlt,rfl,rfl,rfl⟩

variable (mac) in
/-- The loop of `drainUnsafe`. -/
theorem drain_alone (hexit : p.exited = false) {items : List Str}
    (hi : p.handlers[i]? = some (.draining items)) :
    ∃ q, Alone mac (Op.OfHandler i) p q ∧ q.exited = false ∧
      q.handlers[i]? = some (.opening (items ++ p.threads.transmit.queue)) ∧
      q.threads.transmit = p.threads.transmit.drainUnsafe.2 ∧ q.storeFile = p.storeFile := by
  generalize hqueue : p.threads.transmit.queue = queue
  induction queue generalizing p items with
  | nil =>
    obtain ⟨q,hq,hnext,hrunning,hthreads,hfile⟩ := alone_step mac true (.complete []) hexit hi
      (show _ = (.opening items,p) by simp only [handlerStep,hqueue])
    refine ⟨q,hq,hrunning.trans hexit,by rw [List.append_nil,hnext],?_,hfile⟩
    rw [MessageQueue.drainUnsafe,hthreads,← hqueue]
  | cons item queue ih =>
    obtain ⟨q,hq,hnext,hrunning,hthreads,hfile⟩ := alone_step mac true (.complete []) hexit hi
      (show _ = (.draining (items ++ [item]),{ p with
        threads := { p.threads with transmit := { p.threads.transmit with queue := queue } } })
        by simp only [handlerStep,hqueue])
    obtain ⟨r,hr,hstill,hhandler,htransmit,hfile'⟩ :=
      ih (hrunning.trans hexit) hnext (by rw [hthreads])
    refine ⟨r,hq.trans hr,hstill,?_,?_,hfile'.trans hfile⟩
    · rw [hhandler,List.append_assoc]
      rfl
    · rw [htransmit,hthreads]
      rfl

variable (mac) in
/-- The two writes for a packet, as `persistItem` has them. -/
theorem item_alone (hexit : p.exited = false) {item : Str} {items : List Str} (w : ItemWrite)
    (hi : p.handlers[i]? = some (.writing (item::items))) {file : Str}
    (hfile : p.storeFile = some file) :
    ∃ q, Alone mac (Op.OfHandler i) p q ∧ q.exited = false ∧ q.handlers[i]? = some (.writing items) ∧
      q.threads = p.threads ∧ q.storeFile = some (persistItem w item file).2 := by
  by_cases hnum : w.num ≤ 0
  · obtain ⟨q,hq,hnext,hrunning,hthreads,hsame⟩ := alone_step mac true w hexit hi
      (show _ = (.writing items,{ p with unsaved := p.unsaved ++ [item] })
        by simp only [handlerStep,if_pos hnum])
    refine ⟨q,hq,hrunning.trans hexit,hnext,hthreads,?_⟩
    rw [hsame,hfile,persistItem,if_pos hnum]
  · obtain ⟨q,hq,hnext,hrunning,hthreads,hwritten⟩ := alone_step mac true w hexit hi
      (show _ = (.newline items,p.writeItem w.num item) by simp only [handlerStep,if_neg hnum])
    obtain ⟨r,hr,hlast,hstill,hthreads',hfile'⟩ :=
      alone_step mac true w (hrunning.trans hexit) hnext rfl
    refine ⟨r,hq.trans hr,?_,hlast,?_,?_⟩
    · rw [hstill]
      split_ifs <;> exact hrunning.trans hexit
    · rw [hthreads']
      split_ifs <;> exact hthreads
    · have hpacket : q.storeFile = some (file ++ item.take w.num.toNat) := by
        rw [hwritten]
        simp [Process.writeItem,Process.append,hfile]
      rw [hfile',persistItem,if_neg hnum]
      split_ifs <;> simp [Process.append,hpacket]

variable (mac) in
/-- The loop over the packets, as `persistItems` has it. -/
theorem items_alone (hexit : p.exited = false) {items : List Str} (writes : ℕ → ItemWrite)
    (hi : p.handlers[i]? = some (.writing items)) {file : Str} (hfile : p.storeFile = some file) :
    ∃ q, Alone mac (Op.OfHandler i) p q ∧ q.handlers[i]? = some .leaving ∧ q.threads = p.threads ∧
      q.storeFile = some (persistItems writes items file).2 := by
  induction items generalizing p writes file with
  | nil =>
    obtain ⟨q,hq,hnext,-,hthreads,hsame⟩ := alone_step mac true (writes 0) hexit hi rfl
    exact ⟨q,hq,hnext,hthreads,hsame.trans hfile⟩
  | cons item items ih =>
    obtain ⟨q,hq,hrunning,hnext,hthreads,hwritten⟩ := item_alone mac hexit (writes 0) hi hfile
    obtain ⟨r,hr,hhandler,hthreads',hstored⟩ := ih hrunning (fun k => writes (k+1)) hnext hwritten
    exact ⟨r,hq.trans hr,hhandler,hthreads'.trans hthreads,hstored⟩

/-- A handler that nothing comes in between does what `drainAndPersistUnsafe` is in one piece. -/
theorem handler_alone (hexit : p.exited = false) (hi : p.handlers[i]? = some (.draining []))
    (opened : Bool) (writes : ℕ → ItemWrite) : ∃ q, Alone mac (Op.OfHandler i) p q ∧
      q.handlers[i]? = some .leaving ∧
      q.threads.transmit =
        (drainAndPersistUnsafe opened writes p.threads.transmit p.storeFile).buffer ∧
      q.storeFile =
        (drainAndPersistUnsafe opened writes p.threads.transmit p.storeFile).storeFile := by
  obtain ⟨q,hq,hrunning,hnext,htransmit,hfile⟩ := drain_alone mac hexit hi
  rw [List.nil_append] at hnext
  have hbuffer : (drainAndPersistUnsafe opened writes p.threads.transmit p.storeFile).buffer =
      p.threads.transmit.drainUnsafe.2 := by
    simp only [drainAndPersistUnsafe,persistWith]
    split_ifs <;> rfl
  have hitems : p.threads.transmit.drainUnsafe.1 = p.threads.transmit.queue := rfl
  rw [hbuffer]
  simp only [drainAndPersistUnsafe,persistWith,hitems]
  generalize p.threads.transmit.queue = items at hnext ⊢
  cases items with
  | nil =>
    obtain ⟨r,hr,hthen,-,hthreads,hsame⟩ := alone_step mac opened (writes 0) hrunning hnext rfl
    exact ⟨r,hq.trans hr,hthen,(congrArg State.transmit hthreads).trans htransmit,hsame.trans hfile⟩
  | cons item items =>
    cases opened with
    | false =>
      obtain ⟨r,hr,hthen,-,hthreads,hsame⟩ := alone_step mac false (writes 0) hrunning hnext
        (show _ = (.leaving,{ q with unsaved := q.unsaved ++ (item::items) }) from rfl)
      exact ⟨r,hq.trans hr,hthen,(congrArg State.transmit hthreads).trans htransmit,hsame.trans hfile⟩
    | true =>
      obtain ⟨r,hr,hthen,hstill,hthreads,hsame⟩ := alone_step mac true (writes 0) hrunning hnext
        (show _ = (.writing (item::items),q.append []) from rfl)
      have hopened : r.storeFile = some (p.storeFile.getD []) := by
        rw [hsame]
        simp [Process.append,hfile]
      obtain ⟨t,ht,hhandler,hthreads',hstored⟩ :=
        items_alone mac (hstill.trans hrunning) writes hthen hopened
      refine ⟨t,(hq.trans hr).trans ht,hhandler,?_,hstored⟩
      rw [hthreads',hthreads]
      exact htransmit

end Shutdown
end Sap9001
