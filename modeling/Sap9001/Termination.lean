import Sap9001.DeviceContext
import Sap9001.Library.ByteFile
import Sap9001.Library.StepSystem

/-! The end of the process (`modbus_9001.cpp`): the watch file holds the PID while it runs and must
read 0 afterwards. Signals may come at any time after `sigaction`, also while another handler runs,
and their handlers may run on different threads. What handlers do to the store file is in
`Shutdown`. -/
namespace Sap9001
namespace Termination

/-- What is next in `signal_cleanup_and_exit`; `persist` is the call of `drainAndPersistUnsafe`,
which leaves the watch file alone. -/
inductive Handler
  | persist
  | lseek
  | write
  | ftruncate
  | close
  | exit

/-- What is next in `main`. Up to `stored` it is the only thread, so that a handler interrupts it
for good; from `failed` on it writes 0 by itself. -/
inductive Main
  | starting
  | opened (ok : Bool)
  | stored
  | running
  | failed
  | reopened
  | returning

def Main.alone : Main → Bool
  | .starting | .opened _ | .stored => true
  | _ => false

inductive End
  | handler
  | main
  deriving DecidableEq

/-- `isOpen` and `offset` are those of the descriptor, `stored` says whether `g_fdWatch` is set.
`everOpened` and `emptied` record that `main` opened the file and that it opened it again. -/
structure Process where
  file : Str
  offset : ℕ
  isOpen : Bool
  stored : Bool
  everOpened : Bool
  emptied : Bool
  main : Main
  handlers : List Handler
  ended : Option End

/-- The file is as the last process left it. -/
def boot (file : Str) : Process where
  file := file
  offset := 0
  isOpen := false
  stored := false
  everOpened := false
  emptied := false
  main := .starting
  handlers := []
  ended := none

inductive Op
  | main (ok : Bool)
  | signal
  | handler (i : ℕ)

/-- The next step of `main`; `ok` says whether the file operation in it succeeds. -/
def mainStep (pid : Str) (ok : Bool) (p : Process) : Process :=
  match p.main with
  | .starting =>
    if ok then { p with file := [], isOpen := true, everOpened := true, main := .opened true }
    else { p with main := .opened false }
  | .opened ok => { p with stored := ok, main := .stored }
  | .stored =>
    if p.stored && ok then
      { p with
        file := ByteFile.writeAt 0 p.offset pid p.file
        offset := p.offset + pid.length
        main := .running }
    else { p with main := .running }
  -- No device, or no registration.
  | .running => { p with main := .failed }
  | .failed =>
    if ok then { p with file := [], emptied := true, main := .reopened }
    else { p with main := .returning }
  | .reopened =>
    { p with
      file := if ok then ByteFile.writeAt 0 0 (str "0") p.file else p.file
      main := .returning }
  | .returning => { p with ended := some .main }

/-- The next step of a handler. Its own file operations succeed if the descriptor is open; the number
of a closed one is not given out again. -/
def handlerStep (h : Handler) (p : Process) : Handler × Process :=
  match h with
  | .persist => (if p.stored then .lseek else .exit,p)
  | .lseek => (.write,if p.isOpen then { p with offset := 0 } else p)
  | .write =>
    (.ftruncate,if p.isOpen then
      { p with file := ByteFile.writeAt 0 p.offset (str "0") p.file, offset := p.offset + 1 }
    else p)
  | .ftruncate =>
    (.close,if p.isOpen then { p with file := ByteFile.truncate 0 1 p.file } else p)
  | .close => (.exit,{ p with isOpen := false })
  | .exit => (.exit,{ p with ended := some .handler })

def step (pid : Str) (p : Process) (op : Op) : Option Process :=
  if p.ended.isSome then none
  else
    match op with
    | .main ok => if p.main.alone && !p.handlers.isEmpty then none else some (mainStep pid ok p)
    | .signal => some { p with handlers := p.handlers ++ [.persist] }
    | .handler i =>
      (p.handlers[i]?).map fun h =>
        { (handlerStep h p).2 with handlers := p.handlers.set i (handlerStep h p).1 }

abbrev Run (pid : Str) : Process → List Op → Process → Prop :=
  StepSystem.Run fun p op q => step pid p op = some q

/-- A zero, or the filler of a hole. -/
def Blank (c : UInt8) : Prop := c = byte '0' ∨ c = 0

/-- Nothing of the PID is left. -/
def Zeros (file : Str) : Prop := ∀ c ∈ file, Blank c

def HeadZero (file : Str) : Prop := ∀ c ∈ file.head?, Blank c

/-- What a handler that is past `lseek` relies on, while the descriptor is open. -/
def Ready (p : Process) : Handler → Prop
  | .write => p.isOpen = true → p.offset = 0 ∨ HeadZero p.file
  | .ftruncate => p.isOpen = true → HeadZero p.file
  | .close => p.isOpen = true → Zeros p.file
  | .exit => p.everOpened = true → Zeros p.file
  | _ => True

/-- The invariant of the watch file. -/
structure Inv (p : Process) : Prop where
  ready : ∀ h ∈ p.handlers, Ready p h
  closed : p.everOpened = true → p.isOpen = false → Zeros p.file
  unstored : p.everOpened = true → p.stored = false → Zeros p.file
  emptied : p.emptied = true → Zeros p.file
  fresh : p.handlers = [] → p.isOpen = p.everOpened
  starting : p.main = .starting → p.everOpened = false
  opened : ∀ ok, p.main = .opened ok → p.everOpened = ok
  stored : p.main = .stored → p.stored = p.everOpened
  reopened : p.main = .reopened → p.emptied = true
  alone : p.main.alone = true → p.emptied = false
  ended : p.ended = some .handler → p.everOpened = true → Zeros p.file

variable {pid : Str} {p q : Process}

theorem blank_zero : Blank 0 := .inr rfl

theorem blank_digit : ∀ c ∈ str "0", Blank c := by
  intro c hc
  exact .inl (List.mem_singleton.mp hc)

theorem Zeros.head {file : Str} (h : Zeros file) : HeadZero file :=
  fun c hc => h c (List.mem_of_mem_head? hc)

theorem zeros_nil : Zeros [] := by simp [Zeros]

theorem Zeros.write {file : Str} (h : Zeros file) (offset : ℕ) :
    Zeros (ByteFile.writeAt 0 offset (str "0") file) :=
  ByteFile.forall_writeAt blank_zero blank_digit h

/-- Such a file reads 0. -/
theorem Zeros.atoi {file : Str} (h : Zeros file) : Sap9001.atoi file = 0 := by
  have hspace : file.dropWhile isSpace = file := by
    refine List.dropWhile_eq_self_iff.mpr fun hpos => ?_
    rcases h _ (List.getElem_mem hpos) with hc | hc <;> rw [hc] <;> decide
  have hfold (s : Str) (hs : Zeros s) :
      (s.takeWhile isDigit).foldl (fun (n : Int) c => 10*n + (c.toNat - 48 : ℕ)) 0 = 0 := by
    induction s with
    | nil => rfl
    | cons c s ih =>
      have hrest : Zeros s := fun d hd => hs d (by simp [hd])
      rcases hs c (by simp) with rfl | rfl
      · rw [List.takeWhile_cons_of_pos (by decide)]
        exact ih hrest
      · rw [List.takeWhile_cons_of_neg (by decide)]
        rfl
  simp only [Sap9001.atoi,hspace]
  cases file with
  | nil => rfl
  | cons c s =>
    have hc : c ≠ byte '-' ∧ c ≠ byte '+' := by
      rcases h c (by simp) with rfl | rfl <;> decide
    simp only [if_neg hc.1,if_neg hc.2]
    exact hfold _ h

theorem ready_of_zeros (h : Zeros p.file) (handler : Handler) : Ready p handler := by
  cases handler with
  | persist | lseek => trivial
  | write => exact fun _ => .inr h.head
  | ftruncate => exact fun _ => h.head
  | close => exact fun _ => h
  | exit => exact fun _ => h

/-- What the steps of one handler keep for the others. -/
theorem Ready.mono {handler : Handler} (h : Ready p handler)
    (hopen : q.isOpen = true → p.isOpen = true) (hever : q.everOpened = true → p.everOpened = true)
    (hoffset : q.isOpen = true → (p.offset = 0 ∨ HeadZero p.file) → q.offset = 0 ∨ HeadZero q.file)
    (hhead : q.isOpen = true → HeadZero p.file → HeadZero q.file)
    (hzeros : Zeros p.file → Zeros q.file) : Ready q handler := by
  cases handler with
  | persist | lseek => trivial
  | write => exact fun ho => hoffset ho (h (hopen ho))
  | ftruncate => exact fun ho => hhead ho (h (hopen ho))
  | close => exact fun ho => hzeros (h (hopen ho))
  | exit => exact fun he => hzeros (h (hever he))

theorem boot_inv (file : Str) : Inv (boot file) := by
  constructor <;> simp [boot,Main.alone]

/-- What a step of a handler does to the watch file. -/
structure Keeps (p q : Process) : Prop where
  isOpen : q.isOpen = true → p.isOpen = true
  everOpened : q.everOpened = p.everOpened
  emptied : q.emptied = p.emptied
  stored : q.stored = p.stored
  main : q.main = p.main
  ready : ∀ other, Ready p other → Ready q other
  zeros : Zeros p.file → Zeros q.file

theorem Keeps.of_file (hopen : q.isOpen = p.isOpen) (hever : q.everOpened = p.everOpened)
    (hemptied : q.emptied = p.emptied) (hstored : q.stored = p.stored) (hmain : q.main = p.main)
    (hoffset : q.offset = p.offset) (hfile : q.file = p.file) : Keeps p q := by
  refine ⟨fun ho => hopen ▸ ho,hever,hemptied,hstored,hmain,fun other hr => ?_,fun h => hfile ▸ h⟩
  refine hr.mono (fun ho => hopen ▸ ho) (fun he => hever ▸ he) (fun _ h => ?_) (fun _ h => ?_)
    fun h => ?_
  · rwa [hoffset,hfile]
  · rwa [hfile]
  · rwa [hfile]

theorem Keeps.refl (p : Process) : Keeps p p := .of_file rfl rfl rfl rfl rfl rfl rfl

/-- A step of a handler leaves it ready for the next one. -/
theorem handlerStep_keeps {h : Handler} (hinv : Inv p) (hr : Ready p h) :
    Keeps p (handlerStep h p).2 ∧ Ready (handlerStep h p).2 (handlerStep h p).1 := by
  cases h with
  | persist =>
    refine ⟨.refl p,?_⟩
    simp only [handlerStep]
    split_ifs with hstored
    · trivial
    · exact fun he => hinv.unstored he (by simpa using hstored)
  | lseek =>
    refine ⟨?_,?_⟩
    · simp only [handlerStep]
      split_ifs
      · exact ⟨id,rfl,rfl,rfl,rfl,fun other hr => hr.mono id id (fun _ _ => .inl rfl) (fun _ h => h) id,
          id⟩
      · exact .refl p
    · intro ho
      simp only [handlerStep] at ho ⊢
      split_ifs at ho ⊢ with hopen
      · exact .inl rfl
      · exact absurd ho hopen
  | write =>
    simp only [handlerStep]
    split_ifs with hopen
    · have hhead : HeadZero (ByteFile.writeAt 0 p.offset (str "0") p.file) :=
        ByteFile.head_writeAt blank_zero blank_digit (by decide) (hr hopen)
      refine ⟨⟨id,rfl,rfl,rfl,rfl,fun other hr => ?_,fun h => h.write _⟩,fun _ => hhead⟩
      exact hr.mono id id (fun _ _ => .inr hhead) (fun _ _ => hhead) fun h => h.write _
    · exact ⟨.refl p,fun ho => absurd ho hopen⟩
  | ftruncate =>
    simp only [handlerStep]
    split_ifs with hopen
    · have hzeros : Zeros (ByteFile.truncate 0 1 p.file) :=
        ByteFile.forall_truncate_one blank_zero (hr hopen)
      exact ⟨⟨id,rfl,rfl,rfl,rfl,fun other _ => ready_of_zeros hzeros other,fun _ => hzeros⟩,
        fun _ => hzeros⟩
    · exact ⟨.refl p,fun ho => absurd ho hopen⟩
  | close =>
    refine ⟨⟨nofun,rfl,rfl,rfl,rfl,fun other hr => ?_,id⟩,fun he => ?_⟩
    · exact hr.mono nofun id nofun nofun id
    · cases hopen : p.isOpen with
      | true => exact hr hopen
      | false => exact hinv.closed he hopen
  | exit => exact ⟨.of_file rfl rfl rfl rfl rfl rfl rfl,hr⟩

/-- A step of a handler closes the descriptor only after the file has been cut. -/
theorem handlerStep_closed {h : Handler} (hinv : Inv p) (hr : Ready p h)
    (he : p.everOpened = true) (hopen : (handlerStep h p).2.isOpen = false) :
    Zeros (handlerStep h p).2.file := by
  obtain ⟨hkeeps,-⟩ := handlerStep_keeps hinv hr
  cases hwas : p.isOpen with
  | false => exact hkeeps.zeros (hinv.closed he hwas)
  | true =>
    cases h with
    | close => exact hr hwas
    | persist | exit => exact absurd (hwas.symm.trans hopen) (by decide)
    | lseek | write | ftruncate =>
      simp only [handlerStep,hwas,if_true] at hopen
      exact absurd hopen (by decide)

/-- Only the last step of a handler ends the process. -/
theorem handlerStep_ended {h : Handler} (hr : Ready p h) (hnone : p.ended = none)
    (hend : (handlerStep h p).2.ended = some .handler) (he : p.everOpened = true) :
    Zeros (handlerStep h p).2.file := by
  have hrunning (h' : p.ended = some .handler) : Zeros (handlerStep h p).2.file :=
    absurd (hnone.symm.trans h') nofun
  cases h with
  | exit => exact hr he
  | persist | close => exact hrunning hend
  | lseek | write | ftruncate =>
    simp only [handlerStep] at hend
    split_ifs at hend <;> exact hrunning hend

theorem handler_inv (hinv : Inv p) (hnone : p.ended = none) {i : ℕ} {h : Handler}
    (hi : p.handlers[i]? = some h) :
    Inv { (handlerStep h p).2 with handlers := p.handlers.set i (handlerStep h p).1 } := by
  have hmem := List.mem_of_getElem? hi
  have hr := hinv.ready h hmem
  obtain ⟨hkeeps,hnext⟩ := handlerStep_keeps hinv hr
  have hne : p.handlers ≠ [] := List.ne_nil_of_mem hmem
  refine ⟨fun other hother => ?_,fun he => ?_,fun he hs => ?_,fun he => ?_,fun hnil => ?_,?_,?_,?_,
    ?_,?_,fun hend he => ?_⟩
  · rcases List.mem_or_eq_of_mem_set hother with hold | rfl
    · exact hkeeps.ready other (hinv.ready other hold)
    · exact hnext
  · exact handlerStep_closed hinv hr (hkeeps.everOpened ▸ he)
  · exact hkeeps.zeros (hinv.unstored (hkeeps.everOpened ▸ he) (hkeeps.stored ▸ hs))
  · exact hkeeps.zeros (hinv.emptied (hkeeps.emptied ▸ he))
  · exact absurd ((List.set_eq_nil_iff ..).mp hnil) hne
  · exact fun hm => hkeeps.everOpened.trans (hinv.starting (hkeeps.main ▸ hm))
  · exact fun ok hm => hkeeps.everOpened.trans (hinv.opened ok (hkeeps.main ▸ hm))
  · exact fun hm => (hkeeps.stored.trans (hinv.stored (hkeeps.main ▸ hm))).trans hkeeps.everOpened.symm
  · exact fun hm => hkeeps.emptied.trans (hinv.reopened (hkeeps.main ▸ hm))
  · exact fun hm => hkeeps.emptied.trans (hinv.alone (hkeeps.main ▸ hm))
  · exact handlerStep_ended hr hnone hend (hkeeps.everOpened ▸ he)

/-- A step of `main` that leaves the file, or leaves zeros in it. -/
theorem main_quiet (hinv : Inv p) (hnone : p.ended = none) {main : Main} {file : Str} {emptied : Bool}
    (hmain : main.alone = false) (hfile : file = p.file ∨ Zeros file)
    (hemptied : emptied = true → Zeros file) (hreopened : main = .reopened → emptied = true) :
    Inv { p with main := main, file := file, emptied := emptied } := by
  have hkeep (h : Zeros p.file) : Zeros file := by
    rcases hfile with rfl | hzeros
    · exact h
    · exact hzeros
  refine ⟨fun other hother => ?_,fun he ho => hkeep (hinv.closed he ho),
    fun he hs => hkeep (hinv.unstored he hs),hemptied,hinv.fresh,?_,?_,?_,hreopened,?_,?_⟩
  · rcases hfile with rfl | hzeros
    · exact (hinv.ready other hother).mono id id (fun _ => id) (fun _ => id) id
    · exact ready_of_zeros hzeros other
  · rintro rfl
    cases hmain
  · rintro ok rfl
    cases hmain
  · rintro rfl
    cases hmain
  · intro halone
    exact absurd (hmain.symm.trans halone) (by decide)
  · intro hend
    exact absurd (hnone.symm.trans hend) nofun

/-- The steps of `main` before there are other threads: no handler runs. -/
theorem main_alone (hinv : Inv p) (hnone : p.ended = none) (ok : Bool) (hm : p.main.alone = true)
    (hnil : p.handlers = []) : Inv (mainStep pid ok p) := by
  have hopen := hinv.fresh hnil
  have hnot := hinv.alone hm
  have hend : ¬ p.ended = some .handler := fun h => absurd (hnone.symm.trans h) nofun
  cases hmain : p.main with
  | starting =>
    have hnever := hinv.starting hmain
    rw [hnever] at hopen
    simp only [mainStep,hmain]
    split_ifs
    · constructor <;> simp [hnil,hnot,hend,zeros_nil]
    · constructor <;> simp [hnil,hnot,hend,hnever,hopen]
  | opened stored =>
    have hever := hinv.opened stored hmain
    rw [hever] at hopen
    simp only [mainStep,hmain]
    constructor <;> simp +contextual [hnil,hnot,hend,hever,hopen]
  | stored =>
    have hstored := hinv.stored hmain
    simp only [mainStep,hmain]
    split_ifs
    · constructor <;> simp +contextual [hnil,hnot,hend,hopen,hstored,Main.alone]
    · constructor <;> simp +contextual [hnil,hnot,hend,hopen,hstored,Main.alone]
  | running | failed | reopened | returning => simp [hmain,Main.alone] at hm

theorem main_inv (hinv : Inv p) (hnone : p.ended = none) (ok : Bool)
    (halone : p.main.alone = true → p.handlers = []) : Inv (mainStep pid ok p) := by
  cases hm : p.main.alone with
  | true => exact main_alone hinv hnone ok hm (halone hm)
  | false =>
    cases hmain : p.main with
    | starting | opened | stored => simp [hmain,Main.alone] at hm
    | running =>
      simp only [mainStep,hmain]
      exact main_quiet hinv hnone rfl (.inl rfl) hinv.emptied nofun
    | failed =>
      simp only [mainStep,hmain]
      split_ifs
      · exact main_quiet hinv hnone rfl (.inr zeros_nil) (fun _ => zeros_nil) fun _ => rfl
      · exact main_quiet hinv hnone rfl (.inl rfl) hinv.emptied nofun
    | reopened =>
      have hemptied := hinv.reopened hmain
      have hzeros := hinv.emptied hemptied
      simp only [mainStep,hmain]
      split_ifs
      · exact main_quiet hinv hnone rfl (.inr (hzeros.write 0)) (fun _ => hzeros.write 0) nofun
      · exact main_quiet hinv hnone rfl (.inl rfl) hinv.emptied nofun
    | returning =>
      simp only [mainStep,hmain]
      refine ⟨fun other hother => ?_,hinv.closed,hinv.unstored,hinv.emptied,hinv.fresh,nofun,nofun,
        nofun,nofun,nofun,nofun⟩
      exact (hinv.ready other hother).mono id id (fun _ => id) (fun _ => id) id

/-- What a step does. -/
inductive Goes (pid : Str) (p : Process) : Op → Process → Prop
  | main {ok} (halone : p.main.alone = true → p.handlers = []) :
    Goes pid p (.main ok) (mainStep pid ok p)
  | signal : Goes pid p .signal { p with handlers := p.handlers ++ [.persist] }
  | handler {i h} (hi : p.handlers[i]? = some h) : Goes pid p (.handler i)
      { (handlerStep h p).2 with handlers := p.handlers.set i (handlerStep h p).1 }

theorem step_goes {op : Op} (h : step pid p op = some q) : p.ended = none ∧ Goes pid p op q := by
  unfold step at h
  by_cases hended : p.ended.isSome = true
  · rw [if_pos hended] at h
    cases h
  rw [if_neg hended] at h
  refine ⟨by simpa using hended,?_⟩
  cases op with
  | main ok =>
    dsimp only at h
    by_cases halone : (p.main.alone && !p.handlers.isEmpty) = true
    · rw [if_pos halone] at h
      cases h
    · rw [if_neg halone] at h
      obtain rfl := Option.some.inj h
      exact .main fun hm => by simpa [hm] using halone
  | signal =>
    obtain rfl := Option.some.inj h
    exact .signal
  | handler i =>
    obtain ⟨handler,hi,rfl⟩ := Option.map_eq_some_iff.mp h
    exact .handler hi

theorem step_inv {op : Op} (hinv : Inv p) (h : step pid p op = some q) : Inv q := by
  obtain ⟨hnone,hgoes⟩ := step_goes h
  cases hgoes with
  | main halone => exact main_inv hinv hnone _ halone
  | signal =>
    refine ⟨fun other hother => ?_,hinv.closed,hinv.unstored,hinv.emptied,by simp,hinv.starting,
      hinv.opened,hinv.stored,hinv.reopened,hinv.alone,hinv.ended⟩
    rcases List.mem_append.mp hother with hold | hnew
    · exact (hinv.ready other hold).mono id id (fun _ => id) (fun _ => id) id
    · obtain rfl := List.mem_singleton.mp hnew
      trivial
  | handler hi => exact handler_inv hinv hnone hi

/-- However many signals there are and however their handlers interleave: a process that is ended by
one of them leaves a watch file that reads 0, if `main` had opened the file; so does one that ends
after `main` opened it again. -/
theorem watch_file_zero {file : Str} {ops : List Op} (hrun : Run pid (boot file) ops p) :
    (p.ended = some .handler → p.everOpened = true → atoi p.file = 0) ∧
    (p.ended = some .main → p.emptied = true → atoi p.file = 0) := by
  have hinv := hrun.invariant (fun _ _ _ hs hstep => step_inv hs hstep) (boot_inv file)
  exact ⟨fun hend he => (hinv.ended hend he).atoi,fun _ he => (hinv.emptied he).atoi⟩

/-- One handler writes behind the other's zero, and the second one cuts the file. -/
theorem overlapping_handlers_zero : ∃ p ops, Run (str "77") (boot (str "123")) ops p ∧
    p.ended = some .handler ∧ p.file = str "0" ∧ atoi p.file = 0 := by
  obtain ⟨p,hp,hend,hever,hfile⟩ : ∃ p,
      [Op.main true,.main true,.main true,.signal,.handler 0,.signal,.handler 1,.handler 0,.handler 1,
        .handler 0,.handler 1,.handler 1,.handler 1,.handler 1].foldlM
          (step (str "77")) (boot (str "123")) = some p ∧
      p.ended = some .handler ∧ p.everOpened = true ∧ p.file = str "0" :=
    ⟨_,rfl,rfl,rfl,rfl⟩
  have hrun := StepSystem.Run.foldlM hp
  exact ⟨p,_,hrun,hend,hfile,(watch_file_zero hrun).1 hend hever⟩

end Termination
end Sap9001
