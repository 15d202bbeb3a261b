import Sap9001.Bytes
import Sap9001.Library.Delimited
import Sap9001.Library.Records
import Sap9001.Library.StepSystem
import Mathlib.Logic.Function.Basic

/-! The configuration file (`infra/config.h`): what `load` reads from a file in the INI format, and
what a file in that format says. -/
namespace Sap9001

/-- The map of the sections, each a map of its keys. -/
abbrev ConfigData := Str → Option (Str → Option Str)

structure Config where
  data : ConfigData
  filePath : Str

namespace Config

open Delimited

def trim (s : Str) : Str := Delimited.trim isSpace s

/-- `data_[sec][key] = value`. -/
def store (data : ConfigData) (sec key value : Str) : ConfigData :=
  Function.update data sec
    (some (Function.update ((data sec).getD fun _ => none) key (some value)))

/-- The variables of the loop in `load`. -/
structure LoadState where
  currentSection : Str
  data : ConfigData

def parseLine (s : LoadState) (line : Str) : LoadState :=
  let line := trim line
  if line = [] ∨ line.head? = some (byte '#') then s
  else if line.head? = some (byte '[') then
    match line.idxOf? (byte ']') with
    | some close => { s with currentSection := trim (substr line 1 (close - 1)) }
    | none => s
  else
    match line.idxOf? (byte '=') with
    | none => s
    | some eq =>
      let key := trim (substr line 0 eq)
      let value := trim (line.drop (eq + 1))
      if s.currentSection ≠ [] ∧ key ≠ [] then
        { s with data := store s.data s.currentSection key value }
      else s

/-- The lines that `std::getline` returns: a last line may lack its newline. -/
def lines (file : Str) : List Str :=
  let r := Records.decode (byte '\n') file
  if r.2 = [] then r.1 else r.1 ++ [r.2]

/-- `file` is what `path` holds, `none` when it cannot be opened. -/
def load (c : Config) (path : Str) (file : Option Str) : Bool × Config :=
  match file with
  | none => (false,c)
  | some file => (true,⟨((lines file).foldl parseLine ⟨[],fun _ => none⟩).data,path⟩)

def getString (c : Config) (sec key defaultVal : Str) : Str :=
  match c.data sec with
  | none => defaultVal
  | some keys =>
    match keys key with
    | none => defaultVal
    | some value => value

def getInt (c : Config) (sec key : Str) (defaultVal : Int) : Int :=
  let val := c.getString sec key []
  if val = [] then defaultVal
  else
    match stoi val with
    | some n => n
    | none => defaultVal

def splitDottedKey (dottedKey : Str) : Option (Str × Str) :=
  match lastIdxOf? dottedKey (byte '.') with
  | none => none
  | some lastDot =>
    if lastDot = 0 then none
    else
      let sec := substr dottedKey 0 lastDot
      let key := dottedKey.drop (lastDot + 1)
      if sec ≠ [] ∧ key ≠ [] then some (sec,key) else none

def getStringDotted (c : Config) (dottedKey defaultVal : Str) : Str :=
  match splitDottedKey dottedKey with
  | none => defaultVal
  | some (sec,key) => c.getString sec key defaultVal

/-- The name of a section, as it can stand between brackets. -/
structure SectionName where
  text : Str
  trimmed : Trimmed isSpace text
  nonempty : text ≠ []
  noBracket : byte ']' ∉ text

/-- A key, as it can stand in front of an equals sign. -/
structure Key where
  text : Str
  trimmed : Trimmed isSpace text
  nonempty : text ≠ []
  noEquals : byte '=' ∉ text
  noMark : text.head? ≠ some (byte '#') ∧ text.head? ≠ some (byte '[')

structure Value where
  text : Str
  trimmed : Trimmed isSpace text

/-- What one line of a file says. -/
inductive Item
  | header (sec : SectionName)
  | assign (key : Key) (value : Value)
  | nothing

/-- The texts a line may have for what it says. -/
inductive Written : Item → Str → Prop
  | header (pre before behind post : Str) (sec : SectionName) (hpre : Padding isSpace pre)
      (hbefore : Padding isSpace before) (hbehind : Padding isSpace behind)
      (hpost : Padding isSpace post) :
      Written (.header sec)
        (pre ++ byte '['::(before ++ (sec.text ++ behind) ++ byte ']'::post))
  | assign (pre before behind post : Str) (key : Key) (value : Value)
      (hpre : Padding isSpace pre) (hbefore : Padding isSpace before)
      (hbehind : Padding isSpace behind) (hpost : Padding isSpace post) :
      Written (.assign key value)
        (pre ++ (key.text ++ before ++ byte '='::(behind ++ (value.text ++ post))))
  | blank {ws : Str} (hws : Padding isSpace ws) : Written .nothing ws
  | comment (pre text : Str) (hpre : Padding isSpace pre) :
      Written .nothing (pre ++ byte '#'::text)
  | other {text : Str} (hequals : byte '=' ∉ text)
      (hbracket : (trim text).head? = some (byte '[') → byte ']' ∉ text) : Written .nothing text

/-- A header and the lines under it, `none` for a line that says nothing. -/
structure Block where
  name : SectionName
  body : List (Option (Key × Value))

def Block.items (b : Block) : List Item :=
  .header b.name::b.body.map fun line => (line.map fun a => .assign a.1 a.2).getD .nothing

/-- Section, key and value, in the order of the file. -/
def Block.assignments (b : Block) : List (Str × Str × Str) :=
  b.body.filterMap fun line => line.map fun a => (b.name.text,a.1.text,a.2.text)

/-- The file has `n` lines that say nothing and then the blocks, each with its newline, but for
the last one perhaps. -/
def WrittenAs (doc : List Block) (file : Str) : Prop :=
  ∃ n ls, List.Forall₂ Written (List.replicate n .nothing ++ doc.flatMap Block.items) ls ∧
    (∀ line ∈ ls, byte '\n' ∉ line) ∧
    (file = Records.encode (byte '\n') ls ∨ file ++ [byte '\n'] = Records.encode (byte '\n') ls)

/-- The value that a file assigns last to a key of a section. -/
def lastValue (doc : List Block) (sec key : Str) : Option Str :=
  ((doc.flatMap Block.assignments).filter fun a => a.1 = sec ∧ a.2.1 = key).getLast?.map (·.2.2)

/-- What a line that says `i` does to the variables of the loop. -/
def Item.run (s : LoadState) : Item → LoadState
  | .header sec => { s with currentSection := sec.text }
  | .assign key value =>
    if s.currentSection ≠ [] then
      { s with data := store s.data s.currentSection key.text value.text }
    else s
  | .nothing => s

theorem not_mem_padding {ws : Str} {c : UInt8} (hws : Padding isSpace ws)
    (hc : isSpace c = false) : c ∉ ws := by
  intro h
  rw [hws c h] at hc
  contradiction

theorem parseLine_header {pre before behind post : Str} (s : LoadState) (sec : SectionName)
    (hpre : Padding isSpace pre) (hbefore : Padding isSpace before)
    (hbehind : Padding isSpace behind) (hpost : Padding isSpace post) :
    parseLine s (pre ++ byte '['::(before ++ (sec.text ++ behind) ++ byte ']'::post)) =
      { s with currentSection := sec.text } := by
  have htrim : trim (pre ++ byte '['::(before ++ (sec.text ++ behind) ++ byte ']'::post)) =
      byte '['::(before ++ (sec.text ++ behind)) ++ byte ']'::[] := by
    rw [trim,trim_cons hpre (by decide),rdropWhile_append_cons (by decide),
      List.rdropWhile_eq_nil_iff.mpr hpost]
    rfl
  have hclose : byte ']' ∉ byte '['::(before ++ (sec.text ++ behind)) := by
    have hb := not_mem_padding hbefore (c := byte ']') (by decide)
    have hb' := not_mem_padding hbehind (c := byte ']') (by decide)
    have hne : byte ']' ≠ byte '[' := by decide
    simp [hb,hb',sec.noBracket,hne]
  have hname : substr (byte '['::(before ++ (sec.text ++ behind)) ++ byte ']'::[]) 1
      ((byte '['::(before ++ (sec.text ++ behind))).length - 1) =
        before ++ (sec.text ++ behind) := by
    show (before ++ (sec.text ++ behind) ++ [byte ']']).take (before ++ (sec.text ++ behind)).length = _
    exact List.take_left
  have hmark : (byte '['::(before ++ (sec.text ++ behind)) ++ byte ']'::[]).head? =
      some (byte '[') := rfl
  have hne : byte '[' ≠ byte '#' := by decide
  simp only [parseLine,htrim,idxOf?_append_cons hclose,hname,hmark]
  rw [if_neg (by simp [hne]),if_pos trivial,trim,trim_padded hbefore sec.trimmed hbehind]

theorem parseLine_assign {pre before behind post : Str} (s : LoadState) (key : Key)
    (value : Value) (hpre : Padding isSpace pre) (hbefore : Padding isSpace before)
    (hbehind : Padding isSpace behind) (hpost : Padding isSpace post) :
    parseLine s (pre ++ (key.text ++ before ++ byte '='::(behind ++ (value.text ++ post)))) =
      if s.currentSection ≠ [] then
        { s with data := store s.data s.currentSection key.text value.text }
      else s := by
  obtain ⟨c,ks,hkey⟩ := List.exists_cons_of_ne_nil key.nonempty
  have hc : isSpace c = false := key.trimmed.1 c (by rw [hkey]; rfl)
  have htrim : trim (pre ++ (key.text ++ before ++ byte '='::(behind ++ (value.text ++ post)))) =
      key.text ++ before ++ byte '='::(behind ++ (value.text ++ post)).rdropWhile isSpace := by
    rw [hkey]
    simp only [List.cons_append]
    rw [trim,trim_cons hpre hc,rdropWhile_append_cons (by decide)]
  have hequals : byte '=' ∉ key.text ++ before := by
    have hb := not_mem_padding hbefore (c := byte '=') (by decide)
    simp [hb,key.noEquals]
  have hkey' : trim (substr (key.text ++ before ++
      byte '='::(behind ++ (value.text ++ post)).rdropWhile isSpace) 0
        (key.text ++ before).length) = key.text := by
    have hnone : Padding isSpace [] := by simp [Padding]
    rw [substr,List.drop_zero,List.take_left]
    exact trim_padded hnone key.trimmed hbefore
  have hvalue : trim ((key.text ++ before ++
      byte '='::(behind ++ (value.text ++ post)).rdropWhile isSpace).drop
        ((key.text ++ before).length + 1)) = value.text := by
    rw [List.drop_length_add_append,List.drop_one,List.tail_cons,trim,trim_rdropWhile]
    exact trim_padded hbehind value.trimmed hpost
  have hhead : (key.text ++ before ++
      byte '='::(behind ++ (value.text ++ post)).rdropWhile isSpace).head? = key.text.head? := by
    rw [hkey]
    rfl
  simp only [parseLine,htrim,idxOf?_append_cons hequals,hkey',hvalue,hhead]
  rw [if_neg (by simp [key.noMark.1]),if_neg key.noMark.2]
  simp [key.nonempty]

theorem parseLine_nothing {line : Str} (s : LoadState) (h : Written .nothing line) :
    parseLine s line = s := by
  cases h with
  | blank hws => simp [parseLine,trim,trim_padding hws]
  | comment pre text hpre => simp [parseLine,trim,trim_cons hpre (show isSpace (byte '#') = false by decide)]
  | other hequals hbracket =>
    have hequals' : (trim line).idxOf? (byte '=') = none := by
      rw [List.idxOf?_eq_none_iff]
      exact fun hmem => hequals (mem_of_mem_trim hmem)
    simp only [parseLine]
    split_ifs with hskip hmark
    · rfl
    · have hclose : (trim line).idxOf? (byte ']') = none := by
        rw [List.idxOf?_eq_none_iff]
        exact fun hmem => hbracket hmark (mem_of_mem_trim hmem)
      rw [hclose]
    · rw [hequals']

theorem parseLine_written {i : Item} {line : Str} (s : LoadState) (h : Written i line) :
    parseLine s line = i.run s := by
  cases i with
  | header sec =>
    cases h with
    | header _ _ _ _ _ hpre hbefore hbehind hpost => exact parseLine_header s sec hpre hbefore hbehind hpost
  | assign key value =>
    cases h with
    | assign _ _ _ _ _ _ hpre hbefore hbehind hpost =>
      exact parseLine_assign s key value hpre hbefore hbehind hpost
  | nothing => exact parseLine_nothing s h

/-- The loop on the lines is the items one after the other. -/
theorem foldl_written {is : List Item} {ls : List Str} (h : List.Forall₂ Written is ls)
    (s : LoadState) : ls.foldl parseLine s = is.foldl Item.run s := by
  induction h generalizing s with
  | nil => rfl
  | cons hline _ ih => rw [List.foldl_cons,List.foldl_cons,parseLine_written s hline,ih]

/-- A last line that has no newline is read like any other. -/
theorem foldl_lines {file : Str} {ls : List Str} (hclean : ∀ line ∈ ls, byte '\n' ∉ line)
    (hfile : file = Records.encode (byte '\n') ls ∨ file ++ [byte '\n'] = Records.encode (byte '\n') ls)
    (s : LoadState) : (lines file).foldl parseLine s = ls.foldl parseLine s := by
  rcases hfile with rfl | hfile
  · have hdecode := Records.decode_encode_append (byte '\n') hclean []
    rw [List.append_nil] at hdecode
    simp [lines,hdecode,Records.decode]
  · rcases List.eq_nil_or_concat ls with rfl | ⟨init,last,rfl⟩
    · simp at hfile
    · have hinit : ∀ line ∈ init, byte '\n' ∉ line := fun line h => hclean line (by simp [h])
      have hlast : byte '\n' ∉ last := hclean last (by simp)
      have heq : file = Records.encode (byte '\n') init ++ last := by
        rw [List.concat_eq_append,Records.encode_append,Records.encode_singleton,
          ← List.append_assoc] at hfile
        exact List.append_cancel_right hfile
      have hempty : parseLine s [] = s := parseLine_nothing s (.blank (by simp [Padding]))
      rw [heq,lines,Records.decode_encode_append (byte '\n') hinit,
        Records.decode_of_not_mem (byte '\n') hlast]
      by_cases hnil : last = []
      · simp [hnil,parseLine_nothing _ (.blank (show Padding isSpace [] by simp [Padding]))]
      · simp [hnil]

/-- The lines under a header store their values in its section. -/
theorem run_body (name : SectionName) (body : List (Option (Key × Value))) (data : ConfigData) :
    (body.map fun line => (line.map fun a => Item.assign a.1 a.2).getD .nothing).foldl Item.run
        ⟨name.text,data⟩ =
      ⟨name.text,(Block.assignments ⟨name,body⟩).foldl (fun data a => store data a.1 a.2.1 a.2.2) data⟩ := by
  induction body generalizing data with
  | nil => rfl
  | cons line body ih =>
    cases line with
    | none => exact ih data
    | some a =>
      have hrun : (Item.assign a.1 a.2).run ⟨name.text,data⟩ =
          ⟨name.text,store data name.text a.1.text a.2.text⟩ := by
        simp [Item.run,name.nonempty]
      simp only [List.map_cons,Option.map_some,Option.getD_some,List.foldl_cons,hrun]
      exact ih _

theorem run_blocks (doc : List Block) (s : LoadState) :
    ((doc.flatMap Block.items).foldl Item.run s).data =
      (doc.flatMap Block.assignments).foldl (fun data a => store data a.1 a.2.1 a.2.2) s.data := by
  induction doc generalizing s with
  | nil => rfl
  | cons b doc ih =>
    rw [List.flatMap_cons,List.flatMap_cons,List.foldl_append,List.foldl_append,ih,Block.items,
      List.foldl_cons]
    have hheader : (Item.header b.name).run s = ⟨b.name.text,s.data⟩ := rfl
    have hbody := run_body b.name b.body s.data
    rw [hheader,hbody]

theorem run_nothing (n : ℕ) (s : LoadState) :
    (List.replicate n Item.nothing).foldl Item.run s = s := by
  induction n with
  | zero => rfl
  | succ n ih => exact ih

theorem load_data {doc : List Block} {file : Str} (h : WrittenAs doc file) (c : Config) (path : Str) :
    (c.load path (some file)).2.data = (doc.flatMap Block.assignments).foldl
      (fun data a => store data a.1 a.2.1 a.2.2) fun _ => none := by
  obtain ⟨n,ls,hwritten,hclean,hfile⟩ := h
  show ((lines file).foldl parseLine ⟨[],fun _ => none⟩).data = _
  rw [foldl_lines hclean hfile,foldl_written hwritten,List.foldl_append,run_nothing,run_blocks]

/-- The value that the map holds for a key of a section. -/
def find (data : ConfigData) (sec key : Str) : Option Str := (data sec).bind fun keys => keys key

theorem getString_eq (c : Config) (sec key defaultVal : Str) :
    c.getString sec key defaultVal = (find c.data sec key).getD defaultVal := by
  unfold getString find
  cases c.data sec with
  | none => rfl
  | some keys =>
    simp only [Option.bind_some]
    cases keys key <;> rfl

theorem find_store (data : ConfigData) (a : Str × Str × Str) (sec key : Str) :
    find (store data a.1 a.2.1 a.2.2) sec key =
      if decide (a.1 = sec ∧ a.2.1 = key) then some a.2.2 else find data sec key := by
  unfold find store
  by_cases hsec : sec = a.1
  · subst hsec
    by_cases hkey : key = a.2.1
    · subst hkey
      simp
    · rw [Function.update_self,Option.bind_some,Function.update_of_ne hkey]
      cases hdata : data a.1 <;> simp [Ne.symm hkey]
  · rw [Function.update_of_ne hsec]
    simp [Ne.symm hsec]

theorem getString_load {doc : List Block} {file : Str} (h : WrittenAs doc file) (c : Config)
    (path sec key defaultVal : Str) : (c.load path (some file)).2.getString sec key defaultVal =
      (lastValue doc sec key).getD defaultVal := by
  rw [getString_eq,load_data h,StepSystem.foldl_overwrite (g := fun data => find data sec key)
    (p := fun a => decide (a.1 = sec ∧ a.2.1 = key)) (v := fun a => a.2.2)
    (fun data a => find_store data a sec key)]
  simp [lastValue,find]

/-- A value that is no number counts as none. -/
theorem getInt_load {doc : List Block} {file : Str} (h : WrittenAs doc file) (c : Config)
    (path sec key : Str) (defaultVal : Int) :
    (c.load path (some file)).2.getInt sec key defaultVal =
      ((lastValue doc sec key).bind stoi).getD defaultVal := by
  have hstring := getString_load h c path sec key []
  unfold getInt
  dsimp only
  rw [hstring]
  cases lastValue doc sec key with
  | none => rfl
  | some value =>
    rw [Option.getD_some,Option.bind_some]
    split_ifs with hnil
    · subst hnil
      rfl
    · cases stoi value <;> rfl

/-- A dotted key is split at its last dot. -/
theorem splitDottedKey_append (sec : Str) {key : Str} (hkey : key ≠ []) (hdot : byte '.' ∉ key) :
    splitDottedKey (sec ++ byte '.'::key) = if sec = [] then none else some (sec,key) := by
  have hlast : lastIdxOf? (sec ++ byte '.'::key) (byte '.') = some sec.length :=
    lastIdxOf?_append_cons sec hdot
  have hsec : substr (sec ++ byte '.'::key) 0 sec.length = sec := by simp [substr]
  have hrest : (sec ++ byte '.'::key).drop (sec.length + 1) = key := by
    rw [List.drop_length_add_append]
    rfl
  simp only [splitDottedKey,hlast,hsec,hrest,List.length_eq_zero_iff]
  split_ifs <;> simp_all

/-- No header has an empty name. -/
theorem lastValue_nil (doc : List Block) (key : Str) : lastValue doc [] key = none := by
  have hnone : (doc.flatMap Block.assignments).filter
      (fun a => decide (a.1 = [] ∧ a.2.1 = key)) = [] := by
    rw [List.filter_eq_nil_iff]
    intro a ha
    obtain ⟨b,-,hb⟩ := List.mem_flatMap.mp ha
    obtain ⟨line,-,hline⟩ := List.mem_filterMap.mp hb
    obtain ⟨kv,-,rfl⟩ := Option.map_eq_some_iff.mp hline
    simp [b.name.nonempty]
  rw [lastValue,hnone]
  rfl

/-- A file is read as what it says, whatever was loaded before; a file that cannot be opened
changes nothing. -/
theorem load_reads_back {doc : List Block} {file : Str} (h : WrittenAs doc file) (c : Config)
    (path : Str) : (c.load path (some file)).1 = true ∧
      (∀ sec key defaultVal, (c.load path (some file)).2.getString sec key defaultVal =
        (lastValue doc sec key).getD defaultVal) ∧
      (∀ sec key defaultVal, key ≠ [] → byte '.' ∉ key →
        (c.load path (some file)).2.getStringDotted (sec ++ byte '.'::key) defaultVal =
          (lastValue doc sec key).getD defaultVal) ∧
      c.load path none = (false,c) := by
  refine ⟨rfl,getString_load h c path,fun sec key defaultVal hkey hdot => ?_,rfl⟩
  rw [getStringDotted,splitDottedKey_append sec hkey hdot]
  split_ifs with hsec
  · subst hsec
    rw [lastValue_nil]
    rfl
  · exact getString_load h c path sec key defaultVal

/-- The WiFi section with its server, set twice. -/
def wifiDoc : List Block :=
  [⟨⟨str "network.wifi",by decide,by decide,by decide⟩,
    [none,some (⟨str "server_ip",by decide,by decide,by decide,by decide⟩,⟨str "10.0.0.1",by decide⟩),
      some (⟨str "server_ip",by decide,by decide,by decide,by decide⟩,⟨str "192.168.3.1",by decide⟩)]⟩]

/-- That section as a file, with a comment and without a newline at its end. -/
def wifiFile : Str :=
  str "[ network.wifi ]\n# server\nserver_ip=10.0.0.1\n  server_ip = 192.168.3.1"

theorem wifiFile_written : WrittenAs wifiDoc wifiFile := by
  refine ⟨0,[str "[ network.wifi ]",str "# server",str "server_ip=10.0.0.1",
    str "  server_ip = 192.168.3.1"],?_,by decide,.inr (by decide)⟩
  refine .cons ?_ (.cons ?_ (.cons ?_ (.cons ?_ .nil)))
  · exact .header [] (str " ") (str " ") [] _ (by decide) (by decide) (by decide) (by decide)
  · exact .comment [] (str " server") (by decide)
  · exact .assign [] [] [] [] _ _ (by decide) (by decide) (by decide) (by decide)
  · exact .assign (str "  ") (str " ") (str " ") [] _ _ (by decide) (by decide) (by decide)
      (by decide)

/-- Before anything is loaded. -/
def unloaded : Config := ⟨fun _ => none,[]⟩

/-- The second value counts, also for the dotted key. -/
theorem wifi_server_read :
    (unloaded.load (str "device.conf") (some wifiFile)).2.getStringDotted
      (str "network.wifi.server_ip") (str "none") = str "192.168.3.1" := by
  have h := (load_reads_back wifiFile_written unloaded (str "device.conf")).2.2.1
    (str "network.wifi") (str "server_ip") (str "none") (by decide) (by decide)
  exact h

end Config
end Sap9001
