import HopProbe.CommandLine.Invocation
import HopProbe.Proofs.Text.Cut
import HopProbe.Proofs.Text.Natural

/-!
# Options of the service

An option is written in one word or in two, with its long name or with its
letter. In whatever order and form they stand, what they say is what the
service is asked for.
-/

set_option autoImplicit false

namespace HopProbe.CommandLine
open HopProbe.Text

inductive Flag where
  | config (path : String)
  | bind (address : String)
  | port (n : Nat)

namespace Flag

def slot : Flag → Slot
  | .config _ => .config
  | .bind _ => .bind
  | .port _ => .port

def text : Flag → String
  | .config path => path
  | .bind address => address
  | .port n => toString n

def name : Flag → String
  | .config _ => "config"
  | .bind _ => "bind"
  | .port _ => "port"

def letter? : Flag → Option Char
  | .config _ => some 'c'
  | .bind _ => none
  | .port _ => some 'p'

def Valid : Flag → Prop
  | .config path => path ≠ ""
  | .bind _ => True
  | .port n => n < twoTo 16

def config? : Flag → Option String
  | .config path => some path
  | _ => none

def bind? : Flag → Option String
  | .bind address => some address
  | _ => none

def port? : Flag → Option Nat
  | .port n => some n
  | _ => none

/-- The words that an option is written with. A value in a word of its own starts with no hyphen. -/
inductive Words (f : Flag) : List String → Prop
  | long : Words f [String.ofList ('-' :: '-' :: f.name.toList ++ '=' :: f.text.toList)]
  | longApart (plain : f.text.toList.head? ≠ some '-') :
    Words f [String.ofList ('-' :: '-' :: f.name.toList), f.text]
  | short {letter : Char} (h : f.letter? = some letter) (filled : f.text ≠ "")
    (plain : f.text.toList.head? ≠ some '=') :
    Words f [String.ofList ('-' :: letter :: f.text.toList)]
  | shortSigned {letter : Char} (h : f.letter? = some letter) :
    Words f [String.ofList ('-' :: letter :: '=' :: f.text.toList)]
  | shortApart {letter : Char} (h : f.letter? = some letter)
    (plain : f.text.toList.head? ≠ some '-') :
    Words f [String.ofList ['-', letter], f.text]

end Flag

def Values.set (v : Values) : Flag → Values
  | .config path => { v with config := some path }
  | .bind address => { v with bind := some address }
  | .port n => { v with port := some n }

theorem readPort_toString {n : Nat} (h : n < twoTo 16) : Values.readPort (toString n) = .ok n := by
  have digits : (toString n).toList = Nat.toDigits 10 n := String.toList_ofList
  have wide : n < twoTo 63 := Nat.lt_trans h (by decide)
  have fits : (0 : Int) ≤ n ∧ (n : Int) < twoTo 16 := ⟨Int.natCast_nonneg n, Int.ofNat_lt.mpr h⟩
  rw [Values.readPort, digits, readInteger_toDigits wide]
  exact if_pos fits

theorem fill_flag {v : Values} {f : Flag} (valid : f.Valid) (free : v.has f.slot = false) :
    v.fill f.slot f.text = .ok (v.set f) := by
  rw [Values.fill.eq_def, if_neg (by rw [free]; exact Bool.false_ne_true)]
  cases f with
  | config path =>
    have read : Values.readPath .config path = .ok path := if_neg valid
    simp only [Flag.slot, Flag.text, read]
    rfl
  | bind address => rfl
  | port n =>
    simp only [Flag.slot, Flag.text]
    rw [readPort_toString valid]
    rfl

/-- What has been read are some values, once the last option is looked at. -/
def Ready (p : Progress) (v : Values) : Prop := p.settle = .ok ⟨v, none, false, false⟩

theorem Ready.open {p : Progress} {v : Values} (h : Ready p v) :
    p.plain = false ∧ p.awaited = none := by
  obtain ⟨values, pending, plain, placed⟩ := p
  cases pending with
  | none =>
    cases h
    exact ⟨rfl, rfl⟩
  | some slot =>
    obtain ⟨slot, text⟩ := slot
    cases text with
    | none => cases h
    | some text =>
      simp only [Ready, Progress.settle] at h
      cases filled : values.fill slot text with
      | error e =>
        rw [filled] at h
        cases h
      | ok values =>
        rw [filled] at h
        cases h
        exact ⟨rfl, rfl⟩

theorem Ready.start : Ready .start .empty := rfl

/-- A value in a word of its own is looked at later. -/
def waiting (v : Values) (f : Flag) : Progress := ⟨v, some (f.slot, none), false, false⟩

theorem Ready.attach {p : Progress} {v : Values} (h : Ready p v) {f : Flag} (valid : f.Valid)
    (free : v.has f.slot = false) : p.attach f.slot f.text = .ok ⟨v.set f, none, false, false⟩ := by
  rw [Progress.attach, h]
  simp only [bind, Except.bind, fill_flag valid free]
  rfl

theorem Ready.await {p : Progress} {v : Values} (h : Ready p v) (f : Flag) :
    p.await f.slot = .ok (waiting v f) := by
  rw [Progress.await, h]
  rfl

theorem ready_answered {v : Values} {f : Flag} (valid : f.Valid) (free : v.has f.slot = false) :
    Ready { waiting v f with pending := some (f.slot, some f.text) } (v.set f) := by
  simp only [Ready, Progress.settle, waiting, fill_flag valid free]
  rfl

theorem switch_long (f : Flag) : Switch.long .serve f.name = some (.value f.slot) := by
  cases f <;> rfl

theorem switch_short {f : Flag} {letter : Char} (h : f.letter? = some letter) :
    Switch.short .serve letter = some (.value f.slot) := by
  cases f <;> cases h <;> rfl

theorem readWords_cons (p : Progress) (word : String) (rest : List String) :
    readWords .serve p (word :: rest) = (readWord .serve p word).bind fun p =>
      readWords .serve p rest := by
  rw [readWords, if_neg (by simp [takesCommand]), command?]
  simp [takesCommand, bind]

theorem name_plain (f : Flag) : f.name.toList ≠ [] ∧ '=' ∉ f.name.toList := by
  cases f <;> simp [Flag.name]

theorem readLong_signed {p : Progress} {v : Values} (h : Ready p v) {f : Flag} (valid : f.Valid)
    (free : v.has f.slot = false) :
    readLong .serve p (f.name.toList ++ '=' :: f.text.toList) = .ok ⟨v.set f, none, false, false⟩ := by
  simp only [readLong, cutFirst_append (name_plain f).2, String.ofList_toList, switch_long,
    applySwitch, h.attach valid free]
  rfl

theorem readLong_apart {p : Progress} {v : Values} (h : Ready p v) (f : Flag) :
    readLong .serve p f.name.toList = .ok (waiting v f) := by
  simp only [readLong, cutFirst_of_not_mem (name_plain f).2, String.ofList_toList, switch_long,
    applySwitch, h.await f]
  rfl

theorem readShort_flag {p : Progress} {v : Values} (h : Ready p v) {f : Flag} (valid : f.Valid)
    (free : v.has f.slot = false) {letter : Char} (letters : f.letter? = some letter)
    {cs : List Char} (value : attached cs = some f.text) :
    readShort .serve p letter cs = .ok ⟨v.set f, none, false, false⟩ := by
  simp only [readShort, switch_short letters, value, applySwitch, h.attach valid free]
  rfl

theorem readWord_long {p : Progress} {v : Values} (h : Ready p v) {cs : List Char}
    (filled : cs ≠ []) : readWord .serve p (String.ofList ('-' :: '-' :: cs)) =
      readLong .serve p cs := by
  rw [readWord, if_neg (by rw [h.open.1]; exact Bool.false_ne_true), String.toList_ofList]
  cases cs with
  | nil => exact absurd rfl filled
  | cons c cs => rfl

theorem readWord_short {p : Progress} {v : Values} (h : Ready p v) {letter : Char}
    (other : letter ≠ '-') (cs : List Char) :
    readWord .serve p (String.ofList ('-' :: letter :: cs)) = readShort .serve p letter cs := by
  rw [readWord, if_neg (by rw [h.open.1]; exact Bool.false_ne_true), String.toList_ofList]
  split
  · next same => exact absurd (List.cons.inj (List.cons.inj same).2).1 other
  · next same => exact absurd (List.cons.inj (List.cons.inj same).2).1 other
  · next same =>
    cases same
    rfl
  · next none => exact (none letter cs rfl).elim
  · next none => exact (none letter cs rfl).elim

theorem readWord_answer (v : Values) (f : Flag) {word : String}
    (plain : word.toList.head? ≠ some '-') :
    readWord .serve (waiting v f) word =
      .ok { waiting v f with pending := some (f.slot, some word) } := by
  rw [readWord, if_neg (by simp [waiting])]
  have awaited : (waiting v f).awaited = some f.slot := rfl
  rw [awaited]
  split
  · next same => exact absurd (by rw [same]; rfl) plain
  · next same => exact absurd (by rw [same]; rfl) plain
  · next same => exact absurd (by rw [same]; rfl) plain
  · next same _ _ _ =>
    cases same
    rfl
  · next same _ _ _ => cases same

theorem letter_plain {f : Flag} {letter : Char} (h : f.letter? = some letter) : letter ≠ '-' := by
  cases f <;> cases h <;> decide

theorem read_flag {p : Progress} {v : Values} (h : Ready p v) {f : Flag} (valid : f.Valid)
    (free : v.has f.slot = false) {words : List String} (w : f.Words words) :
    ∃ p', Ready p' (v.set f) ∧
      ∀ rest, readWords .serve p (words ++ rest) = readWords .serve p' rest := by
  have one {word : String} {p' : Progress} (read : readWord .serve p word = .ok p')
      (rest : List String) :
      readWords .serve p ([word] ++ rest) = readWords .serve p' rest := by
    rw [List.singleton_append, readWords_cons, read]
    rfl
  have two {word : String} (read : readWord .serve p word = .ok (waiting v f))
      (plain : f.text.toList.head? ≠ some '-') (rest : List String) :
      readWords .serve p ([word, f.text] ++ rest) =
        readWords .serve { waiting v f with pending := some (f.slot, some f.text) } rest := by
    rw [List.cons_append, readWords_cons, read]
    exact (readWords_cons _ _ _).trans (by rw [readWord_answer v f plain]; rfl)
  have done : Ready ⟨v.set f, none, false, false⟩ (v.set f) := rfl
  cases w with
  | long =>
    refine ⟨_, done, one ?_⟩
    rw [List.cons_append, List.cons_append, readWord_long h (by simp),
      readLong_signed h valid free]
  | longApart plain =>
    refine ⟨_, ready_answered valid free, two ?_ plain⟩
    rw [readWord_long h (name_plain f).1, readLong_apart h]
  | short letter filled plain =>
    refine ⟨_, done, one ?_⟩
    rw [readWord_short h (letter_plain letter)]
    refine readShort_flag h valid free letter ?_
    rw [attached.eq_def]
    split
    · next none => exact absurd (String.toList_eq_nil_iff.mp none) filled
    · next same => exact absurd (by rw [same]; rfl) plain
    · rw [String.ofList_toList]
  | shortSigned letter =>
    refine ⟨_, done, one ?_⟩
    rw [readWord_short h (letter_plain letter)]
    refine readShort_flag h valid free letter ?_
    rw [attached, String.ofList_toList]
  | shortApart letter plain =>
    refine ⟨_, ready_answered valid free, two ?_ plain⟩
    rw [readWord_short h (letter_plain letter)]
    simp only [readShort, switch_short letter, attached, applySwitch, h.await f]
    rfl

inductive Spelt : List Flag → List String → Prop
  | nil : Spelt [] []
  | cons {f : Flag} {flags : List Flag} {words rest : List String} (w : f.Words words)
    (h : Spelt flags rest) : Spelt (f :: flags) (words ++ rest)

def Values.under (v : Values) (flags : List Flag) : Values where
  config := (flags.findSome? Flag.config?).or v.config
  bind := (flags.findSome? Flag.bind?).or v.bind
  port := (flags.findSome? Flag.port?).or v.port
  script := v.script

theorem under_set {v : Values} {f : Flag} {flags : List Flag} (once : f.slot ∉ flags.map Flag.slot) :
    (v.set f).under flags = v.under (f :: flags) := by
  have absent {α : Type} {value? : Flag → Option α}
      (own : ∀ g : Flag, g.slot ≠ f.slot → value? g = none) : flags.findSome? value? = none :=
    List.findSome?_eq_none_iff.mpr fun g hg =>
      own g fun same => once (same ▸ List.mem_map_of_mem hg)
  cases f with
  | config path =>
    have none : flags.findSome? Flag.config? = none := absent fun g other => by
      cases g <;> first | rfl | exact absurd rfl other
    simp [Values.under, Values.set, none, List.findSome?_cons, Flag.config?, Flag.bind?, Flag.port?]
  | bind address =>
    have none : flags.findSome? Flag.bind? = none := absent fun g other => by
      cases g <;> first | rfl | exact absurd rfl other
    simp [Values.under, Values.set, none, List.findSome?_cons, Flag.config?, Flag.bind?, Flag.port?]
  | port n =>
    have none : flags.findSome? Flag.port? = none := absent fun g other => by
      cases g <;> first | rfl | exact absurd rfl other
    simp [Values.under, Values.set, none, List.findSome?_cons, Flag.config?, Flag.bind?, Flag.port?]

theorem has_set {v : Values} {f : Flag} {slot : Slot} (other : slot ≠ f.slot) :
    (v.set f).has slot = v.has slot := by
  cases f <;> cases slot <;> first | rfl | exact absurd rfl other

/-- Options are read in any order and form, each of them once. -/
theorem readWords_flags {flags : List Flag} {words : List String} (w : Spelt flags words)
    (valid : ∀ f ∈ flags, f.Valid) (once : (flags.map Flag.slot).Nodup) {p : Progress} {v : Values}
    (ready : Ready p v) (free : ∀ f ∈ flags, v.has f.slot = false) :
    readWords .serve p words =
      .ok ⟨(v.under flags).config, .serve (v.under flags).bind (v.under flags).port⟩ := by
  induction w generalizing p v with
  | nil =>
    rw [readWords, finish, ready]
    rfl
  | @cons f flags words rest w h ih =>
    obtain ⟨first, valid⟩ := List.forall_mem_cons.mp valid
    obtain ⟨free', free⟩ := List.forall_mem_cons.mp free
    obtain ⟨fresh, once⟩ := List.nodup_cons.mp once
    obtain ⟨p', ready', read⟩ := read_flag ready first free' w
    have free'' : ∀ g ∈ flags, (v.set f).has g.slot = false := fun g hg =>
      (has_set fun same => fresh (same ▸ List.mem_map_of_mem hg)).trans (free g hg)
    rw [read, ih valid once ready' free'', under_set fresh]

structure Asked (flags : List Flag) (words : List String) : Prop where
  spelt : Spelt flags words
  valid : ∀ f ∈ flags, f.Valid
  once : (flags.map Flag.slot).Nodup

theorem parse_serve {flags : List Flag} {words : List String} (h : Asked flags words) :
    Invocation.parse ("serve" :: words) = .ok ⟨flags.findSome? Flag.config?,
      .serve (flags.findSome? Flag.bind?) (flags.findSome? Flag.port?)⟩ := by
  have read := readWords_flags h.spelt h.valid h.once Ready.start fun f _ => by cases f <;> rfl
  simp only [Values.under, Values.empty, Option.or_none] at read
  have command : command? .program .start "serve" = some .serve := rfl
  have config (given : Option String) : (given <|> none) = given := by cases given <;> rfl
  rw [Invocation.parse, readWords, if_neg (by simp), command]
  simp only [read, bind, Except.bind]
  exact congrArg (fun given => Except.ok (Invocation.mk given _)) (config _)

end HopProbe.CommandLine
