import HopProbe.Proofs.Toml.Grammar
import HopProbe.Proofs.Toml.Tables
import HopProbe.Proofs.Text.Utf8
import HopProbe.Settings.Load
import Mathlib.Data.List.Nodup

/-!
# Settings that were written

What a file says of some keys is what is loaded, with the defaults for the
others. How it is written and what else the file says makes no difference.
-/

set_option autoImplicit false

namespace HopProbe.Settings
open HopProbe.Text HopProbe.Toml

/-- Values for some of the keys. The numbers need not be such as a probe can have. -/
structure Given where
  bind : Option String
  port : Option Int
  stepSeconds : Option Int
  connectSeconds : Option Int
  maxBody : Option Int
  siteDirectory : Option String

def keys : List String :=
  ["bind", "static_dir", "port", "step_timeout_secs", "connect_timeout_secs", "max_body_bytes"]

namespace Given

def texts (g : Given) : List (String × Option String) :=
  [("bind", g.bind), ("static_dir", g.siteDirectory)]

def numbers (g : Given) : List (String × Option Int) :=
  [("port", g.port), ("step_timeout_secs", g.stepSeconds),
    ("connect_timeout_secs", g.connectSeconds), ("max_body_bytes", g.maxBody)]

def rows (g : Given) : List (String × Option (Option Value)) :=
  (g.texts.map fun (key, given) => (key, given.map fun text => some (.string text))) ++
    g.numbers.map fun (key, given) => (key, given.map readable)

def entries (g : Given) : List (String × Option Value) :=
  g.rows.filterMap fun (key, value) => value.map (key, ·)

/-- A document says what is given, in any order. What else it says is a document of its own, and
not about these keys. -/
def Written (g : Given) (text : List Char) : Prop :=
  ∃ lines entries others table, Lines (withoutMark text) lines ∧ Mixed keys lines entries others ∧
    entries.Perm g.entries ∧ Table.ofStatements? others = some table

def Bounded (g : Given) : Prop := ∀ key n, (key, some n) ∈ g.numbers → n ≤ twoTo 63 - 1

/-- Settings are what is given, and the defaults where nothing is. -/
structure Agrees (g : Given) (s : Settings) : Prop where
  bind : s.bind = g.bind.getD default.bind
  port : (s.port : Int) = g.port.getD default.port
  portRange : s.port < twoTo 16
  stepSeconds : (s.stepSeconds : Int) = g.stepSeconds.getD default.stepSeconds
  connectSeconds : (s.connectSeconds : Int) = g.connectSeconds.getD default.connectSeconds
  maxBody : (s.maxBody : Int) = g.maxBody.getD default.maxBody
  siteDirectory : s.siteDirectory = g.siteDirectory

end Given

structure Fit (s : Settings) : Prop where
  bind : ∃ c ∈ s.bind.toList, isBlank c = false
  stepSeconds : s.stepSeconds ≠ 0
  connectSeconds : s.connectSeconds ≠ 0
  maxBody : s.maxBody ≠ 0

theorem defect?_eq_none_iff (s : Settings) : s.defect? = none ↔ s.Fit := by
  have blank : s.bind.toList.all isBlank = false ↔ ∃ c ∈ s.bind.toList, isBlank c = false := by
    simp
  rw [defect?]
  constructor
  · intro none
    split at none
    · cases none
    · next bind =>
      split at none
      · cases none
      · next step =>
        split at none
        · cases none
        · next connect =>
          split at none
          · cases none
          · next body => exact ⟨blank.mp (Bool.eq_false_iff.mpr bind), step, connect, body⟩
  · rintro ⟨bind, step, connect, body⟩
    rw [if_neg (by simp [blank.mpr bind]), if_neg step, if_neg connect, if_neg body]

theorem default_fit : default.Fit := (defect?_eq_none_iff default).mp (by decide)

theorem Fit.withPort {s : Settings} (h : s.Fit) (n : Nat) : ({ s with port := n } : Settings).Fit :=
  ⟨h.bind, h.stepSeconds, h.connectSeconds, h.maxBody⟩

namespace Given

theorem map_fst_filterMap {α : Type} (rows : List (String × Option α)) :
    ((rows.filterMap fun (key, value) => value.map (key, ·)).map Prod.fst).Sublist
      (rows.map Prod.fst) := by
  induction rows with
  | nil => exact .slnil
  | cons row rows ih =>
    obtain ⟨key, value⟩ := row
    cases value with
    | none => exact ih.cons key
    | some value => exact ih.cons_cons key

theorem keys_entries (g : Given) : (g.entries.map Prod.fst).Sublist keys :=
  map_fst_filterMap g.rows

theorem mem_entries {g : Given} {key : String} {value : Option Value} :
    (key, value) ∈ g.entries ↔ (key, some value) ∈ g.rows := by
  simp only [entries, List.mem_filterMap, Option.map_eq_some_iff, Prod.mk.injEq, Prod.exists]
  constructor
  · rintro ⟨key', value', there, value'', rfl, rfl, rfl⟩
    exact there
  · intro there
    exact ⟨key, some value, there, value, rfl, rfl, rfl⟩

theorem keys_nodup : keys.Nodup := by decide +kernel

/-- What a table holds for each key, if it holds what is given and nothing for the other keys. -/
theorem get?_of_mem_rows {g : Given} {t : Table} (given : ∀ e ∈ g.entries, t.get? e.1 = e.2)
    (omitted : ∀ n ∈ keys, n ∉ g.entries.map Prod.fst → t.get? n = none) :
    ∀ row ∈ g.rows, t.get? row.1 = row.2.join := by
  rintro ⟨key, value⟩ there
  have distinct : (g.rows.map Prod.fst).Nodup := keys_nodup
  have known : key ∈ g.rows.map Prod.fst := List.mem_map_of_mem there
  cases value with
  | some value => exact given (key, value) (mem_entries.mpr there)
  | none =>
    refine omitted key known fun listed => ?_
    obtain ⟨⟨key', value⟩, given', rfl⟩ := List.mem_map.mp listed
    cases List.inj_on_of_nodup_map distinct there (mem_entries.mp given') rfl

theorem readable_of_isSome {n : Int} (h : (readable n).isSome = true) :
    readable n = some (.integer n) := by
  rw [readable] at h ⊢
  split
  · rfl
  · next small =>
    rw [if_neg small] at h
    cases h

theorem readable_natural (n : Nat) : readable n = some (.integer n) :=
  if_pos (Int.le_trans (Int.neg_nonpos_of_nonneg (Int.natCast_nonneg _)) (Int.natCast_nonneg n))

theorem field?_text {t : Table} {name : String} {given : Option String} (otherwise : String)
    (h : t.get? name = given.map Value.string) :
    field? t name asText? otherwise = some (given.getD otherwise) := by
  rw [field?, h]
  cases given <;> rfl

theorem asNumber?_integer {bound m : Nat} {n : Int} :
    asNumber? bound (.integer n) = some m ↔ (m : Int) = n ∧ m < bound := by
  cases n with
  | ofNat n =>
    simp only [asNumber?, Int.ofNat_eq_natCast, Int.natCast_inj]
    split
    · next small => exact ⟨fun same => by cases same; exact ⟨rfl, small⟩, fun both => by rw [both.1]⟩
    · next large => exact iff_of_false nofun fun both => large (both.1 ▸ both.2)
  | negSucc n => exact iff_of_false nofun fun ⟨same, _⟩ => nomatch same

theorem field?_number {t : Table} {name : String} {given : Option Int} {bound otherwise m : Nat}
    (h : t.get? name = given.map Value.integer) (small : otherwise < bound) :
    field? t name (asNumber? bound) otherwise = some m ↔
      (m : Int) = given.getD otherwise ∧ m < bound := by
  rw [field?, h]
  cases given with
  | some n => exact asNumber?_integer
  | none =>
    simp only [Option.map_none, Option.getD_none, Option.some.injEq, Int.natCast_inj]
    constructor
    · rintro rfl
      exact ⟨rfl, small⟩
    · exact fun both => both.1.symm

theorem join_text (given : Option String) :
    (given.map fun text => some (Value.string text)).join = given.map .string := by
  cases given <;> rfl

theorem join_number {given : Option Int} (h : ∀ n ∈ given, readable n = some (.integer n)) :
    (given.map readable).join = given.map .integer := by
  cases given with
  | none => rfl
  | some n => exact h n rfl

theorem text_row {g : Given} {key : String} {given : Option String} (h : (key, given) ∈ g.texts) :
    (key, given.map fun text => some (Value.string text)) ∈ g.rows :=
  List.mem_append_left _ (List.mem_map_of_mem h)

theorem number_row {g : Given} {key : String} {given : Option Int} (h : (key, given) ∈ g.numbers) :
    (key, given.map readable) ∈ g.rows :=
  List.mem_append_right _ (List.mem_map_of_mem h)

theorem entry_cases {g : Given} {key : String} {value : Option Value}
    (h : (key, value) ∈ g.entries) :
    (∃ text, value = some (.string text)) ∨ ∃ n, (key, some n) ∈ g.numbers ∧ value = readable n := by
  rcases List.mem_append.mp (mem_entries.mp h) with row | row
  · obtain ⟨⟨key', given⟩, -, same⟩ := List.mem_map.mp row
    obtain ⟨text, -, rfl⟩ := Option.map_eq_some_iff.mp (congrArg Prod.snd same)
    exact .inl ⟨text, rfl⟩
  · obtain ⟨⟨key', given⟩, listed, same⟩ := List.mem_map.mp row
    obtain rfl : key' = key := congrArg Prod.fst same
    obtain ⟨n, rfl, rfl⟩ := Option.map_eq_some_iff.mp (congrArg Prod.snd same)
    exact .inr ⟨n, listed, rfl⟩

theorem legible_iff (g : Given) : (∀ e ∈ g.entries, e.2.isSome = true) ↔
    ∀ key n, (key, some n) ∈ g.numbers → readable n = some (.integer n) := by
  constructor
  · intro legible key n hn
    exact readable_of_isSome (legible _ (mem_entries.mpr (number_row hn)))
  · rintro legible ⟨key, value⟩ he
    rcases entry_cases he with ⟨text, rfl⟩ | ⟨n, listed, rfl⟩
    · rfl
    · rw [legible key n listed]
      rfl

theorem Agrees.legible {g : Given} {s : Settings} (a : g.Agrees s) :
    ∀ key n, (key, some n) ∈ g.numbers → readable n = some (.integer n) := by
  have natural {m : Nat} {given : Option Int} {otherwise : Nat} {n : Int}
      (same : (m : Int) = given.getD otherwise) (h : some n = given) :
      readable n = some (.integer n) := by
    subst h
    rw [Option.getD_some] at same
    exact same ▸ readable_natural m
  intro key n hn
  simp only [numbers, List.mem_cons, List.not_mem_nil, or_false, Prod.mk.injEq] at hn
  rcases hn with ⟨-, h⟩ | ⟨-, h⟩ | ⟨-, h⟩ | ⟨-, h⟩
  · exact natural a.port h
  · exact natural a.stepSeconds h
  · exact natural a.connectSeconds h
  · exact natural a.maxBody h

theorem lt_of_getD {given : Option Int} {otherwise m : Nat} (same : (m : Int) = given.getD otherwise)
    (bounded : ∀ n, given = some n → n ≤ twoTo 63 - 1) (small : otherwise < twoTo 63) :
    m < twoTo 64 := by
  have bound : twoTo 64 = 2 * twoTo 63 := rfl
  cases given with
  | none =>
    rw [Option.getD_none] at same
    omega
  | some n =>
    have := bounded n rfl
    rw [Option.getD_some] at same
    omega

theorem ofTable?_eq_some_iff {g : Given} {t : Table}
    (holds : ∀ row ∈ g.rows, t.get? row.1 = row.2.join)
    (legible : ∀ key n, (key, some n) ∈ g.numbers → readable n = some (.integer n))
    (bounded : g.Bounded) (s : Settings) : ofTable? t = some s ↔ g.Agrees s := by
  have text {key : String} {given : Option String} (h : (key, given) ∈ g.texts) :
      t.get? key = given.map .string := (holds _ (text_row h)).trans (join_text given)
  have number {key : String} {given : Option Int} (h : (key, given) ∈ g.numbers)
      {bound otherwise m : Nat} (small : otherwise < bound) :
      field? t key (asNumber? bound) otherwise = some m ↔
        (m : Int) = given.getD otherwise ∧ m < bound :=
    field?_number ((holds _ (number_row h)).trans (join_number fun n same =>
      legible key n (same ▸ h))) small
  have bind : field? t "bind" asText? default.bind = some (g.bind.getD default.bind) :=
    field?_text default.bind (text (by simp [texts]))
  have site : field? t "static_dir" (fun value => (asText? value).map some) default.siteDirectory =
      some g.siteDirectory := by
    have row : t.get? "static_dir" = g.siteDirectory.map .string := text (by simp [texts])
    rw [field?, row]
    cases g.siteDirectory <;> rfl
  have port : ("port", g.port) ∈ g.numbers := by simp [numbers]
  have step : ("step_timeout_secs", g.stepSeconds) ∈ g.numbers := by simp [numbers]
  have connect : ("connect_timeout_secs", g.connectSeconds) ∈ g.numbers := by simp [numbers]
  have body : ("max_body_bytes", g.maxBody) ∈ g.numbers := by simp [numbers]
  have portBound : default.port < twoTo 16 := by decide
  have stepBound : default.stepSeconds < twoTo 63 := by decide
  have connectBound : default.connectSeconds < twoTo 63 := by decide
  have bodyBound : default.maxBody < twoTo 63 := by decide
  have wide {n : Nat} (small : n < twoTo 63) : n < twoTo 64 := Nat.lt_trans small (by decide)
  simp only [ofTable?, bind, site, Option.bind_eq_bind, Option.bind_some, Option.bind_eq_some_iff,
    number port portBound, number step (wide stepBound), number connect (wide connectBound),
    number body (wide bodyBound), Option.some.injEq]
  constructor
  · rintro ⟨p, port, s, step, c, connect, b, body, rfl⟩
    exact ⟨rfl, port.1, port.2, step.1, connect.1, body.1, rfl⟩
  · intro agrees
    have fits {key : String} {given : Option Int} {otherwise m : Nat}
        (same : (m : Int) = given.getD otherwise) (h : (key, given) ∈ g.numbers)
        (small : otherwise < twoTo 63) : m < twoTo 64 :=
      lt_of_getD same (fun n given => bounded key n (given ▸ h)) small
    refine ⟨s.port, ⟨agrees.port, agrees.portRange⟩,
      s.stepSeconds, ⟨agrees.stepSeconds, fits agrees.stepSeconds step stepBound⟩,
      s.connectSeconds, ⟨agrees.connectSeconds, fits agrees.connectSeconds connect connectBound⟩,
      s.maxBody, ⟨agrees.maxBody, fits agrees.maxBody body bodyBound⟩, ?_⟩
    rw [← agrees.bind, ← agrees.siteDirectory]

/-- What is written of settings is what is read. -/
theorem Written.ofText?_eq_some_iff {g : Given} {text : List Char} (written : g.Written text)
    (bounded : g.Bounded) (s : Settings) : ofText? text = some s ↔ g.Agrees s := by
  obtain ⟨lines, entries, others, table, doc, mixed, order, alone⟩ := written
  have distinct : (entries.map Prod.fst).Nodup :=
    ((order.map Prod.fst).nodup_iff).mpr (keys_nodup.sublist g.keys_entries)
  have legible : (lines.mapM id).isSome = true ↔
      ∀ key n, (key, some n) ∈ g.numbers → readable n = some (.integer n) := by
    rw [mixed.readable_iff, ← g.legible_iff]
    exact forall_congr' fun e => by rw [order.mem_iff]
  rw [ofText?, Table.ofText?, doc.read]
  cases all : lines.mapM id with
  | none =>
    refine iff_of_false nofun fun agrees => ?_
    have some := legible.mpr agrees.legible
    rw [all] at some
    cases some
  | some statements =>
    obtain ⟨t, made, given, omitted⟩ := ofStatements?_mixed mixed all distinct alone
    have holds := get?_of_mem_rows (fun e he => given e (order.mem_iff.mpr he)) fun n hn absent =>
      omitted n hn fun there => absent ((order.map Prod.fst).mem_iff.mp there)
    rw [Option.bind_some, made, Option.bind_some]
    exact ofTable?_eq_some_iff holds (legible.mp (by rw [all]; rfl)) bounded s

theorem datum_text (text : String) :
    ∃ cs, ∀ rest, Datum (cs ++ rest) (some (.string text)) rest := by
  refine ⟨'"' :: text.toList.flatMap Quoted.spell ++ ['"'], fun rest => ?_⟩
  have written : Plain ('"' :: (text.toList.flatMap Quoted.spell ++ '"' :: rest))
      (.string (String.ofList text.toList)) rest :=
    .text (.line (.basic (Quoted.basic_spell text.toList rest)))
  rw [String.ofList_toList] at written
  rw [List.cons_append, List.cons_append, List.append_assoc]
  exact .value (.plain written)

theorem datum_number {n : Int} (small : n ≤ twoTo 63 - 1) :
    ∃ cs, ∀ rest, Datum (cs ++ rest) (readable n) rest := by
  obtain ⟨cs, number⟩ := exists_number n
  have wide : n < twoTo 128 := Int.lt_of_le_of_lt small (by decide)
  exact ⟨cs, .number number wide⟩

theorem key_spelt {key : String} (known : key ∈ keys) : key.toList ≠ [] ∧
    key.toList.all isBareChar = true ∧ key.toList.head? ≠ some '\ufeff' := by
  have all : ∀ key ∈ keys, key.toList ≠ [] ∧ key.toList.all isBareChar = true ∧
      key.toList.head? ≠ some '\ufeff' := by decide +kernel
  exact all key known

theorem withoutMark_append {cs rest : List Char} (filled : cs ≠ [])
    (h : cs.head? ≠ some '\ufeff') : withoutMark (cs ++ rest) = cs ++ rest := by
  cases cs with
  | nil => exact absurd rfl filled
  | cons c cs =>
    rw [withoutMark.eq_def]
    split
    · next same =>
      cases same
      exact absurd rfl h
    · rfl

theorem exists_lines {entries : List (String × Option Value)}
    (known : ∀ e ∈ entries, e.1 ∈ keys)
    (spelt : ∀ e ∈ entries, ∃ cs, ∀ rest, Datum (cs ++ rest) e.2 rest) :
    ∃ text lines, withoutMark text = text ∧ Lines text lines ∧ Mixed keys lines entries [] := by
  induction entries with
  | nil =>
    have none : Foreign keys [] [] := trivial
    exact ⟨[], [], rfl, .none, .rest none⟩
  | cons e entries ih =>
    obtain ⟨key, value⟩ := e
    obtain ⟨first, known⟩ := List.forall_mem_cons.mp known
    obtain ⟨⟨cs, datum⟩, spelt⟩ := List.forall_mem_cons.mp spelt
    obtain ⟨text, lines, -, doc, mixed⟩ := ih known spelt
    obtain ⟨filled, bare, unmarked⟩ := key_spelt first
    have line : Stated (key.toList ++ '=' :: (cs ++ '\n' :: text))
        (value.map (.assign ⟨[], key⟩)) ('\n' :: text) :=
      .assign (.mk (.last (.ofString filled bare _)) (.none _) (.none _) (datum _))
    exact ⟨_, _, withoutMark_append filled unmarked,
      .line (.none _) line (.ends (.none _) (.feed text)) doc, .known first value mixed⟩

def ofPort (n : Nat) : Given := ⟨none, some n, none, none, none, none⟩

theorem ofPort_bounded {n : Nat} (small : n < twoTo 16) : (ofPort n).Bounded := by
  intro key m hm
  have limit : (twoTo 16 : Int) ≤ twoTo 63 - 1 := by decide
  simp [numbers, ofPort] at hm
  rw [hm.2]
  omega

theorem ofPort_agrees {n : Nat} (small : n < twoTo 16) :
    (ofPort n).Agrees { default with port := n } :=
  ⟨rfl, rfl, small, rfl, rfl, rfl, rfl⟩

theorem exists_written {g : Given} (bounded : g.Bounded) : ∃ text, g.Written text := by
  have spelt : ∀ e ∈ g.entries, ∃ cs, ∀ rest, Datum (cs ++ rest) e.2 rest := by
    rintro ⟨key, value⟩ he
    rcases entry_cases he with ⟨text, rfl⟩ | ⟨n, listed, rfl⟩
    · exact datum_text text
    · exact datum_number (bounded key n listed)
  have known : ∀ e ∈ g.entries, e.1 ∈ keys := fun e he =>
    g.keys_entries.subset (List.mem_map_of_mem he)
  obtain ⟨text, lines, unmarked, doc, mixed⟩ := exists_lines known spelt
  exact ⟨text, lines, g.entries, [], [], by rwa [unmarked], mixed, .refl _, rfl⟩

end Given

theorem contains_of_readFile {files : FileSystem} {path content : List UInt8}
    (there : files.readFile path = .ok content) : files.contains path = true := by
  rw [FileSystem.contains]
  cases stat : files.stat path with
  | ok node => rfl
  | error e =>
    rw [FileSystem.readFile, stat] at there
    cases there

theorem load_of_readFile {files : FileSystem} {path content : List UInt8}
    (there : files.readFile path = .ok content) :
    load files path = ofBytes (Utf8.textLossy path) content := by
  rw [load, if_pos (contains_of_readFile there), there]

theorem load_malformed {files : FileSystem} {path : List UInt8} {text : List Char}
    (there : files.readFile path = .ok (Utf8.encode text)) (unreadable : ofText? text = none) :
    load files path = .error (.malformed (Utf8.textLossy path)) := by
  rw [load_of_readFile there]
  simp only [ofBytes, Utf8.decode?_encode, unreadable]

theorem load_eq_ok_iff {files : FileSystem} {path : List UInt8} {text : List Char}
    (there : files.readFile path = .ok (Utf8.encode text)) (s : Settings) :
    load files path = .ok s ↔ ofText? text = some s ∧ s.Fit := by
  rw [load_of_readFile there, ← defect?_eq_none_iff]
  simp only [ofBytes, Utf8.decode?_encode]
  cases ofText? text with
  | none => exact iff_of_false nofun nofun
  | some settings =>
    simp only
    cases defect : settings.defect? with
    | none =>
      simp only [Except.ok.injEq, Option.some.injEq]
      exact ⟨fun same => ⟨same, same ▸ defect⟩, fun both => both.1⟩
    | some d =>
      refine iff_of_false nofun ?_
      rintro ⟨same, none⟩
      cases same
      rw [defect] at none
      cases none

end HopProbe.Settings
