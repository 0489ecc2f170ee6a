import HopProbe.Proofs.Toml.Literals
import HopProbe.Proofs.Toml.Numbers
import HopProbe.Toml.Document
import Mathlib.Data.List.DropRight

/-!
# Documents as they are written

The forms of names, keys, values and lines, each from a text to what is left
behind it. A document in these forms is read as what it says.
-/

set_option autoImplicit false

namespace HopProbe.Toml

variable {c : Char} {cs mid rest : List Char}

inductive Name : List Char → String → List Char → Prop
  | bare {cs : List Char} (filled : cs ≠ []) (plain : ∀ c ∈ cs, isBareChar c = true)
    (rest : List Char) : Name (cs ++ rest) (String.ofList cs) rest
  | quoted {cs text rest : List Char} (h : Quoted.Line cs text rest) :
    Name cs (String.ofList text) rest

inductive Dotted : List Char → Key → List Char → Prop
  | last {cs rest : List Char} {name : String} (n : Name cs name rest) : Dotted cs ⟨[], name⟩ rest
  | more {cs mid next body rest : List Char} {name : String} {key : Key} (n : Name cs name mid)
    (b : Blanks mid ('.' :: next)) (b' : Blanks next body) (k : Dotted body key rest) :
    Dotted cs ⟨name :: key.path, key.name⟩ rest

inductive Assignment {α : Type} (Between : List Char → List Char → Prop)
    (Item : List Char → α → List Char → Prop) : List Char → Key × α → List Char → Prop
  | mk {cs mid next body rest : List Char} {key : Key} {a : α} (k : Dotted cs key mid)
    (b : Between mid ('=' :: next)) (b' : Between next body) (i : Item body a rest) :
    Assignment Between Item cs (key, a) rest

/-- Items up to a closing bracket. A comma may follow the last one. -/
inductive Sequence {α : Type} (Item : List Char → α → List Char → Prop) (close : Char) :
    List Char → List α → List Char → Prop
  | none {cs rest : List Char} (g : Gap cs (close :: rest)) : Sequence Item close cs [] rest
  | last {cs mid next rest : List Char} {a : α} (g : Gap cs mid) (i : Item mid a next)
    (g' : Gap next (close :: rest)) : Sequence Item close cs [a] rest
  | more {cs mid next body rest : List Char} {a : α} {as : List α} (g : Gap cs mid)
    (i : Item mid a next) (g' : Gap next (',' :: body)) (h : Sequence Item close body as rest) :
    Sequence Item close cs (a :: as) rest

inductive Plain : List Char → Value → List Char → Prop
  | text {cs text rest : List Char} (t : Quoted.Text cs text rest) :
    Plain cs (.string (String.ofList text)) rest
  | token {cs : List Char} {v : Value} (scalar : ∀ c ∈ cs, isScalarChar c = true)
    (means : Value.ofToken? cs = some v) (rest : List Char) : Plain (cs ++ rest) v rest
  /-- A date and a time with a blank between them. -/
  | moment {date time : List Char} {c : Char} {v : Value} (day : Moment.isDate date = true)
    (scalar : ∀ c ∈ date, isScalarChar c = true) (digit : c.isDigit = true)
    (scalar' : ∀ c ∈ time, isScalarChar c = true)
    (means : Value.ofToken? (date ++ ' ' :: c :: time) = some v) (rest : List Char) :
    Plain (date ++ ' ' :: c :: time ++ rest) v rest

inductive Layer (Inner : List Char → Value → List Char → Prop) :
    List Char → Value → List Char → Prop
  | plain {cs rest : List Char} {v : Value} (p : Plain cs v rest) : Layer Inner cs v rest
  | array {cs rest : List Char} {items : List Value} (s : Sequence Inner ']' cs items rest) :
    Layer Inner ('[' :: cs) (.array items) rest
  | table {cs rest : List Char} {assignments : List (Key × Value)} {table : Table}
    (s : Sequence (Assignment Gap Inner) '\x7d' cs assignments rest)
    (distinct : Table.ofAssignments? assignments = some table) :
    Layer Inner ('\x7b' :: cs) (.table .braces table) rest

def Nested : Nat → List Char → Value → List Char → Prop
  | 0 => Plain
  | room + 1 => Layer (Nested room)

/-- What is assigned on a line. An integer too far below zero is no value. -/
inductive Datum : List Char → Option Value → List Char → Prop
  | value {cs rest : List Char} {v : Value} (h : Nested maxDepth cs v rest) : Datum cs (some v) rest
  | number {cs : List Char} {n : Int} (h : Number cs n) (small : n < Text.twoTo 128)
    (rest : List Char) : Datum (cs ++ rest) (readable n) rest

/-- A statement, unless what it assigns is no value. -/
inductive Stated : List Char → Option Statement → List Char → Prop
  | assign {cs rest : List Char} {key : Key} {datum : Option Value}
    (a : Assignment Blanks Datum cs (key, datum) rest) :
    Stated cs (datum.map (Statement.assign key)) rest
  | table {cs mid next rest : List Char} {key : Key} (b : Blanks cs mid) (k : Dotted mid key next)
    (b' : Blanks next (']' :: rest)) : Stated ('[' :: cs) (some (.table key)) rest
  | element {cs mid next rest : List Char} {key : Key} (b : Blanks cs mid) (k : Dotted mid key next)
    (b' : Blanks next (']' :: ']' :: rest)) : Stated ('[' :: '[' :: cs) (some (.element key)) rest

inductive Lines : List Char → List (Option Statement) → Prop
  | none : Lines [] []
  | blank {cs rest : List Char} {statements : List (Option Statement)} (e : LineEnd cs rest)
    (h : Lines rest statements) : Lines cs statements
  | line {cs mid next rest : List Char} {statement : Option Statement}
    {statements : List (Option Statement)} (b : Blanks cs mid) (s : Stated mid statement next)
    (e : LineEnd next rest) (h : Lines rest statements) : Lines cs (statement :: statements)

def Starts (c : Char) : Prop := isScalarChar c = true ∨ c ∈ ['"', '\'']

instance (c : Char) : Decidable (Starts c) := inferInstanceAs (Decidable (_ ∨ _))

theorem Starts.solid (h : Starts c) : Solid c := by
  intro space
  simp only [List.mem_cons, List.not_mem_nil, or_false] at space
  rcases space with rfl | rfl | rfl | rfl | rfl <;> exact absurd h (by decide)

theorem isScalarChar_of_isBareChar (h : isBareChar c = true) : isScalarChar c = true := by
  simp only [isBareChar, Bool.or_eq_true, beq_iff_eq] at h
  rcases h with (h | rfl) | rfl
  · exact isScalarChar_of_alphanum h
  · decide
  · decide

theorem Quoted.Line.starts {text : List Char} (h : Quoted.Line cs text rest) :
    ∃ c more, cs = c :: more ∧ c ∈ ['"', '\''] := by
  cases h with
  | basic | literal => exact ⟨_, _, rfl, by decide⟩

theorem Name.ofString {name : String} (filled : name.toList ≠ [])
    (plain : name.toList.all isBareChar = true) (rest : List Char) :
    Name (name.toList ++ rest) name rest := by
  have written := Name.bare filled (List.all_eq_true.mp plain) rest
  rwa [String.ofList_toList] at written

theorem Name.starts {name : String} (h : Name cs name rest) : ∃ c more, cs = c :: more ∧ Starts c := by
  cases h with
  | @bare cs filled plain rest =>
    cases cs with
    | nil => exact absurd rfl filled
    | cons c cs =>
      exact ⟨c, cs ++ rest, rfl, .inl (isScalarChar_of_isBareChar (plain c List.mem_cons_self))⟩
  | quoted h =>
    obtain ⟨c, more, same, quote⟩ := h.starts
    exact ⟨c, more, same, .inr quote⟩

theorem Name.length_lt {name : String} (h : Name cs name rest) : rest.length < cs.length := by
  cases h with
  | bare filled plain rest =>
    have := List.length_pos_iff.mpr filled
    rw [List.length_append]
    omega
  | quoted h => exact h.length_lt

theorem takeWhile_append_of_head {p : Char → Bool} (all : ∀ c ∈ cs, p c = true)
    (stops : ∀ c ∈ rest.head?, p c = false) : (cs ++ rest).takeWhile p = cs := by
  rw [List.takeWhile_append_of_pos all]
  cases rest with
  | nil => simp
  | cons c rest => simp [stops c rfl]

theorem Name.read {name : String} (h : Name cs name rest)
    (stops : ∀ c ∈ rest.head?, isBareChar c = false) : name? cs = some (name, rest) := by
  cases h with
  | @bare cs filled plain rest =>
    have bare {c : Char} {more : List Char} (same : cs ++ rest = c :: more) :
        isBareChar c = true := by
      cases cs with
      | nil => exact absurd rfl filled
      | cons d cs =>
        cases same
        exact plain _ List.mem_cons_self
    rw [name?.eq_def]
    split
    · next same => exact absurd (bare same) (by decide)
    · next same => exact absurd (bare same) (by decide)
    · dsimp only
      rw [takeWhile_append_of_head plain stops, if_neg (by simpa using filled),
        List.drop_left]
  | quoted h =>
    have read := h.read
    cases h with
    | basic h => rw [name?, read]; rfl
    | literal h => rw [name?, read]; rfl

theorem Dotted.starts {key : Key} (h : Dotted cs key rest) : ∃ c more, cs = c :: more ∧ Starts c := by
  cases h with
  | last n | more n => exact n.starts

theorem Dotted.ofStrings {path : List String} {name : String}
    (bare : ∀ n ∈ name :: path, n.toList ≠ [] ∧ n.toList.all isBareChar = true)
    (rest : List Char) :
    Dotted ((path.flatMap fun n => n.toList ++ ['.']) ++ (name.toList ++ rest)) ⟨path, name⟩ rest := by
  rw [List.forall_mem_cons] at bare
  obtain ⟨⟨filled, plain⟩, bare⟩ := bare
  induction path with
  | nil => exact .last (.ofString filled plain rest)
  | cons first path ih =>
    rw [List.forall_mem_cons] at bare
    obtain ⟨⟨filled', plain'⟩, bare⟩ := bare
    rw [List.flatMap_cons, List.append_assoc, List.append_assoc]
    exact .more (.ofString filled' plain' _) (.none _) (.none _) (ih bare)

theorem Dotted.length_lt {key : Key} (h : Dotted cs key rest) : rest.length < cs.length := by
  induction h with
  | last n => exact n.length_lt
  | more n b b' k ih =>
    have := n.length_lt
    have := b.length_le
    have := b'.length_le
    simp only [List.length_cons] at *
    omega

def KeyEnd (rest : List Char) : Prop :=
  (∀ c ∈ rest.head?, isBareChar c = false) ∧ ∀ c ∈ (skipSpaces rest).head?, c ≠ '.'

theorem not_isBareChar_of_isSpace (h : isSpace c = true) : isBareChar c = false := by
  simp only [isSpace, Bool.or_eq_true, beq_iff_eq] at h
  rcases h with rfl | rfl <;> decide

theorem Gap.keyEnd (g : Gap cs (c :: rest)) (solid : Solid c) (other : isBareChar c = false ∧ c ≠ '.') :
    KeyEnd cs := by
  have behind : ∀ d ∈ (skipSpaces cs).head?, isBareChar d = false ∧ d ≠ '.' := by
    intro d hd
    rcases g.head solid d hd with space | rfl
    · simp only [List.mem_cons, List.not_mem_nil, or_false] at space
      rcases space with rfl | rfl | rfl <;> decide
    · exact other
  exact ⟨fun d hd => (head_cases cs d hd).elim not_isBareChar_of_isSpace fun h => (behind d h).1,
    fun d hd => (behind d hd).2⟩

theorem Dotted.read {key : Key} (h : Dotted cs key rest) (e : KeyEnd rest) :
    key? cs = some (key, skipSpaces rest) := by
  induction h with
  | last n =>
    rw [key?, n.read e.1]
    dsimp only
    split
    · next same => exact absurd rfl (e.2 '.' (by rw [same]; rfl))
    · rfl
  | @more cs mid next body rest name key n b b' k ih =>
    have stops : ∀ c ∈ mid.head?, isBareChar c = false := by
      intro c hc
      rcases head_cases _ c hc with space | first
      · exact not_isBareChar_of_isSpace space
      · rw [b.skip_solid (by decide)] at first
        cases first
        decide
    obtain ⟨c, more, rfl, start⟩ := k.starts
    have shorter : (c :: more).length < cs.length := by
      have := n.length_lt
      have := b.length_le
      have := b'.length_le
      simp only [List.length_cons] at *
      omega
    rw [key?, n.read stops]
    dsimp only
    rw [b.skip_solid (by decide)]
    simp only [b'.skip_solid start.solid, shorter, if_true, ih e]
    rfl

structure Spacing (Between : List Char → List Char → Prop)
    (skip : List Char → Option (List Char)) : Prop where
  gap {cs rest : List Char} (b : Between cs rest) : Gap cs rest
  skip_skipSpaces (cs : List Char) : skip (skipSpaces cs) = skip cs
  skips {c : Char} {cs rest : List Char} (b : Between cs (c :: rest)) (solid : Solid c) :
    skip cs = some (c :: rest)

theorem blanks_spacing : Spacing Blanks (some ∘ skipSpaces) where
  gap b := b.gap
  skips b solid := congrArg some (b.skip_solid solid)
  skip_skipSpaces cs := by
    rw [Function.comp_apply, Function.comp_apply, skipSpaces, skipSpaces, List.dropWhile_idempotent]

theorem gap_spacing : Spacing Gap (skipGap false) where
  gap g := g
  skips g solid := g.skip_solid solid
  skip_skipSpaces := skipGap_skipSpaces

theorem Spacing.read {Between : List Char → List Char → Prop}
    {skip : List Char → Option (List Char)} (s : Spacing Between skip) {next body : List Char}
    {key : Key} (k : Dotted cs key mid) (b : Between mid ('=' :: next))
    (b' : Between next (c :: body)) (solid : Solid c)
    (value : List Char → Option (Value × List Char)) :
    assignment? skip value cs = (value (c :: body)).map fun (v, rest) => ((key, v), rest) := by
  have e : KeyEnd mid := (s.gap b).keyEnd (by decide) (by decide)
  have sign : skip (skipSpaces mid) = some ('=' :: next) := by
    rw [s.skip_skipSpaces, s.skips b (by decide)]
  simp only [assignment?, k.read e, bind, Option.bind, sign, s.skips b' solid]
  cases value (c :: body) <;> rfl

/-- What is so of the forms of items: they are read where no more can follow, start with no
space, and are not empty. -/
structure Legible {α : Type} (Item : List Char → α → List Char → Prop)
    (item? : List Char → Option (α × List Char)) (close : Char) : Prop where
  read {cs rest : List Char} {a : α} (i : Item cs a rest) (e : Ended rest) :
    item? cs = some (a, rest)
  starts {cs rest : List Char} {a : α} (i : Item cs a rest) :
    ∃ c more, cs = c :: more ∧ Solid c ∧ c ≠ close
  length_lt {cs rest : List Char} {a : α} (i : Item cs a rest) : rest.length < cs.length

section Sequence

variable {α : Type} {Item : List Char → α → List Char → Prop}
  {item? : List Char → Option (α × List Char)} {close : Char} {as : List α}

theorem Sequence.length_lt (h : Sequence Item close cs as rest) (r : Legible Item item? close) :
    rest.length < cs.length := by
  induction h with
  | none g => exact g.length_le
  | last g i g' =>
    have := g.length_le
    have := r.length_lt i
    have := g'.length_le
    simp only [List.length_cons] at *
    omega
  | more g i g' h ih =>
    have := g.length_le
    have := r.length_lt i
    have := g'.length_le
    simp only [List.length_cons] at *
    omega

theorem Sequence.read (h : Sequence Item close cs as rest) (r : Legible Item item? close)
    (closes : close ∈ [']', '}']) : sequence? item? close cs = some (as, rest) := by
  have solid : Solid close := by
    simp only [List.mem_cons, List.not_mem_nil, or_false] at closes
    rcases closes with rfl | rfl <;> decide
  have comma : ',' ≠ close := by
    rintro rfl
    exact absurd closes (by decide)
  induction h with
  | none g =>
    rw [sequence?, g.skip_solid solid]
    exact if_pos rfl
  | last g i g' =>
    obtain ⟨c, more, rfl, start, other⟩ := r.starts i
    have item := r.read i (g'.ended (List.mem_cons_of_mem _ closes))
    rw [sequence?]
    simp only [g.skip_solid start, other, if_false, item, g'.skip_solid solid, if_true]
  | @more cs mid next body rest a as g i g' h ih =>
    obtain ⟨c, more, rfl, start, other⟩ := r.starts i
    have item := r.read i (g'.ended List.mem_cons_self)
    have shorter : body.length < cs.length := by
      have := g.length_le
      have := r.length_lt i
      have := g'.length_le
      simp only [List.length_cons] at *
      omega
    rw [sequence?]
    simp only [g.skip_solid start, other, if_false, item, g'.skip_solid (by decide : Solid ','),
      comma, shorter, true_and, if_true, ih]
    rfl

end Sequence

theorem Ended.stops (e : Ended rest) :
    (∀ c ∈ rest.head?, isScalarChar c = false ∧ c ≠ '"' ∧ c ≠ '\'') ∧
      ∀ c more, rest = ' ' :: c :: more → c.isDigit = false := by
  have behind {d : Char} (hd : d ∈ ['#', '\n', '\r', ',', ']', '}']) :
      isScalarChar d = false ∧ d ≠ '"' ∧ d ≠ '\'' ∧ d.isDigit = false := by
    simp only [List.mem_cons, List.not_mem_nil, or_false] at hd
    rcases hd with rfl | rfl | rfl | rfl | rfl | rfl <;> decide
  have blank {d : Char} (hd : isSpace d = true) :
      isScalarChar d = false ∧ d ≠ '"' ∧ d ≠ '\'' ∧ d.isDigit = false := by
    simp only [isSpace, Bool.or_eq_true, beq_iff_eq] at hd
    rcases hd with rfl | rfl <;> decide
  constructor
  · intro c hc
    rcases head_cases _ c hc with space | first
    · exact ⟨(blank space).1, (blank space).2.1, (blank space).2.2.1⟩
    · have found := behind (e c first)
      exact ⟨found.1, found.2.1, found.2.2.1⟩
  · rintro c more rfl
    rcases head_cases (c :: more) c rfl with space | first
    · exact (blank space).2.2.2
    · exact (behind (e c first)).2.2.2

theorem scalarToken_append (scalar : ∀ c ∈ cs, isScalarChar c = true) (e : Ended rest) :
    scalarToken (cs ++ rest) = cs := by
  have token := takeWhile_append_of_head scalar fun c hc => (e.stops.1 c hc).1
  rw [scalarToken, token, List.drop_left]
  split
  · next c more =>
    rw [e.stops.2 c more rfl, Bool.and_false, if_neg Bool.false_ne_true]
  · rfl

theorem scalarToken_moment {date time : List Char} (day : Moment.isDate date = true)
    (scalar : ∀ c ∈ date, isScalarChar c = true) (digit : c.isDigit = true)
    (scalar' : ∀ c ∈ time, isScalarChar c = true) (e : Ended rest) :
    scalarToken (date ++ ' ' :: c :: time ++ rest) = date ++ ' ' :: c :: time := by
  have token : (date ++ ' ' :: c :: (time ++ rest)).takeWhile isScalarChar = date :=
    takeWhile_append_of_head scalar fun d hd => by cases hd; decide
  have digits : isScalarChar c = true :=
    isScalarChar_of_alphanum (by rw [Char.isAlphanum, digit, Bool.or_true])
  have clock : (c :: time ++ rest).takeWhile isScalarChar = c :: time :=
    takeWhile_append_of_head (List.forall_mem_cons.mpr ⟨digits, scalar'⟩)
      fun c hc => (e.stops.1 c hc).1
  rw [List.append_assoc, List.cons_append, List.cons_append, scalarToken, token, List.drop_left]
  simp only [day, digit, Bool.and_self, if_true]
  exact congrArg (date ++ ' ' :: ·) clock

theorem value?_token (room : Nat) {token : List Char}
    (start : ∃ c more, token = c :: more ∧ isScalarChar c = true)
    (same : scalarToken (token ++ rest) = token) :
    value? room (token ++ rest) = (Value.ofToken? token).map fun v => (v, rest) := by
  obtain ⟨c, more, rfl, scalar⟩ := start
  have other {d : Char} (none : isScalarChar d = false) {tail : List Char} :
      c :: more ++ rest ≠ d :: tail := by
    intro same
    cases same
    rw [none] at scalar
    cases scalar
  rw [value?.eq_def]
  split
  · next same => exact absurd same (other (by decide))
  · next same => exact absurd same (other (by decide))
  · next same => exact absurd same (other (by decide))
  · next same => exact absurd same (other (by decide))
  · dsimp only
    rw [same, List.drop_left]

theorem token_starts {v : Value} (scalar : ∀ c ∈ cs, isScalarChar c = true)
    (means : Value.ofToken? cs = some v) : ∃ c more, cs = c :: more ∧ isScalarChar c = true := by
  cases cs with
  | nil => cases means
  | cons c cs => exact ⟨c, cs, rfl, scalar c List.mem_cons_self⟩

theorem date_starts (day : Moment.isDate cs = true) (scalar : ∀ c ∈ cs, isScalarChar c = true) :
    ∃ c more, cs = c :: more ∧ isScalarChar c = true := by
  cases cs with
  | nil => cases day
  | cons c cs => exact ⟨c, cs, rfl, scalar c List.mem_cons_self⟩

theorem Quoted.Text.starts {text : List Char} (h : Quoted.Text cs text rest) :
    ∃ c more, cs = c :: more ∧ c ∈ ['"', '\''] := by
  cases h with
  | line h => exact h.starts
  | basic | literal => exact ⟨_, _, rfl, by decide⟩

theorem value?_text (room : Nat) (start : ∃ c more, cs = c :: more ∧ c ∈ ['"', '\'']) :
    value? room cs =
      (Quoted.text? cs).map fun (text, rest) => (.string (String.ofList text), rest) := by
  obtain ⟨c, more, rfl, quote⟩ := start
  simp only [List.mem_cons, List.not_mem_nil, or_false] at quote
  rcases quote with rfl | rfl <;> cases room <;> simp only [value?]

theorem Plain.read {v : Value} (h : Plain cs v rest) (room : Nat) (e : Ended rest) :
    value? room cs = some (v, rest) := by
  cases h with
  | text t =>
    have apart : rest.head? ≠ some '"' ∧ rest.head? ≠ some '\'' :=
      ⟨fun same => (e.stops.1 '"' same).2.1 rfl, fun same => (e.stops.1 '\'' same).2.2 rfl⟩
    rw [value?_text room t.starts, t.read apart]
    rfl
  | @token cs v scalar means rest =>
    rw [value?_token room (token_starts scalar means) (scalarToken_append scalar e), means]
    rfl
  | moment day scalar digit scalar' means rest =>
    obtain ⟨d, more, same, start⟩ := date_starts day scalar
    rw [value?_token room ⟨d, _, by rw [same]; rfl, start⟩
      (scalarToken_moment day scalar digit scalar' e), means]
    rfl

theorem Plain.starts {v : Value} (h : Plain cs v rest) : ∃ c more, cs = c :: more ∧ Starts c := by
  cases h with
  | text t =>
    obtain ⟨c, more, same, quote⟩ := t.starts
    exact ⟨c, more, same, .inr quote⟩
  | token scalar means rest =>
    obtain ⟨c, more, rfl, start⟩ := token_starts scalar means
    exact ⟨c, _, rfl, .inl start⟩
  | moment day scalar digit scalar' means rest =>
    obtain ⟨c, more, rfl, start⟩ := date_starts day scalar
    exact ⟨c, _, rfl, .inl start⟩

theorem Plain.length_lt {v : Value} (h : Plain cs v rest) : rest.length < cs.length := by
  cases h with
  | text t => exact t.length_lt
  | token scalar means rest =>
    obtain ⟨c, more, rfl, start⟩ := token_starts scalar means
    simp only [List.length_append, List.length_cons]
    omega
  | moment =>
    simp only [List.length_append, List.length_cons]
    omega

theorem Nested.starts {room : Nat} {v : Value} (h : Nested room cs v rest) :
    ∃ c more, cs = c :: more ∧ (Starts c ∨ c ∈ ['[', '{']) := by
  have plain (p : Plain cs v rest) : ∃ c more, cs = c :: more ∧ (Starts c ∨ c ∈ ['[', '{']) := by
    obtain ⟨c, more, same, start⟩ := p.starts
    exact ⟨c, more, same, .inl start⟩
  cases room with
  | zero => exact plain h
  | succ room =>
    cases h with
    | plain p => exact plain p
    | array | table => exact ⟨_, _, rfl, .inr (by decide)⟩

theorem solid_of_opens (h : Starts c ∨ c ∈ ['[', '{']) : Solid c := by
  rcases h with start | bracket
  · exact start.solid
  · simp only [List.mem_cons, List.not_mem_nil, or_false] at bracket
    rcases bracket with rfl | rfl <;> decide

theorem Assignment.length_lt {α : Type} {Between : List Char → List Char → Prop}
    {Item : List Char → α → List Char → Prop} {skip : List Char → Option (List Char)}
    (s : Spacing Between skip) {assigned : Key × α} (h : Assignment Between Item cs assigned rest)
    (shorter : ∀ {cs rest : List Char} {a : α}, Item cs a rest → rest.length < cs.length) :
    rest.length < cs.length := by
  cases h with
  | mk k b b' i =>
    have := k.length_lt
    have := (s.gap b).length_le
    have := (s.gap b').length_le
    have := shorter i
    simp only [List.length_cons] at *
    omega

theorem Legible.assignment {Item : List Char → Value → List Char → Prop}
    {value : List Char → Option (Value × List Char)} {close : Char}
    (v : Legible Item value close) :
    Legible (Assignment Gap Item) (assignment? (skipGap false) value) '\x7d' where
  read i e := by
    cases i with
    | mk k b b' i =>
      obtain ⟨c, more, rfl, solid, -⟩ := v.starts i
      rw [gap_spacing.read k b b' solid value, v.read i e]
      rfl
  starts i := by
    cases i with
    | mk k b b' i =>
      obtain ⟨c, more, rfl, start⟩ := k.starts
      exact ⟨c, more, rfl, start.solid, by rintro rfl; exact absurd start (by decide)⟩
  length_lt i := i.length_lt gap_spacing v.length_lt

/-- What is written is read, however deep it is. -/
theorem nested_legible (room : Nat) : Legible (Nested room) (value? room) ']' := by
  have starts {room : Nat} {cs rest : List Char} {v : Value} (h : Nested room cs v rest) :
      ∃ c more, cs = c :: more ∧ Solid c ∧ c ≠ ']' := by
    obtain ⟨c, more, same, start⟩ := h.starts
    exact ⟨c, more, same, solid_of_opens start, by rintro rfl; exact absurd start (by decide)⟩
  induction room with
  | zero => exact ⟨fun h e => Plain.read h 0 e, starts, Plain.length_lt⟩
  | succ room ih =>
    refine ⟨fun h e => ?_, starts, fun h => ?_⟩
    · cases h with
      | plain p => exact p.read (room + 1) e
      | array s =>
        simp only [value?, s.read ih (by decide)]
        rfl
      | table s distinct =>
        simp only [value?, s.read ih.assignment (by decide), bind, Option.bind, distinct]
    · cases h with
      | plain p => exact p.length_lt
      | array s => exact Nat.lt_succ_of_lt (s.length_lt ih)
      | table s distinct => exact Nat.lt_succ_of_lt (s.length_lt ih.assignment)

theorem Datum.read {datum : Option Value} (h : Datum cs datum rest) (e : Ended rest) :
    value? maxDepth cs = datum.map fun v => (v, rest) := by
  cases h with
  | value h => exact (nested_legible maxDepth).read h e
  | number h small rest =>
    rw [value?_token maxDepth h.starts (scalarToken_append h.scalar e), h.value small]

theorem Datum.starts {datum : Option Value} (h : Datum cs datum rest) :
    ∃ c more, cs = c :: more ∧ Solid c := by
  cases h with
  | value h =>
    obtain ⟨c, more, same, start⟩ := h.starts
    exact ⟨c, more, same, solid_of_opens start⟩
  | number h small rest =>
    obtain ⟨c, more, rfl, scalar⟩ := h.starts
    exact ⟨c, more ++ rest, rfl, Starts.solid (.inl scalar)⟩

theorem Datum.length_lt {datum : Option Value} (h : Datum cs datum rest) :
    rest.length < cs.length := by
  cases h with
  | value h => exact (nested_legible maxDepth).length_lt h
  | number h small rest =>
    obtain ⟨c, more, rfl, -⟩ := h.starts
    simp only [List.length_append, List.length_cons]
    omega

theorem Stated.starts {statement : Option Statement} (h : Stated cs statement rest) :
    ∃ c more, cs = c :: more ∧ Solid c := by
  cases h with
  | assign a =>
    cases a with
    | mk k =>
      obtain ⟨c, more, same, start⟩ := k.starts
      exact ⟨c, more, same, start.solid⟩
  | table | element => exact ⟨_, _, rfl, by decide⟩

theorem Stated.length_lt {statement : Option Statement} (h : Stated cs statement rest) :
    rest.length < cs.length := by
  have header {cs mid next rest : List Char} {key : Key} (b : Blanks cs mid)
      (k : Dotted mid key next) (b' : Blanks next rest) : rest.length < cs.length := by
    have := b.length_le
    have := k.length_lt
    have := b'.length_le
    omega
  cases h with
  | assign a => exact a.length_lt blanks_spacing Datum.length_lt
  | table b k b' =>
    have := header b k b'
    simp only [List.length_cons] at *
    omega
  | element b k b' =>
    have := header b k b'
    simp only [List.length_cons] at *
    omega

theorem header?_dotted {key : Key} {next : List Char} (b : Blanks cs mid) (k : Dotted mid key next)
    (close : List Char) (b' : Blanks next (']' :: close ++ rest)) :
    header? (']' :: close) cs = some (key, rest) := by
  obtain ⟨c, more, rfl, start⟩ := k.starts
  have e : KeyEnd next := b'.gap.keyEnd (by decide) (by decide)
  have brackets : skipSpaces next = (']' :: close) ++ rest := b'.skip_solid (by decide)
  simp only [header?, b.skip_solid start.solid, k.read e, bind, Option.bind, brackets,
    Text.stripStart_append]

theorem Stated.read {statement : Option Statement} (h : Stated cs statement rest) (e : Ended rest) :
    Statement.read? cs = statement.map fun s => (s, rest) := by
  cases h with
  | @assign cs rest key datum a =>
    cases a with
    | mk k b b' i =>
      obtain ⟨c, more, rfl, start⟩ := k.starts
      obtain ⟨d, body, rfl, solid⟩ := i.starts
      have plain : c ≠ '[' := by
        rintro rfl
        exact absurd start (by decide)
      rw [Statement.read?.eq_def]
      split
      · next same => exact absurd (List.cons.inj same).1 plain
      · next same => exact absurd (List.cons.inj same).1 plain
      · rw [blanks_spacing.read k b b' solid, i.read e]
        cases datum <;> rfl
  | @table cs mid next rest key b k b' =>
    have single {more : List Char} (same : cs = '[' :: more) : False := by
      obtain ⟨c, body, rfl, start⟩ := k.starts
      rcases head_cases cs '[' (by rw [same]; rfl) with space | first
      · exact absurd space (by decide)
      · rw [b.skip_solid start.solid] at first
        cases first
        exact absurd start (by decide)
    rw [Statement.read?.eq_def]
    split
    · next same => exact (single (List.cons.inj same).2).elim
    · next same =>
      cases same
      rw [header?_dotted b k [] b']
      rfl
    · next other => exact (other _ rfl).elim
  | element b k b' =>
    rw [Statement.read?, header?_dotted b k [']'] b']
    rfl

/-- The lines of a document are read as their statements, if each of them is one. -/
theorem Lines.read {statements : List (Option Statement)} (h : Lines cs statements) :
    statements? cs = statements.mapM id := by
  induction h with
  | none =>
    rw [statements?]
    rfl
  | @blank cs rest statements e h ih =>
    by_cases filled : cs = []
    · subst filled
      rw [← ih, e.of_nil]
    · rw [statements?, if_neg filled, e.lineEnd?, ← ih]
      exact if_pos (e.length_lt filled)
  | @line cs mid next rest statement statements b s e h ih =>
    obtain ⟨c, more, rfl, solid⟩ := s.starts
    have shorter : next.length < cs.length := Nat.lt_of_lt_of_le s.length_lt b.length_le
    have filled : cs ≠ [] := List.ne_nil_of_length_pos (Nat.zero_lt_of_lt shorter)
    rw [statements?, if_neg filled, lineEnd?_solid b solid, b.skip_solid solid, s.read e.ended,
      List.mapM_cons]
    cases statement with
    | none => rfl
    | some s =>
      simp only [Option.map_some, e.lineEnd?, Nat.lt_of_le_of_lt e.length_le shorter, if_true, ih]
      cases statements.mapM id <;> rfl

end HopProbe.Toml
