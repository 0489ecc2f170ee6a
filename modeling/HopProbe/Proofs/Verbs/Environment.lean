import HopProbe.Proofs.Text.Cut
import HopProbe.Proofs.Text.Keyed
import HopProbe.Proofs.Text.Order
import HopProbe.Proofs.Verbs.Change

/-!
# Reports of the environment

Behind the keyword a name asks for one variable. Without the keyword it is no
name at all but a first word like any other, and the report is of all variables.
The system compares no names: it looks for a variable that begins with the name
and an equals sign, so that a name which goes on behind an equals sign can be
answered from within the value of another.
-/

set_option autoImplicit false

namespace HopProbe.Verbs.Info
open HopProbe.Text

def IsName (name : List UInt8) : Prop := name ≠ [] ∧ equals ∉ name

instance (name : List UInt8) : Decidable (IsName name) := inferInstanceAs (Decidable (_ ∧ _))

/-- The variables of a process. -/
structure Proper (environment : Environment) : Prop where
  named : ∀ v ∈ environment, IsName v.1
  distinct : (environment.map Prod.fst).Nodup

/-- What is found under a name: the value of its variable or, where the name goes on behind the name
of a variable and an equals sign, what that variable has behind as much. -/
inductive Held (environment : Environment) (name : List UInt8) : List UInt8 → Prop
  | whole {value : List UInt8} (there : (name, value) ∈ environment) : Held environment name value
  | within {front rest value : List UInt8} (split : name = front ++ equals :: rest)
    (there : (front, rest ++ equals :: value) ∈ environment) : Held environment name value

section
variable {environment : Environment} {name value : List UInt8}

theorem Proper.value_eq (proper : Proper environment) {other : List UInt8}
    (there : (name, value) ∈ environment) (too : (name, other) ∈ environment) : value = other :=
  congrArg Prod.snd (List.inj_on_of_nodup_map proper.distinct there too rfl)

theorem Held.ne_nil (proper : Proper environment) (h : Held environment name value) : name ≠ [] := by
  cases h with
  | whole there => exact (proper.named _ there).1
  | within split _ => simp [split]

theorem Held.unique (proper : Proper environment) {other : List UInt8}
    (first : Held environment name value) (second : Held environment name other) :
    value = other := by
  cases first with
  | whole there =>
    have noEquals := (proper.named _ there).2
    cases second with
    | whole too => exact proper.value_eq there too
    | within split _ => simp [split] at noEquals
  | @within front rest _ split there =>
    cases second with
    | whole too =>
      have noEquals := (proper.named _ too).2
      simp [split] at noEquals
    | @within front' rest' _ split' too =>
      obtain ⟨rfl, rfl⟩ :=
        (append_sep_inj (proper.named _ there).2 (proper.named _ too).2).mp (split.symm.trans split')
      have same := proper.value_eq there too
      rw [List.append_cancel_left_eq] at same
      exact (List.cons.inj same).2

theorem held_of_kept {n v : List UInt8} (named : IsName n) (there : (n, v) ∈ environment)
    (h : kept (n, v) = name ++ [equals] ++ value) : Held environment name value := by
  have same : n ++ equals :: v = name ++ equals :: value := by simpa [kept] using h
  -- The first equals sign of a variable ends its name: it is one of the name that is asked for, or
  -- the one behind that.
  by_cases inside : equals ∈ name
  · obtain ⟨front, more, split, first⟩ := List.eq_append_cons_of_mem inside
    rw [split, List.append_assoc, List.cons_append, append_sep_inj named.2 first] at same
    obtain ⟨rfl, behind⟩ := same
    exact .within split (behind ▸ there)
  · rw [append_sep_inj named.2 inside] at same
    obtain ⟨rfl, rfl⟩ := same
    exact .whole there

theorem kept_of_held (h : Held environment name value) :
    ∃ v ∈ environment, kept v = name ++ [equals] ++ value := by
  cases h with
  | whole there => exact ⟨_, there, by simp [kept]⟩
  | within split there => exact ⟨_, there, by simp [kept, split]⟩

theorem valueOf?_eq_some_iff (proper : Proper environment) :
    valueOf? environment name = some value ↔ Held environment name value := by
  have sound {found : List UInt8} (h : valueOf? environment name = some found) :
      Held environment name found := by
    rw [valueOf?] at h
    split at h
    · cases h
    · obtain ⟨⟨n, v⟩, there, strip⟩ := List.exists_of_findSome?_eq_some h
      exact held_of_kept (proper.named _ there) there (stripStart_eq_some_iff.mp strip)
  refine ⟨sound, fun held => ?_⟩
  cases found : valueOf? environment name with
  | some other => rw [(sound found).unique proper held]
  | none =>
    obtain ⟨v, there, same⟩ := kept_of_held held
    rw [valueOf?, if_neg (by simpa using held.ne_nil proper), List.findSome?_eq_none_iff] at found
    have missed := found v there
    rw [same, stripStart_append] at missed
    cases missed

/-- Under what can be a name there is the value of its variable alone. -/
theorem held_iff_mem (proper : Proper environment)
    (plain : ¬ ∃ front rest, IsName front ∧ name = front ++ equals :: rest) :
    Held environment name value ↔ (name, value) ∈ environment := by
  refine ⟨fun h => ?_, .whole⟩
  cases h with
  | whole there => exact there
  | @within front rest _ split there =>
    exact absurd ⟨front, rest, proper.named _ there, split⟩ plain

end

def shownName (v : List UInt8 × List UInt8) : String := Utf8.textLossy v.1

section
variable {environment : Environment} {name : String} {value : List UInt8}

theorem lastValue?_texts {found : String} :
    lastValue? (texts environment) name = some found ↔
      ∃ v, LastOf shownName name environment v ∧ Utf8.textLossy v.2 = found := by
  have same : lastValue? (texts environment) name =
      (environment.reverse.find? fun v => shownName v == name).map fun v => Utf8.textLossy v.2 := by
    rw [lastValue?, texts, ← List.map_reverse, List.find?_map, Option.map_map]
    rfl
  rw [same, Option.map_eq_some_iff]
  simp only [find?_reverse_eq_some_iff_lastOf]

/-- All variables are arranged by their names, and of those with names that look alike the last. -/
theorem mem_arranged {found : String} :
    (name, found) ∈ arranged environment ↔
      ∃ v, LastOf shownName name environment v ∧ Utf8.textLossy v.2 = found := by
  rw [arranged, List.mem_map, ← lastValue?_texts]
  constructor
  · rintro ⟨key, there, same⟩
    obtain ⟨rfl, rfl⟩ := Prod.mk.inj same
    obtain ⟨v, inside, keyed⟩ : ∃ v ∈ environment, shownName v = key := by
      simpa [mem_ascending, texts, shownName] using there
    obtain ⟨last, latest⟩ := exists_lastOf_iff.mpr ⟨v, inside, keyed⟩
    have value := lastValue?_texts.mpr ⟨last, latest, rfl⟩
    rw [value, Option.getD_some]
  · intro value
    refine ⟨name, ?_, by rw [value, Option.getD_some]⟩
    obtain ⟨v, latest, -⟩ := lastValue?_texts.mp value
    rw [mem_ascending, texts, List.map_map, List.mem_map]
    exact ⟨v, latest.mem, latest.keyed⟩

theorem arranged_names : (arranged environment).map Prod.fst =
    ascending ((texts environment).map Prod.fst) := by
  rw [arranged, List.map_map]
  exact List.map_id _

theorem arranged_ordered :
    (arranged environment).Pairwise fun a b => Utf8.bytes a.1 < Utf8.bytes b.1 := by
  have names := ascending_ordered ((texts environment).map Prod.fst)
  rw [← arranged_names, List.pairwise_map] at names
  exact names

theorem arranged_perm (distinct : ((texts environment).map Prod.fst).Nodup) :
    (arranged environment).Perm (texts environment) := by
  have names : (environment.map shownName).Nodup := by
    rw [texts, List.map_map] at distinct
    exact distinct
  have once : (arranged environment).Nodup := by
    refine List.Nodup.of_map Prod.fst ?_
    rw [arranged_names]
    exact ascending_nodup _
  rw [List.perm_ext_iff_of_nodup once (List.Nodup.of_map Prod.fst distinct)]
  rintro ⟨n, found⟩
  rw [mem_arranged, texts, List.mem_map]
  simp only [lastOf_iff_mem names]
  constructor
  · rintro ⟨v, ⟨there, keyed⟩, same⟩
    exact ⟨v, there, Prod.ext keyed same⟩
  · rintro ⟨v, there, same⟩
    obtain ⟨rfl, rfl⟩ := Prod.mk.inj same
    exact ⟨v, ⟨there, rfl⟩, rfl⟩

theorem length_joined {line : List Char} {lines : List (List Char)} (h : line ∈ lines) :
    line.length + (lines.length - 1) ≤ (joined ['\n'] lines).length := by
  fun_induction joined ['\n'] lines generalizing line with
  | case1 => cases h
  | case2 p =>
    obtain rfl := List.mem_singleton.mp h
    exact Nat.le_refl _
  | case3 p ps more ih =>
    obtain ⟨q, qs, rfl⟩ := List.exists_cons_of_ne_nil more
    have first := ih (List.mem_cons_self ..)
    simp only [List.length_append, List.length_cons, List.length_nil] at first ih ⊢
    rcases List.mem_cons.mp h with rfl | behind
    · omega
    · have inside := ih behind
      omega

theorem report_named (proper : Proper environment)
    (there : (Utf8.bytes name, value) ∈ environment) :
    environmentReport environment (some name) = entry name (shown value) := by
  rw [environmentReport, (valueOf?_eq_some_iff proper).mpr (.whole there)]
  rfl

theorem shown_bytes (text : String) : shown (Utf8.bytes text) = text := by
  simp [shown, Utf8.text?, Utf8.bytes, Utf8.decode?_encode]

theorem shown_cases (value : List UInt8) :
    (Utf8.text? value).isSome ∧ shown value = Utf8.textLossy value ∨
      ¬ (Utf8.text? value).isSome ∧ (shown value).length < (Utf8.textLossy value).length := by
  cases text : Utf8.text? value with
  | some t =>
    obtain ⟨cs, read, rfl⟩ := Option.map_eq_some_iff.mp text
    obtain rfl := Utf8.decode?_eq_some_iff.mp read
    refine .inl ⟨rfl, ?_⟩
    rw [shown, text, Utf8.textLossy, Utf8.decodeLossy_encode]
    rfl
  | none =>
    refine .inr ⟨Bool.false_ne_true, ?_⟩
    have filled : Utf8.textLossy value ≠ "" := by
      intro empty
      have none : Utf8.decodeLossy value = [] := by
        simpa [Utf8.textLossy] using congrArg String.toList empty
      have read : Utf8.decode? value = some [] := by
        rw [Utf8.decode?, List.map_eq_nil_iff.mp none]
        rfl
      rw [Utf8.text?, read] at text
      cases text
    rw [shown, text]
    exact Nat.pos_of_ne_zero fun zero => filled (String.length_eq_zero_iff.mp zero)

theorem length_entry (name value : String) :
    (entry name value).toList.length = 7 + name.length + value.length := by
  simp only [entry, String.toList_append, List.length_append, String.length_toList]
  show 5 + name.length + 2 + value.length = _
  omega

/-- A variable whose name nothing else looks like. -/
structure Apart (environment : Environment) (name : String) (value : List UInt8) : Prop where
  there : (Utf8.bytes name, value) ∈ environment
  alone : ∀ v ∈ environment, shownName v = name → v.1 = Utf8.bytes name

theorem Apart.mem_arranged (proper : Proper environment) (h : Apart environment name value) :
    (name, Utf8.textLossy value) ∈ arranged environment := by
  have keyed : shownName (Utf8.bytes name, value) = name := by
    simp [shownName, Utf8.textLossy, Utf8.bytes, Utf8.decodeLossy_encode]
  obtain ⟨⟨n, other⟩, last⟩ := exists_lastOf_iff.mpr ⟨_, h.there, keyed⟩
  obtain rfl : n = Utf8.bytes name := h.alone _ last.mem last.keyed
  obtain rfl := proper.value_eq h.there last.mem
  exact Info.mem_arranged.mpr ⟨_, last, rfl⟩

theorem report_of_one (name : List UInt8) (value : List UInt8) :
    environmentReport [(name, value)] none =
      entry (Utf8.textLossy name) (Utf8.textLossy value) := by
  simp [environmentReport, arranged, texts, ascending, lastValue?, List.eraseDups_cons]

theorem report_of_none : environmentReport [] none = "" := by
  simp [environmentReport, arranged, texts, ascending]

/-- An environment that is shown in one entry has one variable, where no other name looks like its. -/
theorem eq_singleton_of_arranged (proper : Proper environment) (h : Apart environment name value)
    (one : (arranged environment).length ≤ 1) : environment = [(Utf8.bytes name, value)] := by
  have inside := h.mem_arranged proper
  obtain ⟨v, alone⟩ := List.length_eq_one_iff.mp
    (Nat.le_antisymm one (List.length_pos_of_mem inside))
  have only (u : List UInt8 × List UInt8) (there : u ∈ environment) :
      u = (Utf8.bytes name, value) := by
    obtain ⟨last, latest⟩ := exists_lastOf_iff.mpr ⟨u, there, rfl⟩
    have too := mem_arranged.mpr ⟨last, latest, rfl⟩
    rw [alone, List.mem_singleton] at inside too
    have named := h.alone u there (congrArg Prod.fst (too.trans inside.symm))
    exact List.inj_on_of_nodup_map proper.distinct there h.there named
  have copies : environment = List.replicate environment.length (Utf8.bytes name, value) :=
    List.eq_replicate_iff.mpr ⟨rfl, only⟩
  have few : environment.length ≤ 1 := by
    have distinct := proper.distinct
    rw [copies, List.map_replicate] at distinct
    exact List.nodup_replicate.mp distinct
  have single : environment.length = 1 :=
    Nat.le_antisymm few (List.length_pos_of_mem h.there)
  rw [copies, single]
  rfl

theorem report_eq_iff (proper : Proper environment) (h : Apart environment name value) :
    environmentReport environment none = environmentReport environment (some name) ↔
      environment = [(Utf8.bytes name, value)] ∧ (Utf8.text? value).isSome := by
  rw [report_named proper h.there]
  constructor
  · intro same
    have inside := h.mem_arranged proper
    have listed : (entry name (Utf8.textLossy value)).toList ∈
        (arranged environment).map fun v => (entry v.1 v.2).toList :=
      List.mem_map.mpr ⟨_, inside, rfl⟩
    have long := length_joined listed
    have all : joined ['\n'] ((arranged environment).map fun v => (entry v.1 v.2).toList) =
        (entry name (shown value)).toList := by
      rw [← same, environmentReport, String.toList_intercalate, ← joined_eq_intercalate,
        List.map_map]
      rfl
    rw [all, List.length_map, length_entry, length_entry] at long
    rcases shown_cases value with ⟨text, alike⟩ | ⟨-, shorter⟩
    · rw [alike] at long
      exact ⟨eq_singleton_of_arranged proper h (by omega), text⟩
    · omega
  · rintro ⟨rfl, text⟩
    rcases shown_cases value with ⟨-, alike⟩ | ⟨no, -⟩
    · rw [report_of_one, alike, Utf8.textLossy, Utf8.bytes, Utf8.decodeLossy_encode,
        String.ofList_toList]
    · exact absurd text no

end

theorem execute_environment {args : List String} {asked : Option String}
    (h : read args = .environment asked) (context : Context) (w : World) :
    (builtinHandler .info).execute args context w =
      (.finished (environmentReport w.environment asked), w.record .machine) :=
  phases.execute_of_read_ok (congrArg Except.ok h) context w

theorem read_behind_keyword (name : String) : read ["ENV", name] = .environment (some name) := rfl

theorem read_alone {name : String} (h : name ∉ ["HOSTNAME", "NETWORK", "ENV"]) :
    read [name] = .environment none := by
  simp only [List.mem_cons, not_or] at h
  simp [read, h]

/-- What INFO shows for some words depends on no variable but one. -/
def TellsOnly (name : String) (args : List String) : Prop :=
  ∀ (u v : World) (context around : Context), Proper u.environment → Proper v.environment →
    (∀ value, (Utf8.bytes name, value) ∈ u.environment ↔
      (Utf8.bytes name, value) ∈ v.environment) →
    ((builtinHandler .info).execute args context u).1 =
      ((builtinHandler .info).execute args around v).1

theorem proper_of_one {n : List UInt8} (named : IsName n) (v : List UInt8) : Proper [(n, v)] where
  named := by simpa using named
  distinct := List.nodup_singleton n

theorem told_of_one {n v : List UInt8} {name : String} {args : List String} {asked : Option String}
    (h : read args = .environment asked) (named : IsName n) (apart : n ≠ Utf8.bytes name)
    (only : TellsOnly name args) :
    environmentReport [] asked = environmentReport [(n, v)] asked := by
  have same (value : List UInt8) : (Utf8.bytes name, value) ∈ ([] : Environment) ↔
      (Utf8.bytes name, value) ∈ [(n, v)] := by
    simp [apart.symm]
  have alike := only World.still { World.still with environment := [(n, v)] } ⟨[], .empty⟩
    ⟨[], .empty⟩ ⟨nofun, List.nodup_nil⟩ (proper_of_one named v) same
  rw [execute_environment h, execute_environment h] at alike
  exact Attempt.finished.inj alike

theorem tellsOnly_iff {name : String} :
    TellsOnly name ["ENV", name] ↔
      ¬ ∃ front rest, IsName front ∧ Utf8.bytes name = front ++ equals :: rest := by
  have asked := read_behind_keyword name
  constructor
  · rintro only ⟨front, rest, named, split⟩
    -- A process whose single variable goes on as the name does shows what a bare one cannot.
    have apart : front ≠ Utf8.bytes name := by
      rintro rfl
      exact named.2 (by rw [split]; simp)
    have same := told_of_one asked named apart only (v := rest ++ equals :: Utf8.bytes "x")
    have held : Held [(front, rest ++ equals :: Utf8.bytes "x")] (Utf8.bytes name)
        (Utf8.bytes "x") := .within split (by simp)
    have unset : valueOf? [] (Utf8.bytes name) = none := by simp [valueOf?]
    rw [environmentReport, environmentReport, unset,
      (valueOf?_eq_some_iff (proper_of_one named _)).mpr held, Option.map_some, Option.getD_some,
      shown_bytes] at same
    exact absurd ((String.append_right_inj _).mp same) (by decide)
  · intro plain u v context around first second same
    rw [execute_environment asked, execute_environment asked]
    have found : valueOf? u.environment (Utf8.bytes name) =
        valueOf? v.environment (Utf8.bytes name) := by
      refine Option.ext fun value => ?_
      rw [valueOf?_eq_some_iff first, valueOf?_eq_some_iff second, held_iff_mem first plain,
        held_iff_mem second plain, same]
    rw [environmentReport, environmentReport, found]

theorem not_tellsOnly_alone {name : String} (h : name ∉ ["HOSTNAME", "NETWORK", "ENV"]) :
    ¬ TellsOnly name [name] := by
  intro only
  obtain ⟨n, named, apart⟩ : ∃ n, IsName n ∧ n ≠ Utf8.bytes name := by
    by_cases first : Utf8.bytes name = [0x41]
    · exact ⟨[0x42], by decide, by simp [first]⟩
    · exact ⟨[0x41], by decide, Ne.symm first⟩
  have same := told_of_one (v := []) (read_alone h) named apart only
  rw [report_of_one, report_of_none] at same
  exact absurd (congrArg String.toList same) (by simp [entry])

/-- Behind the keyword a name shows one entry, with the value of its variable and nothing of any
other just if the name could be that of a variable and does not go on behind it. The name alone
shows all variables in the order of their names, whatever it is: that is the same only for the name
of the single variable there is. Names and values are bytes: with all the others they are shown as
the texts they look like, and of variables whose names then look alike it is the last. -/
theorem variable_shown {name : String} (other : name ∉ ["HOSTNAME", "NETWORK", "ENV"]) :
    (∀ (w : World) (context : Context), Proper w.environment →
      (∃ value,
        (Held w.environment (Utf8.bytes name) value ∨
          value = [] ∧ ∀ v, ¬ Held w.environment (Utf8.bytes name) v) ∧
        (builtinHandler .info).execute ["ENV", name] context w =
          (.finished (entry name ((Utf8.text? value).getD "")), w.record .machine)) ∧
      (∃ arranged : List (String × String),
        (arranged.Pairwise fun a b => Utf8.bytes a.1 < Utf8.bytes b.1) ∧
        (∀ n found, (n, found) ∈ arranged ↔
          ∃ v, LastOf shownName n w.environment v ∧ Utf8.textLossy v.2 = found) ∧
        ((w.environment.map shownName).Nodup → arranged.Perm
          (w.environment.map fun v => (Utf8.textLossy v.1, Utf8.textLossy v.2))) ∧
        (builtinHandler .info).execute [name] context w =
          (.finished (String.intercalate "\n" (arranged.map fun v => entry v.1 v.2)),
            w.record .machine)) ∧
      ∀ value, Apart w.environment name value →
        ((builtinHandler .info).execute [name] context w =
            (builtinHandler .info).execute ["ENV", name] context w ↔
          w.environment = [(Utf8.bytes name, value)] ∧ (Utf8.text? value).isSome)) ∧
    (TellsOnly name ["ENV", name] ↔
      ¬ ∃ front rest, IsName front ∧ Utf8.bytes name = front ++ equals :: rest) ∧
    ¬ TellsOnly name [name] := by
  have alone : read [name] = .environment none := read_alone other
  have asked := read_behind_keyword name
  refine ⟨fun w context proper => ⟨?_, ?_, fun value apart => ?_⟩, tellsOnly_iff,
    not_tellsOnly_alone other⟩
  · cases found : valueOf? w.environment (Utf8.bytes name) with
    | some value =>
      refine ⟨value, .inl ((valueOf?_eq_some_iff proper).mp found), ?_⟩
      rw [execute_environment asked, environmentReport, found]
      rfl
    | none =>
      refine ⟨[], .inr ⟨rfl, fun v held => ?_⟩, ?_⟩
      · rw [(valueOf?_eq_some_iff proper).mpr held] at found
        cases found
      · rw [execute_environment asked, environmentReport, found]
        rfl
  · refine ⟨arranged w.environment, arranged_ordered, fun _ _ => mem_arranged, fun distinct => ?_,
      execute_environment alone context w⟩
    refine arranged_perm ?_
    rw [texts, List.map_map]
    exact distinct
  · rw [execute_environment alone, execute_environment asked, ← report_eq_iff proper apart]
    simp

theorem variable_shown_of_one_in_two :
    let w : World := { World.still with environment :=
      [(Utf8.bytes "TOKEN", Utf8.bytes "user=s3cret"), (Utf8.bytes "A", Utf8.bytes "1")] }
    let context : Context := ⟨[], .empty⟩
    Proper w.environment ∧ TellsOnly "A" ["ENV", "A"] ∧ ¬ TellsOnly "A" ["A"] ∧
      ((builtinHandler .info).execute ["ENV", "A"] context w).1 = .finished "ENV: A: 1" ∧
      ((builtinHandler .info).execute ["A"] context w).1 =
        .finished "ENV: A: 1\nENV: TOKEN: user=s3cret" ∧
      ¬ TellsOnly "TOKEN=user" ["ENV", "TOKEN=user"] ∧
      ((builtinHandler .info).execute ["ENV", "TOKEN=user"] context w).1 =
        .finished "ENV: TOKEN=user: s3cret" := by
  intro w context
  have proper : Proper w.environment := ⟨by decide, by decide⟩
  obtain ⟨reports, own, leaking⟩ := @variable_shown "A" (by decide)
  obtain ⟨-, foreign, -⟩ := @variable_shown "TOKEN=user" (by decide)
  have plain : ¬ ∃ front rest, IsName front ∧ Utf8.bytes "A" = front ++ equals :: rest := by
    rintro ⟨front, rest, -, split⟩
    have inside : equals ∈ Utf8.bytes "A" := by simp [split]
    exact absurd inside (by decide)
  have more : ∃ front rest, IsName front ∧ Utf8.bytes "TOKEN=user" = front ++ equals :: rest :=
    ⟨Utf8.bytes "TOKEN", Utf8.bytes "user", by decide, by decide⟩
  obtain ⟨⟨value, found, told⟩, -, -⟩ := reports w context proper
  have one : value = Utf8.bytes "1" := by
    have there : Held w.environment (Utf8.bytes "A") (Utf8.bytes "1") := .whole (by decide)
    rcases found with held | ⟨-, none⟩
    · exact held.unique proper there
    · exact absurd there (none _)
  refine ⟨proper, own.mpr plain, leaking, ?_, ?_, fun only => foreign.mp only more, ?_⟩
  · rw [told, one]
    rfl
  · have names : ascending ["TOKEN", "A"] = ["A", "TOKEN"] := by
      simp [ascending, List.eraseDups_cons, List.mergeSort, List.MergeSort.Internal.splitInTwo]
    have listed : (texts w.environment).map Prod.fst = ["TOKEN", "A"] := by decide
    have sorted : arranged w.environment = [("A", "1"), ("TOKEN", "user=s3cret")] := by
      rw [arranged, listed, names]
      decide
    rw [execute_environment (read_alone (by decide)), environmentReport, sorted]
    rfl
  · rw [execute_environment (read_behind_keyword "TOKEN=user")]
    rfl

end HopProbe.Verbs.Info
