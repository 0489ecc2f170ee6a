import HopProbe.Proofs.KeyValue.Spelling
import HopProbe.Proofs.Run.Composition

/-!
# What a run reads from a store

In the worlds of a run, a key holds what the last step put there that set it,
and what it held at first if no step has. That is what a GET shows, whatever
stands between, and whichever way its endpoint is written. A SET that fails puts
nothing, unless its store did what it was asked and the reply was lost.
-/

set_option autoImplicit false

namespace HopProbe

namespace Verbs.Redis

def asked? : List String → Option Action
  | "GET" :: key :: endpoint :: _ => some ⟨.get, key, endpoint⟩
  | "SET" :: key :: value :: endpoint :: _ => some ⟨.set value, key, endpoint⟩
  | _ => none

theorem toOption_read (args : List String) : (read args).toOption = asked? args := by
  obtain _ | ⟨word, _ | ⟨key, rest⟩⟩ := args
  · rfl
  · simp [asked?]
    rfl
  · show (readOperation (word :: key :: rest) key word).toOption = _
    unfold readOperation
    by_cases get : word = "GET"
    · subst get
      cases rest <;> rfl
    · by_cases set : word = "SET"
      · subst set
        obtain _ | ⟨value, _ | ⟨endpoint, rest⟩⟩ := rest <;> rfl
      · simp [asked?, get, set, Except.toOption]

theorem read_of_asked {args : List String} {action : Action} (h : asked? args = some action) :
    read args = .ok action := by
  rw [← toOption_read] at h
  cases made : read args with
  | error e =>
    rw [made] at h
    cases h
  | ok a =>
    rw [made] at h
    exact congrArg _ (Option.some.inj h)

theorem error_of_not_asked {args : List String} (h : asked? args = none) :
    ∃ e, read args = .error e := by
  rw [← toOption_read] at h
  cases made : read args with
  | error e => exact ⟨e, rfl⟩
  | ok a =>
    rw [made] at h
    cases h

def actionOf? (line : String) : Option Action :=
  match Script.Command.parse line with
  | some command => if command.verb = "REDIS" then asked? command.args else none
  | none => none

end Verbs.Redis

open Verbs

def Outcome.succeeds : Outcome → Bool
  | .success _ => true
  | .failure _ => false

/-- A SET that failed and put its value all the same: its store did what it was asked, and the reply
was lost. -/
inductive Step.Lost (s : Step) (u v : World) : Prop
  | intro {value key endpoint : String} {session : StoreSession}
    (asked : Redis.actionOf? s.line = some ⟨.set value, key, endpoint⟩)
    (failed : s.outcome.succeeds = false) (named : u.session? endpoint = some session)
    (put : v.store = u.store.put session.database key value)
    (lost : v.Unconfirmed session (.set key value))

/-- The value that a step puts under a key of a database: that of a SET of this key, at an endpoint
that names this database, with success or with its reply lost. -/
def Step.put? (w : World) (database : Int) (key : String) (s : Step) (lost : Bool) : Option String :=
  match Redis.actionOf? s.line with
  | some ⟨.set value, k, endpoint⟩ =>
    if k = key ∧ w.database? endpoint = some database ∧ (s.outcome.succeeds = true ∨ lost = true) then
      some value
    else none
  | _ => none

/-- What a key of a database holds behind some steps of a run. -/
def valueAfter (w : World) (lost : Nat → Bool) (steps : List Step) (database : Int) (key : String) :
    Option String :=
  (steps.zipIdx.reverse.findSome? fun (s, j) => s.put? w database key (lost j)).or
    (w.store.get? database key)

namespace Interpreter

theorem outcome_error (limit : Span) (stop : Stop) :
    ∃ detail, (Effect.attemptOf (.error stop)).outcome limit = .failure detail := by
  cases stop <;> exact ⟨_, rfl⟩

section
variable {limit : Span} {line : String} {context : Context} {u v : World} {outcome : Outcome}
  (ran : (⟨builtin, limit⟩ : Interpreter World).executeLine line context u = (outcome, v))
include ran

theorem executeLine_action {action : Redis.Action} (h : Redis.actionOf? line = some action) :
    outcome = (Effect.attemptOf ((Redis.perform action context).run.run u).1).outcome limit ∧
      v = ((Redis.perform action context).run.run u).2 := by
  unfold Redis.actionOf? at h
  split at h
  · next command parsed =>
    split at h
    · next named =>
      have executed : (builtinHandler .redis).execute command.args context u =
          (Redis.perform action context).outcome u :=
        Redis.phases.execute_of_read_ok (Redis.read_of_asked h) context u
      have verb : command.verb = Verb.redis.name := named
      rw [executeLine_builtin limit parsed verb, executed] at ran
      rw [← Effect.outcome_attempt, ← Effect.outcome_world]
      exact ⟨(congrArg Prod.fst ran).symm, (congrArg Prod.snd ran).symm⟩
    · cases h
  · cases h

theorem executeLine_other (h : Redis.actionOf? line = none) : v.store = u.store := by
  have same : World.SameStore u
      ((⟨builtin, limit⟩ : Interpreter World).executeLine line context u).2 := by
    unfold Redis.actionOf? at h
    cases parsed : Script.Command.parse line with
    | none => simp [executeLine, parsed, World.SameStore]
    | some command =>
      rw [parsed] at h
      dsimp only at h
      split at h
      · next named =>
        obtain ⟨e, misused⟩ := Redis.error_of_not_asked h
        have verb : command.verb = Verb.redis.name := named
        rw [executeLine_builtin limit parsed verb]
        show World.SameStore u (Redis.probe.execute command.args context u).2
        rw [Redis.phases.execute_of_read_error misused]
        rfl
      · next other =>
        have verb : Verb.ofName? command.verb ≠ some .redis :=
          fun redis => other (Verb.name_of_ofName? redis).symm
        simpa [executeLine, parsed] using sameStore_of_other verb context u
  rw [ran] at same
  exact same

theorem executeLine_get {key endpoint : String}
    (h : Redis.actionOf? line = some ⟨.get, key, endpoint⟩) :
    v.store = u.store ∧ ∀ text, outcome = .success text →
      ∃ d, u.database? endpoint = some d ∧ text = "GET: " ++ (u.store.get? d key).getD "" := by
  obtain ⟨told, rfl⟩ := executeLine_action ran h
  obtain ⟨same, shown⟩ := Redis.get_run key endpoint context u
  refine ⟨same, fun text success => ?_⟩
  rcases ended : (Redis.perform ⟨.get, key, endpoint⟩ context).run.run u with ⟨stop | found, next⟩
  · obtain ⟨detail, failed⟩ := outcome_error limit stop
    rw [ended, failed, success] at told
    cases told
  · rw [ended, success] at told
    cases told
    exact shown _ _ ended

theorem executeLine_set {value key endpoint : String}
    (h : Redis.actionOf? line = some ⟨.set value, key, endpoint⟩) :
    (outcome.succeeds = true ∧ ∃ d, u.database? endpoint = some d ∧
        v.store = u.store.put d key value) ∨
      outcome.succeeds = false ∧ (v.store = u.store ∨ (⟨line, outcome⟩ : Step).Lost u v) := by
  obtain ⟨rfl, rfl⟩ := executeLine_action ran h
  obtain ⟨result, next, ended, ends⟩ := Redis.set_run value key endpoint context u
  rw [ended]
  rcases ends with ⟨text, d, rfl, named, put⟩ | ⟨⟨stop, rfl⟩, left⟩
  · exact Or.inl ⟨rfl, d, named, put⟩
  · have failed : ((Effect.attemptOf (.error stop)).outcome limit).succeeds = false := by
      obtain ⟨detail, same⟩ := outcome_error limit stop
      rw [same]
      rfl
    refine Or.inr ⟨failed, left.imp_right fun ⟨session, named, put, lost⟩ => ?_⟩
    exact .intro h failed named put lost

theorem executeLine_unset (unset : ∀ value key endpoint,
    Redis.actionOf? line = some ⟨.set value, key, endpoint⟩ → outcome.succeeds = false) :
    v.store = u.store ∨ (⟨line, outcome⟩ : Step).Lost u v := by
  cases asked : Redis.actionOf? line with
  | none => exact Or.inl (executeLine_other ran asked)
  | some action =>
    obtain ⟨operation, key, endpoint⟩ := action
    cases operation with
    | get => exact Or.inl (executeLine_get ran asked).1
    | set value =>
      rcases executeLine_set ran asked with ⟨success, -⟩ | ⟨-, left⟩
      · rw [unset _ _ _ asked] at success
        cases success
      · exact left

/-- What a step leaves under a key is what it puts there, or what was there before. -/
theorem get?_executeLine {w : World} (databases : u.database? = w.database?) (d : Int)
    (key : String) {lost : Bool} (known : lost = true ↔ (⟨line, outcome⟩ : Step).Lost u v) :
    v.store.get? d key = ((⟨line, outcome⟩ : Step).put? w d key lost).or (u.store.get? d key) := by
  -- A value that is put under a key of a database is all that changes.
  have puts {value k endpoint : String} {d' : Int}
      (asked : Redis.actionOf? line = some ⟨.set value, k, endpoint⟩)
      (named : u.database? endpoint = some d') (put : v.store = u.store.put d' k value)
      (counts : outcome.succeeds = true ∨ lost = true) :
      v.store.get? d key = ((⟨line, outcome⟩ : Step).put? w d key lost).or (u.store.get? d key) := by
    rw [databases] at named
    rw [put, Store.get?_put]
    by_cases here : k = key ∧ d' = d
    · obtain ⟨rfl, rfl⟩ := here
      simp [Step.put?, asked, named, counts]
    · have apart : ¬ (d = d' ∧ key = k) := fun ⟨first, second⟩ => here ⟨second.symm, first.symm⟩
      have other : ¬ (k = key ∧ some d' = some d ∧ (outcome.succeeds = true ∨ lost = true)) :=
        fun ⟨first, second, _⟩ => here ⟨first, Option.some.inj second⟩
      simp only [Step.put?, asked, named, if_neg apart, if_neg other, Option.none_or]
  cases asked : Redis.actionOf? line with
  | none =>
    have same := executeLine_other ran asked
    simp [Step.put?, asked, same]
  | some action =>
    obtain ⟨operation, k, endpoint⟩ := action
    cases operation with
    | get =>
      have same := (executeLine_get ran asked).1
      simp [Step.put?, asked, same]
    | set value =>
      rcases executeLine_set ran asked with ⟨success, d', named, put⟩ | ⟨failed, left⟩
      · exact puts asked named put (Or.inl success)
      · by_cases gone : (⟨line, outcome⟩ : Step).Lost u v
        · have yes : lost = true := known.mpr gone
          obtain ⟨asked', -, named, put, -⟩ := gone
          exact puts asked' (by rw [World.database?, named]; rfl) put (Or.inr yes)
        · have same : v.store = u.store := left.resolve_right gone
          have kept : lost = false := Bool.eq_false_iff.mpr fun yes => gone (known.mp yes)
          simp [Step.put?, asked, same, failed, kept]

end

theorem valueAfter_concat (w : World) (lost : Nat → Bool) (steps : List Step) (s : Step) (d : Int)
    (key : String) : valueAfter w lost (steps ++ [s]) d key =
      (s.put? w d key (lost steps.length)).or (valueAfter w lost steps d key) := by
  have last : (steps ++ [s]).zipIdx.reverse = (s, steps.length) :: steps.zipIdx.reverse := by
    simp [List.zipIdx_append]
  rw [valueAfter, last, List.findSome?_cons, valueAfter]
  dsimp only
  cases s.put? w d key (lost steps.length) <;> rfl

def LostIn (lost : Nat → Bool) (worlds : List World) (steps : List Step) : Prop :=
  ∀ j, lost j = true ↔ ∃ s u v, steps[j]? = some s ∧ worlds[j]? = some u ∧
    worlds[j + 1]? = some v ∧ s.Lost u v

theorem exists_lostIn (worlds : List World) (steps : List Step) :
    ∃ lost, LostIn lost worlds steps := by
  classical
  exact ⟨fun j => decide (∃ s u v, steps[j]? = some s ∧ worlds[j]? = some u ∧
    worlds[j + 1]? = some v ∧ s.Lost u v), fun j => decide_eq_true_iff⟩

theorem LostIn.at {lost : Nat → Bool} {worlds : List World} {steps : List Step}
    (known : LostIn lost worlds steps) {j : Nat} {s : Step} {u v : World} (there : steps[j]? = some s)
    (began : worlds[j]? = some u) (ended : worlds[j + 1]? = some v) :
    lost j = true ↔ s.Lost u v := by
  simp [known j, there, began, ended]

section
variable (limit : Span) (request : Inbound) (lines : List String) (w : World)

theorem store_of_worlds {lost : Nat → Bool}
    (known : LostIn lost ((⟨builtin, limit⟩ : Interpreter World).worlds request lines w)
      ((⟨builtin, limit⟩ : Interpreter World).steps request lines w)) (j : Nat) {u : World}
    (h : ((⟨builtin, limit⟩ : Interpreter World).worlds request lines w)[j]? = some u) :
    World.Changes w u ∧ ∀ d key, u.store.get? d key =
      valueAfter w lost (((⟨builtin, limit⟩ : Interpreter World).steps request lines w).take j) d
        key := by
  let i : Interpreter World := ⟨builtin, limit⟩
  refine forall_worlds (P := fun j u => World.Changes w u ∧ ∀ d key, u.store.get? d key =
    valueAfter w lost ((i.steps request lines w).take j) d key) _
    ⟨.refl, fun d key => rfl⟩ ?_ j h
  intro j s u v there began ended ran before
  obtain ⟨changes, values⟩ := before
  constructor
  · have next : World.Changes u _ := executeLine_changes limit s.line ⟨lines.drop (j + 1), request⟩ u
    rw [ran] at next
    exact changes.trans next
  · intro d key
    have here : ((i.steps request lines w).take j).length = j :=
      List.length_take_of_le (List.getElem?_eq_some_iff.mp there).1.le
    rw [List.take_add_one, there, Option.toList_some, valueAfter_concat, ← values, here]
    exact get?_executeLine ran (World.changes_database changes) d key (known.at there began ended)

end

/-- A store puts the value and its reply is lost: the next GET shows the value all the same. -/
example :
    let forgets : List Event → Conduct := fun events =>
      match events.getLast? with
      | some (.store _ (.set _ _)) => .loses true .silence
      | _ => .answers
    let w : World := { World.still with storeAddress := ⟨.v4 127 0 0 1, 6379⟩, conduct := forgets }
    let i : Interpreter World := ⟨builtin, .ofSeconds 100⟩
    i.steps .empty ["REDIS SET k a 127.0.0.1", "REDIS GET k 127.0.0.1"] w =
      [⟨"REDIS SET k a 127.0.0.1", .failure "timed out after 100s"⟩,
        ⟨"REDIS GET k 127.0.0.1", .success "GET: a"⟩] := by
  decide +kernel

end Interpreter
end HopProbe
