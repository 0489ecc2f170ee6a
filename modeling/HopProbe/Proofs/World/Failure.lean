import HopProbe.Proofs.Text.Printable
import HopProbe.Proofs.World.Change

/-!
# What effects fail with

The faults of an effect are those of its parts, each in the world that the
parts before it left. What the system, the resolver and the files of a world
fail with is worded in one line.
-/

set_option autoImplicit false

namespace HopProbe
open HopProbe.Text

def Errs {ε α : Type} (P : ε → Prop) (r : Except ε α) : Prop := ∀ e, r = .error e → P e

section
variable {ε α β : Type} {P : ε → Prop}

theorem errs_ok (a : α) : Errs P (.ok a : Except ε α) := by
  rintro e ⟨⟩

theorem errs_error {e : ε} (h : P e) : Errs P (.error e : Except ε α) := by
  rintro _ ⟨⟩
  exact h

theorem errs_bind {r : Except ε α} {f : α → Except ε β} (h : Errs P r)
    (more : ∀ a, r = .ok a → Errs P (f a)) : Errs P (r >>= f) := by
  cases r with
  | error e => exact errs_error (h e rfl)
  | ok a => exact more a rfl

theorem errs_map {r : Except ε α} (h : Errs P r) (f : α → β) : Errs P (r.map f) := by
  cases r with
  | error e => exact errs_error (h e rfl)
  | ok a => exact errs_ok (f a)

theorem errs_mapM {as : List α} {f : α → Except ε β} (h : ∀ a ∈ as, Errs P (f a)) :
    Errs P (as.mapM f) := by
  induction as with
  | nil => exact errs_ok []
  | cons a as ih =>
    rw [List.mapM_cons]
    refine errs_bind (h a (by simp)) fun b _ => ?_
    exact errs_bind (ih fun x hx => h x (by simp [hx])) fun bs _ => errs_ok (b :: bs)

end

namespace Effect

variable {α β : Type} {P Q : Fault → Prop} {w : World}

/-- The fault at which an effect stops in a world, if it stops at one, is of a kind. -/
def Faults (P : Fault → Prop) (w : World) (e : Effect α) : Prop :=
  ∀ cause next, e.run.run w = (.error (.fault cause), next) → P cause

theorem Faults.mono {e : Effect α} (h : Faults P w e) (weaker : ∀ cause, P cause → Q cause) :
    Faults Q w e :=
  fun cause next stopped => weaker cause (h cause next stopped)

theorem faults_pure (a : α) : Faults P w (pure a) := by
  rintro cause next ⟨⟩

theorem faults_fault {cause : Fault} (h : P cause) : Faults P w (fault cause : Effect α) := by
  rintro _ next ⟨⟩
  exact h

theorem faults_ofExcept {ε : Type} {wording : ε → Fault} {r : Except ε α}
    (h : Errs (fun e => P (wording e)) r) : Faults P w (ofExcept wording r) := by
  cases r with
  | error e => exact faults_fault (h e rfl)
  | ok a => exact faults_pure a

theorem faults_bind {e : Effect α} {f : α → Effect β} (h : Faults P w e)
    (more : ∀ a next, e.run.run w = (.ok a, next) → Faults P next (f a)) :
    Faults P w (e >>= f) := by
  intro cause next stopped
  rw [run_bind] at stopped
  rcases ran : e.run.run w with ⟨stop | a, left⟩
  · rw [ran] at stopped
    cases stopped
    exact h cause next ran
  · rw [ran] at stopped
    exact more a left ran cause next stopped

theorem faults_get_bind {f : World → Effect β} (h : Faults P w (f w)) : Faults P w (get >>= f) :=
  faults_bind (by rintro cause next ⟨⟩) fun a next ran => by
    cases ran
    exact h

theorem faults_modify_bind {change : World → World} {f : PUnit → Effect β}
    (h : Faults P (change w) (f ⟨⟩)) : Faults P w (modify change >>= f) :=
  faults_bind (by rintro cause next ⟨⟩) fun a next ran => by
    cases ran
    exact h

theorem faults_record_bind {e : Event} {f : PUnit → Effect β} (h : Faults P (w.record e) (f ⟨⟩)) :
    Faults P w (record e >>= f) :=
  faults_modify_bind h

theorem faults_ofExcept_bind {ε : Type} {wording : ε → Fault} {r : Except ε α} {f : α → Effect β}
    (h : Errs (fun e => P (wording e)) r) (more : ∀ a, r = .ok a → Faults P w (f a)) :
    Faults P w (ofExcept wording r >>= f) :=
  faults_bind (faults_ofExcept h) fun a next ran => by
    obtain ⟨given, rfl⟩ := of_run_ofExcept_eq_ok ran
    exact more a given

/-- An effect that stops at no misuse, in any world. -/
def NoMisuse (e : Effect α) : Prop := ∀ w misuse, (e.run.run w).1 ≠ .error (.usage misuse)

section
variable {e : Effect α} {f : α → Effect β}

theorem noMisuse_pure (a : α) : NoMisuse (pure a) := by
  rintro w misuse ⟨⟩

theorem noMisuse_fault (cause : Fault) : NoMisuse (fault cause : Effect α) := by
  rintro w misuse ⟨⟩

theorem noMisuse_unanswered : NoMisuse (throw .unanswered : Effect α) := by
  rintro w misuse ⟨⟩

theorem noMisuse_get : NoMisuse (get : Effect World) := by
  rintro w misuse ⟨⟩

theorem noMisuse_set (w : World) : NoMisuse (set w : Effect PUnit) := by
  rintro w misuse ⟨⟩

theorem noMisuse_modify (change : World → World) : NoMisuse (modify change : Effect PUnit) := by
  rintro w misuse ⟨⟩

theorem noMisuse_record (event : Event) : NoMisuse (record event) := by
  rintro w misuse ⟨⟩

theorem noMisuse_ofExcept {ε : Type} (wording : ε → Fault) (r : Except ε α) :
    NoMisuse (ofExcept wording r) := by
  cases r with
  | error e => exact noMisuse_fault (wording e)
  | ok a => exact noMisuse_pure a

theorem noMisuse_bind (h : NoMisuse e) (more : ∀ a, NoMisuse (f a)) : NoMisuse (e >>= f) := by
  intro w misuse
  rw [run_bind]
  have first := h w misuse
  generalize e.run.run w = ended at first
  rcases ended with ⟨stop | a, next⟩
  · rintro ⟨⟩
    exact first rfl
  · exact more a next misuse

end

theorem outcome_failed {e : Effect String} (h : Faults P w e) (sound : NoMisuse e)
    {error : StepError} (failed : (e.outcome w).1 = .failed error) :
    ∃ cause, error = .fault cause ∧ P cause := by
  have apart := sound w
  rw [outcome_attempt] at failed
  rcases ran : e.run.run w with ⟨(misuse | cause | _) | text, next⟩
  · exact absurd (congrArg Prod.fst ran) (apart misuse)
  · rw [ran] at failed
    cases failed
    exact ⟨cause, rfl, h cause next ran⟩
  · rw [ran] at failed
    cases failed
  · rw [ran] at failed
    cases failed

end Effect

abbrev Fault.Brief (cause : Fault) : Prop := OneLine cause.message

namespace IoError

abbrev Brief (e : IoError) : Prop := OneLine e.message

theorem Brief.io {e : IoError} (h : e.Brief) : (Fault.io e).Brief :=
  oneLine_append.mpr ⟨by decide, h⟩

theorem oneLine_standardText? {n : Nat} {text : String} (h : standardText? n = some text) :
    OneLine text := by
  unfold standardText? at h
  split at h
  all_goals cases h; try exact oneLine_ofList (by decide)

theorem brief_os (number : Int) : Brief (.os number) := by
  have standard : OneLine (standardText number) := by
    cases number with
    | ofNat n =>
      show OneLine ((standardText? n).getD ("Unknown error " ++ toString n))
      cases known : standardText? n with
      | none => exact oneLine_append.mpr ⟨by decide, (printable_nat n).oneLine⟩
      | some text => exact oneLine_standardText? known
    | negSucc n => exact oneLine_append.mpr ⟨by decide, (printable_nat (n + 1)).oneLine⟩
  have close : OneLine ")" := by decide
  have mark : OneLine " (os error " := by decide
  exact oneLine_append.mpr ⟨oneLine_append.mpr ⟨oneLine_append.mpr ⟨standard, mark⟩,
    (printable_int number).oneLine⟩, close⟩

end IoError

namespace FileSystem

theorem brief_nulInPath : nulInPath.Brief := by decide

variable (fs : FileSystem)

theorem brief_barrier (here : List FileName) : (fs.barrier here).Brief := by
  unfold barrier
  split
  · exact IoError.brief_os 20
  · exact IoError.brief_os 2

theorem errs_enter (here : List FileName) (name : FileName) :
    Errs IoError.Brief (fs.enter here name) := by
  unfold enter
  split
  · split
    · exact errs_ok _
    · exact errs_error (IoError.brief_os 36)
  · exact errs_error (fs.brief_barrier here)

theorem errs_walk (links : Nat) (here names : List FileName) :
    Errs IoError.Brief (fs.walk links here names) := by
  fun_induction fs.walk links here names with
  | case1 => exact errs_ok _
  | case2 _ _ _ _ _ _ ih | case7 _ _ _ _ _ _ _ ih | case8 _ _ _ _ _ _ _ _ ih => exact ih
  | case3 _ here => exact errs_error (fs.brief_barrier here)
  | case4 _ here name _ _ e failed => exact errs_error (fs.errs_enter here name e failed)
  | case5 => exact errs_error (IoError.brief_os 2)
  | case6 => exact errs_error (IoError.brief_os 40)

theorem errs_place (links : Nat) (here : List FileName) (slashEnd : Bool) (names : List FileName) :
    Errs IoError.Brief (fs.place links here slashEnd names) := by
  fun_induction fs.place links here slashEnd names with
  | case1 | case2 | case5 => exact errs_error (IoError.brief_os 21)
  | case3 _ here | case10 _ here => exact errs_error (fs.brief_barrier here)
  | case4 _ here _ name _ e failed => exact errs_error (fs.errs_enter here name e failed)
  | case11 _ here _ name _ _ _ e failed => exact errs_error (fs.errs_enter here name e failed)
  | case6 | case13 => exact errs_error (IoError.brief_os 40)
  | case7 _ _ _ _ _ _ _ ih | case9 _ _ _ _ _ _ _ _ ih | case14 _ _ _ _ _ _ _ _ _ ih => exact ih
  | case15 _ _ _ _ _ _ _ _ _ _ ih => exact ih
  | case8 => exact errs_ok _
  | case12 => exact errs_error (IoError.brief_os 2)

theorem errs_checkPath (path : List UInt8) : Errs IoError.Brief (checkPath path) := by
  unfold checkPath
  split
  · exact errs_error brief_nulInPath
  · split
    · exact errs_error (IoError.brief_os 2)
    · split
      · exact errs_ok ()
      · exact errs_error (IoError.brief_os 36)

theorem errs_locate (path : List UInt8) : Errs IoError.Brief (fs.locate path) :=
  errs_bind (errs_checkPath path) fun _ _ => fs.errs_walk _ _ _

theorem errs_stat (path : List UInt8) : Errs IoError.Brief (fs.stat path) := by
  refine errs_bind (fs.errs_locate path) fun place _ => ?_
  split
  · exact errs_ok _
  · exact errs_error (IoError.brief_os 2)

theorem errs_contains (path : List UInt8) : Errs IoError.Brief (fs.contains? path) := by
  unfold contains?
  split
  · exact errs_ok true
  · next e failed =>
    split
    · exact errs_ok false
    · exact errs_error (fs.errs_stat path e failed)

theorem errs_readFile (path : List UInt8) : Errs IoError.Brief (fs.readFile path) := by
  refine errs_bind (fs.errs_stat path) fun node _ => ?_
  split
  · exact errs_ok _
  · exact errs_error (IoError.brief_os 21)

theorem errs_readDirectory (path : List UInt8) : Errs IoError.Brief (fs.readDirectory path) := by
  refine errs_bind (fs.errs_locate path) fun place _ => ?_
  split
  · exact errs_ok _
  · exact errs_error (IoError.brief_os 20)

theorem errs_writeFile (path content : List UInt8) :
    Errs IoError.Brief (fs.writeFile path content) := by
  refine errs_bind (errs_checkPath path) fun _ _ => ?_
  exact errs_bind (fs.errs_place _ _ _ _) fun place _ => errs_ok _

end FileSystem

namespace World

theorem errs_addresses (w : World) (host : String) : Errs IoError.Brief (w.addresses host) := by
  unfold addresses
  split
  · exact errs_error FileSystem.brief_nulInPath
  · split
    · exact errs_ok _
    · split
      · exact errs_ok _
      · exact errs_error (by decide)

theorem errs_reaches (w : World) (waiting : List SocketAddress) (host : String) (port : Nat) :
    Errs IoError.Brief (w.reaches waiting host port) := by
  refine errs_bind (w.errs_addresses host) fun found _ => ?_
  split
  · exact errs_ok ()
  · exact errs_error (IoError.brief_os 111)

theorem errs_meetsStore (w : World) (host : String) (port : Nat) :
    Errs IoError.Brief (w.meetsStore host port) := by
  refine errs_bind (w.errs_reaches _ host port) fun _ _ => ?_
  split
  · exact errs_ok ()
  · exact errs_error (by decide)
  · exact errs_error (by decide)

theorem errs_meetsStoreEncrypted (w : World) (host : String) (port : Nat) :
    Errs IoError.Brief (w.meetsStoreEncrypted host port) := by
  refine errs_bind (w.errs_reaches _ host port) fun _ _ => ?_
  split
  · exact errs_ok ()
  · exact errs_error (by decide)
  · exact errs_error (by decide)

end World

end HopProbe
