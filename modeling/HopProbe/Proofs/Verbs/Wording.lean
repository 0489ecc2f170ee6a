import HopProbe.Proofs.Verbs.Reading
import HopProbe.Proofs.World.Failure

/-!
# Misuse is worded in one line

What is said of a misused line names the verb and shows words of the line
quoted, so that no line breaks in it whatever the words are.
-/

set_option autoImplicit false

namespace HopProbe
open HopProbe.Text

abbrev UsageError.Brief (e : UsageError) : Prop := OneLine e.message

theorem Verb.oneLine_name (v : Verb) : OneLine v.name := by cases v <;> decide

theorem UsageError.brief_invalid (v : Verb) {detail : String} (h : OneLine detail) :
    Brief (.invalid v detail) :=
  oneLine_append.mpr ⟨oneLine_append.mpr ⟨v.oneLine_name, by decide⟩, h⟩

theorem errs_argument (v : Verb) (args : List String) (position : Nat) {name : String}
    (h : OneLine name) : Errs UsageError.Brief (argument v args position name) := by
  unfold argument
  split
  · exact errs_ok _
  · have mark : OneLine ": missing argument <" := by decide
    have close : OneLine ">" := by decide
    refine errs_error ?_
    simp [UsageError.Brief, UsageError.message, v.oneLine_name, mark, h, close]

theorem oneLine_quoted {front back : String} (opens : OneLine front) (closes : OneLine back)
    (word : String) : OneLine (front ++ quote word ++ back) := by
  simp [opens, closes, (printable_quote word).oneLine]

namespace Verbs

theorem Http.errs_readField (segment : List Char) : Errs UsageError.Brief (Http.readField segment) := by
  unfold Http.readField
  split
  · exact errs_error (UsageError.brief_invalid _ (oneLine_quoted (by decide) (by decide) _))
  · dsimp only
    split
    · split
      · exact errs_ok _
      · exact errs_error (UsageError.brief_invalid _ (oneLine_quoted (by decide) (by decide) _))
    · exact errs_error (UsageError.brief_invalid _ (oneLine_quoted (by decide) (by decide) _))

theorem Http.errs_readSegments (taken : HopProbe.Http.Fields) (segments : List (List Char)) :
    Errs UsageError.Brief (Http.readSegments taken segments) := by
  induction segments generalizing taken with
  | nil => exact errs_ok _
  | cons segment rest ih =>
    refine errs_bind (Http.errs_readField segment) fun field _ => ?_
    dsimp only
    split
    · exact errs_ok _
    · exact ih _

theorem Http.errs_method (word : String) : Errs UsageError.Brief (Http.Method.read word) := by
  unfold Http.Method.read
  split
  · exact errs_ok _
  · split
    · exact errs_ok _
    · exact errs_error (UsageError.brief_invalid _ (oneLine_quoted (by decide) (by decide) _))

theorem Http.errs_read (args : List String) : Errs UsageError.Brief (Http.read args) := by
  refine errs_bind (errs_argument _ _ _ (by decide)) fun word _ => ?_
  refine errs_bind (Http.errs_method word) fun method _ => ?_
  refine errs_bind (errs_argument _ _ _ (by decide)) fun url _ => ?_
  split
  · exact errs_bind (Http.errs_readSegments _ _) fun _ _ => errs_ok _
  · exact errs_ok _

theorem Tcp.errs_read (args : List String) : Errs UsageError.Brief (Tcp.read args) := by
  have port (word : String) : Errs UsageError.Brief (Tcp.readPort word) := by
    unfold Tcp.readPort
    split
    · exact errs_ok _
    · next fault _ => exact errs_error (by cases fault <;> decide)
  refine errs_bind (errs_argument _ _ _ (by decide)) fun host _ => ?_
  refine errs_bind (errs_argument _ _ _ (by decide)) fun word _ => ?_
  exact errs_bind (port word) fun _ _ => errs_ok _

theorem Blob.errs_read (args : List String) : Errs UsageError.Brief (Blob.read args) := by
  have operation (word : String) : Errs UsageError.Brief (Blob.readOperation args word) := by
    unfold Blob.readOperation
    split
    · exact errs_ok _
    · split
      · exact errs_map (errs_argument _ _ _ (by decide)) _
      · exact errs_error (UsageError.brief_invalid _ (oneLine_quoted (by decide) (by decide) _))
  refine errs_bind (errs_argument _ _ _ (by decide)) fun word _ => ?_
  refine errs_bind (errs_argument _ _ _ (by decide)) fun container _ => ?_
  refine errs_bind (errs_argument _ _ _ (by decide)) fun blob _ => ?_
  refine errs_bind (errs_argument _ _ _ (by decide)) fun endpoint _ => ?_
  exact errs_bind (operation word) fun _ _ => errs_ok _

theorem File.errs_read (args : List String) : Errs UsageError.Brief (File.readArgs args) := by
  have operation (word : String) : Errs UsageError.Brief (File.readOperation args word) := by
    unfold File.readOperation
    split
    · exact errs_ok _
    · split
      · exact errs_ok _
      · split
        · exact errs_map (errs_argument _ _ _ (by decide)) _
        · exact errs_error (UsageError.brief_invalid _ (oneLine_quoted (by decide) (by decide) _))
  refine errs_bind (errs_argument _ _ _ (by decide)) fun word _ => ?_
  refine errs_bind (errs_argument _ _ _ (by decide)) fun path _ => ?_
  exact errs_bind (operation word) fun _ _ => errs_ok _

theorem Redis.errs_read (args : List String) : Errs UsageError.Brief (Redis.read args) := by
  refine errs_bind (errs_argument _ _ _ (by decide)) fun word _ => ?_
  refine errs_bind (errs_argument _ _ _ (by decide)) fun key _ => ?_
  unfold Redis.readOperation
  split
  · exact errs_map (errs_argument _ _ _ (by decide)) _
  · split
    · refine errs_bind (errs_argument _ _ _ (by decide)) fun value _ => ?_
      exact errs_bind (errs_argument _ _ _ (by decide)) fun endpoint _ => errs_ok _
    · exact errs_error (UsageError.brief_invalid _ (oneLine_quoted (by decide) (by decide) _))

theorem Sql.errs_read (args : List String) : Errs UsageError.Brief (Sql.read args) := by
  refine errs_bind (errs_argument _ _ _ (by decide)) fun query _ => ?_
  exact errs_bind (errs_argument _ _ _ (by decide)) fun connection _ => errs_ok _

theorem NsLookup.errs_read (args : List String) : Errs UsageError.Brief (NsLookup.read args) := by
  have server (word : String) : Errs UsageError.Brief (NsLookup.readServer word) := by
    unfold NsLookup.readServer
    split
    · exact errs_ok _
    · refine errs_error (UsageError.brief_invalid _ ?_)
      rw [String.append_assoc]
      exact oneLine_quoted (by decide) (by decide) word
  refine errs_bind (errs_argument _ _ _ (by decide)) fun name _ => ?_
  split
  · exact errs_bind (server _) fun _ _ => errs_ok _
  · exact errs_ok _

end Verbs
end HopProbe
