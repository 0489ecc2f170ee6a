import HopProbe.Proofs.Blob.Protocol
import HopProbe.Proofs.Text.Base64
import HopProbe.Proofs.Text.Valid
import HopProbe.Proofs.Verbs.Files

/-!
# Contents that are shown

The bytes of a file or of a blob are shown without a loss: those that are a
text as this text, and all others in base 64, from which they can be read.
-/

set_option autoImplicit false

namespace HopProbe
open HopProbe.Text

/-- A text that shows bytes. -/
structure Blob.Shown (content : List UInt8) (shown : String) : Prop where
  text : Utf8.Valid content → ∃ cs, content = Utf8.encode cs ∧ shown = String.ofList cs
  binary : ¬ Utf8.Valid content → ∃ digits, shown = "base64:" ++ String.ofList digits ∧
    Base64.Denotes digits content ∧ Base64.decode? digits = some content

theorem Blob.shown_contentText (content : List UInt8) : Shown content (contentText content) := by
  constructor
  · intro valid
    obtain ⟨cs, rfl⟩ := Utf8.valid_iff.mp valid
    refine ⟨cs, rfl, ?_⟩
    simp only [contentText, Utf8.text?, Utf8.decode?_encode, Option.map_some]
  · intro invalid
    have unread : Utf8.decode? content = none := by
      rw [Option.eq_none_iff_forall_ne_some]
      intro cs read
      exact invalid (Utf8.valid_iff.mpr ⟨cs, Utf8.decode?_eq_some_iff.mp read⟩)
    refine ⟨Base64.encode content, ?_, Base64.denotes_encode content,
      Base64.decode?_encode content⟩
    simp only [contentText, Utf8.text?, unread, Option.map_none]
    rfl

theorem Blob.Shown.unique {content other : List UInt8} {shown : String} (h : Shown content shown)
    (h' : Shown other shown) (invalid : ¬ Utf8.Valid content) (invalid' : ¬ Utf8.Valid other) :
    content = other := by
  obtain ⟨digits, rfl, -, read⟩ := h.binary invalid
  obtain ⟨digits', same, -, read'⟩ := h'.binary invalid'
  have listed := congrArg String.toList same
  simp only [String.toList_append, String.toList_ofList, List.append_cancel_left_eq] at listed
  rw [listed, read'] at read
  exact (Option.some.inj read).symm

namespace Verbs

/-- The lines that read bytes, the bytes they get, and the world behind them. -/
inductive Fetches (w : World) : Verb → List String → List UInt8 → World → Prop
  | file {path : String} {content : List UInt8}
    (there : w.files.readFile (Utf8.bytes path) = .ok content) (more : List String) :
    Fetches w .file ("READ" :: path :: more) content (w.record (.file path))
  /-- The container was there or was created, and all of the blob arrived. -/
  | blob {container blob endpoint : String} {e : HopProbe.Blob.Endpoint} {home address : Url}
    {creation download : HopProbe.Blob.Call} {created arrived : HopProbe.Http.Response}
    {moved on : List HopProbe.Http.Request} {content : List UInt8} {next : World}
    (parsed : HopProbe.Blob.Endpoint.parse endpoint = .ok e)
    (atHome : e.url [container] (some "restype=container") = .ok home)
    (atBlob : e.url [container, blob] none = .ok address)
    (calls : HopProbe.Blob.protocol home address .get = [creation, download])
    (made : HopProbe.Blob.Tried w
      [⟨creation, moved, some created⟩, ⟨download, on, some arrived⟩] next)
    (accepted : creation.accepted created.status = true)
    (success : download.accepted arrived.status = true)
    (whole : arrived.content? = some content) (more : List String) :
    Fetches w .blob ("GET" :: container :: blob :: endpoint :: more) content next

theorem execute_of_fetches {w next : World} {v : Verb} {args : List String} {content : List UInt8}
    (h : Fetches w v args content next) (context : Context) :
    (builtinHandler v).execute args context w =
      (.finished (HopProbe.Blob.contentText content), next) := by
  cases h with
  | @file path content there more =>
    have read : File.readArgs ("READ" :: path :: more) = .ok ⟨.read, path⟩ := rfl
    refine (File.phases.execute_of_read_ok read context w).trans ?_
    refine (File.outcome_read path context w).trans ?_
    rw [there]
    rfl
  | @blob container blob endpoint e home address creation download created arrived moved on content
      next parsed atHome atBlob calls made accepted success whole more =>
    have read := HopProbe.Blob.read_eq_ok_iff.mpr (.get container blob endpoint more)
    obtain ⟨first, rest, listed, same⟩ := @HopProbe.Blob.perform_eq
      ⟨.get, container, blob, endpoint⟩ _ _ _ parsed atHome atBlob context
    rw [calls] at listed
    cases listed
    cases made with
    | call created made =>
    cases made with
    | call arrived made =>
    cases made with
    | none =>
    obtain ⟨_, first⟩ := created.run_send rfl accepted
    obtain ⟨r, second⟩ := arrived.run_send rfl success
    have ran : (Blob.perform ⟨.get, container, blob, endpoint⟩ context).run.run w =
        (.ok (HopProbe.Blob.contentText content), next) := by
      rw [same, HopProbe.Blob.follow, Effect.run_bind, first]
      dsimp only
      rw [HopProbe.Blob.follow, Effect.run_bind, second]
      simp only [HopProbe.Blob.conclude, whole]
      rfl
    rw [HopProbe.Blob.execute_of_read read, Effect.outcome, ran]
    rfl

/-- A step that reads bytes shows them without a loss: what it says of bytes that are no text, it
says of no others that are none. -/
theorem contents_shown {w next : World} {v : Verb} {args : List String} {content : List UInt8}
    (h : Fetches w v args content next) (context : Context) :
    ∃ shown, (builtinHandler v).execute args context w = (.finished shown, next) ∧
      HopProbe.Blob.Shown content shown ∧
      ∀ other, ¬ Utf8.Valid content → ¬ Utf8.Valid other → HopProbe.Blob.Shown other shown →
        other = content :=
  ⟨_, execute_of_fetches h context, HopProbe.Blob.shown_contentText content,
    fun _ invalid invalid' same =>
      same.unique (HopProbe.Blob.shown_contentText content) invalid' invalid⟩

theorem contents_shown_of_two_bytes :
    let content : List UInt8 := [0xFF, 0x00]
    let world : World := { World.still with
      files := FileSystem.bare.offer [Utf8.bytes "f"] (.file content)
      peers := [⟨fun _ => true, fun _ => .response ⟨201, [], content, true⟩, false⟩] }
    HopProbe.Blob.Shown content "base64:/wA=" ∧ ∀ context,
      ((builtinHandler .file).execute ["READ", "f"] context world).1 = .finished "base64:/wA=" ∧
      ((builtinHandler .blob).execute ["GET", "c", "b", "http://[::1]"] context world).1 =
        .finished "base64:/wA=" := by
  intro content world
  have there : world.files.readFile (Utf8.bytes "f") = .ok content :=
    FileSystem.readFile_alone (by decide +kernel) (by decide +kernel) (by decide +kernel)
      (by decide +kernel) (by decide +kernel) content
  have file : Fetches world .file ["READ", "f"] content (world.record (.file "f")) := .file there []
  have blob : ∃ next, Fetches world .blob ["GET", "c", "b", "http://[::1]"] content next := by
    have parsed : HopProbe.Blob.Endpoint.parse "http://[::1]" =
        .ok ⟨HopProbe.Blob.loopback [""], none⟩ := rfl
    have atHome : HopProbe.Blob.Endpoint.url ⟨HopProbe.Blob.loopback [""], none⟩ ["c"]
        (some "restype=container") =
          .ok ((HopProbe.Blob.loopback ["c"]).setQuery (some "restype=container")) := rfl
    have atBlob : HopProbe.Blob.Endpoint.url ⟨HopProbe.Blob.loopback [""], none⟩ ["c", "b"] none =
        .ok (HopProbe.Blob.loopback ["c", "b"]) := rfl
    exact ⟨_, .blob parsed atHome atBlob rfl (.call (HopProbe.Blob.Try.made_of_final rfl rfl rfl)
      (.call (HopProbe.Blob.Try.made_of_final rfl rfl rfl) (.none _))) rfl rfl rfl []⟩
  obtain ⟨next, blob⟩ := blob
  have shows {v : Verb} {args : List String} {next : World} (h : Fetches world v args content next)
      (context : Context) :
      ((builtinHandler v).execute args context world).1 = .finished "base64:/wA=" ∧
        HopProbe.Blob.Shown content "base64:/wA=" := by
    obtain ⟨shown, ran, same, -⟩ := contents_shown h context
    obtain rfl : HopProbe.Blob.contentText content = shown := by
      rw [execute_of_fetches h] at ran
      exact Attempt.finished.inj (congrArg Prod.fst ran)
    exact ⟨by rw [ran]; rfl, same⟩
  exact ⟨(shows file ⟨[], .empty⟩).2, fun context => ⟨(shows file context).1, (shows blob context).1⟩⟩

end Verbs
end HopProbe
