import HopProbe.Proofs.Url.Scheme
import HopProbe.Proofs.Url.Segments

/-!
# A place and a number

The text of a host with a port and of a number behind them is read back as
these three.
-/

set_option autoImplicit false

namespace HopProbe.Url
open HopProbe.Text

theorem segmentsOf_digits {digits : List Char} (number : ∀ c ∈ digits, c.isDigit = true) :
    segmentsOf .plain digits = [digits] := by
  have known : ∀ c ∈ digits, c ∉ ['/', '%', '.'] ∧ 0x20 < c.toNat ∧
      Percent.Allowed Percent.path c := fun c hc =>
    forall_digit (P := fun c => c ∉ ['/', '%', '.'] ∧ 0x20 < c.toNat ∧
      Percent.Allowed Percent.path c) (by decide) (number c hc)
  have absent {d : Char} (hd : d ∈ ['/', '%', '.']) : d ∉ digits := fun hm => (known d hm).1 hd
  have cut : slashPieces .plain digits = [digits] := by
    have same : digits.map (fun c => if SchemeKind.plain.isSlash c then '/' else c) = digits := by
      refine (List.map_congr_left fun c _ => ?_).trans (List.map_id' digits)
      by_cases slash : c = '/'
      · simp [slash, SchemeKind.isSlash]
      · simp [slash, SchemeKind.isSlash, SchemeKind.isSpecial]
    rw [slashPieces, same, pieces_of_not_mem (absent (by decide))]
  have shown : dotsShown digits = digits := dotsShown_eq_self (absent (by decide))
  have typed : Percent.encode Percent.path (counted digits) = digits := by
    rw [counted_eq_self fun c hc => (known c hc).2.1, Percent.encode_eq_self fun c hc => (known c hc).2.2]
  have noDot : '.' ∉ digits := absent (by decide)
  have single : isSingleDot digits = false := by
    rw [isSingleDot, shown]
    exact beq_eq_false_iff_ne.mpr fun e => noDot (by simp [e])
  have double : isDoubleDot digits = false := by
    rw [isDoubleDot, shown]
    exact beq_eq_false_iff_ne.mpr fun e => noDot (by simp [e])
  have noDrive : (⟨[], false⟩ : Way).cutDrive? .plain digits = none := by
    unfold Way.cutDrive?
    split <;> simp
  simp [segmentsOf, wayOf, cut, Way.walk, Way.take, noDrive, typed, Way.arrive, single, double,
    Way.append]

/-- The place of a network is read back from its text. -/
theorem authorityOf_place {host : Host} (plain : host.Plain) (filled : host.isEmpty = false)
    {port : Nat} (low : port < 65536) (followed : Bool) :
    authorityOf .plain followed (placeText host (some port)) =
      .ok (⟨"", none, host, some port⟩, []) := by
  have noAt : '@' ∉ placeText host (some port) := fun h =>
    (inside_of_mem_placeText plain h).2.2.2.2.1 rfl
  have lone : placeText host (some port) ≠ ['@'] := fun e => noAt (by simp [e])
  have read : hostOf .plain host.text.toList = .ok host := plain.read
  have cut : cutHost false (placeText host (some port)) =
      (host.text.toList, portText (some port)) := plain.cut (by simp [Host.Ends, portText])
  have digits : (Nat.toDigits 10 port).takeWhile (· ≠ '\\') = Nat.toDigits 10 port := by
    have all : ∀ m ∈ Percent.marks, decide (m ≠ '\\') = true := forall_of_all (by decide)
    exact List.takeWhile_eq_self_iff.mpr fun c hc => all c (mem_marks_of_mem_toDigits hc)
  simp only [authorityOf, lone, cutCredentials, cutLast_of_not_mem noAt, cut, read, portText, filled,
    digits, portOf_toDigits low, false_and, if_false, Bool.false_eq_true, List.drop_length, bind,
    Except.bind, pure, Except.pure]

def placeUrl (scheme : String) (host : Host) (port : Nat) (parts : List (List Char)) : Url where
  scheme := scheme
  username := ""
  password := none
  host := some host
  port := some port
  guarded := false
  route := .segments parts
  query := none
  fragment := none

theorem text_placeUrl (scheme : String) (host : Host) (port : Nat) (parts : List (List Char)) :
    (placeUrl scheme host port parts).text.toList =
      scheme.toList ++ ':' :: '/' :: '/' :: (placeText host (some port) ++ segmentsText parts) := by
  simp [placeUrl, text, authorityText, credentialsText, guardText, target, pathText, Route.text,
    queryText, fragmentText, placeText, portText]

section
variable {scheme : String} (named : IsScheme scheme) (kind : SchemeKind.of scheme = .plain)
  {host : Host} (plain : host.Plain) (filled : host.isEmpty = false) {port : Nat}
  (low : port < 65536)
include named kind plain filled low

theorem parse_place {path : List Char} (slash : ∀ c ∈ path.head?, c = '/')
    (visible : ∀ c ∈ path, 0x20 < c.toNat ∧ c ≠ '#' ∧ c ≠ '?') {parts : List (List Char)}
    (route : routeBehind .plain path = .segments parts) :
    parse (String.ofList
      (scheme.toList ++ ':' :: '/' :: '/' :: (placeText host (some port) ++ path))) =
        .ok (placeUrl scheme host port parts) := by
  have place (c : Char) (hc : c ∈ placeText host (some port)) : Host.Inside c :=
    inside_of_mem_placeText plain hc
  have all : ∀ c ∈ placeText host (some port) ++ path, 0x20 < c.toNat ∧ c ≠ '#' ∧ c ≠ '?' := by
    intro c hc
    rcases List.mem_append.mp hc with hc | hc
    · exact ⟨(place c hc).1, (place c hc).2.1, (place c hc).2.2.2.1⟩
    · exact visible c hc
  have edges : dropEndWhile isEdgeBlank (placeText host (some port) ++ path) =
      placeText host (some port) ++ path :=
    dropEndWhile_eq_self fun c hc => by simpa [isEdgeBlank] using (all c hc).1
  have authority : (placeText host (some port) ++ path).takeWhile (! SchemeKind.plain.isSlash ·) =
      placeText host (some port) := by
    have inside : ∀ c ∈ placeText host (some port), (! SchemeKind.plain.isSlash c) = true := by
      intro c hc
      simp [SchemeKind.isSlash, SchemeKind.isSpecial, (place c hc).2.2.1]
    rw [List.takeWhile_append_of_pos inside]
    cases path with
    | nil => simp
    | cons c path =>
      have first : c = '/' := slash c rfl
      rw [first, List.takeWhile_cons_of_neg (by simp [SchemeKind.isSlash]), List.append_nil]
  rw [parse_authority named kind, edges, cutOff_of_not_mem fun hm => (all _ hm).2.1 rfl]
  dsimp only
  rw [cutOff_of_not_mem fun hm => (all _ hm).2.2 rfl, counted_eq_self fun c hc => (all c hc).1]
  simp only [withAuthority, kind, authority, authorityOf_place plain filled low, List.drop_left,
    List.nil_append, route, bind, Except.bind, pure, Except.pure]
  rfl

end

end HopProbe.Url
