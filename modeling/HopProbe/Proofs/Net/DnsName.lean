import HopProbe.Net.DnsName
import HopProbe.Proofs.Url.Domain

/-!
# How names in the domain system are shown

The labels of a name that was read are letters, digits and few marks, and the
name is shown without controls. Of a text in one line that is no name all that
is said is one line as well, but for a label that holds a line break which the
text escaped.
-/

set_option autoImplicit false

namespace HopProbe.DnsName
open HopProbe.Text

def Gives {ε α : Type} (Q : α → Prop) (P : ε → Prop) : Except ε α → Prop
  | .ok a => Q a
  | .error e => P e

section
variable {ε α β : Type} {P : ε → Prop} {Q : α → Prop} {R : β → Prop}

theorem gives_bind {r : Except ε α} {f : α → Except ε β} (h : Gives Q P r)
    (more : ∀ a, Q a → Gives R P (f a)) : Gives R P (r >>= f) := by
  cases r with
  | error e => exact h
  | ok a => exact more a h

theorem gives_foldlM {f : β → α → Except ε β} {as : List α} (h : ∀ a ∈ as, ∀ b, R b → Gives R P (f b a))
    {b : β} (start : R b) : Gives R P (as.foldlM f b) := by
  induction as generalizing b with
  | nil => exact start
  | cons a as ih =>
    rw [List.foldlM_cons]
    exact gives_bind (h a (by simp) b start) fun c hc => ih (fun x hx => h x (by simp [hx])) hc

end

def Known (fault : Fault) : Prop := OneLine fault.message ∨ ∃ label, fault = .malformedLabel label

def isSent (c : Char) : Bool := isSafe c || c == '.' || c == '*'

def Sent (label : List Char) : Prop := ∀ c ∈ label, isSent c = true

theorem visible_of_isSent {c : Char} (h : isSent c = true) : 0x20 ≤ c.toNat ∧ c.toNat < 0x80 := by
  simp only [isSent, isSafe, Bool.or_eq_true, beq_iff_eq] at h
  rcases h with (((letter | rfl) | rfl) | rfl) | rfl
  · exact visible_of_isAlphanum letter
  all_goals decide

theorem Sent.printable {label : List Char} (h : Sent label) : Printable label :=
  fun c hc => (visible_of_isSent (h c hc)).1

theorem Sent.ascii {label : List Char} (h : Sent label) : ∀ c ∈ label, c.toNat < 0x80 :=
  fun c hc => (visible_of_isSent (h c hc)).2

theorem known_number (text : String) (h : OneLine text) (n : Nat) :
    OneLine (text ++ toString n) :=
  oneLine_append.mpr ⟨h, (printable_nat n).oneLine⟩

theorem gives_asciiLabel (label : List Char) : Gives Sent Known (asciiLabel label) := by
  unfold asciiLabel
  split
  · exact Or.inr ⟨[], rfl⟩
  · next c rest =>
    split
    · next safe =>
      split
      · obtain ⟨first, others⟩ := Bool.and_eq_true_iff.mp safe
        intro d hd
        rcases List.mem_cons.mp hd with rfl | hd
        · simp only [isSafeFirst, Bool.or_eq_true] at first
          rcases first with ((letter | mark) | mark) | mark
          · simp [isSent, isSafe, letter]
          all_goals simp [isSent, isSafe, mark]
        · have other := List.all_eq_true.mp others d hd
          simp only [Bool.or_eq_true] at other
          simp only [isSent, Bool.or_eq_true]
          exact Or.inl other
      · exact Or.inl (known_number "label bytes exceed 63: " (by decide) _)
    · exact Or.inr ⟨_, rfl⟩

theorem gives_readLabel (label : List Char) : Gives Sent Known (readLabel label) := by
  unfold readLabel
  split
  · next star =>
    rw [star]
    intro c hc
    rw [List.mem_singleton.mp hc]
    rfl
  · split
    · exact gives_asciiLabel label
    · split
      · exact gives_asciiLabel _
      · exact Or.inl (by decide)

def AllSent (labels : List (List Char)) : Prop := ∀ label ∈ labels, Sent label

theorem gives_addLabel {labels : List (List Char)} (h : AllSent labels) (typed : List Char) :
    Gives AllSent Known (addLabel labels typed) := by
  refine gives_bind (gives_readLabel typed) fun label sent => ?_
  dsimp only
  split
  · intro l hl
    rcases List.mem_append.mp hl with hl | hl
    · exact h l hl
    · rw [List.mem_singleton.mp hl]
      exact sent
  · exact Or.inl (known_number "name label data exceed 255: " (by decide) _)

theorem oneLine_char {front : String} (h : OneLine front) {c : Char} (other : c ≠ '\n') :
    OneLine (front ++ c.toString) := by
  refine oneLine_append.mpr ⟨h, ?_⟩
  simp [OneLine, Char.toString, Ne.symm other]

theorem gives_octalDigit {c : Char} (other : c ≠ '\n') :
    Gives (fun _ => True) Known (octalDigit c) := by
  unfold octalDigit
  split
  · exact trivial
  · exact Or.inl (oneLine_char (by decide) other)

theorem gives_push {c : Char} (other : c ≠ '\n') (r : Reader) (h : AllSent r.labels) :
    Gives (fun r => AllSent r.labels) Known (r.push c) := by
  have stray : Known (.strayCharacter c) := Or.inl (oneLine_char (by decide) other)
  unfold Reader.push
  split
  · split
    · exact gives_bind (gives_addLabel h r.label) fun labels sent => sent
    · split
      · exact h
      · split
        · exact stray
        · exact h
  · split
    · exact gives_bind (gives_octalDigit other) fun _ _ => h
    · exact h
  · split
    · refine gives_bind (gives_octalDigit other) fun _ _ => ?_
      dsimp only
      split
      · exact h
      · exact h
    · exact stray

/-- A text in one line is a name of labels that are sent as they are, or no name. -/
theorem gives_read {typed : List Char} (h : '\n' ∉ typed) :
    Gives (fun name => AllSent name.labels) Known (read typed) := by
  unfold read
  split
  · simp [Gives, AllSent]
  · refine gives_bind (gives_foldlM (R := fun r => AllSent r.labels) ?_ (by simp [AllSent])) ?_
    · exact fun c hc r => gives_push (fun e => h (e ▸ hc)) r
    · intro r sent
      dsimp only
      split
      · exact sent
      · exact gives_bind (gives_addLabel sent r.label) fun labels all => all

theorem printable_byteText {safe : Char → Bool} (h : ∀ c, safe c = true → 0x20 ≤ c.toNat) (b : UInt8) :
    Printable (byteText safe b) := by
  have bound := b.toNat_lt
  have digit : ∀ n : Fin 8, 0x20 ≤ (hexDigitLower n).toNat := by decide
  unfold byteText
  dsimp only
  split
  · next allowed => simp [h _ allowed.2]
  · split
    · next visible =>
      have shown : (Char.ofNat b.toNat).toNat = b.toNat := Utf8.toNat_char (by omega)
      rw [printable_cons, printable_cons, shown]
      exact ⟨by decide, by omega, printable_nil⟩
    · simp only [octalText, printable_cons]
      exact ⟨by decide, digit ⟨_, Nat.mod_lt _ (by decide)⟩, digit ⟨_, Nat.mod_lt _ (by decide)⟩,
        digit ⟨_, Nat.mod_lt _ (by decide)⟩, printable_nil⟩

theorem printable_bytesText (bs : List UInt8) : Printable (bytesText bs) := by
  cases bs with
  | nil => exact printable_nil
  | cons b bs =>
    rw [bytesText, printable_append]
    constructor
    · refine printable_byteText (fun c safe => ?_) b
      simp only [isSafeFirst, Bool.or_eq_true, beq_iff_eq] at safe
      rcases safe with (letter | rfl) | rfl
      · exact (visible_of_isAlphanum letter).1
      all_goals decide
    · refine printable_flatMap fun b _ => printable_byteText (fun c safe => ?_) b
      exact (visible_of_isSent (by simp [isSent, safe])).1

theorem printable_labelText {label : List Char} (h : Sent label) : Printable (labelText label) := by
  unfold labelText
  split
  · next plain found =>
    split at found
    · exact Url.printable_plainName h.ascii h.printable found
    · cases found
  · exact printable_bytesText _

theorem printable_text {name : DnsName} (h : AllSent name.labels) : Printable name.text.toList := by
  rw [text, String.toList_ofList, printable_append]
  constructor
  · refine printable_joined (by decide) fun part hp => ?_
    obtain ⟨label, hl, rfl⟩ := List.mem_map.mp hp
    exact printable_labelText (h label hl)
  · split <;> decide

end HopProbe.DnsName
