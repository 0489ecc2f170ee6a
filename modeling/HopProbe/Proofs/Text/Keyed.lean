import HopProbe.Text.Keyed
import Mathlib.Logic.Relation

/-!
# Pieces in another order

The last values of the keys stay when pieces with different keys change
places, when a piece comes in that says nothing of the keys, when one is
spaced otherwise and when one is repeated in front of itself.
-/

set_option autoImplicit false

namespace HopProbe.Text

theorem lastValue?_append (front back : List (String × String)) (key : String) :
    lastValue? (front ++ back) key = (lastValue? back key).or (lastValue? front key) := by
  rw [lastValue?, List.reverse_append, List.find?_append, Option.map_or]
  rfl

section
variable {α : Type} (read : α → Option (String × String))

def said? (key : String) (piece : α) : Option String :=
  (read piece).bind fun (k, value) => if k = key then some value else none

def lastSaid? (pieces : List α) (key : String) : Option String :=
  lastValue? (pieces.filterMap read) key

variable {read} in
theorem said?_eq_none {key : String} {piece : α}
    (h : ∀ value, read piece ≠ some (key, value)) : said? read key piece = none := by
  cases told : read piece with
  | none => rw [said?, told, Option.bind_none]
  | some setting =>
    have other : setting.1 ≠ key := fun e => h setting.2 (by rw [told, ← e])
    simp [said?, told, other]

theorem lastSaid?_append (front back : List α) (key : String) :
    lastSaid? read (front ++ back) key = (lastSaid? read back key).or (lastSaid? read front key) := by
  rw [lastSaid?, List.filterMap_append, lastValue?_append]
  rfl

theorem lastSaid?_cons (piece : α) (back : List α) (key : String) :
    lastSaid? read (piece :: back) key = (lastSaid? read back key).or (said? read key piece) := by
  have alone : lastSaid? read [piece] key = said? read key piece := by
    cases told : read piece with
    | none => simp [lastSaid?, said?, told, lastValue?]
    | some setting =>
      by_cases named : setting.1 = key
      · simp [lastSaid?, said?, told, lastValue?, named]
      · simp [lastSaid?, said?, told, lastValue?, named]
  rw [← List.singleton_append, lastSaid?_append, alone]

/-- One change to pieces of which each gives a key a value or says nothing. -/
inductive Rearranged (idle : α → Prop) (respaced : α → α → Prop) : List α → List α → Prop
  | swap {s t : α} {k l v w : String} (front back : List α) (first : read s = some (k, v))
      (second : read t = some (l, w)) (other : k ≠ l) :
      Rearranged idle respaced (front ++ s :: t :: back) (front ++ t :: s :: back)
  | idle {s : α} (front back : List α) (h : idle s) :
      Rearranged idle respaced (front ++ back) (front ++ s :: back)
  | respaced {s t : α} (front back : List α) (same : respaced s t) :
      Rearranged idle respaced (front ++ s :: back) (front ++ t :: back)
  | again {s t : α} {k v w : String} (front back : List α) (first : read s = some (k, v))
      (there : t ∈ back) (last : read t = some (k, w)) :
      Rearranged idle respaced (front ++ back) (front ++ s :: back)

variable {read} {idle : α → Prop} {respaced : α → α → Prop}

theorem lastSaid?_of_mem {t : α} {back : List α} {k w : String} (there : t ∈ back)
    (last : read t = some (k, w)) : ∃ value, lastSaid? read back k = some value := by
  induction back with
  | nil => simp at there
  | cons s back ih =>
    rw [lastSaid?_cons]
    rcases List.mem_cons.mp there with rfl | there
    · cases lastSaid? read back k with
      | none => exact ⟨w, by simp [said?, last]⟩
      | some value => exact ⟨value, rfl⟩
    · obtain ⟨value, found⟩ := ih there
      exact ⟨value, by rw [found, Option.some_or]⟩

theorem Rearranged.lastSaid_eq {key : String}
    (idles : ∀ s, idle s → ∀ value, read s ≠ some (key, value))
    (reads : ∀ s t, respaced s t → read s = read t) {as bs : List α}
    (h : Rearranged read idle respaced as bs) :
    lastSaid? read as key = lastSaid? read bs key := by
  cases h with
  | @swap s t k l v w front back first second other =>
    have apart : said? read key s = none ∨ said? read key t = none := by
      by_cases named : k = key
      · exact Or.inr (by simp [said?, second, ← named, Ne.symm other])
      · exact Or.inl (by simp [said?, first, named])
    simp only [lastSaid?_append, lastSaid?_cons, Option.or_assoc]
    rcases apart with none | none <;> simp [none]
  | idle front back silent =>
    simp only [lastSaid?_append, lastSaid?_cons, said?_eq_none (idles _ silent), Option.or_none]
  | respaced front back same =>
    simp only [lastSaid?_append, lastSaid?_cons, said?, reads _ _ same]
  | @again s t k v w front back first there last =>
    simp only [lastSaid?_append, lastSaid?_cons]
    by_cases named : k = key
    · obtain ⟨value, found⟩ := lastSaid?_of_mem there last
      rw [← named, found]
      rfl
    · simp [said?, first, named]

theorem Rearranged.forall_iff {p : α → Prop} (keyed : ∀ s setting, read s = some setting → p s)
    (idles : ∀ s, idle s → p s) (reads : ∀ s t, respaced s t → (p s ↔ p t)) {as bs : List α}
    (h : Rearranged read idle respaced as bs) : (∀ s ∈ as, p s) ↔ ∀ s ∈ bs, p s := by
  cases h with
  | swap front back first second other =>
    simp only [List.forall_mem_append, List.forall_mem_cons, keyed _ _ first, keyed _ _ second, true_and]
  | idle front back said =>
    simp only [List.forall_mem_append, List.forall_mem_cons, idles _ said, true_and]
  | respaced front back same =>
    simp only [List.forall_mem_append, List.forall_mem_cons, reads _ _ same]
  | again front back first there last =>
    simp only [List.forall_mem_append, List.forall_mem_cons, keyed _ _ first, true_and]

/-- What one change leaves, any number of them leaves, made or taken back. -/
theorem eq_of_rearranged {β : Type} (f : List α → β)
    (step : ∀ as bs, Rearranged read idle respaced as bs → f as = f bs) {as bs : List α}
    (h : Relation.EqvGen (Rearranged read idle respaced) as bs) : f as = f bs := by
  induction h with
  | rel as bs h => exact step as bs h
  | refl as => rfl
  | symm as bs _ ih => exact ih.symm
  | trans as bs cs _ _ first second => exact first.trans second

theorem lastSaid?_of_rearranged {key : String}
    (idles : ∀ s, idle s → ∀ value, read s ≠ some (key, value))
    (reads : ∀ s t, respaced s t → read s = read t) {as bs : List α}
    (h : Relation.EqvGen (Rearranged read idle respaced) as bs) :
    lastSaid? read as key = lastSaid? read bs key :=
  eq_of_rearranged (lastSaid? read · key) (fun _ _ step => step.lastSaid_eq idles reads) h

end

/-!
## The first and the last of a key

Of all members of a list that have one key, the first and the last.
-/

section
variable {α κ : Type} (key : α → κ)

structure FirstOf (k : κ) (xs : List α) (x : α) : Prop where
  keyed : key x = k
  before : ∃ front back, xs = front ++ x :: back ∧ ∀ y ∈ front, key y ≠ k

structure LastOf (k : κ) (xs : List α) (x : α) : Prop where
  keyed : key x = k
  behind : ∃ front back, xs = front ++ x :: back ∧ ∀ y ∈ back, key y ≠ k

variable {key} {k : κ} {xs : List α} {x y : α}

theorem LastOf.mem (h : LastOf key k xs x) : x ∈ xs := by
  obtain ⟨front, back, rfl, -⟩ := h.behind
  simp

theorem lastOf_reverse_iff : LastOf key k xs x ↔ FirstOf key k xs.reverse x := by
  constructor
  · rintro ⟨keyed, front, back, rfl, clear⟩
    exact ⟨keyed, back.reverse, front.reverse, by simp, by simpa using clear⟩
  · rintro ⟨keyed, front, back, split, clear⟩
    refine ⟨keyed, back.reverse, front.reverse, ?_, by simpa using clear⟩
    rw [← List.reverse_reverse xs, split]
    simp

theorem find?_eq_some_iff_firstOf [BEq κ] [LawfulBEq κ] :
    xs.find? (fun y => key y == k) = some x ↔ FirstOf key k xs x := by
  rw [List.find?_eq_some_iff_append]
  constructor
  · rintro ⟨keyed, front, back, split, clear⟩
    exact ⟨by simpa using keyed, front, back, split, by simpa using clear⟩
  · rintro ⟨keyed, front, back, split, clear⟩
    exact ⟨by simpa using keyed, front, back, split, by simpa using clear⟩

theorem find?_reverse_eq_some_iff_lastOf [BEq κ] [LawfulBEq κ] :
    xs.reverse.find? (fun y => key y == k) = some x ↔ LastOf key k xs x :=
  find?_eq_some_iff_firstOf.trans lastOf_reverse_iff.symm

theorem lastOf_iff_mem (distinct : (xs.map key).Nodup) :
    LastOf key k xs x ↔ x ∈ xs ∧ key x = k := by
  refine ⟨fun h => ⟨h.mem, h.keyed⟩, ?_⟩
  rintro ⟨inside, rfl⟩
  obtain ⟨front, back, rfl⟩ := List.append_of_mem inside
  refine ⟨rfl, front, back, rfl, fun y hy same => ?_⟩
  rw [List.map_append, List.map_cons, List.nodup_append, List.nodup_cons] at distinct
  exact distinct.2.1.1 (same ▸ List.mem_map_of_mem hy)

theorem exists_lastOf_iff : (∃ x, LastOf key k xs x) ↔ ∃ x ∈ xs, key x = k := by
  classical
  simp only [← find?_reverse_eq_some_iff_lastOf, ← Option.isSome_iff_exists, List.find?_isSome,
    List.mem_reverse, beq_iff_eq]

end

end HopProbe.Text
