import Flowgraph.Text.Blank
import Flowgraph.Text.Numeral
import Mathlib.Data.List.TakeWhile

/-!
# Numerals and fields

A written number consists of digits and reads back as the number, whatever bound it stays within.
Pieces without separators are found again when they are written with separators between or behind
them, and every text is made up of such pieces.
-/

namespace Flowgraph

namespace Numeral

def IsDigit (c : Char) : Prop := ∃ d, d < 10 ∧ c = digitChar d

theorem digitValue?_digitChar {d : Nat} (small : d < 10) : digitValue? (digitChar d) = some d := by
  have values : ∀ d : Fin 10, digitValue? (digitChar d) = some d.val := by decide
  exact values ⟨d, small⟩

theorem isDigit_of_mem_digits {n : Nat} {c : Char} (member : c ∈ digits n) : IsDigit c := by
  induction n using digits.induct with
  | case1 n small =>
      rw [digits, if_pos small] at member
      exact ⟨n, small, List.mem_singleton.1 member⟩
  | case2 n large ih =>
      rw [digits, if_neg large] at member
      rcases List.mem_append.1 member with first | last
      · exact ih first
      · exact ⟨n % 10, Nat.mod_lt _ (by omega), List.mem_singleton.1 last⟩

theorem notMem_digits {c : Char} (other : digitValue? c = none) (n : Nat) : c ∉ digits n := by
  intro member
  obtain ⟨d, small, rfl⟩ := isDigit_of_mem_digits member
  rw [digitValue?_digitChar small] at other
  cases other

theorem readFrom_append {bound m n : Nat} {text rest : List Char}
    (first : readFrom bound m text = .ok n) :
    readFrom bound m (text ++ rest) = readFrom bound n rest := by
  induction text generalizing m with
  | nil =>
      obtain rfl : m = n := by simpa [readFrom] using first
      rfl
  | cons c text ih =>
      rw [readFrom] at first
      rw [List.cons_append, readFrom]
      split at first
      · cases first
      · split at first
        · cases first
        · next d _ fits =>
            simp only [fits, if_false]
            exact ih first

theorem readFrom_digits {bound n : Nat} (fits : n ≤ bound) : readFrom bound 0 (digits n) = .ok n := by
  induction n using digits.induct with
  | case1 n small =>
      rw [digits, if_pos small]
      simp [readFrom, digitValue?_digitChar small, Nat.not_lt.2 fits]
  | case2 n large ih =>
      have whole : 10 * (n / 10) + n % 10 = n := Nat.div_add_mod n 10
      rw [digits, if_neg large, readFrom_append (ih (by omega))]
      simp [readFrom, digitValue?_digitChar (Nat.mod_lt n (by omega : 0 < 10)), whole,
        Nat.not_lt.2 fits]

theorem digits_ne_nil (n : Nat) : digits n ≠ [] := by
  unfold digits
  split <;> simp

theorem read?_digits {bound n : Nat} (fits : n ≤ bound) : read? bound (digits n) = some n := by
  have noSign := notMem_digits (c := '+') (by decide) n
  have value := readFrom_digits fits
  unfold read? read
  split
  · next empty => exact absurd empty (digits_ne_nil n)
  · next sign => simp [sign] at noSign
  · next sign => simp [sign] at noSign
  · rw [value]
    rfl

end Numeral

namespace Text

/-- The blanks at the end are taken off a text whose last other character is no blank. -/
theorem trimEnd_append {line blanks : List Char} (blank : ∀ c ∈ blanks, isBlank c = true)
    (solid : ∀ c ∈ line.getLast?, isBlank c = false) : trimEnd (line ++ blanks) = line := by
  have behind : ∀ c ∈ blanks.reverse, isBlank c = true := fun c member =>
    blank c (List.mem_reverse.1 member)
  rw [trimEnd, List.reverse_append, List.dropWhile_append_of_pos behind]
  rw [← List.head?_reverse] at solid
  cases reversed : line.reverse with
  | nil => exact (List.reverse_eq_nil_iff.1 reversed).symm ▸ rfl
  | cons c rest =>
      rw [reversed] at solid
      rw [List.dropWhile_cons_of_neg (by simp [solid c rfl]), ← reversed, List.reverse_reverse]

theorem exists_eq_trimEnd (text : List Char) :
    ∃ blanks, text = trimEnd text ++ blanks ∧ (∀ c ∈ blanks, isBlank c = true) ∧
      ∀ c ∈ (trimEnd text).getLast?, isBlank c = false := by
  refine ⟨(text.reverse.takeWhile isBlank).reverse, ?_, ?_, ?_⟩
  · rw [trimEnd, ← List.reverse_append, List.takeWhile_append_dropWhile, List.reverse_reverse]
  · exact fun c member => List.mem_takeWhile_imp (List.mem_reverse.1 member)
  · intro c last
    rw [trimEnd, List.getLast?_reverse] at last
    have stopped := List.head?_dropWhile_not isBlank text.reverse
    rw [Option.mem_def.1 last] at stopped
    simpa using stopped

/-- Trimming takes the blanks off on both sides of what has none. -/
theorem trim_append {front core back : List Char} (before : ∀ c ∈ front, isBlank c = true)
    (solid : ∀ c ∈ core, isBlank c = false) (behind : ∀ c ∈ back, isBlank c = true) :
    trim (front ++ (core ++ back)) = core := by
  have last : ∀ c ∈ core.getLast?, isBlank c = false := fun c member =>
    solid c (List.mem_of_getLast? member)
  have trimmed := trimEnd_append behind last
  unfold trim trimStart
  rw [List.dropWhile_append_of_pos before]
  cases core with
  | nil =>
      have gone : back.dropWhile isBlank = [] := List.dropWhile_eq_nil_iff.2 behind
      rw [List.nil_append, gone]
      rfl
  | cons c core =>
      have first : isBlank c = false := solid c List.mem_cons_self
      rw [List.cons_append, List.dropWhile_cons_of_neg (by simp [first]), ← List.cons_append, trimmed]

theorem trim_of_solid {text : List Char} (solid : ∀ c ∈ text, isBlank c = false) :
    trim text = text := by
  have noBlank : ∀ c ∈ [], isBlank c = true := by simp
  have trimmed := trim_append noBlank solid noBlank
  rwa [List.nil_append, List.append_nil] at trimmed

/-- Only blanks are taken off. -/
theorem exists_eq_trim (text : List Char) :
    ∃ front back, text = front ++ (trim text ++ back) ∧ (∀ c ∈ front, isBlank c = true) ∧
      ∀ c ∈ back, isBlank c = true := by
  obtain ⟨back, parts, behind, -⟩ := exists_eq_trimEnd (trimStart text)
  refine ⟨text.takeWhile isBlank, back, ?_, fun c member => List.mem_takeWhile_imp member, behind⟩
  rw [trim, ← parts, trimStart, List.takeWhile_append_dropWhile]

end Text

namespace Numeral

theorem isBlank_of_mem_digits {n : Nat} {c : Char} (member : c ∈ digits n) :
    Text.isBlank c = false := by
  obtain ⟨d, small, rfl⟩ := isDigit_of_mem_digits member
  have solid : ∀ d : Fin 10, Text.isBlank (digitChar d) = false := by decide
  exact solid ⟨d, small⟩

theorem trim_digits (n : Nat) : Text.trim (digits n) = digits n :=
  Text.trim_of_solid fun _ member => isBlank_of_mem_digits member

end Numeral

namespace Text

variable {separator : Char} {piece rest : List Char}

/-- Characters with a property end where one without it stands. -/
theorem takeWhile_append_dropWhile {p : Char → Bool} (inside : ∀ c ∈ piece, p c = true)
    (boundary : ∀ c ∈ rest.head?, p c = false) :
    (piece ++ rest).takeWhile p = piece ∧ (piece ++ rest).dropWhile p = rest := by
  rw [List.takeWhile_append_of_pos inside, List.dropWhile_append_of_pos inside]
  cases rest with
  | nil => simp
  | cons c more => simp [boundary c rfl]

theorem splitOnce_append (apart : separator ∉ piece) :
    splitOnce separator (piece ++ separator :: rest) = some (piece, rest) := by
  induction piece with
  | nil => simp [splitOnce]
  | cons c piece ih =>
      rw [List.mem_cons, not_or] at apart
      rw [List.cons_append, splitOnce, if_neg (Ne.symm apart.1), ih apart.2]
      rfl

theorem splitOnce_eq_none_iff {text : List Char} :
    splitOnce separator text = none ↔ separator ∉ text := by
  induction text with
  | nil => simp [splitOnce]
  | cons c text ih =>
      rw [splitOnce, List.mem_cons, not_or, ← ih]
      by_cases here : c = separator
      · simp [here]
      · simp [here, Ne.symm here]

/-- A text with a separator in it is cut at the first one. -/
theorem splitOnce_eq_some_iff {text : List Char} :
    splitOnce separator text = some (piece, rest) ↔
      text = piece ++ separator :: rest ∧ separator ∉ piece := by
  constructor
  · intro cut
    induction text generalizing piece with
    | nil => cases cut
    | cons c text ih =>
        rw [splitOnce] at cut
        split at cut
        · next here =>
            obtain ⟨rfl, rfl⟩ := Prod.mk.inj (Option.some.inj cut)
            exact ⟨by rw [here, List.nil_append], List.not_mem_nil⟩
        · next other =>
            obtain ⟨⟨before, after⟩, later, same⟩ := Option.map_eq_some_iff.1 cut
            obtain ⟨rfl, rfl⟩ := Prod.mk.inj same
            obtain ⟨rfl, apart⟩ := ih later
            exact ⟨rfl, by simp [Ne.symm other, apart]⟩
  · rintro ⟨rfl, apart⟩
    exact splitOnce_append apart

theorem fields_of_notMem (apart : separator ∉ piece) : fields separator piece = [piece] := by
  induction piece with
  | nil => rfl
  | cons c piece ih =>
      rw [List.mem_cons, not_or] at apart
      rw [fields, if_neg (Ne.symm apart.1), ih apart.2]

theorem fields_append_cons (apart : separator ∉ piece) :
    fields separator (piece ++ separator :: rest) = piece :: fields separator rest := by
  induction piece with
  | nil => simp [fields]
  | cons c piece ih =>
      rw [List.mem_cons, not_or] at apart
      rw [List.cons_append, fields, if_neg (Ne.symm apart.1), ih apart.2]

/-- Pieces that are each ended by the separator are the fields, and nothing follows the last. -/
theorem fields_flatMap {pieces : List (List Char)} (apart : ∀ piece ∈ pieces, separator ∉ piece) :
    fields separator (pieces.flatMap (· ++ [separator])) = pieces ++ [[]] := by
  induction pieces with
  | nil => rfl
  | cons piece pieces ih =>
      rw [List.flatMap_cons, List.append_assoc, List.singleton_append,
        fields_append_cons (apart piece (List.mem_cons_self ..)),
        ih fun other member => apart other (List.mem_cons_of_mem _ member), List.cons_append]

theorem intercalate_cons (separator : Char) (first : List Char) (pieces : List (List Char)) :
    [separator].intercalate (first :: pieces) = first ++ pieces.flatMap (separator :: ·) := by
  induction pieces generalizing first with
  | nil => simp
  | cons piece pieces ih =>
      rw [List.intercalate_cons_cons, ih, List.flatMap_cons, List.append_assoc,
        List.singleton_append, List.cons_append]

/-- Pieces with separators between them are the fields. -/
theorem fields_intercalate {first : List Char} {pieces : List (List Char)}
    (apart : ∀ piece ∈ first :: pieces, separator ∉ piece) :
    fields separator ([separator].intercalate (first :: pieces)) = first :: pieces := by
  induction pieces generalizing first with
  | nil =>
      rw [List.intercalate_singleton]
      exact fields_of_notMem (apart first List.mem_cons_self)
  | cons piece pieces ih =>
      rw [List.intercalate_cons_cons, List.append_assoc, List.singleton_append,
        fields_append_cons (apart first List.mem_cons_self),
        ih fun other member => apart other (List.mem_cons_of_mem _ member)]

theorem fields_ne_nil (separator : Char) (text : List Char) : fields separator text ≠ [] := by
  cases text with
  | nil => simp [fields]
  | cons c rest =>
      rw [fields]
      split
      · simp
      · split <;> simp

/-- The fields with separators between them make up the text. -/
theorem intercalate_fields (separator : Char) (text : List Char) :
    [separator].intercalate (fields separator text) = text := by
  induction text with
  | nil => simp [fields]
  | cons c rest ih =>
      cases found : fields separator rest with
      | nil => exact absurd found (fields_ne_nil separator rest)
      | cons piece pieces =>
          rw [found] at ih
          by_cases ends : c = separator
          · rw [fields, if_pos ends, found, List.intercalate_cons_cons, ih, ends]
            rfl
          · rw [intercalate_cons] at ih
            rw [fields, if_neg ends, found]
            simp only [intercalate_cons, List.cons_append, ih]

theorem notMem_of_mem_fields {text : List Char} (member : piece ∈ fields separator text) :
    separator ∉ piece := by
  induction text generalizing piece with
  | nil =>
      obtain rfl : piece = [] := by simpa [fields] using member
      exact List.not_mem_nil
  | cons c rest ih =>
      by_cases ends : c = separator
      · rw [fields, if_pos ends] at member
        rcases List.mem_cons.1 member with rfl | later
        · exact List.not_mem_nil
        · exact ih later
      · cases found : fields separator rest with
        | nil => exact absurd found (fields_ne_nil separator rest)
        | cons first pieces =>
            rw [fields, if_neg ends, found] at member
            rw [found] at ih
            rcases List.mem_cons.1 member with rfl | later
            · have apart := ih List.mem_cons_self
              simp [Ne.symm ends, apart]
            · exact ih (List.mem_cons_of_mem _ later)

/-- There is one way to take a text apart at the separators. -/
theorem fields_eq_cons_iff {text first : List Char} {pieces : List (List Char)} :
    fields separator text = first :: pieces ↔
      (∀ piece ∈ first :: pieces, separator ∉ piece) ∧
        text = [separator].intercalate (first :: pieces) := by
  constructor
  · intro found
    rw [← found]
    exact ⟨fun piece member => notMem_of_mem_fields member, (intercalate_fields separator text).symm⟩
  · rintro ⟨apart, rfl⟩
    exact fields_intercalate apart

end Text

end Flowgraph
