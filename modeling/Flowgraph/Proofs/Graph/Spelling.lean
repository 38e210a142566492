import Flowgraph.Proofs.Graph.NodeId
import Flowgraph.Proofs.Text.Decimal

/-!
# How ids may be written

The texts that stand for an id form a small grammar: two words, a numeral, or three numerals with
bars between them. The id of a click is read less strictly, from the second and the third field of a
text, with blanks around them allowed. Where both readers accept a text they find the same range in
it.
-/

namespace Flowgraph.NodeId

open Numeral

inductive Spells : List Char → NodeId → Prop where
  | start : Spells "start".toList .start
  | finish : Spells "end".toList .finish
  | synthetic {text : List Char} {counter : Nat} (numeral : Denotes text counter)
      (bound : counter ≤ max32) : Spells text (.synthetic counter)
  | source {first lower upper : List Char} {counter : Nat} {span : Span}
      (counted : Denotes first counter) (bound : counter ≤ max32)
      (opens : Denotes lower span.start) (lowest : span.start ≤ max64)
      (closes : Denotes upper span.stop) (highest : span.stop ≤ max64) :
      Spells (first ++ '|' :: (lower ++ '|' :: upper)) (.source counter span)

/-- The text of an id with each of its numerals written plainly. -/
def normal (text : List Char) : List Char :=
  ['|'].intercalate ((Text.fields '|' text).map plain)

variable {text : List Char} {id : NodeId}

theorem bar_notMem_of_denotes {n : Nat} (numeral : Denotes text n) : '|' ∉ text :=
  numeral.notMem (by decide) (by decide)

theorem fields_of_denotes {n : Nat} (numeral : Denotes text n) : Text.fields '|' text = [text] :=
  Text.fields_of_notMem (bar_notMem_of_denotes numeral)

theorem fields_of_denotes_three {first lower upper : List Char} {a b c : Nat}
    (counted : Denotes first a) (opens : Denotes lower b) (closes : Denotes upper c) :
    Text.fields '|' (first ++ '|' :: (lower ++ '|' :: upper)) = [first, lower, upper] := by
  rw [Text.fields_append_cons (bar_notMem_of_denotes counted),
    Text.fields_append_cons (bar_notMem_of_denotes opens), fields_of_denotes closes]

/-- A word with a letter in it is no numeral. -/
theorem ne_word (word : List Char) (letter : Char) (member : letter ∈ word)
    (noDigit : digitValue? letter = none) (noSign : letter ≠ '+') {n : Nat}
    (numeral : Denotes text n) : text ≠ word := by
  rintro rfl
  exact numeral.notMem noDigit noSign member

theorem readChars?_of_denotes {counter : Nat} (numeral : Denotes text counter)
    (bound : counter ≤ max32) : readChars? text = some (.synthetic counter) := by
  have notStart : text ≠ "start".toList := ne_word _ 's' (by decide) (by decide) (by decide) numeral
  have notEnd : text ≠ "end".toList := ne_word _ 'e' (by decide) (by decide) (by decide) numeral
  have read : Numeral.read? max32 text = some counter := read?_eq_some_iff.2 ⟨numeral, bound⟩
  rw [readChars?, if_neg notStart, if_neg notEnd, fields_of_denotes numeral]
  simp [read]

theorem readChars?_of_spells (spells : Spells text id) : readChars? text = some id := by
  cases spells with
  | start => rfl
  | finish => rfl
  | synthetic numeral bound => exact readChars?_of_denotes numeral bound
  | @source first lower upper counter span counted bound opens lowest closes highest =>
      have bar : '|' ∈ first ++ '|' :: (lower ++ '|' :: upper) := by simp
      have notStart : first ++ '|' :: (lower ++ '|' :: upper) ≠ "start".toList :=
        bar.ne_of_notMem' (by decide)
      have notEnd : first ++ '|' :: (lower ++ '|' :: upper) ≠ "end".toList :=
        bar.ne_of_notMem' (by decide)
      have readCounter : Numeral.read? max32 first = some counter := read?_eq_some_iff.2 ⟨counted, bound⟩
      have readStart : Numeral.read? max64 lower = some span.start := read?_eq_some_iff.2 ⟨opens, lowest⟩
      have readStop : Numeral.read? max64 upper = some span.stop := read?_eq_some_iff.2 ⟨closes, highest⟩
      rw [readChars?, if_neg notStart, if_neg notEnd, fields_of_denotes_three counted opens closes]
      simp [readCounter, readStart, readStop]

theorem spells_of_readChars? (read : readChars? text = some id) : Spells text id := by
  unfold readChars? at read
  split at read
  · next word =>
      obtain rfl := Option.some.inj read
      rw [word]
      exact .start
  · split at read
    · next word =>
        obtain rfl := Option.some.inj read
        rw [word]
        exact .finish
    · split at read
      · next counter found =>
          obtain ⟨-, parts⟩ := Text.fields_eq_cons_iff.1 found
          rw [List.intercalate_singleton] at parts
          obtain ⟨n, number, rfl⟩ := Option.map_eq_some_iff.1 read
          obtain ⟨numeral, bound⟩ := read?_eq_some_iff.1 number
          rw [parts]
          exact .synthetic numeral bound
      · next counter lower upper found =>
          obtain ⟨-, parts⟩ := Text.fields_eq_cons_iff.1 found
          simp only [bind, Option.bind_eq_some_iff, pure, Option.some.injEq] at read
          obtain ⟨n, readCounter, a, readStart, b, readStop, rfl⟩ := read
          obtain ⟨counted, bound⟩ := read?_eq_some_iff.1 readCounter
          obtain ⟨opens, lowest⟩ := read?_eq_some_iff.1 readStart
          obtain ⟨closes, highest⟩ := read?_eq_some_iff.1 readStop
          have whole : text = counter ++ '|' :: (lower ++ '|' :: upper) := by
            rw [parts]
            simp
          rw [whole]
          exact .source counted bound opens lowest closes highest
      · cases read

theorem read?_eq_some_iff_spells {text : String} : read? text = some id ↔ Spells text.toList id :=
  ⟨spells_of_readChars?, readChars?_of_spells⟩

theorem parse_eq_ok_iff {text : String} : parse text = .ok id ↔ Spells text.toList id := by
  rw [← read?_eq_some_iff_spells, parse]
  cases read? text <;> simp

theorem parse_eq_error_iff {text : String} {failure : Failure} :
    parse text = .error failure ↔
      failure = .parse (invalidMessage text) ∧ ¬∃ id, Spells text.toList id := by
  simp only [← read?_eq_some_iff_spells]
  unfold parse
  cases read? text <;> simp [eq_comm]

theorem spells_chars (fits : id.Fits) : Spells id.chars id := by
  cases id with
  | start => exact .start
  | finish => exact .finish
  | synthetic counter => exact .synthetic (denotes_digits counter) fits
  | source counter span =>
      obtain ⟨bound, lowest, highest⟩ := fits
      have parts : (source counter span).chars =
          digits counter ++ '|' :: (digits span.start ++ '|' :: digits span.stop) := by
        simp [chars]
      rw [parts]
      exact .source (denotes_digits _) bound (denotes_digits _) lowest (denotes_digits _) highest

theorem Spells.fits (spells : Spells text id) : id.Fits := by
  cases spells with
  | start => trivial
  | finish => trivial
  | synthetic numeral bound => exact bound
  | source counted bound opens lowest closes highest => exact ⟨bound, lowest, highest⟩

theorem Spells.chars_eq (spells : Spells text id) : id.chars = normal text := by
  cases spells with
  | start => rfl
  | finish => rfl
  | synthetic numeral bound =>
      rw [normal, fields_of_denotes numeral, List.map_singleton, List.intercalate_singleton]
      exact numeral.digits_eq
  | source counted bound opens lowest closes highest =>
      rw [normal, fields_of_denotes_three counted opens closes]
      simp [chars, counted.digits_eq, opens.digits_eq, closes.digits_eq]

theorem render_injective : Function.Injective render := by
  intro id other same
  have letters : id.chars = other.chars := String.ofList_injective same
  have back := readAny?_chars id
  rw [letters, readAny?_chars] at back
  exact (Option.some.inj back).symm

/-- An id that is written reads back, no two are written alike, and of all texts those are read that
stand for an id. Written again they have lost the plus signs and the zeros in front of their
numerals. Every other text is a failure that names it. -/
theorem parse_exact :
    (∀ id : NodeId, id.Fits → parse id.render = .ok id) ∧
    (∀ id other : NodeId, id.render = other.render → id = other) ∧
    (∀ text id, parse text = .ok id ↔ Spells text.toList id) ∧
    (∀ text id, parse text = .ok id → id.render.toList = normal text.toList) ∧
    ∀ text failure, parse text = .error failure ↔
      failure = .parse ("invalid node id \x60" ++ text ++ "\x60") ∧
        ¬∃ id, Spells text.toList id := by
  refine ⟨fun id fits => ?_, fun id other same => render_injective same,
    fun text id => parse_eq_ok_iff, fun text id read => ?_, fun text failure => parse_eq_error_iff⟩
  · rw [parse_eq_ok_iff, render, String.toList_ofList]
    exact spells_chars fits
  · rw [render, String.toList_ofList]
    exact (parse_eq_ok_iff.1 read).chars_eq

example : parse "+007|0|10" = .ok (.source 7 ⟨0, 10⟩) := rfl

/-! ## Clicks -/

/-- A click is read from a text with three fields or more, of which the second and the third are
numerals. -/
theorem revealedSpan?_eq_some_iff {text : String} {span : Span} :
    revealedSpan? text = some span ↔
      ∃ first lower upper rest, Text.fields '|' text.toList = first :: lower :: upper :: rest ∧
        Padded max64 lower span.start ∧ Padded max64 upper span.stop := by
  simp only [← read?_trim_eq_some_iff]
  unfold revealedSpan?
  constructor
  · intro read
    split at read
    · next first lower upper rest found =>
        simp only [bind, Option.bind_eq_some_iff, pure, Option.some.injEq] at read
        obtain ⟨a, readStart, b, readStop, rfl⟩ := read
        exact ⟨first, lower, upper, rest, found, readStart, readStop⟩
    · cases read
  · rintro ⟨first, lower, upper, rest, found, readStart, readStop⟩
    simp [found, readStart, readStop]

theorem revealedSpan?_of_spells {text : String} (spells : Spells text.toList id) :
    revealedSpan? text = id.span? := by
  generalize whole : text.toList = letters at spells
  cases spells with
  | start =>
      rw [revealedSpan?, whole]
      rfl
  | finish =>
      rw [revealedSpan?, whole]
      rfl
  | synthetic numeral bound =>
      rw [revealedSpan?, whole, fields_of_denotes numeral]
      rfl
  | source counted bound opens lowest closes highest =>
      rw [span?, revealedSpan?_eq_some_iff, whole, fields_of_denotes_three counted opens closes]
      exact ⟨_, _, _, [], rfl, opens.padded lowest, closes.padded highest⟩

/-- For every text that stands for an id, a click finds the range of the id, which only the id of a
piece of source has. Of all texts a click finds a range in those with bars between three pieces or
more, when the second and the third are numerals with blanks around them, and it is the range of
these two, whatever the other pieces are. -/
theorem revealedSpan?_exact :
    (∀ text id, parse text = .ok id → revealedSpan? text = id.span?) ∧
    (∀ (id : NodeId) span, id.span? = some span ↔ ∃ counter, id = .source counter span) ∧
    ∀ text span, revealedSpan? text = some span ↔
      ∃ first lower upper rest,
        (∀ piece ∈ first :: lower :: upper :: rest, '|' ∉ piece) ∧
        text.toList = ['|'].intercalate (first :: lower :: upper :: rest) ∧
        Padded max64 lower span.start ∧ Padded max64 upper span.stop := by
  refine ⟨fun text id read => revealedSpan?_of_spells (parse_eq_ok_iff.1 read),
    fun id span => span?_eq_some_iff, fun text span => ?_⟩
  simp only [revealedSpan?_eq_some_iff, Text.fields_eq_cons_iff, and_assoc]

/-- A text that stands for no id. -/
example : (parse "x| 1 |+02|y").toOption = none ∧ revealedSpan? "x| 1 |+02|y" = some ⟨1, 2⟩ :=
  ⟨rfl, rfl⟩

end Flowgraph.NodeId
