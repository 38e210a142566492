import Flowgraph.Graph.NodeId
import Flowgraph.Proofs.Text.Numeral
import Mathlib.Algebra.GroupWithZero.Nat

/-!
# Written ids

The fields of a written id are its numbers, so the text of an id tells the id. The reader here sets
no bound to the numbers: a numeral is read within the power of ten that its length gives.
-/

namespace Flowgraph

namespace Numeral

theorem lt_pow_length_digits (n : Nat) : n < 10 ^ (digits n).length := by
  induction n using digits.induct with
  | case1 n small =>
      rw [digits, if_pos small]
      simpa using small
  | case2 n large ih =>
      rw [digits, if_neg large, List.length_append, List.length_singleton, Nat.pow_succ]
      omega

def readAny? (text : List Char) : Option Nat := read? (10 ^ text.length) text

@[simp] theorem readAny?_digits (n : Nat) : readAny? (digits n) = some n :=
  read?_digits (Nat.le_of_lt (lt_pow_length_digits n))

end Numeral

namespace NodeId

open Numeral

theorem bar_notMem_digits (n : Nat) : '|' ∉ digits n := notMem_digits (by decide) n

theorem fields_chars_synthetic (counter : Nat) :
    Text.fields '|' (synthetic counter).chars = [digits counter] :=
  Text.fields_of_notMem (bar_notMem_digits counter)

theorem fields_chars_source (counter : Nat) (span : Span) :
    Text.fields '|' (source counter span).chars =
      [digits counter, digits span.start, digits span.stop] := by
  rw [chars, List.append_assoc, List.cons_append, Text.fields_append_cons (bar_notMem_digits _),
    Text.fields_append_cons (bar_notMem_digits _), Text.fields_of_notMem (bar_notMem_digits _)]

/-- What stands in a written id besides the words: digits and bars. -/
theorem notMem_chars {c : Char} (noDigit : digitValue? c = none) (noBar : c ≠ '|')
    (noStart : c ∉ "start".toList) (noEnd : c ∉ "end".toList) (id : NodeId) : c ∉ id.chars := by
  have noNumber (n : Nat) : c ∉ digits n := notMem_digits noDigit n
  cases id with
  | start => exact noStart
  | finish => exact noEnd
  | source counter span => simp [chars, noNumber, noBar]
  | synthetic counter => exact noNumber counter

/-- Reads the text of an id, whatever the size of its numbers. -/
def readAny? (text : List Char) : Option NodeId :=
  if text = "start".toList then some .start
  else if text = "end".toList then some .finish
  else
    match Text.fields '|' text with
    | [counter] => (Numeral.readAny? counter).map .synthetic
    | [counter, lower, upper] => do
        let counter ← Numeral.readAny? counter
        let lower ← Numeral.readAny? lower
        let upper ← Numeral.readAny? upper
        return .source counter ⟨lower, upper⟩
    | _ => none

@[simp] theorem readAny?_chars (id : NodeId) : readAny? id.chars = some id := by
  cases id with
  | start => rfl
  | finish => rfl
  | source counter span =>
      have bar : '|' ∈ (source counter span).chars := by simp [chars]
      have notStart : (source counter span).chars ≠ "start".toList :=
        bar.ne_of_notMem' (by decide)
      have notEnd : (source counter span).chars ≠ "end".toList := bar.ne_of_notMem' (by decide)
      rw [readAny?, if_neg notStart, if_neg notEnd, fields_chars_source]
      simp
  | synthetic counter =>
      have notStart : (synthetic counter).chars ≠ "start".toList := Ne.symm <|
        Membership.mem.ne_of_notMem' (by decide : 's' ∈ _) (notMem_digits (by decide) counter)
      have notEnd : (synthetic counter).chars ≠ "end".toList := Ne.symm <|
        Membership.mem.ne_of_notMem' (by decide : 'e' ∈ _) (notMem_digits (by decide) counter)
      rw [readAny?, if_neg notStart, if_neg notEnd, fields_chars_synthetic]
      simp

theorem span?_eq_some_iff {id : NodeId} {span : Span} :
    id.span? = some span ↔ ∃ counter, id = source counter span := by
  cases id <;> simp [span?]

/-- A click on a node that stands for a piece of source leads to its range. -/
theorem revealedSpan?_source {counter : Nat} {span : Span} (start : span.start ≤ max64)
    (stop : span.stop ≤ max64) : revealedSpan? (source counter span).render = some span := by
  rw [revealedSpan?, render, String.toList_ofList, fields_chars_source]
  simp [trim_digits, read?_digits start, read?_digits stop]

theorem revealedSpan?_other {id : NodeId} (other : id.isClickTarget = false) :
    revealedSpan? id.render = none := by
  cases id with
  | start => rfl
  | finish => rfl
  | source counter span => cases other
  | synthetic counter => rw [revealedSpan?, render, String.toList_ofList, fields_chars_synthetic]

end NodeId

end Flowgraph
