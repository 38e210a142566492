import Flowgraph.Text.Position

/-!
# Ranges that fit a text

A byte range cuts a text into three parts, or nothing is cut out: that is so exactly when one of its
ends is not a boundary between characters of the text, or they are the wrong way round.
-/

namespace Flowgraph

namespace Text

@[simp] theorem byteSize_nil : byteSize [] = 0 := rfl

@[simp] theorem byteSize_cons (c : Char) (text : List Char) :
    byteSize (c :: text) = c.utf8Size + byteSize text := rfl

@[simp] theorem byteSize_append (a b : List Char) : byteSize (a ++ b) = byteSize a + byteSize b := by
  induction a with
  | nil => exact (Nat.zero_add _).symm
  | cons c a ih => rw [List.cons_append, byteSize_cons, byteSize_cons, ih, Nat.add_assoc]

theorem byteSize_eq_zero_iff {text : List Char} : byteSize text = 0 ↔ text = [] := by
  cases text with
  | nil => simp
  | cons c rest =>
      have positive := c.utf8Size_pos
      simp only [byteSize_cons, reduceCtorEq, iff_false]
      omega

theorem splitBytesFrom_zero {taken text before after : List Char} :
    splitBytesFrom taken 0 text = some (before, after) ↔
      ∃ part, before = taken.reverse ++ part ∧ text = part ++ after ∧ byteSize part = 0 := by
  have here : splitBytesFrom taken 0 text = some (taken.reverse, text) := by cases text <;> rfl
  rw [here, Option.some.injEq, Prod.mk.injEq]
  constructor
  · rintro ⟨rfl, rfl⟩
    exact ⟨[], (List.append_nil _).symm, rfl, rfl⟩
  · rintro ⟨part, rfl, rfl, size⟩
    rw [byteSize_eq_zero_iff.1 size]
    exact ⟨(List.append_nil _).symm, rfl⟩

theorem splitBytesFrom_eq_some_iff {taken text before after : List Char} {n : Nat} :
    splitBytesFrom taken n text = some (before, after) ↔
      ∃ part, before = taken.reverse ++ part ∧ text = part ++ after ∧ byteSize part = n := by
  induction text generalizing taken n with
  | nil =>
      rcases Nat.eq_zero_or_pos n with rfl | positive
      · exact splitBytesFrom_zero
      rw [splitBytesFrom, if_neg (by omega)]
      constructor
      · intro impossible
        cases impossible
      · rintro ⟨part, -, empty, size⟩
        obtain ⟨rfl, -⟩ := List.append_eq_nil_iff.1 empty.symm
        rw [byteSize_nil] at size
        omega
  | cons c rest ih =>
      rcases Nat.eq_zero_or_pos n with rfl | positive
      · exact splitBytesFrom_zero
      rw [splitBytesFrom, if_neg (by omega)]
      constructor
      · intro taking
        split at taking
        · next fits =>
            obtain ⟨part, rfl, rfl, size⟩ := ih.1 taking
            refine ⟨c :: part, by simp, rfl, ?_⟩
            rw [byteSize_cons]
            omega
        · cases taking
      · rintro ⟨_ | ⟨d, part⟩, rfl, same, size⟩
        · rw [byteSize_nil] at size
          omega
        · obtain ⟨rfl, rfl⟩ := List.cons.inj same
          rw [byteSize_cons] at size
          rw [if_pos (by omega)]
          exact ih.2 ⟨part, by simp, rfl, by omega⟩

theorem splitBytes_eq_some_iff {text before after : List Char} {n : Nat} :
    splitBytes n text = some (before, after) ↔ text = before ++ after ∧ byteSize before = n := by
  rw [splitBytes, splitBytesFrom_eq_some_iff]
  simp

theorem slice?_eq_some_iff {text part : List Char} {span : Span} :
    slice? text span = some part ↔
      ∃ before after, text = before ++ (part ++ after) ∧ byteSize before = span.start ∧
        byteSize (before ++ part) = span.stop := by
  rw [slice?]
  split
  · next ordered =>
      simp only [Option.bind_eq_some_iff, Option.map_eq_some_iff, Prod.exists,
        splitBytes_eq_some_iff, byteSize_append]
      constructor
      · rintro ⟨before, _, ⟨rfl, start⟩, _, after, ⟨rfl, size⟩, rfl⟩
        exact ⟨before, after, rfl, start, by omega⟩
      · rintro ⟨before, after, rfl, start, stop⟩
        exact ⟨before, part ++ after, ⟨rfl, start⟩, part, after, ⟨rfl, by omega⟩, rfl⟩
  · next reversed =>
      simp only [reduceCtorEq, false_iff, byteSize_append]
      rintro ⟨before, after, -, start, stop⟩
      omega

def IsBoundary (text : List Char) (offset : Nat) : Prop :=
  ∃ before after, text = before ++ after ∧ byteSize before = offset

theorem IsBoundary.le_byteSize {text : List Char} {offset : Nat} (boundary : IsBoundary text offset) :
    offset ≤ byteSize text := by
  obtain ⟨before, after, rfl, rfl⟩ := boundary
  rw [byteSize_append]
  exact Nat.le_add_right _ _

end Text

namespace Location

theorem walk_append (place : Location) (here : Nat) (before rest : List Char) :
    walk place here (here + Text.byteSize before) (before ++ rest) = before.foldl after place := by
  induction before generalizing place here with
  | nil =>
      cases rest with
      | nil => rfl
      | cons c rest => exact if_pos (Nat.le_refl _)
  | cons c before ih =>
      have positive := c.utf8Size_pos
      rw [List.cons_append, walk, Text.byteSize_cons, if_neg (by omega), ← Nat.add_assoc, ih]
      rfl

/-- The location of a boundary is where the characters before it lead. -/
theorem ofOffset_eq {source : String} {before after : List Char}
    (parts : source.toList = before ++ after) {offset : Nat}
    (size : Text.byteSize before = offset) :
    ofOffset source offset = before.foldl Location.after ⟨1, 1⟩ := by
  have walked := walk_append ⟨1, 1⟩ 0 before after
  rw [Nat.zero_add, size] at walked
  rw [ofOffset, parts, walked]

end Location

structure Span.Fits (text : List Char) (span : Span) : Prop where
  ordered : span.start ≤ span.stop
  start : Text.IsBoundary text span.start
  stop : Text.IsBoundary text span.stop

/-- A range that fits lies in the text. -/
theorem Span.fits_iff_inside {text : List Char} {span : Span} :
    span.Fits text ↔
      (span.start ≤ span.stop ∧ span.stop ≤ Text.byteSize text) ∧
        Text.IsBoundary text span.start ∧ Text.IsBoundary text span.stop := by
  constructor
  · exact fun fits => ⟨⟨fits.ordered, fits.stop.le_byteSize⟩, fits.start, fits.stop⟩
  · exact fun ⟨⟨ordered, _⟩, start, stop⟩ => ⟨ordered, start, stop⟩

/-- Something is cut out of a text by the ranges that fit it, and only by these. -/
theorem Span.fits_iff {text : List Char} {span : Span} :
    span.Fits text ↔ ∃ part, Text.slice? text span = some part := by
  simp only [Text.slice?_eq_some_iff]
  constructor
  · rintro ⟨ordered, ⟨before, after, rfl, start⟩, ⟨upTo, rest, same, stop⟩⟩
    rcases List.append_eq_append_iff.1 same with ⟨part, rfl, rfl⟩ | ⟨part, rfl, rfl⟩
    · exact ⟨part, before, rest, rfl, start, stop⟩
    · -- the shorter beginning is not shorter after all
      rw [Text.byteSize_append] at start
      have empty : part = [] := Text.byteSize_eq_zero_iff.1 (by omega)
      subst empty
      exact ⟨[], upTo, after, by simp, by simpa using start, by simpa using stop⟩
  · rintro ⟨part, before, after, rfl, start, stop⟩
    refine ⟨?_, ⟨before, _, rfl, start⟩, ⟨before ++ part, after, by simp, stop⟩⟩
    rw [Text.byteSize_append] at stop
    omega

instance (text : List Char) (span : Span) : Decidable (span.Fits text) :=
  decidable_of_iff ((Text.slice? text span).isSome = true) (by
    rw [Span.fits_iff, Option.isSome_iff_exists])

end Flowgraph
