import Flowgraph.CommandLine.Run
import Flowgraph.Proofs.Text.Decimal
import Flowgraph.Proofs.Text.Slice
import Mathlib.Data.List.Basic
import Mathlib.Data.List.Induction

/-!
# From an offset to a line and a column and back

The characters before an offset are lines that have ended and the beginning of the line that the
offset is on. The location counts both, and to go back the same lines are passed over and the same
characters of the last one. There is one offset that has a location and no way back: the end of a
text behind its last line feed, where no line follows.
-/

namespace Flowgraph

namespace Text

theorem length_le_byteSize (text : List Char) : text.length ≤ byteSize text := by
  induction text with
  | nil => exact Nat.le_refl 0
  | cons c rest ih =>
      have positive := c.utf8Size_pos
      rw [List.length_cons, byteSize_cons]
      omega

/-- The text is whole lines, each with its line feed. -/
def Ended (text : List Char) : Prop := text = [] ∨ text.getLast? = some '\n'

variable {text lines last : List Char}

theorem Ended.of_cons {c : Char} (ended : Ended (c :: lines)) : Ended lines := by
  cases lines with
  | nil => exact .inl rfl
  | cons d lines =>
      have feed := ended.resolve_left (List.cons_ne_nil c _)
      rw [List.getLast?_cons_cons] at feed
      exact .inr feed

/-- A line that has begun ends with a line feed further on. -/
theorem Ended.count_pos {c : Char} (ended : Ended (c :: lines)) (other : c ≠ '\n') :
    0 < lines.count '\n' := by
  have feed := ended.resolve_left (List.cons_ne_nil c lines)
  have member := List.mem_of_getLast? feed
  rcases List.mem_cons.1 member with same | later
  · exact absurd same.symm other
  · exact List.count_pos_iff.2 later

/-- A text is whole lines and the beginning of one more. -/
theorem exists_lastLine (text : List Char) :
    ∃ lines last, text = lines ++ last ∧ Ended lines ∧ '\n' ∉ last := by
  induction text using List.reverseRecOn with
  | nil => exact ⟨[], [], rfl, .inl rfl, List.not_mem_nil⟩
  | append_singleton text c ih =>
      obtain ⟨lines, last, rfl, ended, sameLine⟩ := ih
      by_cases feed : c = '\n'
      · subst feed
        exact ⟨lines ++ last ++ ['\n'], [], by simp, .inr (by simp), List.not_mem_nil⟩
      · refine ⟨lines, last ++ [c], by simp, ended, ?_⟩
        simp [sameLine, Ne.symm feed]

/-- The end of the text is behind a line feed when nothing follows the lines that have ended. -/
theorem ended_append_iff (ended : Ended lines) (sameLine : '\n' ∉ last) :
    Ended (lines ++ last) ↔ last = [] := by
  constructor
  · intro whole
    by_contra begun
    have nonempty : lines ++ last ≠ [] := by simp [begun]
    have feed := whole.resolve_left nonempty
    rw [List.getLast?_append_of_ne_nil lines begun] at feed
    exact sameLine (List.mem_of_getLast? feed)
  · rintro rfl
    rwa [List.append_nil]

end Text

namespace Location

open Text

variable {text : String} {lines last behind : List Char}

/-! ## The location of an offset -/

theorem line_foldl_after (place : Location) (passed : List Char) :
    (passed.foldl after place).line = place.line + passed.count '\n' := by
  induction passed generalizing place with
  | nil => rfl
  | cons c passed ih =>
      rw [List.foldl_cons, ih, List.count_cons]
      by_cases feed : c = '\n'
      · simp [after, feed]
        omega
      · simp [after, feed]

theorem foldl_after_of_sameLine (place : Location) (sameLine : '\n' ∉ last) :
    last.foldl after place = ⟨place.line, place.column + last.length⟩ := by
  induction last generalizing place with
  | nil => rfl
  | cons c last ih =>
      rw [List.mem_cons, not_or] at sameLine
      rw [List.foldl_cons, ih _ sameLine.2, after, if_neg (Ne.symm sameLine.1), List.length_cons,
        Nat.add_right_comm]
      rfl

theorem column_foldl_after_of_ended (ended : Ended lines) :
    (lines.foldl after ⟨1, 1⟩).column = 1 := by
  rcases ended with rfl | feed
  · rfl
  · obtain ⟨front, rfl⟩ := List.getLast?_eq_some_iff.1 feed
    rw [List.foldl_append]
    rfl

/-- The line counts the lines that have ended, the column the characters of the last one. -/
theorem ofOffset_of_lines (parts : text.toList = lines ++ (last ++ behind)) (ended : Ended lines)
    (sameLine : '\n' ∉ last) :
    ofOffset text (byteSize (lines ++ last)) = ⟨1 + lines.count '\n', 1 + last.length⟩ := by
  have split : text.toList = (lines ++ last) ++ behind := by rw [parts, List.append_assoc]
  have line := line_foldl_after ⟨1, 1⟩ lines
  have column := column_foldl_after_of_ended ended
  rw [ofOffset_eq split rfl, List.foldl_append, foldl_after_of_sameLine _ sameLine, line, column]

/-! ## The offset of a location -/

/-- Within a line the search for a column goes on character by character. -/
theorem bytesToColumn_add (sameLine : '\n' ∉ last) (more : Nat) :
    bytesToColumn (last.length + more) (last ++ behind) =
      byteSize last + bytesToColumn more behind := by
  induction last with
  | nil => rw [List.length_nil, Nat.zero_add, List.nil_append, byteSize_nil, Nat.zero_add]
  | cons c last ih =>
      rw [List.mem_cons, not_or] at sameLine
      rw [List.length_cons, Nat.add_right_comm, List.cons_append, bytesToColumn,
        if_neg (Ne.symm sameLine.1), ih sameLine.2, byteSize_cons, Nat.add_assoc]

theorem bytesToColumn_append (sameLine : '\n' ∉ last) :
    bytesToColumn last.length (last ++ behind) = byteSize last := by
  have found : bytesToColumn (last.length + 0) (last ++ behind) =
      byteSize last + bytesToColumn 0 behind := bytesToColumn_add sameLine 0
  rwa [bytesToColumn, Nat.add_zero, Nat.add_zero] at found

theorem seek_zero (column here : Nat) (rest : List Char) :
    seek column here 0 rest = if rest = [] then none else some (here + bytesToColumn column rest) := by
  cases rest with
  | nil => rfl
  | cons c rest => rfl

/-- Until the line has ended the search goes on character by character. -/
theorem seek_succ_cons (column here skip : Nat) (c : Char) (rest : List Char) :
    seek column here (skip + 1) (c :: rest) =
      if c = '\n' then seek column (here + c.utf8Size) skip rest
      else seek column (here + c.utf8Size) (skip + 1) rest := by
  simp only [seek, nextLine]
  by_cases feed : c = '\n'
  · rw [if_pos feed, if_pos feed]
    rfl
  · rw [if_neg feed, if_neg feed]
    cases rest with
    | nil => rfl
    | cons d rest => rfl

theorem seek_lines (ended : Ended lines) (column here skip : Nat) (rest : List Char) :
    seek column here (lines.count '\n' + skip) (lines ++ rest) =
      seek column (here + byteSize lines) skip rest := by
  induction lines generalizing here with
  | nil => rw [List.count_nil, Nat.zero_add, List.nil_append, byteSize_nil, Nat.add_zero]
  | cons c lines ih =>
      have later := ih ended.of_cons (here + c.utf8Size)
      rw [byteSize_cons, ← Nat.add_assoc, ← later, List.cons_append]
      by_cases feed : c = '\n'
      · have count : (c :: lines).count '\n' + skip = (lines.count '\n' + skip) + 1 := by
          rw [feed, List.count_cons_self]
          omega
        rw [count, seek_succ_cons, if_pos feed]
      · have positive := ended.count_pos feed
        obtain ⟨more, count⟩ : ∃ more, lines.count '\n' + skip = more + 1 :=
          ⟨lines.count '\n' + skip - 1, by omega⟩
        rw [List.count_cons_of_ne feed, count, seek_succ_cons, if_neg feed]

theorem offset?_of_lines (parts : text.toList = lines ++ (last ++ behind)) (ended : Ended lines)
    (sameLine : '\n' ∉ last) :
    offset? text ⟨1 + lines.count '\n', 1 + last.length⟩ =
      if last ++ behind = [] then none else some (byteSize (lines ++ last)) := by
  have skipped := seek_lines ended last.length 0 0 (last ++ behind)
  rw [Nat.add_zero, Nat.zero_add] at skipped
  simp only [offset?, Nat.add_sub_cancel_left]
  rw [parts, skipped, seek_zero, bytesToColumn_append sameLine, byteSize_append]

/-- Nothing follows the lines that have ended at the end of a text that is whole lines. -/
theorem atEnd_iff (parts : text.toList = lines ++ (last ++ behind)) (ended : Ended lines)
    (sameLine : '\n' ∉ last) :
    last ++ behind = [] ↔
      byteSize (lines ++ last) = byteSize text.toList ∧
        (text.toList = [] ∨ text.toList.getLast? = some '\n') := by
  constructor
  · intro nothing
    rw [parts, nothing]
    obtain ⟨rfl, rfl⟩ := List.append_eq_nil_iff.1 nothing
    rw [List.append_nil]
    exact ⟨rfl, ended⟩
  · rintro ⟨size, whole⟩
    have sizes : byteSize text.toList = byteSize (lines ++ last) + byteSize behind := by
      rw [parts, ← List.append_assoc, byteSize_append]
    have nothing : behind = [] := byteSize_eq_zero_iff.1 (by omega)
    rw [nothing, List.append_nil] at parts
    rw [parts] at whole
    rw [(ended_append_iff ended sameLine).1 whole, nothing, List.append_nil]

/-! ## Written locations -/

theorem toList_placeText (place : Location) :
    (CommandLine.placeText place).toList =
      Numeral.digits place.line ++ ':' :: Numeral.digits place.column := by
  simp [CommandLine.placeText, Numeral.render]

theorem read_placeText {place : Location} (line : 0 < place.line) (column : 0 < place.column)
    (lineFits : place.line ≤ Numeral.max64) (columnFits : place.column ≤ Numeral.max64) :
    read (CommandLine.placeText place) = .ok place := by
  have apart : ':' ∉ Numeral.digits place.line := Numeral.notMem_digits (by decide) _
  have given : ¬(place.line = 0 ∨ place.column = 0) := by omega
  rw [read, toList_placeText, splitOnce_append apart]
  simp only [Numeral.trim_digits, Numeral.read_digits lineFits, Numeral.read_digits columnFits]
  rw [if_neg given]

/-- The lines and the columns of a text are no more than its bytes. -/
theorem read_placeText_of_lines (parts : text.toList = lines ++ (last ++ behind))
    (size : byteSize text.toList < Numeral.max64) :
    read (CommandLine.placeText ⟨1 + lines.count '\n', 1 + last.length⟩) =
      .ok ⟨1 + lines.count '\n', 1 + last.length⟩ := by
  have length := length_le_byteSize text.toList
  have feeds : lines.count '\n' ≤ lines.length := List.count_le_length
  have whole : text.toList.length = lines.length + (last.length + behind.length) := by
    rw [parts, List.length_append, List.length_append]
  refine read_placeText ?_ ?_ ?_ ?_
  all_goals
    simp only
    omega

/-! ## The order of locations -/

/-- The place is on an earlier line, or on the same line in an earlier column. -/
def Before (place other : Location) : Prop :=
  place.line < other.line ∨ place.line = other.line ∧ place.column < other.column

theorem Before.trans {a b c : Location} (first : a.Before b) (second : b.Before c) : a.Before c := by
  unfold Before at *
  omega

theorem before_after (place : Location) (c : Char) : place.Before (place.after c) := by
  unfold Before after
  split
  · exact .inl (Nat.lt_succ_self _)
  · exact .inr ⟨rfl, Nat.lt_succ_self _⟩

theorem before_foldl_after (place : Location) {passed : List Char} (nonempty : passed ≠ []) :
    place.Before (passed.foldl after place) := by
  induction passed generalizing place with
  | nil => exact absurd rfl nonempty
  | cons c passed ih =>
      have first := place.before_after c
      by_cases more : passed = []
      · rw [more]
        exact first
      · exact first.trans (ih (place.after c) more)

theorem ofOffset_before {first second : Nat} (start : IsBoundary text.toList first)
    (stop : IsBoundary text.toList second) (less : first < second) :
    (ofOffset text first).Before (ofOffset text second) := by
  obtain ⟨before, rest, parts, rfl⟩ := start
  obtain ⟨before', rest', parts', rfl⟩ := stop
  rw [ofOffset_eq parts rfl, ofOffset_eq parts' rfl]
  rw [parts] at parts'
  rcases List.append_eq_append_iff.1 parts' with ⟨passed, rfl, -⟩ | ⟨passed, rfl, -⟩
  · rw [byteSize_append] at less
    have nonempty : passed ≠ [] := by
      rintro rfl
      simp at less
    rw [List.foldl_append]
    exact before_foldl_after _ nonempty
  · rw [byteSize_append] at less
    omega

/-- The location of an offset between two characters leads back to the offset, unless the offset is
the end of a text that is whole lines: then there is no such line. A later offset has a later
location, and the line is one more than the number of line feeds before the offset. The size of a
text that is held in memory is below the largest number that is read. -/
theorem resolve_ofOffset (size : byteSize text.toList < Numeral.max64) :
    (∀ offset, IsBoundary text.toList offset →
      (resolve text (CommandLine.placeText (ofOffset text offset))).mapError Fault.message =
        if offset = byteSize text.toList ∧
            (text.toList = [] ∨ text.toList.getLast? = some '\n') then
          .error ("line " ++ Numeral.render (ofOffset text offset).line ++
            " is past the end of the file")
        else .ok offset) ∧
    (∀ first second, IsBoundary text.toList first → IsBoundary text.toList second →
      first < second → (ofOffset text first).Before (ofOffset text second)) ∧
    ∀ before behind, text.toList = before ++ behind →
      (ofOffset text (byteSize before)).line = 1 + before.count '\n' := by
  refine ⟨?back, fun first second start stop => ofOffset_before start stop, ?line⟩
  case line =>
    intro before behind parts
    rw [ofOffset_eq parts rfl]
    exact line_foldl_after ⟨1, 1⟩ before
  case back =>
    rintro _ ⟨before, behind, parts, rfl⟩
    obtain ⟨lines, last, rfl, ended, sameLine⟩ := exists_lastLine before
    rw [List.append_assoc] at parts
    rw [ofOffset_of_lines parts ended sameLine, resolve, read_placeText_of_lines parts size]
    have offset := offset?_of_lines parts ended sameLine
    by_cases nothing : last ++ behind = []
    · rw [if_pos nothing] at offset
      rw [if_pos ((atEnd_iff parts ended sameLine).1 nothing)]
      simp only [offset]
      rfl
    · rw [if_neg nothing] at offset
      rw [if_neg fun atEnd => nothing ((atEnd_iff parts ended sameLine).2 atEnd)]
      simp only [offset]
      rfl

/-- Behind its only line feed a text has a place that does not lead back, before it one that
does. -/
theorem resolve_ofOffset_lineFeed :
    byteSize "é\n".toList < Numeral.max64 ∧
      (resolve "é\n" (CommandLine.placeText (ofOffset "é\n" 2))).mapError Fault.message = .ok 2 ∧
      (resolve "é\n" (CommandLine.placeText (ofOffset "é\n" 3))).mapError Fault.message =
        .error ("line " ++ Numeral.render (ofOffset "é\n" 3).line ++ " is past the end of the file") ∧
      (ofOffset "é\n" 2).Before (ofOffset "é\n" 3) ∧ (ofOffset "é\n" 3).line = 2 := by
  have size : byteSize "é\n".toList < Numeral.max64 := by decide
  obtain ⟨back, order, line⟩ := resolve_ofOffset size
  have middle : IsBoundary "é\n".toList 2 := ⟨['é'], ['\n'], rfl, rfl⟩
  have atEnd : IsBoundary "é\n".toList 3 := ⟨['é', '\n'], [], rfl, rfl⟩
  exact ⟨size, (back 2 middle).trans (if_neg (by decide)), (back 3 atEnd).trans (if_pos (by decide)),
    order 2 3 middle atEnd (by decide), line ['é', '\n'] [] rfl⟩

end Location

end Flowgraph
