import Flowgraph.Proofs.Text.Position

/-!
# Where a written position leads

A position names a line and a column of it. The columns of a line are its characters and one more,
the end of the line. On the last line a column past that one leads to the end of the text, but on a
line that a line feed ends it leads behind the line feed, and so to the beginning of the next line.
-/

namespace Flowgraph

namespace Text

/-- The lines of a text without their line feeds. What follows the last line feed is a line too. -/
def lines (text : List Char) : List (List Char) := fields '\n' text

variable {text line : List Char} {k : Nat}

theorem lines_of_notMem (single : '\n' ∉ text) : lines text = [text] := fields_of_notMem single

theorem lines_append_cons {rest : List Char} (sameLine : '\n' ∉ line) :
    lines (line ++ '\n' :: rest) = line :: lines rest := fields_append_cons sameLine

/-- A text is one line, or a line with its line feed and more lines behind it. -/
theorem exists_firstLine (text : List Char) :
    '\n' ∉ text ∨ ∃ line rest, text = line ++ '\n' :: rest ∧ '\n' ∉ line := by
  cases cut : splitOnce '\n' text with
  | none => exact .inl (splitOnce_eq_none_iff.1 cut)
  | some parts =>
      obtain ⟨line, rest⟩ := parts
      exact .inr ⟨line, rest, splitOnce_eq_some_iff.1 cut⟩

theorem Ended.line_append {before : List Char} (ended : Ended before) :
    Ended (line ++ '\n' :: before) := by
  refine .inr ?_
  rw [List.getLast?_append_of_ne_nil _ (List.cons_ne_nil _ _)]
  rcases ended with rfl | feed
  · rfl
  · cases before with
    | nil => cases feed
    | cons c before => rwa [List.getLast?_cons_cons]

theorem count_line_append {before : List Char} (sameLine : '\n' ∉ line) :
    (line ++ '\n' :: before).count '\n' = before.count '\n' + 1 := by
  rw [List.count_append, List.count_eq_zero_of_not_mem sameLine, Nat.zero_add, List.count_cons_self]

/-- A line of a text with what stands before it, which is the lines above, and behind it, which is
nothing or begins with the line feed. -/
structure LineAt (text : List Char) (k : Nat) (line before behind : List Char) : Prop where
  parts : text = before ++ (line ++ behind)
  ended : Ended before
  count : before.count '\n' = k
  sameLine : '\n' ∉ line
  last : k + 1 = (lines text).length → behind = []
  feed : k + 1 ≠ (lines text).length → ∃ rest, behind = '\n' :: rest

theorem exists_lineAt (found : (lines text)[k]? = some line) :
    ∃ before behind, LineAt text k line before behind := by
  induction k generalizing text with
  | zero =>
      rcases exists_firstLine text with single | ⟨first, rest, rfl, sameLine⟩
      · rw [lines_of_notMem single] at found
        obtain rfl : text = line := Option.some.inj found
        refine ⟨[], [], ⟨by simp, .inl rfl, rfl, single, fun _ => rfl, fun more => ?_⟩⟩
        rw [lines_of_notMem single] at more
        exact absurd rfl more
      · rw [lines_append_cons sameLine] at found
        obtain rfl : first = line := Option.some.inj found
        refine ⟨[], '\n' :: rest, ⟨rfl, .inl rfl, rfl, sameLine, fun only => ?_, fun _ => ⟨rest, rfl⟩⟩⟩
        rw [lines_append_cons sameLine, List.length_cons] at only
        have more : lines rest ≠ [] := fields_ne_nil _ _
        have none : (lines rest).length = 0 := by omega
        exact absurd (List.length_eq_zero_iff.1 none) more
  | succ k ih =>
      rcases exists_firstLine text with single | ⟨first, rest, rfl, sameLine⟩
      · rw [lines_of_notMem single] at found
        cases found
      · rw [lines_append_cons sameLine] at found
        obtain ⟨before, behind, above⟩ := ih found
        have parts := above.parts
        have length : (lines (first ++ '\n' :: rest)).length = (lines rest).length + 1 := by
          rw [lines_append_cons sameLine, List.length_cons]
        refine ⟨first ++ '\n' :: before, behind, ⟨?_, above.ended.line_append, ?_, above.sameLine,
          fun only => above.last (by omega), fun more => above.feed (by omega)⟩⟩
        · rw [parts]
          simp
        · rw [count_line_append sameLine, above.count]

end Text

namespace Location

open Text

variable {text position : String} {place : Location} {line before behind : List Char} {offset : Nat}

/-! ## The offset of a column -/

theorem seek_of_notMem {rest : List Char} (single : '\n' ∉ rest) (column here skip : Nat) :
    seek column here (skip + 1) rest = none := by
  induction rest generalizing here with
  | nil => rfl
  | cons c rest ih =>
      rw [List.mem_cons, not_or] at single
      rw [seek_succ_cons, if_neg (Ne.symm single.1), ih single.2]

theorem seek_of_missing {rest : List Char} {skip : Nat} (missing : (lines rest)[skip]? = none)
    (column here : Nat) : seek column here skip rest = none := by
  induction skip generalizing rest here with
  | zero =>
      have some : lines rest ≠ [] := fields_ne_nil _ _
      have none : lines rest = [] := by simpa using missing
      exact absurd none some
  | succ skip ih =>
      rcases exists_firstLine rest with single | ⟨first, rest, rfl, sameLine⟩
      · exact seek_of_notMem single column here skip
      · have ended : Ended (first ++ ['\n']) := Ended.line_append (.inl rfl)
        have passed := seek_lines ended column here skip rest
        rw [count_line_append sameLine, List.count_nil, Nat.zero_add, Nat.add_comm] at passed
        rw [lines_append_cons sameLine] at missing
        rw [List.append_cons, passed]
        exact ih missing _

theorem offset?_of_lineAt (found : LineAt text.toList (place.line - 1) line before behind) :
    offset? text place =
      if line ++ behind = [] then none
      else some (byteSize before + bytesToColumn (place.column - 1) (line ++ behind)) := by
  have passed := seek_lines found.ended (place.column - 1) 0 0 (line ++ behind)
  rw [Nat.add_zero, Nat.zero_add, found.count] at passed
  rw [offset?, found.parts, passed, seek_zero]

/-! ## The place of a column -/

def Lands (text : String) (offset : Nat) (place : Location) : Prop :=
  IsBoundary text.toList offset ∧ ofOffset text offset = place

theorem lands_of_lines {lines last : List Char} (parts : text.toList = lines ++ (last ++ behind))
    (ended : Ended lines) (sameLine : '\n' ∉ last) :
    Lands text (byteSize lines + byteSize last) ⟨1 + lines.count '\n', 1 + last.length⟩ := by
  rw [← byteSize_append]
  refine ⟨⟨lines ++ last, behind, ?_, rfl⟩, ofOffset_of_lines parts ended sameLine⟩
  rw [parts, List.append_assoc]

section
variable (found : LineAt text.toList (place.line - 1) line before behind)
  (fromLine : 0 < place.line)
include found fromLine

theorem lands_of_le (fromColumn : 0 < place.column) (within : place.column ≤ line.length + 1) :
    Lands text (byteSize before + bytesToColumn (place.column - 1) (line ++ behind)) place := by
  obtain ⟨n, column⟩ : ∃ n, place.column = n + 1 := ⟨place.column - 1, by omega⟩
  have short : n ≤ line.length := by omega
  have length : (line.take n).length = n := by rw [List.length_take, Nat.min_eq_left short]
  have sameLine : '\n' ∉ line.take n := fun member => found.sameLine (List.mem_of_mem_take member)
  have split : line ++ behind = line.take n ++ (line.drop n ++ behind) := by
    rw [← List.append_assoc, List.take_append_drop]
  have size : bytesToColumn (line.take n).length (line.take n ++ (line.drop n ++ behind)) =
      byteSize (line.take n) := bytesToColumn_append sameLine
  have lands := lands_of_lines (split ▸ found.parts) found.ended sameLine
  have here : 1 + (place.line - 1) = place.line := by omega
  rw [length] at size lands
  rw [found.count, here, Nat.add_comm 1 n, ← column] at lands
  rw [column, Nat.add_sub_cancel, split, size]
  exact lands

/-- On the last line a column past the end leads to the end. -/
theorem lands_of_last (past : line.length + 1 < place.column)
    (last : place.line = (lines text.toList).length) :
    Lands text (byteSize before + bytesToColumn (place.column - 1) (line ++ behind))
      ⟨place.line, line.length + 1⟩ := by
  obtain ⟨more, column⟩ : ∃ more, place.column - 1 = line.length + (more + 1) :=
    ⟨place.column - 1 - line.length - 1, by omega⟩
  obtain rfl : behind = [] := found.last (by omega)
  have lands := lands_of_lines found.parts found.ended found.sameLine
  have here : 1 + (place.line - 1) = place.line := by omega
  rw [found.count, here, Nat.add_comm 1 line.length] at lands
  rw [column, bytesToColumn_add found.sameLine]
  exact lands

/-- On a line that a line feed ends it leads to the next line. -/
theorem lands_of_feed (past : line.length + 1 < place.column)
    (notLast : place.line ≠ (lines text.toList).length) :
    Lands text (byteSize before + bytesToColumn (place.column - 1) (line ++ behind))
      ⟨place.line + 1, 1⟩ := by
  obtain ⟨more, column⟩ : ∃ more, place.column - 1 = line.length + (more + 1) :=
    ⟨place.column - 1 - line.length - 1, by omega⟩
  obtain ⟨rest, rfl⟩ := found.feed (by omega)
  have ended : Ended (before ++ (line ++ ['\n'])) := .inr (by simp)
  have parts : text.toList = (before ++ (line ++ ['\n'])) ++ ([] ++ rest) := by
    rw [found.parts]
    simp
  have lands := lands_of_lines parts ended List.not_mem_nil
  have next : 1 + (before ++ (line ++ ['\n'])).count '\n' = place.line + 1 := by
    rw [List.count_append, found.count, count_line_append found.sameLine, List.count_nil]
    omega
  have size : byteSize (before ++ (line ++ ['\n'])) =
      byteSize before + (byteSize line + '\n'.utf8Size) := by
    simp
  rw [next, size] at lands
  rw [column, bytesToColumn_add found.sameLine, bytesToColumn, if_pos rfl]
  exact lands

end

def reached (text : List Char) (place : Location) (line : List Char) : Location :=
  if place.column ≤ line.length + 1 then place
  else if place.line = (lines text).length then ⟨place.line, line.length + 1⟩
  else ⟨place.line + 1, 1⟩

/-- The column is cut down to the end of the line, unless the line feed is passed. -/
theorem reached_eq_clamped_iff {text : List Char} :
    reached text place line = ⟨place.line, min place.column (line.length + 1)⟩ ↔
      place.column ≤ line.length + 1 ∨ place.line = (lines text).length := by
  unfold reached
  split
  · next within =>
      rw [Nat.min_eq_left within]
      exact ⟨fun _ => .inl within, fun _ => rfl⟩
  · next past =>
      rw [Nat.min_eq_right (by omega)]
      split
      · next last => exact ⟨fun _ => .inr last, fun _ => rfl⟩
      · next notLast =>
          constructor
          · intro same
            have line := congrArg Location.line same
            simp at line
          · intro kept
            exact absurd kept (not_or.2 ⟨past, notLast⟩)

theorem lands_reached (found : LineAt text.toList (place.line - 1) line before behind)
    (fromLine : 0 < place.line) (fromColumn : 0 < place.column) :
    Lands text (byteSize before + bytesToColumn (place.column - 1) (line ++ behind))
      (reached text.toList place line) := by
  unfold reached
  split
  · next within => exact lands_of_le found fromLine fromColumn within
  · next past =>
      split
      · next last => exact lands_of_last found fromLine (by omega) last
      · next notLast => exact lands_of_feed found fromLine (by omega) notLast

/-! ## Written positions -/

/-- The text is two numerals from 1 on with a colon between them and blanks around each. -/
def Spells (text : List Char) (place : Location) : Prop :=
  ∃ line column, text = line ++ ':' :: column ∧
    Numeral.Padded Numeral.max64 line place.line ∧ Numeral.Padded Numeral.max64 column place.column ∧
    0 < place.line ∧ 0 < place.column

theorem read_eq_ok_iff : read position = .ok place ↔ Spells position.toList place := by
  unfold read
  constructor
  · intro done
    split at done
    · cases done
    · next line column cut =>
        split at done
        · cases done
        · next l readLine =>
            split at done
            · cases done
            · next c readColumn =>
                split at done
                · cases done
                · next positive =>
                    obtain rfl := Except.ok.inj done
                    exact ⟨line, column, (splitOnce_eq_some_iff.1 cut).1,
                      Numeral.read_trim_eq_ok_iff.1 readLine, Numeral.read_trim_eq_ok_iff.1 readColumn,
                      by simp only; omega, by simp only; omega⟩
  · rintro ⟨line, column, parts, readLine, readColumn, fromLine, fromColumn⟩
    have apart : ':' ∉ line := readLine.notMem (by decide) (by decide) (by decide)
    have positive : ¬(place.line = 0 ∨ place.column = 0) := by omega
    rw [parts, splitOnce_append apart]
    simp only [Numeral.read_trim_eq_ok_iff.2 readLine, Numeral.read_trim_eq_ok_iff.2 readColumn]
    rw [if_neg positive]

theorem resolve_eq_ok_iff :
    resolve text position = .ok offset ↔
      ∃ place, Spells position.toList place ∧ offset? text place = some offset := by
  simp only [← read_eq_ok_iff]
  unfold resolve
  cases read position with
  | error fault => simp
  | ok place => cases found : offset? text place <;> simp [found]

theorem Spells.unique {text : List Char} {other : Location} (one : Spells text place)
    (two : Spells text other) : place = other := by
  rw [← String.toList_ofList (l := text), ← read_eq_ok_iff] at one two
  exact Except.ok.inj (one.symm.trans two)

theorem Lands.unique {first second : Nat} (one : Lands text first place)
    (two : Lands text second place) : first = second := by
  have apart : ∀ {a b : Nat}, Lands text a place → Lands text b place → ¬a < b := by
    intro a b one two less
    have before := ofOffset_before one.1 two.1 less
    rw [one.2, two.2] at before
    unfold Before at before
    omega
  have left := apart one two
  have right := apart two one
  omega

theorem offset?_eq_some_iff (fromLine : 0 < place.line) (fromColumn : 0 < place.column) :
    offset? text place = some offset ↔
      ∃ line, (lines text.toList)[place.line - 1]? = some line ∧
        (line = [] → place.line ≠ (lines text.toList).length) ∧
        Lands text offset (reached text.toList place line) := by
  cases found : (lines text.toList)[place.line - 1]? with
  | none => simp [offset?, seek_of_missing found]
  | some line =>
      obtain ⟨before, behind, above⟩ := exists_lineAt found
      have lands := lands_reached above fromLine fromColumn
      rw [offset?_of_lineAt above]
      constructor
      · intro reading
        split at reading
        · cases reading
        · next some =>
            obtain rfl := Option.some.inj reading
            refine ⟨line, rfl, fun empty last => some ?_, lands⟩
            rw [empty, above.last (by omega)]
            rfl
      · rintro ⟨_, ⟨⟩, kept, reaches⟩
        have some : line ++ behind ≠ [] := by
          intro none
          obtain ⟨empty, nothing⟩ := List.append_eq_nil_iff.1 none
          obtain ⟨rest, feed⟩ := above.feed fun last => kept empty (by omega)
          rw [nothing] at feed
          cases feed
        rw [if_neg some, lands.unique reaches]

/-- A text that is read as a position is two numerals from 1 on, the line and the column, and the
text has that line; a last line without characters does not count. The offset is between characters.
It is at that place, if the line has that column, and at the end of the last line for a column past
its end, but for a column past the end of another line it is at the beginning of the next one. So
the offset is on the line, with the column cut down to the end of the line, unless a line feed has
been passed. -/
theorem resolve_exact (text position : String) (offset : Nat) :
    (resolve text position = .ok offset ↔
      ∃ place line, Spells position.toList place ∧
        (lines text.toList)[place.line - 1]? = some line ∧
        (line = [] → place.line ≠ (lines text.toList).length) ∧
        IsBoundary text.toList offset ∧ offset ≤ byteSize text.toList ∧
        ofOffset text offset =
          if place.column ≤ line.length + 1 then place
          else if place.line = (lines text.toList).length then ⟨place.line, line.length + 1⟩
          else ⟨place.line + 1, 1⟩) ∧
    ∀ place line, resolve text position = .ok offset → Spells position.toList place →
      (lines text.toList)[place.line - 1]? = some line →
        (ofOffset text offset = ⟨place.line, min place.column (line.length + 1)⟩ ↔
          place.column ≤ line.length + 1 ∨ place.line = (lines text.toList).length) := by
  constructor
  · rw [resolve_eq_ok_iff]
    constructor
    · rintro ⟨place, spells, found⟩
      obtain ⟨-, -, -, -, -, fromLine, fromColumn⟩ := id spells
      obtain ⟨line, there, kept, lands⟩ := (offset?_eq_some_iff fromLine fromColumn).1 found
      exact ⟨place, line, spells, there, kept, lands.1, lands.1.le_byteSize, lands.2⟩
    · rintro ⟨place, line, spells, there, kept, boundary, -, lands⟩
      obtain ⟨-, -, -, -, -, fromLine, fromColumn⟩ := id spells
      exact ⟨place, spells,
        (offset?_eq_some_iff fromLine fromColumn).2 ⟨line, there, kept, boundary, lands⟩⟩
  · intro place line resolved spells there
    obtain ⟨other, same, found⟩ := resolve_eq_ok_iff.1 resolved
    obtain rfl := same.unique spells
    obtain ⟨-, -, -, -, -, fromLine, fromColumn⟩ := spells
    obtain ⟨_, again, -, lands⟩ := (offset?_eq_some_iff fromLine fromColumn).1 found
    obtain rfl : line = _ := Option.some.inj (there.symm.trans again)
    rw [lands.2, reached_eq_clamped_iff]

/-- A column past the end of a line can lead to another line, which another function may stand
on. -/
theorem resolve_leaves_line :
    ¬∀ (text position : String) (offset : Nat) (place : Location) (line : List Char),
      Spells position.toList place → resolve text position = .ok offset →
        (lines text.toList)[place.line - 1]? = some line →
          IsBoundary text.toList offset ∧ offset ≤ byteSize text.toList ∧
            ofOffset text offset = ⟨place.line, min place.column (line.length + 1)⟩ := by
  intro onLine
  have spells : Spells "1:99".toList ⟨1, 99⟩ := read_eq_ok_iff.1 (by rfl)
  obtain ⟨-, -, there⟩ :=
    onLine "function f() {}\nfunction g() {}\n" "1:99" 16 ⟨1, 99⟩ "function f() {}".toList spells
      (by rfl) (by rfl)
  have next : ofOffset "function f() {}\nfunction g() {}\n" 16 = ⟨2, 1⟩ := by rfl
  rw [next] at there
  cases there

end Location

end Flowgraph
