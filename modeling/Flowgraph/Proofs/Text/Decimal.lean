import Flowgraph.Proofs.Text.Numeral
import Mathlib.Data.Nat.Digits.Defs

/-!
# How a number may be written

A numeral is one decimal digit or more, with a plus sign in front or without, and stands for the
value of its digits. Reading within a bound accepts the numerals whose value is within it, and
nothing else. The number that has been read is written like the numeral, less the sign and the zeros
in front.
-/

namespace Flowgraph.Numeral

variable {bound m n d : Nat} {text : List Char} {ds : List Nat} {c : Char}

def shift (n d : Nat) : Nat := 10 * n + d

def Denotes (text : List Char) (n : Nat) : Prop :=
  ∃ ds : List Nat, ds ≠ [] ∧ (∀ d ∈ ds, d < 10) ∧
    (text = ds.map digitChar ∨ text = '+' :: ds.map digitChar) ∧ Nat.ofDigits 10 ds.reverse = n

/-- The first digit of a number is the last one that its value is made up from. -/
theorem ofDigits_reverse (ds : List Nat) : Nat.ofDigits 10 ds.reverse = ds.foldl shift 0 := by
  have step : (fun n d => d + 10 * n) = shift := by
    funext n d
    unfold shift
    omega
  rw [Nat.ofDigits_eq_foldr, List.foldr_reverse, ← step]
  rfl

theorem le_foldl_shift (m : Nat) (ds : List Nat) : m ≤ ds.foldl shift m := by
  induction ds generalizing m with
  | nil => exact Nat.le_refl m
  | cons d ds ih =>
      have later := ih (shift m d)
      have first : m ≤ shift m d := by
        unfold shift
        omega
      rw [List.foldl_cons]
      omega

/-! ## Characters -/

theorem digitValue?_eq_some_iff : digitValue? c = some d ↔ d < 10 ∧ c = digitChar d := by
  constructor
  · intro read
    unfold digitValue? at read
    split at read
    · next range =>
        have low : 48 ≤ c.toNat := range.1
        have high : c.toNat ≤ 57 := range.2
        obtain rfl : c.toNat - 48 = d := Option.some.inj read
        refine ⟨by omega, ?_⟩
        have back : 48 + (c.toNat - 48) = c.toNat := by omega
        rw [digitChar, back, Char.ofNat_toNat]
    · cases read
  · rintro ⟨small, rfl⟩
    exact digitValue?_digitChar small

theorem digitChar_ne (small : d < 10) (noDigit : digitValue? c = none) : digitChar d ≠ c := by
  rintro rfl
  rw [digitValue?_digitChar small] at noDigit
  cases noDigit

theorem digitChar_eq_zero_iff (small : d < 10) : digitChar d = '0' ↔ d = 0 := by
  have values : ∀ d : Fin 10, digitChar d = '0' ↔ d.val = 0 := by decide
  exact values ⟨d, small⟩

theorem Denotes.notMem (numeral : Denotes text n) (noDigit : digitValue? c = none)
    (noSign : c ≠ '+') : c ∉ text := by
  obtain ⟨ds, -, small, written, -⟩ := numeral
  have outside : c ∉ ds.map digitChar := by
    intro member
    obtain ⟨d, inside, same⟩ := List.mem_map.1 member
    exact digitChar_ne (small d inside) noDigit same
  rcases written with rfl | rfl
  · exact outside
  · simp [noSign, outside]

/-! ## Reading -/

theorem readFrom_eq_ok_iff (start : m ≤ bound) :
    readFrom bound m text = .ok n ↔
      ∃ ds : List Nat, (∀ d ∈ ds, d < 10) ∧ text = ds.map digitChar ∧ ds.foldl shift m = n ∧
        n ≤ bound := by
  induction text generalizing m with
  | nil =>
      constructor
      · intro read
        obtain rfl : m = n := Except.ok.inj read
        exact ⟨[], by simp, rfl, rfl, start⟩
      · rintro ⟨ds, -, empty, value, -⟩
        obtain rfl : ds = [] := List.map_eq_nil_iff.1 empty.symm
        exact congrArg Except.ok value
  | cons c rest ih =>
      rw [readFrom]
      constructor
      · intro read
        cases digit : digitValue? c with
        | none => simp [digit] at read
        | some d =>
            simp only [digit] at read
            split at read
            · cases read
            · next fits =>
                obtain ⟨small, rfl⟩ := digitValue?_eq_some_iff.1 digit
                obtain ⟨ds, digits, rfl, value, within⟩ := (ih (by omega)).1 read
                refine ⟨d :: ds, ?_, rfl, value, within⟩
                intro e member
                rcases List.mem_cons.1 member with rfl | later
                · exact small
                · exact digits e later
      · rintro ⟨_ | ⟨d, ds⟩, digits, written, value, within⟩
        · cases written
        · obtain ⟨rfl, rfl⟩ := List.cons.inj written
          rw [List.foldl_cons] at value
          have grows := le_foldl_shift (shift m d) ds
          have fits : shift m d ≤ bound := by omega
          simp only [digitValue?_digitChar (digits d List.mem_cons_self)]
          refine (if_neg (Nat.not_lt.2 fits)).trans ?_
          exact (ih fits).2 ⟨ds, fun e later => digits e (List.mem_cons_of_mem _ later), rfl, value,
            within⟩

/-- The text is digits, if anything, and the number is their value. -/
def Unsigned (text : List Char) (n : Nat) : Prop :=
  ∃ ds : List Nat, (∀ d ∈ ds, d < 10) ∧ text = ds.map digitChar ∧ Nat.ofDigits 10 ds.reverse = n

theorem readFrom_zero_eq_ok_iff : readFrom bound 0 text = .ok n ↔ Unsigned text n ∧ n ≤ bound := by
  simp only [readFrom_eq_ok_iff (Nat.zero_le bound), Unsigned, ofDigits_reverse]
  constructor
  · rintro ⟨ds, small, written, value, within⟩
    exact ⟨⟨ds, small, written, value⟩, within⟩
  · rintro ⟨⟨ds, small, written, value⟩, within⟩
    exact ⟨ds, small, written, value, within⟩

/-- No digit is a plus sign, so a numeral that begins with one goes on with digits only. -/
theorem denotes_plus_iff : Denotes ('+' :: text) n ↔ text ≠ [] ∧ Unsigned text n := by
  constructor
  · rintro ⟨ds, nonempty, small, plain | signed, value⟩
    · cases ds with
      | nil => exact absurd rfl nonempty
      | cons d ds =>
          have noSign := digitChar_ne (small d List.mem_cons_self) (by decide : digitValue? '+' = none)
          exact absurd (List.cons.inj plain).1.symm noSign
    · obtain rfl : text = ds.map digitChar := (List.cons.inj signed).2
      exact ⟨fun empty => nonempty (List.map_eq_nil_iff.1 empty), ds, small, rfl, value⟩
  · rintro ⟨nonempty, ds, small, rfl, value⟩
    exact ⟨ds, fun empty => nonempty (congrArg _ empty), small, .inr rfl, value⟩

theorem denotes_iff_of_unsigned (unsigned : ∀ rest, text ≠ '+' :: rest) :
    Denotes text n ↔ text ≠ [] ∧ Unsigned text n := by
  constructor
  · rintro ⟨ds, nonempty, small, plain | signed, value⟩
    · rw [plain]
      exact ⟨fun empty => nonempty (List.map_eq_nil_iff.1 empty), ds, small, rfl, value⟩
    · exact absurd signed (unsigned _)
  · rintro ⟨nonempty, ds, small, rfl, value⟩
    exact ⟨ds, fun empty => nonempty (congrArg _ empty), small, .inl rfl, value⟩

theorem read_eq_ok_iff : read bound text = .ok n ↔ Denotes text n ∧ n ≤ bound := by
  unfold read
  split
  · simp [denotes_iff_of_unsigned]
  · simp [denotes_plus_iff]
  · next rest short =>
      have nonempty : rest ≠ [] := short
      rw [readFrom_zero_eq_ok_iff, denotes_plus_iff, and_iff_right nonempty]
  · next empty lone unsigned =>
      have nonempty : text ≠ [] := empty
      rw [readFrom_zero_eq_ok_iff, denotes_iff_of_unsigned unsigned, and_iff_right nonempty]

theorem Denotes.unique {m : Nat} (numeral : Denotes text n) (also : Denotes text m) : n = m := by
  have one := read_eq_ok_iff.2 ⟨numeral, Nat.le_max_left n m⟩
  have two := read_eq_ok_iff.2 ⟨also, Nat.le_max_right n m⟩
  exact Except.ok.inj (one.symm.trans two)

/-- A bounded reader accepts the numerals whose value is within the bound. -/
theorem read?_eq_some_iff : read? bound text = some n ↔ Denotes text n ∧ n ≤ bound := by
  rw [← read_eq_ok_iff, read?]
  cases read bound text <;> simp [Except.toOption]

theorem denotes_digits (n : Nat) : Denotes (digits n) n :=
  (read?_eq_some_iff.1 (read?_digits (Nat.le_refl n))).1

theorem read_digits (within : n ≤ bound) : read bound (digits n) = .ok n :=
  read_eq_ok_iff.2 ⟨denotes_digits n, within⟩

/-! ## Blanks -/

/-- The text is a numeral with blanks around it, or none, that stands for a number within the
bound. -/
def Padded (bound : Nat) (text : List Char) (n : Nat) : Prop :=
  ∃ front numeral back, text = front ++ (numeral ++ back) ∧
    (∀ c ∈ front, Text.isBlank c = true) ∧ (∀ c ∈ back, Text.isBlank c = true) ∧
    Denotes numeral n ∧ n ≤ bound

theorem Denotes.solid (numeral : Denotes text n) : ∀ c ∈ text, Text.isBlank c = false := by
  obtain ⟨ds, -, small, written, -⟩ := numeral
  have digit : ∀ d : Fin 10, Text.isBlank (digitChar d) = false := by decide
  have digits : ∀ c ∈ ds.map digitChar, Text.isBlank c = false := by
    intro c member
    obtain ⟨d, inside, rfl⟩ := List.mem_map.1 member
    exact digit ⟨d, small d inside⟩
  rcases written with rfl | rfl
  · exact digits
  · intro c member
    rcases List.mem_cons.1 member with rfl | later
    · decide
    · exact digits c later

/-- Nothing but digits, a plus sign and blanks stands in a numeral with blanks around it. -/
theorem Padded.notMem (padded : Padded bound text n) (noDigit : digitValue? c = none)
    (noSign : c ≠ '+') (solid : Text.isBlank c = false) : c ∉ text := by
  obtain ⟨front, core, back, rfl, before, behind, numeral, -⟩ := padded
  have noBlank : ∀ blanks : List Char, (∀ b ∈ blanks, Text.isBlank b = true) → c ∉ blanks := by
    intro blanks all member
    rw [all c member] at solid
    cases solid
  simp [noBlank front before, noBlank back behind, numeral.notMem noDigit noSign]

theorem read?_trim_eq_some_iff : read? bound (Text.trim text) = some n ↔ Padded bound text n := by
  rw [read?_eq_some_iff]
  constructor
  · rintro ⟨numeral, within⟩
    obtain ⟨front, back, parts, before, behind⟩ := Text.exists_eq_trim text
    exact ⟨front, Text.trim text, back, parts, before, behind, numeral, within⟩
  · rintro ⟨front, core, back, rfl, before, behind, numeral, within⟩
    rw [Text.trim_append before numeral.solid behind]
    exact ⟨numeral, within⟩

theorem read_trim_eq_ok_iff : read bound (Text.trim text) = .ok n ↔ Padded bound text n := by
  rw [read_eq_ok_iff, ← read?_eq_some_iff, read?_trim_eq_some_iff]

/-- A numeral alone has no blanks around it. -/
theorem Denotes.padded (numeral : Denotes text n) (within : n ≤ bound) : Padded bound text n :=
  ⟨[], text, [], by simp, by simp, by simp, numeral, within⟩

/-! ## Writing -/

def withoutZeros : List Char → List Char
  | c :: d :: rest => if c = '0' then withoutZeros (d :: rest) else c :: d :: rest
  | text => text

/-- A numeral without its plus sign and without superfluous zeros in front. -/
def plain : List Char → List Char
  | '+' :: rest => withoutZeros rest
  | text => withoutZeros text

theorem digits_shift (positive : 0 < n) (small : d < 10) :
    digits (shift n d) = digits n ++ [digitChar d] := by
  have large : ¬shift n d < 10 := by
    unfold shift
    omega
  have front : shift n d / 10 = n := by
    unfold shift
    omega
  have last : shift n d % 10 = d := by
    unfold shift
    omega
  rw [digits, if_neg large, front, last]

theorem digits_foldl_shift (positive : 0 < m) (small : ∀ d ∈ ds, d < 10) :
    digits (ds.foldl shift m) = digits m ++ ds.map digitChar := by
  induction ds generalizing m with
  | nil => simp
  | cons d ds ih =>
      have first : d < 10 := small d List.mem_cons_self
      have longer : 0 < shift m d := by
        unfold shift
        omega
      rw [List.foldl_cons, ih longer fun e later => small e (List.mem_cons_of_mem _ later),
        digits_shift positive first, List.map_cons, List.append_assoc, List.singleton_append]

/-- Digits read and written again have lost the zeros in front. -/
theorem digits_foldl_eq_withoutZeros (nonempty : ds ≠ []) (small : ∀ d ∈ ds, d < 10) :
    digits (ds.foldl shift 0) = withoutZeros (ds.map digitChar) := by
  induction ds with
  | nil => exact absurd rfl nonempty
  | cons d ds ih =>
      have first : d < 10 := small d List.mem_cons_self
      have later : ∀ e ∈ ds, e < 10 := fun e member => small e (List.mem_cons_of_mem _ member)
      have start : shift 0 d = d := by
        unfold shift
        omega
      have alone : digits d = [digitChar d] := by rw [digits, if_pos first]
      rw [List.foldl_cons, start]
      cases ds with
      | nil => simp [withoutZeros, alone]
      | cons e more =>
          rw [List.map_cons, List.map_cons, withoutZeros]
          by_cases zero : d = 0
          · subst zero
            have isZero : digitChar 0 = '0' := rfl
            rw [if_pos isZero, ih (List.cons_ne_nil e more) later, List.map_cons]
          · have positive : 0 < d := Nat.pos_of_ne_zero zero
            rw [if_neg fun same => zero ((digitChar_eq_zero_iff first).1 same),
              digits_foldl_shift positive later, alone, List.map_cons, List.singleton_append]

theorem Denotes.digits_eq (numeral : Denotes text n) : digits n = plain text := by
  obtain ⟨ds, nonempty, small, written, rfl⟩ := numeral
  rw [ofDigits_reverse, digits_foldl_eq_withoutZeros nonempty small]
  rcases written with rfl | rfl
  · cases ds with
    | nil => exact absurd rfl nonempty
    | cons d ds =>
        have noSign := digitChar_ne (small d List.mem_cons_self) (by decide : digitValue? '+' = none)
        rw [List.map_cons, plain]
        intro rest same
        exact noSign (List.cons.inj same).1
  · rfl

end Flowgraph.Numeral
