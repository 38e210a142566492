import Flowgraph.Text.Grapheme

/-!
# What the tables of break classes have in common

A character has one break class, but the pictographs and the letters and signs of conjuncts are
listed apart from the classes. No pictograph and no letter of a conjunct has a class of its own, and
every linking sign joins onto the character before it. Tables are compared range by range.
-/

namespace Flowgraph

namespace CharSet

/-- No range of the one list meets a range of the other; the lists are in ascending order. -/
def apart : List (Nat × Nat) → List (Nat × Nat) → Bool
  | [], _ => true
  | (a, b) :: ranges, others =>
      match others.dropWhile fun r => r.2 < a with
      | [] => true
      | (lo, hi) :: rest => b < lo && apart ranges ((lo, hi) :: rest)

/-- Every range of the first list lies in a range of the second; the lists are in ascending
order. -/
def covered : List (Nat × Nat) → List (Nat × Nat) → Bool
  | [], _ => true
  | (a, b) :: ranges, others =>
      match others.dropWhile fun r => r.1 ≤ r.2 && r.2 < a with
      | [] => false
      | (lo, hi) :: rest => lo ≤ a && b ≤ hi && covered ranges ((lo, hi) :: rest)

variable {n : Nat} {ranges others : List (Nat × Nat)}

theorem inRanges_nil : inRanges n [] = false := rfl

theorem inRanges_cons {a b : Nat} :
    inRanges n ((a, b) :: ranges) = true ↔ a ≤ n ∧ (n ≤ b ∨ inRanges n ranges = true) := by
  rw [inRanges]
  split
  · next below => simp [Nat.not_le.2 below]
  · next from_ => simp [Nat.not_lt.1 from_]

/-- Ranges that end below a code point do not matter to it. -/
theorem inRanges_dropWhile {p : Nat × Nat → Bool} (below : ∀ r, p r = true → r.2 < n)
    (member : inRanges n others = true) : inRanges n (others.dropWhile p) = true := by
  induction others with
  | nil => cases member
  | cons r rest ih =>
      obtain ⟨-, here | later⟩ := inRanges_cons.1 member
      · have kept : ¬p r = true := fun drops => Nat.not_lt.2 here (below r drops)
        rwa [List.dropWhile_cons_of_neg kept]
      · by_cases drops : p r = true
        · rw [List.dropWhile_cons_of_pos drops]
          exact ih later
        · rwa [List.dropWhile_cons_of_neg drops]

theorem not_inRanges_of_apart (disjoint : apart ranges others = true)
    (member : inRanges n ranges = true) : inRanges n others = false := by
  induction ranges generalizing others with
  | nil => cases member
  | cons r ranges ih =>
      obtain ⟨a, b⟩ := r
      obtain ⟨start, inside⟩ := inRanges_cons.1 member
      rw [Bool.eq_false_iff]
      intro other
      have below : ∀ r : Nat × Nat, decide (r.2 < a) = true → r.2 < n := fun r drops =>
        Nat.lt_of_lt_of_le (of_decide_eq_true drops) start
      have left := inRanges_dropWhile below other
      rw [apart] at disjoint
      split at disjoint
      · next none =>
          rw [none] at left
          cases left
      · next lo hi rest found =>
          obtain ⟨gap, later⟩ := Bool.and_eq_true_iff.1 disjoint
          rw [found] at left
          rcases inside with here | more
          · have above := (inRanges_cons.1 left).1
            have lower := of_decide_eq_true gap
            omega
          · rw [ih later more] at left
            cases left

/-- A code point in a range behind others is in them all together, if these are not reversed. -/
theorem inRanges_of_dropWhile {p : Nat × Nat → Bool} (below : ∀ r, p r = true → r.1 ≤ n)
    (member : inRanges n (others.dropWhile p) = true) : inRanges n others = true := by
  induction others with
  | nil => cases member
  | cons r rest ih =>
      by_cases drops : p r = true
      · rw [List.dropWhile_cons_of_pos drops] at member
        exact inRanges_cons.2 ⟨below r drops, .inr (ih member)⟩
      · rwa [List.dropWhile_cons_of_neg drops] at member

theorem inRanges_of_covered (within : covered ranges others = true)
    (member : inRanges n ranges = true) : inRanges n others = true := by
  induction ranges generalizing others with
  | nil => cases member
  | cons r ranges ih =>
      obtain ⟨a, b⟩ := r
      obtain ⟨start, inside⟩ := inRanges_cons.1 member
      rw [covered] at within
      split at within
      · cases within
      · next lo hi rest found =>
          obtain ⟨bounds, later⟩ := Bool.and_eq_true_iff.1 within
          obtain ⟨lower, upper⟩ := Bool.and_eq_true_iff.1 bounds
          have low := of_decide_eq_true lower
          have high := of_decide_eq_true upper
          have below : ∀ r : Nat × Nat, (decide (r.1 ≤ r.2) && decide (r.2 < a)) = true → r.1 ≤ n := by
            intro r drops
            simp only [Bool.and_eq_true, decide_eq_true_eq] at drops
            omega
          refine inRanges_of_dropWhile below ?_
          rw [found]
          rcases inside with here | more
          · exact inRanges_cons.2 ⟨by omega, .inl (by omega)⟩
          · exact ih later more

/-! ## Tables as characters -/

def rangesOfChars (text : List Char) : List (Nat × Nat) :=
  let (done, lo, n) := text.foldl hexStep ([], none, 0)
  ((lo.getD n, n) :: done).reverse

inductive Spelled : List String → List (List Char) → Prop where
  | nil : Spelled [] []
  | cons {line : List Char} {lines : List String} {rest : List (List Char)}
      (later : Spelled lines rest) : Spelled (String.ofList line :: lines) (line :: rest)

/-- A table is evaluated from its characters, which takes no decoding of text. -/
theorem Spelled.ranges_ofHex {lines : List String} {spelled : List (List Char)}
    (given : Spelled lines spelled) : (ofHex lines).ranges = spelled.flatMap rangesOfChars := by
  induction given with
  | nil => rfl
  | cons later ih =>
      simp only [ofHex, List.flatMap_cons] at ih ⊢
      rw [ih, hexRanges, String.toList_ofList, rangesOfChars]

end CharSet

namespace Grapheme

open CharSet

/-- The ranges of the characters that have a class of their own: those of no table, then the
tables. -/
def classRanges : List (List (Nat × Nat)) :=
  [(0x0A, 0x0A), (0x0D, 0x0D), (0x200D, 0x200D), (0xAC00, 0xD7A3), (0x1F1E6, 0x1F1FF)] ::
    [extenders, spacingMarks, controls, prependers, hangulLeads, hangulVowels, hangulTails].map
      CharSet.ranges

variable {c : Char}

/-- A character of none of these ranges has no class of its own. -/
theorem breakClass_eq_other (outside : ∀ ranges ∈ classRanges, inRanges c.toNat ranges = false) :
    breakClass c = .other := by
  simp only [classRanges, List.map_cons, List.map_nil, List.forall_mem_cons, List.not_mem_nil,
    false_implies, implies_true, and_true] at outside
  obtain ⟨single, extend, spacing, control, prepend, lead, vowel, tail⟩ := outside
  simp only [Bool.eq_false_iff, Ne, inRanges_cons, inRanges_nil, Bool.false_eq_true, or_false] at single
  unfold breakClass CharSet.contains
  simp only [extend, spacing, control, prepend, lead, vowel, tail, Bool.false_eq_true, if_false]
  rw [if_neg (by omega), if_neg (by omega)]
  split
  · rfl
  · rw [if_neg (by omega), if_neg (by omega), if_neg (by omega)]

theorem breakClass_of_apart {table : CharSet}
    (disjoint : classRanges.all (apart table.ranges) = true) (member : table.contains c = true) :
    breakClass c = .other :=
  breakClass_eq_other fun ranges listed =>
    not_inRanges_of_apart (List.all_eq_true.1 disjoint ranges listed) member

section
set_option maxRecDepth 4000

theorem breakClass_of_pictograph (pictograph : pictographs.contains c = true) :
    breakClass c = .other := by
  refine breakClass_of_apart ?_ pictograph
  simp only [classRanges, List.map_cons, List.map_nil, pictographs, extenders, spacingMarks, controls,
    prependers, hangulLeads, hangulVowels, hangulTails]
  repeat rw [Spelled.ranges_ofHex (by repeat constructor)]
  decide +kernel

theorem breakClass_of_conjunctLetter (letter : conjunctLetters.contains c = true) :
    breakClass c = .other := by
  refine breakClass_of_apart ?_ letter
  simp only [classRanges, List.map_cons, List.map_nil, conjunctLetters, extenders, spacingMarks,
    controls, prependers, hangulLeads, hangulVowels, hangulTails]
  repeat rw [Spelled.ranges_ofHex (by repeat constructor)]
  decide +kernel

/-- The ranges whose characters are given a class before the marks are looked up. -/
def earlierRanges : List (Nat × Nat) :=
  [(0x0A, 0x0A), (0x0D, 0x0D), (0x20, 0x7E), (0x200D, 0x200D), (0xAC00, 0xD7A3), (0x1F1E6, 0x1F1FF)]

theorem breakClass_of_conjunctLinker (linker : conjunctLinkers.contains c = true) :
    breakClass c = .extend := by
  have marks : covered conjunctLinkers.ranges extenders.ranges = true := by
    simp only [conjunctLinkers, extenders]
    repeat rw [Spelled.ranges_ofHex (by repeat constructor)]
    decide +kernel
  have later : apart conjunctLinkers.ranges earlierRanges = true := by
    simp only [conjunctLinkers]
    rw [Spelled.ranges_ofHex (by repeat constructor)]
    decide +kernel
  have mark : extenders.contains c = true := inRanges_of_covered marks linker
  have noRange := not_inRanges_of_apart later linker
  simp only [earlierRanges, Bool.eq_false_iff, Ne, inRanges_cons, inRanges_nil, Bool.false_eq_true,
    or_false] at noRange
  unfold breakClass
  simp only [mark, if_true]
  rw [if_neg (by omega), if_neg (by omega), if_neg (by omega), if_neg (by omega), if_neg (by omega),
    if_neg (by omega)]

end

end Grapheme

end Flowgraph
