import Flowgraph.Json.Printer
import Flowgraph.Json.Reader
import Mathlib.Data.List.DropRight

/-!
# Reading written JSON

`Written` are the texts that write a value: strings and integers as the printer writes them, with
any blanks between the tokens. The reader finds the value of each of them, however it goes on behind
it. A step lemma for every token says what the reader does there; each step takes one unit of fuel
and at least one character, so the length of a text is fuel enough.
-/

namespace Flowgraph.Json

def Blanks (text : List Char) : Prop := ∀ c ∈ text, isBlank c = true

def EndsNumber (c : Char) : Prop := c.isDigit = false ∧ c ≠ '.' ∧ c ≠ 'e' ∧ c ≠ 'E'

instance : DecidablePred EndsNumber := fun c => by
  unfold EndsNumber
  infer_instance

def Ended (rest : List Char) : Prop := ∀ c ∈ rest.head?, EndsNumber c

def quotedChars (s : String) : List Char := '"' :: (s.toList.flatMap escapeChar ++ ['"'])

/-- A value, or what follows an opening bracket or brace up to the closing one. -/
inductive Part where
  | value (v : Json)
  | items (items : List Json)
  | members (members : List (String × Json))

/-- The text writes the part, nested at most `depth` levels deep. -/
inductive Written : Nat → Part → List Char → Prop where
  | null {depth} : Written depth (.value .null) "null".toList
  | yes {depth} : Written depth (.value (.bool true)) "true".toList
  | no {depth} : Written depth (.value (.bool false)) "false".toList
  | int {depth} (n : Int) : Written depth (.value (.int n)) (toString n).toList
  | text {depth} (s : String) : Written depth (.value (.text s)) (quotedChars s)
  | indented {depth v gap text} (blanks : Blanks gap) (value : Written depth (.value v) text) :
      Written depth (.value v) (gap ++ text)
  | noItems {depth gap} (blanks : Blanks gap) :
      Written (depth + 1) (.value (.array [])) ('[' :: (gap ++ [']']))
  | array {depth items text} (written : Written depth (.items items) text) :
      Written (depth + 1) (.value (.array items)) ('[' :: text)
  | lastItem {depth v text gap} (value : Written depth (.value v) text) (blanks : Blanks gap) :
      Written depth (.items [v]) (text ++ (gap ++ [']']))
  | item {depth v items text gap others} (value : Written depth (.value v) text) (blanks : Blanks gap)
      (further : Written depth (.items items) others) :
      Written depth (.items (v :: items)) (text ++ (gap ++ ',' :: others))
  | noMembers {depth gap} (blanks : Blanks gap) :
      Written (depth + 1) (.value (.object [])) ('\x7b' :: (gap ++ ['\x7d']))
  | object {depth members text} (written : Written depth (.members members) text) :
      Written (depth + 1) (.value (.object members)) ('\x7b' :: text)
  | lastMember {depth name v before between text gap} (indent : Blanks before) (space : Blanks between)
      (value : Written depth (.value v) text) (blanks : Blanks gap) :
      Written depth (.members [(name, v)])
        (before ++ (quotedChars name ++ (between ++ ':' :: (text ++ (gap ++ ['\x7d'])))))
  | member {depth name v members before between text gap others} (indent : Blanks before)
      (space : Blanks between) (value : Written depth (.value v) text) (blanks : Blanks gap)
      (further : Written depth (.members members) others) :
      Written depth (.members ((name, v) :: members))
        (before ++ (quotedChars name ++ (between ++ ':' :: (text ++ (gap ++ ',' :: others)))))

variable {text rest gap : List Char} {depth fuel : Nat}

-- The readers are mutually recursive: their equations are derived here, ahead of the proofs.
attribute [local simp] value itemsOf membersOf

/-! ## Blanks -/

theorem skipBlanks_append (blanks : Blanks gap) (rest : List Char) :
    skipBlanks (gap ++ rest) = skipBlanks rest :=
  List.dropWhile_append_of_pos blanks

theorem skipBlanks_cons {c : Char} (solid : isBlank c = false) (rest : List Char) :
    skipBlanks (c :: rest) = c :: rest := by
  rw [skipBlanks, List.dropWhile_cons_of_neg (by rw [solid]; exact Bool.false_ne_true)]

theorem skipBlanks_token {c : Char} (blanks : Blanks gap) (solid : isBlank c = false)
    (rest : List Char) : skipBlanks (gap ++ c :: rest) = c :: rest := by
  rw [skipBlanks_append blanks, skipBlanks_cons solid]

theorem skipBlanks_skipBlanks (text : List Char) : skipBlanks (skipBlanks text) = skipBlanks text :=
  List.dropWhile_idempotent _ text

/-- Only what follows the blanks counts. -/
theorem value_congr {other : List Char} (same : skipBlanks text = skipBlanks other) :
    value fuel depth text = value fuel depth other := by
  cases fuel with
  | zero => rfl
  | succ fuel => rw [value, value, same]

theorem value_append (blanks : Blanks gap) (rest : List Char) :
    value fuel depth (gap ++ rest) = value fuel depth rest :=
  value_congr (skipBlanks_append blanks rest)

theorem itemsOf_skipBlanks (text : List Char) :
    itemsOf fuel depth (skipBlanks text) = itemsOf fuel depth text := by
  cases fuel with
  | zero => rfl
  | succ fuel => rw [itemsOf, itemsOf, value_congr (skipBlanks_skipBlanks text)]

theorem membersOf_skipBlanks (text : List Char) :
    membersOf fuel depth (skipBlanks text) = membersOf fuel depth text := by
  cases fuel with
  | zero => rfl
  | succ fuel => rw [membersOf, membersOf, skipBlanks_skipBlanks]

theorem endsNumber_of_isBlank {c : Char} (blank : isBlank c = true) : EndsNumber c := by
  simp only [isBlank, Bool.or_eq_true, decide_eq_true_eq, or_assoc] at blank
  rcases blank with rfl | rfl | rfl | rfl <;> decide

/-- A number in front of blanks and a closing token has ended. -/
theorem ended_of_blanks (blanks : Blanks gap) {c : Char} (closes : EndsNumber c) (rest : List Char) :
    Ended (gap ++ c :: rest) := by
  intro d first
  cases gap with
  | nil =>
      obtain rfl : c = d := by simpa using first
      exact closes
  | cons b gap =>
      obtain rfl : b = d := by simpa using first
      exact endsNumber_of_isBlank (blanks b List.mem_cons_self)

/-! ## Strings -/

theorem unit?_hexDigit {n : Nat} (small : n < 0x20) :
    unit? '0' '0' (hexDigit (n / 16)) (hexDigit (n % 16)) = some n := by
  have all : ∀ n < 0x20, unit? '0' '0' (hexDigit (n / 16)) (hexDigit (n % 16)) = some n := by decide
  exact all n small

theorem stringRest_escapeChar (done : List Char) (c : Char) (tail : List Char) :
    stringRest done (escapeChar c ++ tail) = stringRest (c :: done) tail := by
  unfold escapeChar
  split <;> try rfl
  next noQuote noSlash _ _ _ _ _ =>
    split
    · next control =>
        have units := unit?_hexDigit control
        have noLow : isLowSurrogate c.toNat = false := by simp [isLowSurrogate]; omega
        have noHigh : isHighSurrogate c.toNat = false := by simp [isHighSurrogate]; omega
        simp [stringRest, units, noLow, noHigh]
    · next plain =>
        rw [List.singleton_append, stringRest]
        · rw [if_neg (not_or.2 ⟨plain, noSlash⟩)]
        all_goals simp_all

theorem stringRest_flatMap (letters done tail : List Char) :
    stringRest done (letters.flatMap escapeChar ++ '"' :: tail) =
      some (String.ofList (done.reverse ++ letters), tail) := by
  induction letters generalizing done with
  | nil => simp [stringRest]
  | cons c letters ih =>
      rw [List.flatMap_cons, List.append_assoc, stringRest_escapeChar, ih]
      simp

theorem quotedChars_append (s : String) (tail : List Char) :
    quotedChars s ++ tail = '"' :: (s.toList.flatMap escapeChar ++ '"' :: tail) := by
  simp [quotedChars]

theorem stringRest_quotedChars (s : String) (tail : List Char) :
    stringRest [] (s.toList.flatMap escapeChar ++ '"' :: tail) = some (s, tail) := by
  rw [stringRest_flatMap, List.reverse_nil, List.nil_append, String.ofList_toList]

/-! ## Numbers -/

theorem digitsOf_append {digits : List Char} (all : ∀ c ∈ digits, c.isDigit = true)
    (ended : Ended rest) : digitsOf (digits ++ rest) = (digits, rest) := by
  have stops : rest.takeWhile Char.isDigit = [] ∧ rest.dropWhile Char.isDigit = rest := by
    cases rest with
    | nil => exact ⟨rfl, rfl⟩
    | cons c rest =>
        have noDigit := (ended c rfl).1
        simp [noDigit]
  rw [digitsOf, List.takeWhile_append_of_pos all, List.dropWhile_append_of_pos all, stops.1, stops.2,
    List.append_nil]

theorem fraction_of_ended (ended : Ended rest) : fraction rest = some ([], rest) := by
  unfold fraction
  split
  · exact absurd rfl (ended _ rfl).2.1
  · rfl

theorem exponent_of_ended (ended : Ended rest) : exponent rest = some ([], rest) := by
  unfold exponent
  split
  all_goals first
    | exact absurd rfl (ended _ rfl).2.2.1
    | exact absurd rfl (ended _ rfl).2.2.2
    | rfl

/-- Of the numerals only zero begins with a zero. -/
theorem head?_toDigits {n : Nat} (positive : 0 < n) : (Nat.toDigits 10 n).head? ≠ some '0' := by
  induction n using Nat.strongRecOn with
  | ind n ih =>
      by_cases small : n < 10
      · have all : ∀ n < 10, 0 < n → (Nat.toDigits 10 n).head? ≠ some '0' := by decide
        exact all n small positive
      · rw [Nat.toDigits_of_base_le (by decide) (by omega),
          List.head?_append_of_ne_nil _ Nat.toDigits_ne_nil]
        exact ih (n / 10) (by omega) (by omega)

theorem decimalValue_toDigits (n : Nat) : decimalValue (Nat.toDigits 10 n) = n :=
  Nat.ofDigitChars_toDigits (by decide) (by decide)

theorem number_toDigits (negative : Bool) (n : Nat) (ended : Ended rest)
    (signed : negative = true → n ≠ 0) :
    number negative (Nat.toDigits 10 n ++ rest) =
      some (.int (if negative then -(n : Int) else n), rest) := by
  have all : ∀ c ∈ Nat.toDigits 10 n, c.isDigit = true := fun c =>
    Nat.isDigit_of_mem_toDigits (by decide) (by decide)
  have plain : (Nat.toDigits 10 n).head? = some '0' → (Nat.toDigits 10 n).length = 1 := by
    rcases Nat.eq_zero_or_pos n with rfl | positive
    · exact fun _ => rfl
    · exact fun zero => absurd zero (head?_toDigits positive)
  have integer : (negative && n = 0) = false := by
    cases negative with
    | false => rfl
    | true => simp [signed rfl]
  simpa [number, digitsOf_append all ended, fraction_of_ended ended, exponent_of_ended ended,
    decimalValue_toDigits, integer] using plain

theorem isBlank_of_isDigit {c : Char} (digit : c.isDigit = true) : isBlank c = false := by
  have ne (d : Char) (other : d.isDigit = false) : c ≠ d := by
    rintro rfl
    exact Bool.false_ne_true (other.symm.trans digit)
  simp [isBlank, ne ' ' rfl, ne '\n' rfl, ne '\t' rfl, ne '\r' rfl]

theorem value_digit {c : Char} (digit : c.isDigit = true) (rest : List Char) :
    value (fuel + 1) depth (c :: rest) = number false (c :: rest) := by
  have opens {d : Char} {more : List Char} (other : d.isDigit = false) : c :: rest ≠ d :: more := by
    intro same
    rw [(List.cons.inj same).1, other] at digit
    cases digit
  rw [value, skipBlanks_cons (isBlank_of_isDigit digit)]
  split
  all_goals first
    | rfl
    | next same => exact absurd same (opens rfl)

theorem value_int (n : Int) (ended : Ended rest) :
    value (fuel + 1) depth ((toString n).toList ++ rest) = some (.int n, rest) := by
  cases n with
  | ofNat n =>
      have letters : (toString (Int.ofNat n)).toList = Nat.toDigits 10 n := Nat.toList_repr
      have read := number_toDigits false n ended (fun signed => by cases signed)
      rw [letters]
      obtain ⟨c, more, digits⟩ := List.exists_cons_of_ne_nil (Nat.toDigits_ne_nil (n := n) (b := 10))
      have digit : c.isDigit = true := by
        refine Nat.isDigit_of_mem_toDigits (b := 10) (n := n) (by decide) (by decide) ?_
        rw [digits]
        exact List.mem_cons_self
      rw [digits, List.cons_append] at read ⊢
      rw [value_digit digit, read]
      rfl
  | negSucc n =>
      have letters : (toString (Int.negSucc n)).toList = '-' :: Nat.toDigits 10 (n + 1) := by
        change ("-" ++ (n + 1).repr).toList = _
        rw [String.toList_append, Nat.toList_repr]
        rfl
      have read := number_toDigits true (n + 1) ended (fun _ => by omega)
      rw [letters, List.cons_append, value, skipBlanks_cons (by decide)]
      exact read

/-! ## Arrays and objects -/

theorem value_text (s : String) (tail : List Char) :
    value (fuel + 1) depth (quotedChars s ++ tail) = some (.text s, tail) := by
  rw [quotedChars_append, value, skipBlanks_cons (by decide)]
  simp [stringRest_quotedChars]

/-- A bracket that closes is no item. -/
theorem itemsOf_closing {more : List Char} (closes : skipBlanks text = ']' :: more) :
    itemsOf fuel depth text = none := by
  cases fuel with
  | zero => rfl
  | succ fuel =>
      have noValue : value fuel depth text = none := by
        cases fuel with
        | zero => rfl
        | succ fuel =>
            rw [value, closes]
            rfl
      rw [itemsOf, noValue]

theorem membersOf_closing {more : List Char} (closes : skipBlanks text = '\x7d' :: more) :
    membersOf fuel depth text = none := by
  cases fuel with
  | zero => rfl
  | succ fuel =>
      rw [membersOf, closes]
      rfl

theorem value_noItems (blanks : Blanks gap) :
    value (fuel + 1) (depth + 1) ('[' :: (gap ++ ']' :: rest)) = some (.array [], rest) := by
  rw [value, skipBlanks_cons (by decide)]
  simp [skipBlanks_token blanks (by decide : isBlank ']' = false)]

theorem value_array {items : List Json} (read : itemsOf fuel depth text = some (items, rest)) :
    value (fuel + 1) (depth + 1) ('[' :: text) = some (.array items, rest) := by
  rw [value, skipBlanks_cons (by decide)]
  simp only [Nat.add_one_ne_zero, if_false]
  split
  · next closes =>
      rw [itemsOf_closing closes] at read
      cases read
  · rw [Nat.add_sub_cancel, itemsOf_skipBlanks, read]
    rfl

theorem value_noMembers (blanks : Blanks gap) :
    value (fuel + 1) (depth + 1) ('\x7b' :: (gap ++ '\x7d' :: rest)) = some (.object [], rest) := by
  rw [value, skipBlanks_cons (by decide)]
  simp [skipBlanks_token blanks (by decide : isBlank '\x7d' = false)]

theorem value_object {members : List (String × Json)}
    (read : membersOf fuel depth text = some (members, rest)) :
    value (fuel + 1) (depth + 1) ('\x7b' :: text) = some (.object members, rest) := by
  rw [value, skipBlanks_cons (by decide)]
  simp only [Nat.add_one_ne_zero, if_false]
  split
  · next closes =>
      rw [membersOf_closing closes] at read
      cases read
  · rw [Nat.add_sub_cancel, membersOf_skipBlanks, read]
    rfl

theorem itemsOf_last {v : Json} (read : value fuel depth text = some (v, gap ++ ']' :: rest))
    (blanks : Blanks gap) : itemsOf (fuel + 1) depth text = some ([v], rest) := by
  simp [read, skipBlanks_token blanks (by decide : isBlank ']' = false)]

theorem itemsOf_item {v : Json} {items : List Json} {others : List Char}
    (read : value fuel depth text = some (v, gap ++ ',' :: others)) (blanks : Blanks gap)
    (further : itemsOf fuel depth others = some (items, rest)) :
    itemsOf (fuel + 1) depth text = some (v :: items, rest) := by
  simp [read, skipBlanks_token blanks (by decide : isBlank ',' = false), further]

section
variable {name : String} {v : Json} {before between : List Char} (indent : Blanks before)
  (space : Blanks between) (blanks : Blanks gap)
include indent space blanks

theorem membersOf_last (read : value fuel depth text = some (v, gap ++ '\x7d' :: rest)) :
    membersOf (fuel + 1) depth (before ++ (quotedChars name ++ (between ++ ':' :: text))) =
      some ([(name, v)], rest) := by
  rw [quotedChars_append, membersOf, skipBlanks_token indent (by decide)]
  simp [stringRest_quotedChars, skipBlanks_token space (by decide : isBlank ':' = false), read,
    skipBlanks_token blanks (by decide : isBlank '\x7d' = false)]

theorem membersOf_member {members : List (String × Json)} {others : List Char}
    (read : value fuel depth text = some (v, gap ++ ',' :: others))
    (further : membersOf fuel depth others = some (members, rest)) :
    membersOf (fuel + 1) depth (before ++ (quotedChars name ++ (between ++ ':' :: text))) =
      some ((name, v) :: members, rest) := by
  rw [quotedChars_append, membersOf, skipBlanks_token indent (by decide)]
  simp [stringRest_quotedChars, skipBlanks_token space (by decide : isBlank ':' = false), read,
    skipBlanks_token blanks (by decide : isBlank ',' = false), further]

end

/-! ## Written texts -/

/-- The reader finds the part in front of whatever follows it. -/
def Reads (depth : Nat) (text : List Char) : Part → Prop
  | .value v => ∀ fuel rest, text.length ≤ fuel → Ended rest →
      value (fuel + 1) depth (text ++ rest) = some (v, rest)
  | .items xs => ∀ fuel rest, text.length ≤ fuel →
      itemsOf (fuel + 1) depth (text ++ rest) = some (xs, rest)
  | .members ms => ∀ fuel rest, text.length ≤ fuel →
      membersOf (fuel + 1) depth (text ++ rest) = some (ms, rest)

theorem reads_of_written {part : Part} (written : Written depth part text) :
    Reads depth text part := by
  -- Each part is shorter than the whole by a bracket or a comma, so the fuel left for it suffices.
  induction written with
  | null | yes | no =>
      intro fuel rest enough ended
      rfl
  | int n => exact fun fuel rest enough ended => value_int n ended
  | text s => exact fun fuel rest enough ended => value_text s rest
  | indented blanks value ih =>
      intro fuel rest enough ended
      rw [List.length_append] at enough
      rw [List.append_assoc, value_append blanks]
      exact ih fuel rest (by omega) ended
  | noItems blanks =>
      intro fuel rest enough ended
      rw [List.cons_append, List.append_assoc]
      exact value_noItems blanks
  | array written ih =>
      intro fuel rest enough ended
      rcases fuel with _ | fuel
      · cases enough
      · exact value_array (ih fuel rest (Nat.le_of_succ_le_succ enough))
  | @lastItem depth v text gap value blanks ih =>
      intro fuel rest enough
      rcases fuel with _ | fuel
      · simp at enough
      · have short : text.length ≤ fuel := by simp at enough; omega
        have read := ih fuel (gap ++ ']' :: rest) short (ended_of_blanks blanks (by decide) rest)
        rw [List.append_assoc, List.append_assoc]
        exact itemsOf_last read blanks
  | @item depth v items text gap others value blanks further ihValue ihItems =>
      intro fuel rest enough
      rcases fuel with _ | fuel
      · simp at enough
      · have short : text.length ≤ fuel ∧ others.length ≤ fuel := by simp at enough; omega
        have read := ihValue fuel (gap ++ ',' :: (others ++ rest)) short.1
          (ended_of_blanks blanks (by decide) _)
        rw [List.append_assoc, List.append_assoc]
        exact itemsOf_item read blanks (ihItems fuel rest short.2)
  | noMembers blanks =>
      intro fuel rest enough ended
      rw [List.cons_append, List.append_assoc]
      exact value_noMembers blanks
  | object written ih =>
      intro fuel rest enough ended
      rcases fuel with _ | fuel
      · cases enough
      · exact value_object (ih fuel rest (Nat.le_of_succ_le_succ enough))
  | @lastMember depth name v before between text gap indent space value blanks ih =>
      intro fuel rest enough
      rcases fuel with _ | fuel
      · simp at enough
      · have short : text.length ≤ fuel := by simp at enough; omega
        have read := ih fuel (gap ++ '\x7d' :: rest) short (ended_of_blanks blanks (by decide) rest)
        simp only [List.append_assoc, List.cons_append, List.nil_append]
        exact membersOf_last indent space blanks read
  | @member depth name v members before between text gap others indent space value blanks further
      ihValue ihMembers =>
      intro fuel rest enough
      rcases fuel with _ | fuel
      · simp at enough
      · have short : text.length ≤ fuel ∧ others.length ≤ fuel := by simp at enough; omega
        have read := ihValue fuel (gap ++ ',' :: (others ++ rest)) short.1
          (ended_of_blanks blanks (by decide) _)
        simp only [List.append_assoc, List.cons_append]
        exact membersOf_member indent space blanks read (ihMembers fuel rest short.2)

/-- A text that writes a value is read as this value, whatever blanks follow. -/
theorem read_append_of_written {text : String} {v : Json} {blanks : String}
    (written : Written maxDepth (.value v) text.toList) (blank : Blanks blanks.toList) :
    read (text ++ blanks) = some v := by
  have ended : Ended blanks.toList := fun c first =>
    endsNumber_of_isBlank (blank c (List.mem_of_mem_head? first))
  have skipped : skipBlanks blanks.toList = [] := List.dropWhile_eq_nil_iff.2 blank
  have found := reads_of_written written (2 * (text ++ blanks).toList.length + 1) blanks.toList
    (by rw [String.toList_append, List.length_append]; omega) ended
  unfold read
  rw [String.toList_append] at found ⊢
  simp only [found, skipped]
  rfl

theorem read_of_written {text : String} {v : Json}
    (written : Written maxDepth (.value v) text.toList) : read text = some v := by
  have blank : Blanks "".toList := fun c member => by cases member
  have found := read_append_of_written written blank
  rwa [String.append_empty] at found

end Flowgraph.Json
