import Flowgraph.Proofs.Text.BreakClass
import Mathlib.Data.List.TakeWhile

/-!
# Where grapheme clusters end

Rules say which characters are joined to the text before them. Most look at two neighbours only, but
an emoji sequence, a flag and a conjunct are told by what stands further back. No rule looks ahead,
so the clusters of the beginning of a text that ends with a cluster are clusters of the text. The
walk finds the clusters that the rules make, and there is only one way to make them.
-/

namespace Flowgraph.Grapheme

variable {text before front inner : List Char} {c p : Char} {ctx : Context}

/-! ## The rules -/

/-- Line ends and other controls stand alone. -/
def BreakClass.isControl : BreakClass → Bool
  | .cr | .lf | .control => true
  | _ => false

/-- Marks join onto the character before them. -/
def BreakClass.isMark : BreakClass → Bool
  | .extend | .joiner | .spacingMark => true
  | _ => false

/-- The parts of a Hangul syllable in their order. -/
def BreakClass.syllable : BreakClass → BreakClass → Bool
  | .lead, .lead | .lead, .vowel | .lead, .openSyllable | .lead, .closedSyllable => true
  | .openSyllable, .vowel | .openSyllable, .tail | .vowel, .vowel | .vowel, .tail => true
  | .closedSyllable, .tail | .tail, .tail => true
  | _, _ => false

def lastClass (text : List Char) : Option BreakClass := text.getLast?.map breakClass

/-- The text ends in a head, which may be told by what stands before it, and any number of marks. -/
def EndsIn (head : List Char → Char → Prop) (mark : Char → Prop) (text : List Char) : Prop :=
  ∃ front p marks, text = front ++ p :: marks ∧ head front p ∧ ∀ m ∈ marks, mark m

def EndsInPictograph : List Char → Prop :=
  EndsIn (fun _ p => pictographs.contains p = true) fun m => breakClass m = .extend

def EndsInJoined (text : List Char) : Prop :=
  ∃ front p, text = front ++ [p] ∧ breakClass p = .joiner ∧ EndsInPictograph front

/-- The signs that may stand between the consonants of a conjunct: linkers, joiners, and marks other
than the one that keeps consonants apart. -/
def IsConjunctMark (c : Char) : Prop :=
  conjunctLinkers.contains c = true ∨ breakClass c = .joiner ∨
    (breakClass c = .extend ∧ c.toNat ≠ 0x200C)

def EndsInConsonant : List Char → Prop :=
  EndsIn (fun _ p => conjunctLetters.contains p = true) IsConjunctMark

def EndsInLinked : List Char → Prop :=
  EndsIn (fun front p => conjunctLinkers.contains p = true ∧ EndsInConsonant front) IsConjunctMark

def regionals (text : List Char) : Nat :=
  (text.reverse.takeWhile fun c => breakClass c = .regional).length

/-- A rule joins the character to the text before it. -/
inductive Joined (before : List Char) (c : Char) : Prop where
  /-- A line feed belongs to the carriage return before it. -/
  | lineEnd (carriage : lastClass before = some .cr) (feed : breakClass c = .lf)
  | syllable {cls : BreakClass} (last : lastClass before = some cls)
      (goes : cls.syllable (breakClass c) = true)
  | mark {cls : BreakClass} (last : lastClass before = some cls) (plain : cls.isControl = false)
      (joins : (breakClass c).isMark = true)
  | prepended (last : lastClass before = some .prepend) (plain : (breakClass c).isControl = false)
  | conjunct (linked : EndsInLinked before) (letter : conjunctLetters.contains c = true)
  | emoji (joined : EndsInJoined before) (pictograph : pictographs.contains c = true)
  /-- Regional indicators are joined in pairs. -/
  | flag (unpaired : regionals before % 2 = 1) (second : breakClass c = .regional)

/-! ## What a text ends in -/

theorem lastClass_append : lastClass (text ++ [c]) = some (breakClass c) := by
  simp [lastClass]

theorem not_endsIn_nil {head : List Char → Char → Prop} {mark : Char → Prop} :
    ¬EndsIn head mark [] := by
  rintro ⟨front, p, marks, whole, -⟩
  simp at whole

/-- The last character is a head, or a mark behind a text that ends in the same way. -/
theorem endsIn_append {head : List Char → Char → Prop} {mark : Char → Prop} :
    EndsIn head mark (text ++ [c]) ↔ head text c ∨ (mark c ∧ EndsIn head mark text) := by
  constructor
  · rintro ⟨front, p, marks, whole, isHead, areMarks⟩
    rcases List.eq_nil_or_concat marks with rfl | ⟨marks, m, rfl⟩
    · obtain ⟨rfl, same⟩ := List.append_inj' whole rfl
      obtain rfl := List.singleton_inj.1 same
      exact .inl isHead
    · rw [List.concat_eq_append, ← List.cons_append, ← List.append_assoc] at whole
      obtain ⟨rfl, same⟩ := List.append_inj' whole rfl
      obtain rfl := List.singleton_inj.1 same
      rw [List.concat_eq_append] at areMarks
      exact .inr ⟨areMarks c (by simp), front, p, marks, rfl, isHead, fun m inside =>
        areMarks m (List.mem_append_left _ inside)⟩
  · rintro (isHead | ⟨isMark, front, p, marks, rfl, isHead, areMarks⟩)
    · exact ⟨text, c, [], rfl, isHead, by simp⟩
    · refine ⟨front, p, marks ++ [c], by simp, isHead, fun m inside => ?_⟩
      rcases List.mem_append.1 inside with among | last
      · exact areMarks m among
      · obtain rfl := List.mem_singleton.1 last
        exact isMark

theorem endsInJoined_append :
    EndsInJoined (text ++ [c]) ↔ breakClass c = .joiner ∧ EndsInPictograph text := by
  constructor
  · rintro ⟨front, p, whole, joiner, ends⟩
    obtain ⟨rfl, same⟩ := List.append_inj' whole rfl
    obtain rfl := List.singleton_inj.1 same
    exact ⟨joiner, ends⟩
  · rintro ⟨joiner, ends⟩
    exact ⟨text, c, rfl, joiner, ends⟩

theorem regionals_append :
    regionals (text ++ [c]) = if breakClass c = .regional then regionals text + 1 else 0 := by
  unfold regionals
  rw [List.reverse_append, List.reverse_singleton, List.singleton_append, List.takeWhile_cons]
  by_cases regional : breakClass c = .regional <;> simp [regional]

/-- At the beginning of a text nothing is joined. -/
theorem not_joined_nil : ¬Joined [] c := by
  rintro (⟨last, -⟩ | ⟨last, -⟩ | ⟨last, -, -⟩ | ⟨last, -⟩ | ⟨linked, -⟩ | ⟨joined, -⟩ | ⟨odd, -⟩)
  · cases last
  · cases last
  · cases last
  · cases last
  · exact not_endsIn_nil linked
  · obtain ⟨front, p, whole, -⟩ := joined
    simp at whole
  · cases odd

/-! ## The summary of an open cluster -/

/-- The context tells what the rules have to know of the text before a character. -/
structure Context.Sums (ctx : Context) (text : List Char) : Prop where
  last : lastClass text = some ctx.last
  unpaired : ctx.unpaired = true ↔ regionals text % 2 = 1
  pictograph : ctx.emoji = .pictograph ↔ EndsInPictograph text
  joined : ctx.emoji = .joined ↔ EndsInJoined text
  consonant : ctx.conjunct ≠ .outside ↔ EndsInConsonant text
  linked : ctx.conjunct = .linked ↔ EndsInLinked text

/-- The walk goes by the classes first; where they leave it open, the sequences decide. -/
theorem Context.joins_iff {cls : BreakClass} :
    ctx.joins c cls = true ↔
      ctx.last = .cr ∧ cls = .lf ∨ ctx.last.syllable cls = true ∨
      ctx.last.isControl = false ∧ cls.isMark = true ∨
      ctx.last = .prepend ∧ cls.isControl = false ∨
      ctx.last = .regional ∧ cls = .regional ∧ ctx.unpaired = true ∨
      ctx.last.isControl = false ∧ cls.isControl = false ∧
        ¬(ctx.last = .regional ∧ cls = .regional) ∧
        (ctx.conjunct = .linked ∧ conjunctLetters.contains c = true ∨
          ctx.emoji = .joined ∧ pictographs.contains c = true) := by
  obtain ⟨last, unpaired, emoji, conjunct⟩ := ctx
  cases last <;> cases cls <;>
    simp [joins, BreakClass.syllable, BreakClass.isControl, BreakClass.isMark]

theorem exists_lastClass {head : List Char → Char → Prop} {mark : Char → Prop}
    (good : BreakClass → Prop) (ends : EndsIn head mark text)
    (ofHead : ∀ front p, head front p → good (breakClass p))
    (ofMark : ∀ m, mark m → good (breakClass m)) : ∃ cls, lastClass text = some cls ∧ good cls := by
  rcases List.eq_nil_or_concat text with rfl | ⟨front, p, rfl⟩
  · exact absurd ends not_endsIn_nil
  · rw [List.concat_eq_append] at ends ⊢
    refine ⟨_, lastClass_append, ?_⟩
    rcases endsIn_append.1 ends with isHead | ⟨isMark, -⟩
    · exact ofHead _ p isHead
    · exact ofMark p isMark

theorem IsConjunctMark.class_eq (mark : IsConjunctMark c) :
    breakClass c = .extend ∨ breakClass c = .joiner := by
  rcases mark with linker | joiner | ⟨extend, -⟩
  · exact .inl (breakClass_of_conjunctLinker linker)
  · exact .inr joiner
  · exact .inl extend

theorem IsConjunctMark.isMark (mark : IsConjunctMark c) : (breakClass c).isMark = true := by
  rcases mark.class_eq with cls | cls <;> rw [cls] <;> rfl

theorem lastClass_of_linked (ends : EndsInLinked text) :
    lastClass text = some .extend ∨ lastClass text = some .joiner := by
  obtain ⟨cls, last, rfl | rfl⟩ := exists_lastClass (fun cls => cls = .extend ∨ cls = .joiner) ends
    (fun front p isHead => .inl (breakClass_of_conjunctLinker isHead.1)) fun m => IsConjunctMark.class_eq
  · exact .inl last
  · exact .inr last

theorem lastClass_of_joined (ends : EndsInJoined text) : lastClass text = some .joiner := by
  obtain ⟨front, p, rfl, joiner, -⟩ := ends
  rw [lastClass_append, joiner]

theorem lastClass_of_regionals (odd : regionals text % 2 = 1) : lastClass text = some .regional := by
  rcases List.eq_nil_or_concat text with rfl | ⟨front, p, rfl⟩
  · cases odd
  · rw [List.concat_eq_append, regionals_append] at odd
    split at odd
    · next regional => rw [List.concat_eq_append, lastClass_append, regional]
    · cases odd

namespace Context.Sums

variable (sums : ctx.Sums text)
include sums

theorem last_eq {cls : BreakClass} (last : lastClass text = some cls) : ctx.last = cls :=
  Option.some.inj (sums.last.symm.trans last)

/-- The walk joins what the rules join. -/
theorem joins_iff_joined : ctx.joins c (breakClass c) = true ↔ Joined text c := by
  rw [Context.joins_iff]
  constructor
  · rintro (⟨carriage, feed⟩ | goes | ⟨plain, joins⟩ | ⟨prepend, plain⟩ | ⟨-, second, unpaired⟩ |
      ⟨-, -, -, ⟨linked, letter⟩ | ⟨joined, pictograph⟩⟩)
    · exact .lineEnd (carriage ▸ sums.last) feed
    · exact .syllable sums.last goes
    · exact .mark sums.last plain joins
    · exact .prepended (prepend ▸ sums.last) plain
    · exact .flag (sums.unpaired.1 unpaired) second
    · exact .conjunct (sums.linked.1 linked) letter
    · exact .emoji (sums.joined.1 joined) pictograph
  · intro joined
    cases joined with
    | lineEnd carriage feed => exact .inl ⟨sums.last_eq carriage, feed⟩
    | syllable last goes => exact .inr (.inl (sums.last_eq last ▸ goes))
    | mark last plain joins => exact .inr (.inr (.inl ⟨sums.last_eq last ▸ plain, joins⟩))
    | prepended last plain => exact .inr (.inr (.inr (.inl ⟨sums.last_eq last, plain⟩)))
    | flag unpaired second =>
        have last := sums.last_eq (lastClass_of_regionals unpaired)
        exact .inr (.inr (.inr (.inr (.inl ⟨last, second, sums.unpaired.2 unpaired⟩))))
    | conjunct linked letter =>
        have other := breakClass_of_conjunctLetter letter
        have last : ctx.last = .extend ∨ ctx.last = .joiner :=
          (lastClass_of_linked linked).imp sums.last_eq sums.last_eq
        refine .inr (.inr (.inr (.inr (.inr ⟨?_, ?_, ?_, .inl ⟨sums.linked.2 linked, letter⟩⟩))))
        · rcases last with last | last <;> rw [last] <;> rfl
        · rw [other]; rfl
        · simp [other]
    | emoji ends pictograph =>
        have other := breakClass_of_pictograph pictograph
        have last := sums.last_eq (lastClass_of_joined ends)
        refine .inr (.inr (.inr (.inr (.inr ⟨?_, ?_, ?_, .inr ⟨sums.joined.2 ends, pictograph⟩⟩))))
        · rw [last]; rfl
        · rw [other]; rfl
        · simp [other]

end Context.Sums

/-! ## One more character -/

namespace Context

variable {emoji : EmojiProgress} {conjunct : ConjunctProgress}

theorem nextEmoji_eq_pictograph_iff :
    nextEmoji emoji c (breakClass c) = .pictograph ↔
      pictographs.contains c = true ∨ (breakClass c = .extend ∧ emoji = .pictograph) := by
  unfold nextEmoji
  generalize pictographs.contains c = isPictograph, breakClass c = cls
  cases isPictograph <;> cases emoji <;> cases cls <;> simp

theorem nextEmoji_eq_joined_iff :
    nextEmoji emoji c (breakClass c) = .joined ↔ breakClass c = .joiner ∧ emoji = .pictograph := by
  have other : pictographs.contains c = true → breakClass c = .other := breakClass_of_pictograph
  unfold nextEmoji
  generalize pictographs.contains c = isPictograph, breakClass c = cls at other ⊢
  cases isPictograph <;> cases emoji <;> cases cls <;> simp at other ⊢

theorem not_conjunctMark_of_other (other : breakClass c = .other) : ¬IsConjunctMark c := by
  intro mark
  rcases mark.class_eq with cls | cls <;> rw [other] at cls <;> cases cls

theorem conjunctLetter_eq_false (cls : breakClass c ≠ .other) : conjunctLetters.contains c = false :=
  Bool.eq_false_iff.2 fun letter => cls (breakClass_of_conjunctLetter letter)

theorem nextConjunct_ne_outside_iff :
    nextConjunct conjunct c (breakClass c) ≠ .outside ↔
      conjunctLetters.contains c = true ∨ (IsConjunctMark c ∧ conjunct ≠ .outside) := by
  by_cases other : breakClass c = .other
  · simp [nextConjunct, other, not_conjunctMark_of_other other]
  · by_cases outside : conjunct = .outside
    · simp [nextConjunct, other, outside, conjunctLetter_eq_false other]
    · unfold nextConjunct IsConjunctMark
      rw [if_neg other, if_neg outside, conjunctLetter_eq_false other]
      split
      · next linker => simp [linker, outside]
      · next noLinker => split <;> simp_all

theorem nextConjunct_eq_linked_iff :
    nextConjunct conjunct c (breakClass c) = .linked ↔
      (conjunctLinkers.contains c = true ∧ conjunct ≠ .outside) ∨
        (IsConjunctMark c ∧ conjunct = .linked) := by
  by_cases other : breakClass c = .other
  · have noLinker : ¬conjunctLinkers.contains c = true := fun linker =>
      not_conjunctMark_of_other other (.inl linker)
    have noLink : nextConjunct conjunct c (breakClass c) ≠ .linked := by
      unfold nextConjunct
      rw [if_pos other]
      split <;> simp
    simp [noLink, noLinker, not_conjunctMark_of_other other]
  · by_cases outside : conjunct = .outside
    · simp [nextConjunct, other, outside]
    · unfold nextConjunct IsConjunctMark
      rw [if_neg other, if_neg outside]
      split
      · next linker => simp [linker, outside]
      · next noLinker => split <;> simp_all

def next (ctx : Context) (c : Char) : Context :=
  { last := breakClass c
    unpaired := breakClass c = .regional && !ctx.unpaired
    emoji := nextEmoji ctx.emoji c (breakClass c)
    conjunct := nextConjunct ctx.conjunct c (breakClass c) }

def fresh : Context := { last := .other, unpaired := false, emoji := .outside, conjunct := .outside }

theorem start_eq (c : Char) : start c = fresh.next c := by
  simp [start, next, fresh]

theorem extend?_eq :
    ctx.extend? c = if ctx.joins c (breakClass c) then some (ctx.next c) else none := rfl

/-- The context tells of the text what the character behind it may continue. -/
structure Prepares (ctx : Context) (text : List Char) (c : Char) : Prop where
  unpaired : breakClass c = .regional → (ctx.unpaired = true ↔ regionals text % 2 = 1)
  pictograph : (breakClass c).isMark = true → (ctx.emoji = .pictograph ↔ EndsInPictograph text)
  consonant : (breakClass c).isMark = true → (ctx.conjunct ≠ .outside ↔ EndsInConsonant text)
  linked : (breakClass c).isMark = true → (ctx.conjunct = .linked ↔ EndsInLinked text)

theorem Sums.prepares (sums : ctx.Sums text) (c : Char) : ctx.Prepares text c :=
  ⟨fun _ => sums.unpaired, fun _ => sums.pictograph, fun _ => sums.consonant, fun _ => sums.linked⟩

theorem Prepares.next (prepares : ctx.Prepares text c) : (ctx.next c).Sums (text ++ [c]) where
  last := lastClass_append
  unpaired := by
    rw [regionals_append]
    by_cases regional : breakClass c = .regional
    · have pair := prepares.unpaired regional
      simp only [Context.next, regional, decide_true, Bool.true_and, Bool.not_eq_true', if_true,
        ← Bool.not_eq_true, pair]
      omega
    · simp [Context.next, regional]
  pictograph := by
    rw [EndsInPictograph, endsIn_append, Context.next, nextEmoji_eq_pictograph_iff]
    refine or_congr_right (and_congr_right fun extend => ?_)
    exact prepares.pictograph (by rw [extend]; rfl)
  joined := by
    rw [endsInJoined_append, Context.next, nextEmoji_eq_joined_iff]
    refine and_congr_right fun joiner => ?_
    exact prepares.pictograph (by rw [joiner]; rfl)
  consonant := by
    rw [EndsInConsonant, endsIn_append, Context.next, nextConjunct_ne_outside_iff]
    exact or_congr_right (and_congr_right fun mark => prepares.consonant mark.isMark)
  linked := by
    rw [EndsInLinked, endsIn_append, Context.next, nextConjunct_eq_linked_iff]
    refine or_congr (and_congr_right fun linker => ?_) (and_congr_right fun mark => ?_)
    · exact prepares.consonant (IsConjunctMark.isMark (.inl linker))
    · exact prepares.linked mark.isMark

/-- Behind a boundary nothing is continued. -/
theorem prepares_fresh (apart : ¬Joined text c) : fresh.Prepares text c := by
  have noMark {head : List Char → Char → Prop} {mark : Char → Prop}
      (joins : (breakClass c).isMark = true)
      (ofHead : ∀ front p, head front p → (breakClass p).isControl = false)
      (ofMark : ∀ m, mark m → (breakClass m).isControl = false) : ¬EndsIn head mark text := by
    intro ends
    obtain ⟨cls, last, plain⟩ := exists_lastClass (·.isControl = false) ends ofHead ofMark
    exact apart (.mark last plain joins)
  have ofConjunctMark : ∀ m, IsConjunctMark m → (breakClass m).isControl = false := fun m mark => by
    rcases mark.class_eq with cls | cls <;> rw [cls] <;> rfl
  refine ⟨fun regional => ?_, fun mark => ?_, fun mark => ?_, fun mark => ?_⟩
  · have even : ¬regionals text % 2 = 1 := fun odd => apart (.flag odd regional)
    simp [fresh, even]
  · have none : ¬EndsInPictograph text := noMark mark
      (fun _ p pictograph => by rw [breakClass_of_pictograph pictograph]; rfl)
      (fun m extend => by rw [extend]; rfl)
    simp [fresh, none]
  · have none : ¬EndsInConsonant text := noMark mark
      (fun _ p letter => by rw [breakClass_of_conjunctLetter letter]; rfl) ofConjunctMark
    simp [fresh, none]
  · have none : ¬EndsInLinked text := noMark mark
      (fun _ p linked => by rw [breakClass_of_conjunctLinker linked.1]; rfl) ofConjunctMark
    simp [fresh, none]

theorem start_sums (apart : ¬Joined text c) : (start c).Sums (text ++ [c]) := by
  rw [start_eq]
  exact (prepares_fresh apart).next

end Context

theorem Context.Sums.of_extend? (sums : ctx.Sums text) {longer : Context}
    (extended : ctx.extend? c = some longer) : Joined text c ∧ longer.Sums (text ++ [c]) := by
  rw [Context.extend?_eq] at extended
  split at extended
  · next joins =>
      obtain rfl := Option.some.inj extended
      exact ⟨sums.joins_iff_joined.1 joins, (sums.prepares c).next⟩
  · cases extended

theorem Context.Sums.not_joined (sums : ctx.Sums text) (ended : ctx.extend? c = none) :
    ¬Joined text c := by
  rw [Context.extend?_eq] at ended
  split at ended
  · cases ended
  · next apart => exact fun joined => apart (sums.joins_iff_joined.2 joined)

/-! ## Segmentation -/

/-- The pieces, behind a text, each begin with a character that no rule joins to what stands before
it and go on with characters that are joined. -/
inductive Segments : List Char → List (List Char) → Prop where
  | nil (before : List Char) : Segments before []
  | cons {before : List Char} {c : Char} {inner : List Char} {pieces : List (List Char)}
      (begins : ¬Joined before c)
      (joined : ∀ a d b, inner = a ++ d :: b → Joined (before ++ c :: a) d)
      (later : Segments (before ++ c :: inner) pieces) : Segments before ((c :: inner) :: pieces)

def IsClusters (text : List Char) (pieces : List (List Char)) : Prop :=
  Segments [] pieces ∧ pieces.flatten = text

theorem Segments.take {pieces : List (List Char)} (segments : Segments before pieces) (n : Nat) :
    Segments before (pieces.take n) := by
  induction segments generalizing n with
  | nil before =>
      rw [List.take_nil]
      exact .nil before
  | cons begins joined later ih =>
      cases n with
      | zero => exact .nil _
      | succ n => exact .cons begins joined (ih n)

theorem Segments.begins {pieces : List (List Char)} {rest : List Char}
    (segments : Segments before pieces) (parts : pieces.flatten = c :: rest) : ¬Joined before c := by
  cases segments with
  | nil => cases parts
  | cons begins joined later =>
      obtain ⟨rfl, -⟩ := List.cons.inj parts
      exact begins

/-- There is one way to cut a text into such pieces: where two ways first differ, the shorter piece
is followed by a character that the longer one says is joined. -/
theorem Segments.unique {first second : List (List Char)} (one : Segments before first)
    (two : Segments before second) (same : first.flatten = second.flatten) : first = second := by
  induction one generalizing second with
  | nil before =>
      cases two with
      | nil => rfl
      | cons begins joined later => simp at same
  | @cons before c inner pieces begins joined later ih =>
      cases two with
      | nil => simp at same
      | @cons _ d other others begins' joined' later' =>
          simp only [List.flatten_cons, List.cons_append, List.cons.injEq] at same
          obtain ⟨rfl, same⟩ := same
          rcases List.append_eq_append_iff.1 same with ⟨_ | ⟨d, more⟩, parts, rest⟩ |
            ⟨_ | ⟨d, more⟩, parts, rest⟩
          · obtain rfl : other = inner := by simpa using parts
            rw [ih later' rest]
          · exact absurd (joined' inner d more parts) (later.begins rest)
          · obtain rfl : inner = other := by simpa using parts
            rw [ih later' rest.symm]
          · exact absurd (joined other d more parts) (later'.begins rest)

theorem segments_clustersFrom (sums : ctx.Sums (before ++ c :: inner)) (begins : ¬Joined before c)
    (joined : ∀ a d b, inner = a ++ d :: b → Joined (before ++ c :: a) d) (text : List Char) :
    Segments before (clustersFrom ctx (c :: inner).reverse text) := by
  induction text generalizing ctx before c inner with
  | nil =>
      rw [clustersFrom, List.reverse_reverse]
      exact .cons begins joined (.nil _)
  | cons d text ih =>
      rw [clustersFrom]
      split
      · next longer extended =>
          obtain ⟨joins, sums⟩ := sums.of_extend? extended
          rw [← List.reverse_concat, List.cons_append]
          rw [List.append_assoc, List.cons_append] at sums
          refine ih sums begins fun a e b parts => ?_
          rcases List.eq_nil_or_concat b with rfl | ⟨b, last, rfl⟩
          · obtain ⟨rfl, same⟩ := List.append_inj' parts rfl
            obtain rfl := List.singleton_inj.1 same
            exact joins
          · rw [List.concat_eq_append, ← List.cons_append, ← List.append_assoc] at parts
            exact joined a e b (List.append_inj' parts rfl).1
      · next ended =>
          rw [List.reverse_reverse]
          have apart := sums.not_joined ended
          have alone : ∀ a e b, [] = a ++ e :: b → Joined (before ++ c :: inner ++ d :: a) e := by simp
          exact .cons begins joined (ih (Context.start_sums apart) apart alone)

theorem flatten_clustersFrom (ctx : Context) (current text : List Char) :
    (clustersFrom ctx current text).flatten = current.reverse ++ text := by
  induction text generalizing ctx current with
  | nil => simp [clustersFrom]
  | cons c rest ih =>
      rw [clustersFrom]
      split
      · rw [ih, List.reverse_cons, List.append_assoc, List.singleton_append]
      · rw [List.flatten_cons, ih, List.reverse_singleton, List.singleton_append]

@[simp] theorem flatten_clusters (text : List Char) : (clusters text).flatten = text := by
  cases text with
  | nil => rfl
  | cons c rest => exact flatten_clustersFrom (Context.start c) [c] rest

/-- The walk finds the clusters of a text, and there are no others. -/
theorem isClusters_iff {pieces : List (List Char)} :
    IsClusters text pieces ↔ clusters text = pieces := by
  have found : IsClusters text (clusters text) := by
    refine ⟨?_, flatten_clusters text⟩
    cases text with
    | nil => exact .nil []
    | cons c rest =>
        have apart : ¬Joined [] c := not_joined_nil
        have alone : ∀ a d b, [] = a ++ d :: b → Joined ([] ++ c :: a) d := by simp
        exact segments_clustersFrom (Context.start_sums apart) apart alone rest
  constructor
  · rintro ⟨segments, whole⟩
    exact found.1.unique segments (found.2.trans whole.symm)
  · rintro rfl
    exact found

/-- Cut behind a cluster, a text has the clusters up to there. -/
theorem clusters_take (text : List Char) (n : Nat) :
    clusters ((clusters text).take n).flatten = (clusters text).take n :=
  isClusters_iff.1 ⟨(isClusters_iff.2 rfl).1.take n, rfl⟩

end Flowgraph.Grapheme
