import Flowgraph.Proofs.Text.Decimal
import Flowgraph.Settings.Override
import Mathlib.Data.List.Perm.Basic

/-!
# Overrides

What a list of overrides does to settings, field by field: the last one that names a field decides
what it holds, and the first bad one ends the list. One override changes at most the field that it
names; the rest is an induction on the list.
-/

namespace Flowgraph.Settings

open Numeral (Denotes)

inductive Field where
  | width
  | medium
  | high
  | patterns
  | rankDir
  | splines
  | fontName
deriving DecidableEq

inductive Content where
  | number (n : Nat)
  | patterns (patterns : List String)
  | word (word : String)

namespace Field

def name : Field → String
  | width => "snippet_width"
  | medium => "complexity.medium"
  | high => "complexity.high"
  | patterns => "io_patterns"
  | rankDir => "layout.rank_dir"
  | splines => "layout.splines"
  | fontName => "layout.font_name"

def content (s : Settings) : Field → Content
  | width => .number s.snippetWidth
  | medium => .number s.thresholds.medium
  | high => .number s.thresholds.high
  | patterns => .patterns s.ioPatterns
  | rankDir => .word s.layout.rankDir
  | splines => .word s.layout.splines
  | fontName => .word s.layout.fontName

/-- The greatest number in the range of a field that holds a number. -/
def bound? : Field → Option Nat
  | width => some Numeral.max64
  | medium | high => some Numeral.max32
  | _ => none

inductive Takes : Field → String → Content → Prop where
  | number {f bound value n} (bounded : bound? f = some bound) (numeral : Denotes value.toList n)
      (within : n ≤ bound) : Takes f value (.number n)
  | patterns {value first pieces} (apart : ∀ piece ∈ first :: pieces, ',' ∉ piece)
      (whole : value.toList = [','].intercalate (first :: pieces)) :
      Takes .patterns value
        (.patterns ((((first :: pieces).map Text.trim).filter (!·.isEmpty)).map String.ofList))
  | rankDir {value} : Takes .rankDir value (.word value)
  | splines {value} : Takes .splines value (.word value)
  | fontName {value} : Takes .fontName value (.word value)

/-- The field holds a number, and the value is no numeral in its range. -/
def Refuses (f : Field) (value : String) : Prop :=
  ∃ bound, f.bound? = some bound ∧ ¬∃ n, Denotes value.toList n ∧ n ≤ bound

end Field

/-- The override sets the key to the value: the texts in front of the first equals sign and behind
it, without the blanks around them. -/
inductive Assigns (text : String) : String → String → Prop where
  | pair {key value} (whole : text.toList = key ++ '=' :: value) (first : '=' ∉ key) :
      Assigns text (String.ofList (Text.trim key)) (String.ofList (Text.trim value))
  | bare (noSign : '=' ∉ text.toList) : Assigns text (String.ofList (Text.trim text.toList)) ""

def Field.Named (f : Field) (text : String) : Prop := ∃ value, Assigns text f.name value

def Bad (text : String) : Prop :=
  ∃ (f : Field) (value : String), Assigns text f.name value ∧ f.Refuses value

/-- What becomes of settings by a list of overrides: each field holds the value of the last override
that names it, or what it held before. -/
structure LastWins (s : Settings) (texts : List String) (result : Settings) : Prop where
  last : ∀ (f : Field) before text value after, texts = before ++ text :: after →
    Assigns text f.name value → (∀ other ∈ after, ¬f.Named other) → f.Takes value (f.content result)
  kept : ∀ f : Field, (∀ text ∈ texts, ¬f.Named text) → f.content result = f.content s

variable {s result : Settings} {text key value : String} {texts others : List String} {f : Field}

/-! ## Keys and values -/

theorem splitOverride_eq_iff : splitOverride text = (key, value) ↔ Assigns text key value := by
  constructor
  · intro split
    rcases cut : Text.splitOnce '=' text.toList with _ | ⟨front, back⟩
    · rw [splitOverride, cut] at split
      cases split
      exact .bare (Text.splitOnce_eq_none_iff.1 cut)
    · rw [splitOverride, cut] at split
      cases split
      obtain ⟨whole, first⟩ := Text.splitOnce_eq_some_iff.1 cut
      exact .pair whole first
  · rintro (⟨whole, first⟩ | noSign)
    · rw [splitOverride, Text.splitOnce_eq_some_iff.2 ⟨whole, first⟩]
      rfl
    · rw [splitOverride, Text.splitOnce_eq_none_iff.2 noSign]
      rfl

theorem Assigns.eq {key' value' : String} (assigns : Assigns text key value)
    (also : Assigns text key' value') : key = key' ∧ value = value' :=
  Prod.mk.inj ((splitOverride_eq_iff.2 assigns).symm.trans (splitOverride_eq_iff.2 also))

theorem Field.name_injective : Function.Injective Field.name := by
  intro f g same
  cases f <;> cases g <;> first | rfl | exact absurd same (by decide)

/-- Settings are what their fields hold. -/
theorem eq_of_content {s t : Settings} (same : ∀ f : Field, f.content s = f.content t) : s = t := by
  obtain ⟨width, patterns, ⟨medium, high⟩, ⟨rankDir, splines, fontName⟩⟩ := s
  obtain ⟨width', patterns', ⟨medium', high'⟩, ⟨rankDir', splines', fontName'⟩⟩ := t
  obtain rfl := Content.number.inj (same .width)
  obtain rfl := Content.patterns.inj (same .patterns)
  obtain rfl := Content.number.inj (same .medium)
  obtain rfl := Content.number.inj (same .high)
  obtain rfl := Content.word.inj (same .rankDir)
  obtain rfl := Content.word.inj (same .splines)
  obtain rfl := Content.word.inj (same .fontName)
  rfl

theorem Field.Takes.unique {content other : Content} (takes : f.Takes value content)
    (also : f.Takes value other) : content = other := by
  cases takes with
  | number bounded numeral within =>
      cases also with
      | number bounded' numeral' within' =>
          rw [numeral.unique numeral']
      | _ => cases bounded
  | patterns apart whole =>
      cases also with
      | number bounded => cases bounded
      | patterns apart' whole' =>
          have pieces := Text.fields_eq_cons_iff.2 ⟨apart, whole⟩
          rw [Text.fields_eq_cons_iff.2 ⟨apart', whole'⟩] at pieces
          rw [pieces]
  | rankDir | splines | fontName =>
      cases also with
      | number bounded => cases bounded
      | _ => rfl

theorem Field.Takes.not_refuses {content : Content} (takes : f.Takes value content) :
    ¬f.Refuses value := by
  rintro ⟨bound, bounded, none⟩
  cases takes with
  | number bounded' numeral within =>
      rw [bounded] at bounded'
      cases bounded'
      exact none ⟨_, numeral, within⟩
  | _ => cases bounded

theorem overrideNumber_cases (bound : Nat) (key value : String) :
    (∃ n, overrideNumber bound key value = .ok n ∧ Denotes value.toList n ∧ n ≤ bound) ∨
      ∃ cause, overrideNumber bound key value = .error ⟨key, value, cause⟩ ∧
        ¬∃ n, Denotes value.toList n ∧ n ≤ bound := by
  cases read : Numeral.read bound value.toList with
  | ok n =>
      refine .inl ⟨n, ?_, Numeral.read_eq_ok_iff.1 read⟩
      rw [overrideNumber, read]
  | error cause =>
      refine .inr ⟨cause, ?_, fun ⟨n, numeral⟩ => ?_⟩
      · rw [overrideNumber, read]
      · rw [Numeral.read_eq_ok_iff.2 numeral] at read
        cases read

/-! ## One override -/

/-- The override of one field: it takes the value and no other field is changed, or it refuses
it. -/
def Overrides (s : Settings) (f : Field) (value : String) (outcome : Except OverrideFault Settings) :
    Prop :=
  (∃ result, outcome = .ok result ∧ f.Takes value (f.content result) ∧
      ∀ g ≠ f, g.content result = g.content s) ∨
    ∃ cause, outcome = .error ⟨f.name, value, cause⟩ ∧ f.Refuses value

theorem overrides_number {bound : Nat} {update : Nat → Settings} (bounded : f.bound? = some bound)
    (set : ∀ n, f.content (update n) = .number n)
    (frame : ∀ n, ∀ g ≠ f, g.content (update n) = g.content s) :
    Overrides s f value ((overrideNumber bound f.name value).map update) := by
  rcases overrideNumber_cases bound f.name value with ⟨n, read, numeral, within⟩ | ⟨cause, read, none⟩
  · rw [read]
    refine .inl ⟨update n, rfl, ?_, frame n⟩
    rw [set n]
    exact .number bounded numeral within
  · rw [read]
    exact .inr ⟨cause, rfl, bound, bounded, none⟩

theorem takes_splitPatterns (value : String) :
    Field.Takes .patterns value (.patterns (splitPatterns value)) := by
  obtain ⟨first, pieces, found⟩ := List.exists_cons_of_ne_nil (Text.fields_ne_nil ',' value.toList)
  obtain ⟨apart, whole⟩ := Text.fields_eq_cons_iff.1 found
  rw [splitPatterns, found]
  exact .patterns apart whole

theorem overrides_setKey (s : Settings) (f : Field) (value : String) :
    Overrides s f value (s.setKey f.name value) := by
  cases f with
  | width | medium | high =>
      refine overrides_number rfl (fun n => rfl) fun n g other => ?_
      cases g <;> first | rfl | exact absurd rfl other
  | patterns =>
      refine .inl ⟨_, rfl, takes_splitPatterns value, fun g other => ?_⟩
      cases g <;> first | rfl | exact absurd rfl other
  | rankDir | splines | fontName =>
      refine .inl ⟨_, rfl, by constructor, fun g other => ?_⟩
      cases g <;> first | rfl | exact absurd rfl other

theorem setKey_of_unknown (unknown : ∀ f : Field, key ≠ f.name) : s.setKey key value = .ok s := by
  unfold setKey
  split
  · exact absurd rfl (unknown .width)
  · exact absurd rfl (unknown .medium)
  · exact absurd rfl (unknown .high)
  · exact absurd rfl (unknown .patterns)
  · exact absurd rfl (unknown .rankDir)
  · exact absurd rfl (unknown .splines)
  · exact absurd rfl (unknown .fontName)
  · rfl

theorem override_eq (s : Settings) (assigns : Assigns text key value) :
    s.override text = s.setKey key value := by
  rw [override, splitOverride_eq_iff.2 assigns]

theorem override_of_unknown (unknown : ∀ f : Field, ¬f.Named text) : s.override text = .ok s := by
  obtain ⟨key, value, assigns⟩ : ∃ key value, Assigns text key value :=
    ⟨_, _, splitOverride_eq_iff.1 rfl⟩
  rw [override_eq s assigns]
  refine setKey_of_unknown fun f same => ?_
  subst same
  exact unknown f ⟨value, assigns⟩

/-- An override that is not bad is applied. What it names holds its value, and all else is kept. -/
theorem exists_override_eq_ok (s : Settings) (good : ¬Bad text) :
    ∃ result, s.override text = .ok result ∧
      (∀ (f : Field) value, Assigns text f.name value → f.Takes value (f.content result)) ∧
      ∀ f : Field, ¬f.Named text → f.content result = f.content s := by
  by_cases named : ∃ f : Field, f.Named text
  · obtain ⟨f, value, assigns⟩ := named
    rcases overrides_setKey s f value with ⟨result, applied, takes, frame⟩ | ⟨cause, -, refuses⟩
    · refine ⟨result, (override_eq s assigns).trans applied, fun g other also => ?_, fun g unnamed => ?_⟩
      · obtain ⟨same, rfl⟩ := assigns.eq also
        obtain rfl := Field.name_injective same
        exact takes
      · refine frame g fun same => unnamed ?_
        rw [same]
        exact ⟨value, assigns⟩
    · exact absurd ⟨f, value, assigns, refuses⟩ good
  · have unnamed : ∀ f : Field, ¬f.Named text := fun f names => named ⟨f, names⟩
    exact ⟨s, override_of_unknown unnamed, fun f value assigns => absurd ⟨value, assigns⟩ (unnamed f),
      fun f _ => rfl⟩

/-- A bad override is refused, and the fault names its key and its value. -/
theorem exists_override_eq_error (s : Settings) (bad : Bad text) :
    ∃ fault, s.override text = .error fault ∧ Assigns text fault.key fault.value := by
  obtain ⟨f, value, assigns, refuses⟩ := bad
  rcases overrides_setKey s f value with ⟨result, -, takes, -⟩ | ⟨cause, refused, -⟩
  · exact absurd refuses takes.not_refuses
  · exact ⟨_, (override_eq s assigns).trans refused, assigns⟩

/-! ## A list of overrides -/

theorem overrideAll_append (s : Settings) (texts others : List String) :
    s.overrideAll (texts ++ others) =
      match s.overrideAll texts with
      | (result, none) => result.overrideAll others
      | (result, some fault) => (result, some fault) := by
  induction texts generalizing s with
  | nil => rfl
  | cons text texts ih =>
      rw [List.cons_append, overrideAll, overrideAll]
      cases s.override text with
      | ok next => exact ih next
      | error fault => rfl

theorem exists_lastWins (s : Settings) (good : ∀ text ∈ texts, ¬Bad text) :
    ∃ result, s.overrideAll texts = (result, none) ∧ LastWins s texts result := by
  induction texts generalizing s with
  | nil =>
      refine ⟨s, rfl, fun f before text value after parts => ?_, fun f _ => rfl⟩
      exact absurd parts (by simp)
  | cons text texts ih =>
      obtain ⟨next, applied, takes, frame⟩ := exists_override_eq_ok s (good text List.mem_cons_self)
      obtain ⟨result, run, last, kept⟩ := ih next fun other member =>
        good other (List.mem_cons_of_mem _ member)
      refine ⟨result, ?_, fun f before named value after parts assigns behind => ?_, fun f unnamed => ?_⟩
      · rw [overrideAll, applied]
        exact run
      · rcases List.cons_eq_append_iff.1 parts with ⟨rfl, same⟩ | ⟨before, rfl, rest⟩
        · obtain ⟨rfl, rfl⟩ := List.cons.inj same
          rw [kept f behind]
          exact takes f value assigns
        · exact last f before named value after rest assigns behind
      · rw [kept f fun other member => unnamed other (List.mem_cons_of_mem _ member)]
        exact frame f (unnamed text List.mem_cons_self)

/-- The first bad override ends the list. -/
theorem overrideAll_of_bad (s : Settings) {before after : List String}
    (good : ∀ other ∈ before, ¬Bad other) (bad : Bad text) :
    ∃ result fault, s.overrideAll before = (result, none) ∧
      s.overrideAll (before ++ text :: after) = (result, some fault) ∧
      Assigns text fault.key fault.value := by
  obtain ⟨result, run, -⟩ := exists_lastWins s good
  obtain ⟨fault, refused, assigns⟩ := exists_override_eq_error result bad
  refine ⟨result, fault, run, ?_, assigns⟩
  simp only [overrideAll_append, run, overrideAll, refused]

theorem overrideAll_snd_eq_none_iff (s : Settings) :
    (s.overrideAll texts).2 = none ↔ ∀ text ∈ texts, ¬Bad text := by
  constructor
  · intro succeeds
    induction texts generalizing s with
    | nil => simp
    | cons first texts ih =>
        rw [overrideAll] at succeeds
        split at succeeds
        · next next applied =>
            have good : ¬Bad first := by
              intro bad
              obtain ⟨fault, refused, -⟩ := exists_override_eq_error s bad
              rw [refused] at applied
              cases applied
            exact List.forall_mem_cons.2 ⟨good, ih next succeeds⟩
        · cases succeeds
  · intro good
    obtain ⟨result, run, -⟩ := exists_lastWins s good
    rw [run]

/-! ## Reordering -/

def Apart (texts : List String) : Prop :=
  texts.Pairwise fun text other => ∀ f : Field, ¬(f.Named text ∧ f.Named other)

theorem LastWins.takes (wins : LastWins s texts result) (apart : Apart texts) (member : text ∈ texts)
    (assigns : Assigns text f.name value) : f.Takes value (f.content result) := by
  obtain ⟨before, after, parts⟩ := List.append_of_mem member
  refine wins.last f before text value after parts assigns fun other behind named => ?_
  have ordered : (text :: after).Pairwise _ := (List.pairwise_append.1 (parts ▸ apart)).2.1
  exact List.rel_of_pairwise_cons ordered behind f ⟨⟨value, assigns⟩, named⟩

theorem Apart.perm (apart : Apart texts) (same : texts.Perm others) : Apart others :=
  same.pairwise apart fun separate f both => separate f both.symm

theorem overrideAll_perm (s : Settings) (good : ∀ text ∈ texts, ¬Bad text) (apart : Apart texts)
    (same : texts.Perm others) : s.overrideAll others = s.overrideAll texts := by
  obtain ⟨result, run, wins⟩ := exists_lastWins s good
  obtain ⟨result', run', wins'⟩ :=
    exists_lastWins s fun text member => good text (same.mem_iff.2 member)
  rw [run, run']
  congr 1
  refine eq_of_content fun f => ?_
  by_cases named : ∃ text ∈ texts, f.Named text
  · obtain ⟨text, member, value, assigns⟩ := named
    have takes := wins.takes apart member assigns
    have takes' := wins'.takes (apart.perm same) (same.mem_iff.1 member) assigns
    exact takes'.unique takes
  · have unnamed : ∀ text ∈ texts, ¬f.Named text := fun text member names => named ⟨text, member, names⟩
    rw [wins.kept f unnamed, wins'.kept f fun text member => unnamed text (same.mem_iff.2 member)]

/-- Overrides are read at their first equals sign, and those that no field has the key of change
nothing. Without a bad one all are applied, and each field holds the value of the last one that
names it, or what it held before. The first bad one ends the list: the settings are those that the
ones before it lead to, and the fault names its key and its value. So a list is applied piece by
piece, and the order of overrides among which no field is named twice does not matter. -/
theorem overrideAll_exact :
    (∀ text key value, splitOverride text = (key, value) ↔ Assigns text key value) ∧
    (∀ (s : Settings) text, (∀ f : Field, ¬f.Named text) → s.override text = .ok s) ∧
    (∀ (s : Settings) texts, (∀ text ∈ texts, ¬Bad text) →
      ∃ result, s.overrideAll texts = (result, none) ∧ LastWins s texts result) ∧
    (∀ (s : Settings) before text after, (∀ other ∈ before, ¬Bad other) → Bad text →
      ∃ result fault, s.overrideAll before = (result, none) ∧
        s.overrideAll (before ++ text :: after) = (result, some fault) ∧
        Assigns text fault.key fault.value) ∧
    (∀ (s : Settings) texts, (s.overrideAll texts).2 = none ↔ ∀ text ∈ texts, ¬Bad text) ∧
    (∀ (s : Settings) texts others, s.overrideAll (texts ++ others) =
      match s.overrideAll texts with
      | (result, none) => result.overrideAll others
      | (result, some fault) => (result, some fault)) ∧
    ∀ (s : Settings) before texts others after, texts.Perm others → Apart texts →
      (∀ text ∈ texts, ¬Bad text) →
      s.overrideAll (before ++ texts ++ after) = s.overrideAll (before ++ others ++ after) := by
  refine ⟨fun text key value => splitOverride_eq_iff, fun s text unnamed => override_of_unknown unnamed,
    fun s texts good => exists_lastWins s good,
    fun s before text after good bad => overrideAll_of_bad s good bad,
    fun s texts => overrideAll_snd_eq_none_iff s, overrideAll_append,
    fun s before texts others after same apart good => ?_⟩
  have reordered (s : Settings) : s.overrideAll (before ++ texts) = s.overrideAll (before ++ others) := by
    rw [overrideAll_append, overrideAll_append]
    rcases s.overrideAll before with ⟨next, _ | fault⟩
    · exact (overrideAll_perm next good apart same).symm
    · rfl
  rw [overrideAll_append, reordered, ← overrideAll_append]

end Flowgraph.Settings
