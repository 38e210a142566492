import Flowgraph.Proofs.Json.Printing
import Flowgraph.Proofs.Json.Record
import Flowgraph.Proofs.Settings.Override
import Flowgraph.Settings.Decode

/-!
# Settings from JSON

Settings are written as a record with two records in it. Each of the three may leave out any of its
fields, and what is left out has its standard value. A field is looked for in the record that it is
part of (`Field.GivenBy`), and `ReadsAs` says field by field what becomes of the settings. The
decoders are each described by the fields that their value has, so they cannot tell apart values
that have the same ones.
-/

namespace Flowgraph.Settings

open Json (Record IsRecord FieldOf Alike)

/-- The records that settings are written in: the settings and the two records in them. -/
inductive Part where
  | whole
  | complexity
  | layout

namespace Part

def names : Part → List String
  | whole => ["snippet_width", "io_patterns", "complexity", "layout"]
  | complexity => ["medium", "high"]
  | layout => ["rank_dir", "splines", "font_name"]

theorem nodup_names (part : Part) : part.names.Nodup := by
  cases part <;> decide

end Part

/-- Where the value of settings has the value of a part of them. -/
inductive PartOf (value : Json) : Part → Json → Prop where
  | whole : PartOf value .whole value
  | complexity {v} (field : FieldOf Part.whole.names "complexity" value v) : PartOf value .complexity v
  | layout {v} (field : FieldOf Part.whole.names "layout" value v) : PartOf value .layout v

namespace Field

def home : Field → Part
  | width | patterns => .whole
  | medium | high => .complexity
  | rankDir | splines | fontName => .layout

def key : Field → String
  | width => "snippet_width"
  | patterns => "io_patterns"
  | medium => "medium"
  | high => "high"
  | rankDir => "rank_dir"
  | splines => "splines"
  | fontName => "font_name"

def GivenBy (f : Field) (value v : Json) : Prop :=
  ∃ record, PartOf value f.home record ∧ FieldOf f.home.names f.key record v

/-- The value is of the type and in the range of the field, and stands for this content of it. -/
inductive Spells : Field → Json → Content → Prop where
  | number {f bound n} (bounded : bound? f = some bound) (within : n ≤ bound) :
      Spells f (.nat n) (.number n)
  | patterns (texts : List String) : Spells .patterns (.array (texts.map .text)) (.patterns texts)
  | word {f} (inLayout : home f = .layout) (word : String) : Spells f (.text word) (.word word)

end Field

/-- The value is a record, and so are the parts that it gives; what it gives of the fields is of the
right type and in range. -/
structure WellTyped (value : Json) : Prop where
  records : ∀ part v, PartOf value part v → IsRecord part.names v
  typed : ∀ (f : Field) v, f.GivenBy value v → ∃ content, f.Spells v content

/-- The standard settings, but for the fields that the value gives. -/
structure ReadsAs (value : Json) (s : Settings) : Prop where
  given : ∀ (f : Field) v, f.GivenBy value v → f.Spells v (f.content s)
  standard : ∀ f : Field, (¬∃ v, f.GivenBy value v) → f.content s = f.content Settings.standard

/-- Two ways to give the same part of settings: members in another order, with others that have no
meaning, as an array of the first fields, or with a part in them that is given in two ways. -/
inductive Respelled : Part → Json → Json → Prop where
  | order {part members others} (same : List.Perm members others) :
      Respelled part (.object members) (.object others)
  | unknown {part before name v after} (unknown : name ∉ part.names) :
      Respelled part (.object (before ++ (name, v) :: after)) (.object (before ++ after))
  | array {part items} (short : items.length ≤ part.names.length) :
      Respelled part (.array items) (.object (part.names.zip items))
  | complexity {before v w after} (inside : Respelled .complexity v w) :
      Respelled .whole (.object (before ++ ("complexity", v) :: after))
        (.object (before ++ ("complexity", w) :: after))
  | layout {before v w after} (inside : Respelled .layout v w) :
      Respelled .whole (.object (before ++ ("layout", v) :: after))
        (.object (before ++ ("layout", w) :: after))

structure Fits (s : Settings) : Prop where
  width : s.snippetWidth ≤ Numeral.max64
  medium : s.thresholds.medium ≤ Numeral.max32
  high : s.thresholds.high ≤ Numeral.max32

/-- A field of a part is what its value stands for, or the standard if no value is given. -/
structure Fills {α : Type} (part : Part) (name : String) (value : Json) (R : Json → α → Prop)
    (standard a : α) : Prop where
  given : ∀ v, FieldOf part.names name value v → R v a
  standard : (¬∃ v, FieldOf part.names name value v) → a = standard

section
variable {α : Type} {part : Part} {name : String} {value v w : Json} {s : Settings} {f : Field}

/-! ## Fields of one record -/

theorem filled_eq_some_iff {fields : List (Option Json)} {decode : Json → Option α} {standard a : α}
    {field : Option Json} (record : Record part.names value fields)
    (listed : (name, field) ∈ part.names.zip fields) :
    filled decode standard field = some a ↔
      Fills part name value (fun v a => decode v = some a) standard a := by
  have same (v : Json) := record.fieldOf_iff (v := v) part.nodup_names listed
  cases field with
  | none =>
      have missing : ¬∃ v, FieldOf part.names name value v := fun ⟨v, given⟩ => by
        cases (same v).1 given
      constructor
      · rintro ⟨⟩
        exact ⟨fun v given => absurd ⟨v, given⟩ missing, fun _ => rfl⟩
      · exact fun fills => congrArg some (fills.standard missing).symm
  | some v =>
      have given : FieldOf part.names name value v := (same v).2 rfl
      constructor
      · intro read
        refine ⟨fun w also => ?_, fun missing => absurd ⟨v, given⟩ missing⟩
        obtain rfl := Option.some.inj ((same w).1 also)
        exact read
      · exact fun fills => fills.given v given

theorem Fills.of_given {R : Json → α → Prop} {standard a : α} (record : IsRecord part.names value)
    (field : FieldOf part.names name value v) (related : R v a) :
    Fills part name value R standard a := by
  refine ⟨fun w also => ?_, fun missing => absurd ⟨v, field⟩ missing⟩
  obtain rfl := record.field_unique part.nodup_names field also
  exact related

theorem exists_fills_iff {R : Json → α → Prop} {standard : α} (record : IsRecord part.names value) :
    (∃ a, Fills part name value R standard a) ↔
      ∀ v, FieldOf part.names name value v → ∃ a, R v a := by
  constructor
  · exact fun ⟨a, fills⟩ v given => ⟨a, fills.given v given⟩
  · intro typed
    by_cases given : ∃ v, FieldOf part.names name value v
    · obtain ⟨v, given⟩ := given
      obtain ⟨a, related⟩ := typed v given
      exact ⟨a, .of_given record given related⟩
    · exact ⟨standard, fun v also => absurd ⟨v, also⟩ given, fun _ => rfl⟩

theorem Fills.of_alike {R : Json → α → Prop} {standard a : α}
    (fills : Fills part name value R standard a) (alike : Alike part.names value w) :
    Fills part name w R standard a := by
  refine ⟨fun v given => ?_, fun missing => ?_⟩
  · exact fills.given v ((alike.fields name v).2 given)
  · exact fills.standard fun ⟨v, given⟩ => missing ⟨v, (alike.fields name v).1 given⟩

theorem fills_congr {R : Json → α → Prop} {standard a : α} (alike : Alike part.names value w) :
    Fills part name value R standard a ↔ Fills part name w R standard a :=
  ⟨fun fills => fills.of_alike alike, fun fills => fills.of_alike alike.symm⟩

/-! ## The decoders -/

structure Decodes (f : Field) (decode : Json → Option α) (content : α → Content) : Prop where
  injective : Function.Injective content
  spells_iff : ∀ v c, f.Spells v c ↔ ∃ a, decode v = some a ∧ content a = c

theorem Field.home_ne_layout {bound : Nat} (bounded : f.bound? = some bound) : f.home ≠ .layout := by
  rintro inLayout
  cases f <;> first | cases bounded; done | cases inLayout

theorem decodes_number {bound : Nat} (bounded : f.bound? = some bound) :
    Decodes f (Json.nat? bound) .number := by
  refine ⟨fun m n same => Content.number.inj same, fun v c => ⟨fun spells => ?_, ?_⟩⟩
  · cases spells with
    | @number f bound' n bounded' within =>
        obtain rfl := Option.some.inj (bounded.symm.trans bounded')
        exact ⟨n, Json.nat?_eq_some_iff.2 ⟨rfl, within⟩, rfl⟩
    | patterns texts => cases bounded
    | word inLayout word => exact absurd inLayout (Field.home_ne_layout bounded)
  · rintro ⟨n, read, rfl⟩
    obtain ⟨rfl, within⟩ := Json.nat?_eq_some_iff.1 read
    exact .number bounded within

theorem textsOf?_eq_some_iff {texts : List String} :
    textsOf? Json.reading value = some texts ↔ value = .array (texts.map .text) := by
  constructor
  · intro read
    obtain ⟨items, isArray, read⟩ := Option.bind_eq_some_iff.1 read
    obtain rfl := Json.array?_eq_some_iff.1 isArray
    have each := (Json.mapM_eq_some_iff.1 read).imp fun _ _ => Json.text?_eq_some_iff.1
    rw [← List.forall₂_map_right_iff, List.forall₂_eq_eq_eq] at each
    exact congrArg Json.array each
  · rintro rfl
    refine Option.bind_eq_some_iff.2 ⟨_, Json.array?_eq_some_iff.2 rfl, Json.mapM_eq_some_iff.2 ?_⟩
    rw [List.forall₂_map_left_iff, List.forall₂_same]
    exact fun text _ => Json.text?_eq_some_iff.2 rfl

theorem decodes_patterns : Decodes .patterns (textsOf? Json.reading) .patterns := by
  refine ⟨fun m n same => Content.patterns.inj same, fun v c => ⟨fun spells => ?_, ?_⟩⟩
  · cases spells with
    | number bounded within => cases bounded
    | patterns texts => exact ⟨texts, textsOf?_eq_some_iff.2 rfl, rfl⟩
    | word inLayout word => cases inLayout
  · rintro ⟨texts, read, rfl⟩
    obtain rfl := textsOf?_eq_some_iff.1 read
    exact .patterns texts

theorem decodes_word (inLayout : f.home = .layout) : Decodes f Json.text? .word := by
  refine ⟨fun m n same => Content.word.inj same, fun v c => ⟨fun spells => ?_, ?_⟩⟩
  · cases spells with
    | number bounded within => exact absurd inLayout (Field.home_ne_layout bounded)
    | patterns texts => cases inLayout
    | word inLayout word => exact ⟨word, Json.text?_eq_some_iff.2 rfl, rfl⟩
  · rintro ⟨word, read, rfl⟩
    obtain rfl := Json.text?_eq_some_iff.1 read
    exact .word inLayout word

/-- What the decoder makes of the field is what the field then holds. -/
theorem Decodes.fills_iff {decode : Json → Option α} {content : α → Content} {standard a : α}
    (decodes : Decodes f decode content) :
    Fills part name value (fun v a => decode v = some a) standard a ↔
      Fills part name value f.Spells (content standard) (content a) := by
  have read (v : Json) : decode v = some a ↔ f.Spells v (content a) := by
    simp only [decodes.spells_iff, decodes.injective.eq_iff, exists_eq_right]
  constructor
  · exact fun fills => ⟨fun v given => (read v).1 (fills.given v given),
      fun missing => congrArg content (fills.standard missing)⟩
  · exact fun fills => ⟨fun v given => (read v).2 (fills.given v given),
      fun missing => decodes.injective (fills.standard missing)⟩

theorem Decodes.exists_iff {decode : Json → Option α} {content : α → Content}
    (decodes : Decodes f decode content) : (∃ a, decode v = some a) ↔ ∃ c, f.Spells v c := by
  simp only [decodes.spells_iff]
  exact ⟨fun ⟨a, read⟩ => ⟨content a, a, read, rfl⟩, fun ⟨c, a, read, _⟩ => ⟨a, read⟩⟩

theorem thresholdsOf?_eq_some_iff {t : Thresholds} :
    thresholdsOf? Json.reading value = some t ↔
      IsRecord Part.complexity.names value ∧
      Fills .complexity "medium" value (fun v n => v.nat? Numeral.max32 = some n)
        Settings.standard.thresholds.medium t.medium ∧
      Fills .complexity "high" value (fun v n => v.nat? Numeral.max32 = some n)
        Settings.standard.thresholds.high t.high := by
  constructor
  · intro read
    obtain ⟨fields, found, read⟩ := Option.bind_eq_some_iff.1 read
    have record : Record Part.complexity.names value fields := Json.fields?_eq_some_iff.1 found
    split at read
    · obtain ⟨medium, mediumRead, read⟩ := Option.bind_eq_some_iff.1 read
      obtain ⟨high, highRead, read⟩ := Option.bind_eq_some_iff.1 read
      obtain rfl := Option.some.inj read
      exact ⟨⟨_, record⟩, (filled_eq_some_iff record (by simp [Part.names])).1 mediumRead,
        (filled_eq_some_iff record (by simp [Part.names])).1 highRead⟩
    · cases read
  · rintro ⟨⟨fields, record⟩, mediumFilled, highFilled⟩
    obtain ⟨medium, high, rfl⟩ := List.length_eq_two.1 record.length_eq
    have found := Json.fields?_eq_some_iff.2 record
    have mediumRead : filled _ _ medium = some t.medium :=
      (filled_eq_some_iff record (by simp [Part.names])).2 mediumFilled
    have highRead : filled _ _ high = some t.high :=
      (filled_eq_some_iff record (by simp [Part.names])).2 highFilled
    refine Option.bind_eq_some_iff.2 ⟨_, found, Option.bind_eq_some_iff.2 ⟨_, mediumRead, ?_⟩⟩
    exact Option.bind_eq_some_iff.2 ⟨_, highRead, rfl⟩

theorem layoutOf?_eq_some_iff {l : Layout} :
    layoutOf? Json.reading value = some l ↔
      IsRecord Part.layout.names value ∧
      Fills .layout "rank_dir" value (fun v word => v.text? = some word)
        Settings.standard.layout.rankDir l.rankDir ∧
      Fills .layout "splines" value (fun v word => v.text? = some word)
        Settings.standard.layout.splines l.splines ∧
      Fills .layout "font_name" value (fun v word => v.text? = some word)
        Settings.standard.layout.fontName l.fontName := by
  constructor
  · intro read
    obtain ⟨fields, found, read⟩ := Option.bind_eq_some_iff.1 read
    have record : Record Part.layout.names value fields := Json.fields?_eq_some_iff.1 found
    split at read
    · obtain ⟨rankDir, rankDirRead, read⟩ := Option.bind_eq_some_iff.1 read
      obtain ⟨splines, splinesRead, read⟩ := Option.bind_eq_some_iff.1 read
      obtain ⟨fontName, fontNameRead, read⟩ := Option.bind_eq_some_iff.1 read
      obtain rfl := Option.some.inj read
      exact ⟨⟨_, record⟩, (filled_eq_some_iff record (by simp [Part.names])).1 rankDirRead,
        (filled_eq_some_iff record (by simp [Part.names])).1 splinesRead,
        (filled_eq_some_iff record (by simp [Part.names])).1 fontNameRead⟩
    · cases read
  · rintro ⟨⟨fields, record⟩, rankDirFilled, splinesFilled, fontNameFilled⟩
    obtain ⟨rankDir, splines, fontName, rfl⟩ := List.length_eq_three.1 record.length_eq
    have found := Json.fields?_eq_some_iff.2 record
    have rankDirRead : filled _ _ rankDir = some l.rankDir :=
      (filled_eq_some_iff record (by simp [Part.names])).2 rankDirFilled
    have splinesRead : filled _ _ splines = some l.splines :=
      (filled_eq_some_iff record (by simp [Part.names])).2 splinesFilled
    have fontNameRead : filled _ _ fontName = some l.fontName :=
      (filled_eq_some_iff record (by simp [Part.names])).2 fontNameFilled
    refine Option.bind_eq_some_iff.2 ⟨_, found, Option.bind_eq_some_iff.2 ⟨_, rankDirRead, ?_⟩⟩
    refine Option.bind_eq_some_iff.2 ⟨_, splinesRead, ?_⟩
    exact Option.bind_eq_some_iff.2 ⟨_, fontNameRead, rfl⟩

theorem ofJson?_eq_some_iff_fills :
    ofJson? value = some s ↔
      IsRecord Part.whole.names value ∧
      Fills .whole "snippet_width" value (fun v n => v.nat? Numeral.max64 = some n)
        Settings.standard.snippetWidth s.snippetWidth ∧
      Fills .whole "io_patterns" value (fun v texts => textsOf? Json.reading v = some texts)
        Settings.standard.ioPatterns s.ioPatterns ∧
      Fills .whole "complexity" value (fun v t => thresholdsOf? Json.reading v = some t)
        Settings.standard.thresholds s.thresholds ∧
      Fills .whole "layout" value (fun v l => layoutOf? Json.reading v = some l)
        Settings.standard.layout s.layout := by
  constructor
  · intro read
    obtain ⟨fields, found, read⟩ := Option.bind_eq_some_iff.1 read
    have record : Record Part.whole.names value fields := Json.fields?_eq_some_iff.1 found
    split at read
    · obtain ⟨width, widthRead, read⟩ := Option.bind_eq_some_iff.1 read
      obtain ⟨patterns, patternsRead, read⟩ := Option.bind_eq_some_iff.1 read
      obtain ⟨thresholds, thresholdsRead, read⟩ := Option.bind_eq_some_iff.1 read
      obtain ⟨layout, layoutRead, read⟩ := Option.bind_eq_some_iff.1 read
      obtain rfl := Option.some.inj read
      exact ⟨⟨_, record⟩, (filled_eq_some_iff record (by simp [Part.names])).1 widthRead,
        (filled_eq_some_iff record (by simp [Part.names])).1 patternsRead,
        (filled_eq_some_iff record (by simp [Part.names])).1 thresholdsRead,
        (filled_eq_some_iff record (by simp [Part.names])).1 layoutRead⟩
    · cases read
  · rintro ⟨⟨fields, record⟩, widthFilled, patternsFilled, thresholdsFilled, layoutFilled⟩
    obtain ⟨width, patterns, thresholds, layout, rfl⟩ := List.length_eq_four.1 record.length_eq
    have found := Json.fields?_eq_some_iff.2 record
    have widthRead : filled _ _ width = some s.snippetWidth :=
      (filled_eq_some_iff record (by simp [Part.names])).2 widthFilled
    have patternsRead : filled _ _ patterns = some s.ioPatterns :=
      (filled_eq_some_iff record (by simp [Part.names])).2 patternsFilled
    have thresholdsRead : filled _ _ thresholds = some s.thresholds :=
      (filled_eq_some_iff record (by simp [Part.names])).2 thresholdsFilled
    have layoutRead : filled _ _ layout = some s.layout :=
      (filled_eq_some_iff record (by simp [Part.names])).2 layoutFilled
    refine Option.bind_eq_some_iff.2 ⟨_, found, Option.bind_eq_some_iff.2 ⟨_, widthRead, ?_⟩⟩
    refine Option.bind_eq_some_iff.2 ⟨_, patternsRead, ?_⟩
    refine Option.bind_eq_some_iff.2 ⟨_, thresholdsRead, ?_⟩
    exact Option.bind_eq_some_iff.2 ⟨_, layoutRead, rfl⟩

/-! ## What is read -/

def PartRead (part : Part) (v : Json) (s : Settings) : Prop :=
  IsRecord part.names v ∧ ∀ f : Field, f.home = part →
    Fills part f.key v f.Spells (f.content Settings.standard) (f.content s)

theorem partRead_complexity (read : thresholdsOf? Json.reading v = some s.thresholds) :
    PartRead .complexity v s := by
  obtain ⟨record, mediumFilled, highFilled⟩ := thresholdsOf?_eq_some_iff.1 read
  refine ⟨record, fun f home => ?_⟩
  cases f with
  | medium => exact (decodes_number rfl).fills_iff.1 mediumFilled
  | high => exact (decodes_number rfl).fills_iff.1 highFilled
  | _ => cases home

theorem partRead_layout (read : layoutOf? Json.reading v = some s.layout) :
    PartRead .layout v s := by
  obtain ⟨record, rankDirFilled, splinesFilled, fontNameFilled⟩ := layoutOf?_eq_some_iff.1 read
  refine ⟨record, fun f home => ?_⟩
  cases f with
  | rankDir => exact (decodes_word rfl).fills_iff.1 rankDirFilled
  | splines => exact (decodes_word rfl).fills_iff.1 splinesFilled
  | fontName => exact (decodes_word rfl).fills_iff.1 fontNameFilled
  | _ => cases home

theorem partRead_whole (read : ofJson? value = some s) : PartRead .whole value s := by
  obtain ⟨record, widthFilled, patternsFilled, -, -⟩ := ofJson?_eq_some_iff_fills.1 read
  refine ⟨record, fun f home => ?_⟩
  cases f with
  | width => exact (decodes_number rfl).fills_iff.1 widthFilled
  | patterns => exact decodes_patterns.fills_iff.1 patternsFilled
  | _ => cases home

/-- Every part that is given is read by itself. -/
theorem partRead_of_partOf (read : ofJson? value = some s) (partOf : PartOf value part v) :
    PartRead part v s := by
  obtain ⟨-, -, -, thresholdsFilled, layoutFilled⟩ := ofJson?_eq_some_iff_fills.1 read
  cases partOf with
  | whole => exact partRead_whole read
  | complexity field => exact partRead_complexity (thresholdsFilled.given v field)
  | layout field => exact partRead_layout (layoutFilled.given v field)

/-- A part that is not given is standard. -/
theorem content_of_absent (read : ofJson? value = some s) (absent : ¬∃ v, PartOf value f.home v) :
    f.content s = f.content Settings.standard := by
  obtain ⟨-, -, -, thresholdsFilled, layoutFilled⟩ := ofJson?_eq_some_iff_fills.1 read
  cases f with
  | width | patterns => exact absurd ⟨value, .whole⟩ absent
  | medium | high =>
      have standard := thresholdsFilled.standard fun ⟨v, field⟩ => absent ⟨v, .complexity field⟩
      simp only [Field.content, standard]
  | rankDir | splines | fontName =>
      have standard := layoutFilled.standard fun ⟨v, field⟩ => absent ⟨v, .layout field⟩
      simp only [Field.content, standard]

theorem readsAs_of_ofJson? (read : ofJson? value = some s) : ReadsAs value s := by
  constructor
  · rintro f v ⟨record, partOf, field⟩
    exact ((partRead_of_partOf read partOf).2 f rfl).given v field
  · intro f missing
    -- A field is not given either if the part that it belongs to is missing as a whole.
    by_cases present : ∃ v, PartOf value f.home v
    · obtain ⟨v, partOf⟩ := present
      refine ((partRead_of_partOf read partOf).2 f rfl).standard fun ⟨w, field⟩ => ?_
      exact missing ⟨w, v, partOf, field⟩
    · exact content_of_absent read present

theorem wellTyped_of_ofJson? (read : ofJson? value = some s) : WellTyped value :=
  ⟨fun _ _ partOf => (partRead_of_partOf read partOf).1,
    fun f v given => ⟨f.content s, (readsAs_of_ofJson? read).given f v given⟩⟩

theorem exists_thresholds (wellTyped : WellTyped value) (partOf : PartOf value .complexity v) :
    ∃ t, thresholdsOf? Json.reading v = some t := by
  have record : IsRecord Part.complexity.names v := wellTyped.records .complexity v partOf
  obtain ⟨medium, mediumFilled⟩ := (exists_fills_iff record).2 fun w field =>
    (decodes_number rfl).exists_iff.2 (wellTyped.typed .medium w ⟨v, partOf, field⟩)
  obtain ⟨high, highFilled⟩ := (exists_fills_iff record).2 fun w field =>
    (decodes_number rfl).exists_iff.2 (wellTyped.typed .high w ⟨v, partOf, field⟩)
  exact ⟨{ medium, high }, thresholdsOf?_eq_some_iff.2 ⟨record, mediumFilled, highFilled⟩⟩

theorem exists_layout (wellTyped : WellTyped value) (partOf : PartOf value .layout v) :
    ∃ l, layoutOf? Json.reading v = some l := by
  have record : IsRecord Part.layout.names v := wellTyped.records .layout v partOf
  obtain ⟨rankDir, rankDirFilled⟩ := (exists_fills_iff record).2 fun w field =>
    (decodes_word rfl).exists_iff.2 (wellTyped.typed .rankDir w ⟨v, partOf, field⟩)
  obtain ⟨splines, splinesFilled⟩ := (exists_fills_iff record).2 fun w field =>
    (decodes_word rfl).exists_iff.2 (wellTyped.typed .splines w ⟨v, partOf, field⟩)
  obtain ⟨fontName, fontNameFilled⟩ := (exists_fills_iff record).2 fun w field =>
    (decodes_word rfl).exists_iff.2 (wellTyped.typed .fontName w ⟨v, partOf, field⟩)
  exact ⟨{ rankDir, splines, fontName },
    layoutOf?_eq_some_iff.2 ⟨record, rankDirFilled, splinesFilled, fontNameFilled⟩⟩

/-- Settings can be read from a value whose fields are of the right type and in range. -/
theorem exists_ofJson? (wellTyped : WellTyped value) : ∃ s, ofJson? value = some s := by
  have record : IsRecord Part.whole.names value := wellTyped.records .whole value .whole
  obtain ⟨snippetWidth, widthFilled⟩ := (exists_fills_iff record).2 fun v field =>
    (decodes_number rfl).exists_iff.2 (wellTyped.typed .width v ⟨value, .whole, field⟩)
  obtain ⟨ioPatterns, patternsFilled⟩ := (exists_fills_iff record).2 fun v field =>
    decodes_patterns.exists_iff.2 (wellTyped.typed .patterns v ⟨value, .whole, field⟩)
  obtain ⟨thresholds, thresholdsFilled⟩ := (exists_fills_iff record).2 fun v field =>
    exists_thresholds wellTyped (.complexity field)
  obtain ⟨layout, layoutFilled⟩ := (exists_fills_iff record).2 fun v field =>
    exists_layout wellTyped (.layout field)
  exact ⟨{ snippetWidth, ioPatterns, thresholds, layout }, ofJson?_eq_some_iff_fills.2
    ⟨record, widthFilled, patternsFilled, thresholdsFilled, layoutFilled⟩⟩

/-! ## Values that read alike -/

def ReadAlike : Part → Json → Json → Prop
  | .whole, v, w => ofJson? v = ofJson? w
  | .complexity, v, w => thresholdsOf? Json.reading v = thresholdsOf? Json.reading w
  | .layout, v, w => layoutOf? Json.reading v = layoutOf? Json.reading w

theorem readAlike_of_alike (alike : Alike part.names v w) : ReadAlike part v w := by
  cases part with
  | whole =>
      refine Option.ext fun s => ?_
      simp only [ofJson?_eq_some_iff_fills, alike.record, fills_congr alike]
  | complexity =>
      refine Option.ext fun t => ?_
      simp only [thresholdsOf?_eq_some_iff, alike.record, fills_congr alike]
  | layout =>
      refine Option.ext fun l => ?_
      simp only [layoutOf?_eq_some_iff, alike.record, fills_congr alike]

section
variable {key : String} {before after : List (String × Json)}

/-- A field can be given in another way that makes no difference to the field. -/
theorem Fills.inside {R : Json → α → Prop} {standard a : α}
    (fills : Fills part name (.object (before ++ (key, v) :: after)) R standard a)
    (same : name = key → R v a → R w a) :
    Fills part name (.object (before ++ (key, w) :: after)) R standard a := by
  constructor
  · intro x field
    obtain ⟨known, member⟩ := Json.fieldOf_object_iff.1 field
    simp only [List.mem_append, List.mem_cons, Prod.mk.injEq] at member
    have given (x : Json) (member : (name, x) ∈ before ++ (key, v) :: after) : R x a :=
      fills.given x (Json.fieldOf_object_iff.2 ⟨known, member⟩)
    rcases member with front | ⟨rfl, rfl⟩ | back
    · exact given x (by simp [front])
    · exact same rfl (given v (by simp))
    · exact given x (by simp [back])
  · refine fun missing => fills.standard fun ⟨x, field⟩ => missing ?_
    obtain ⟨known, member⟩ := Json.fieldOf_object_iff.1 field
    simp only [List.mem_append, List.mem_cons, Prod.mk.injEq] at member
    rcases member with front | ⟨rfl, -⟩ | back
    · exact ⟨x, Json.fieldOf_object_iff.2 ⟨known, by simp [front]⟩⟩
    · exact ⟨w, Json.fieldOf_object_iff.2 ⟨known, by simp⟩⟩
    · exact ⟨x, Json.fieldOf_object_iff.2 ⟨known, by simp [back]⟩⟩

/-- The part can be given in another way that reads alike. -/
theorem ofJson?_inside
    (same : key = "complexity" ∧ ReadAlike .complexity v w ∨ key = "layout" ∧ ReadAlike .layout v w) :
    ofJson? (.object (before ++ (key, v) :: after)) =
      ofJson? (.object (before ++ (key, w) :: after)) := by
  have fill {β : Type} {name : String} {R : Json → β → Prop} {standard a : β}
      (agree : name = key → (R v a ↔ R w a)) :
      Fills .whole name (.object (before ++ (key, v) :: after)) R standard a ↔
        Fills .whole name (.object (before ++ (key, w) :: after)) R standard a :=
    ⟨fun fills => fills.inside fun here => (agree here).1,
      fun fills => fills.inside fun here => (agree here).2⟩
  refine Option.ext fun s => ?_
  rw [ofJson?_eq_some_iff_fills, ofJson?_eq_some_iff_fills]
  -- Of the four fields only the one that is given in another way needs that it reads alike.
  refine and_congr ?_ (and_congr (fill ?_) (and_congr (fill ?_) (and_congr (fill ?_) (fill ?_))))
  · simp only [Json.isRecord_object_iff, List.map_append, List.map_cons]
  all_goals rintro rfl
  · simp at same
  · simp at same
  · simp only [true_and, String.reduceEq, false_and, or_false] at same
    rw [show thresholdsOf? Json.reading v = thresholdsOf? Json.reading w from same]
  · simp only [true_and, String.reduceEq, false_and, false_or] at same
    rw [show layoutOf? Json.reading v = layoutOf? Json.reading w from same]

end

theorem Respelled.readAlike (respelled : Respelled part v w) : ReadAlike part v w := by
  induction respelled with
  | order same => exact readAlike_of_alike (Json.alike_of_perm same)
  | unknown unknown => exact readAlike_of_alike (Json.alike_of_unknown unknown)
  | @array part items short => exact readAlike_of_alike (Json.alike_array part.nodup_names short)
  | complexity inside ih => exact ofJson?_inside (.inl ⟨rfl, ih⟩)
  | layout inside ih => exact ofJson?_inside (.inr ⟨rfl, ih⟩)

/-! ## Writing and reading again -/

section
variable {members : List (String × Json)}

theorem isRecord_of_names (named : members.map Prod.fst = part.names) :
    IsRecord part.names (.object members) := by
  rw [Json.isRecord_object_iff, named]
  exact fun name _ => List.nodup_iff_count_le_one.1 part.nodup_names name

/-- A field of an object that has all fields and nothing else. -/
theorem fills_of_names {R : Json → α → Prop} {standard a : α}
    (named : members.map Prod.fst = part.names) (member : (name, v) ∈ members) (related : R v a) :
    Fills part name (.object members) R standard a := by
  have known : name ∈ part.names := named ▸ List.mem_map_of_mem member
  exact .of_given (isRecord_of_names named) (.named known member) related

end

theorem ofJson?_toJson (fits : s.Fits) : ofJson? s.toJson = some s := by
  have thresholds : thresholdsOf? Json.reading
      (.object [("medium", .nat s.thresholds.medium), ("high", .nat s.thresholds.high)]) =
        some s.thresholds := by
    refine thresholdsOf?_eq_some_iff.2 ⟨isRecord_of_names rfl, ?_, ?_⟩
    · exact fills_of_names rfl (by simp) (Json.nat?_eq_some_iff.2 ⟨rfl, fits.medium⟩)
    · exact fills_of_names rfl (by simp) (Json.nat?_eq_some_iff.2 ⟨rfl, fits.high⟩)
  have layout : layoutOf? Json.reading
      (.object [("rank_dir", .text s.layout.rankDir), ("splines", .text s.layout.splines),
        ("font_name", .text s.layout.fontName)]) = some s.layout := by
    refine layoutOf?_eq_some_iff.2 ⟨isRecord_of_names rfl, ?_, ?_, ?_⟩
    all_goals exact fills_of_names rfl (by simp) (Json.text?_eq_some_iff.2 rfl)
  refine ofJson?_eq_some_iff_fills.2 ⟨isRecord_of_names rfl, ?_, ?_, ?_, ?_⟩
  · exact fills_of_names rfl (by simp) (Json.nat?_eq_some_iff.2 ⟨rfl, fits.width⟩)
  · exact fills_of_names rfl (by simp) (textsOf?_eq_some_iff.2 rfl)
  · exact fills_of_names rfl (by simp) thresholds
  · exact fills_of_names rfl (by simp) layout

/-- A number that is read is in the range of its field. -/
theorem le_bound_of_ofJson? {bound n : Nat} (read : ofJson? value = some s)
    (bounded : f.bound? = some bound) (holds : f.content s = .number n) : n ≤ bound := by
  have readsAs := readsAs_of_ofJson? read
  by_cases given : ∃ v, f.GivenBy value v
  · obtain ⟨v, given⟩ := given
    have spells := readsAs.given f v given
    rw [holds, (decodes_number bounded).spells_iff] at spells
    obtain ⟨m, read, same⟩ := spells
    obtain rfl := Content.number.inj same
    exact (Json.nat?_eq_some_iff.1 read).2
  · have standard := (readsAs.standard f given).symm.trans holds
    cases f <;> cases bounded <;> cases standard <;> decide

theorem fits_of_ofJson? (read : ofJson? value = some s) : s.Fits where
  width := le_bound_of_ofJson? (f := .width) read rfl rfl
  medium := le_bound_of_ofJson? (f := .medium) read rfl rfl
  high := le_bound_of_ofJson? (f := .high) read rfl rfl

theorem within_toJson (s : Settings) (depth : Nat) : Json.Within (depth + 2) s.toJson := by
  refine .object fun member listed => ?_
  simp only [List.mem_cons, List.not_mem_nil, or_false] at listed
  rcases listed with rfl | rfl | rfl | rfl
  · exact .int _
  · refine .array fun item listed => ?_
    obtain ⟨text, -, rfl⟩ := List.mem_map.1 listed
    exact .text text
  · refine .object fun member listed => ?_
    simp only [List.mem_cons, List.not_mem_nil, or_false] at listed
    rcases listed with rfl | rfl <;> exact .int _
  · refine .object fun member listed => ?_
    simp only [List.mem_cons, List.not_mem_nil, or_false] at listed
    rcases listed with rfl | rfl | rfl <;> exact .text _

end

/-- Settings that are written read back, from the value as from the text of it on one line or on
many. A value whose fields are of the right type and in range is read, at each level with the
standard for what it leaves out; it may be given in any of the ways that are the same, and any other
value is refused, wherever in it the fault is. -/
theorem ofJson?_exact :
    (∀ s : Settings, s.Fits →
      ofJson? s.toJson = some s ∧
      (Json.read s.toJson.compact).bind ofJson? = some s ∧
      (Json.read (s.toJson.pretty 0)).bind ofJson? = some s) ∧
    (∀ value, WellTyped value → ∃ s, ofJson? value = some s ∧ ReadsAs value s ∧ s.Fits) ∧
    (∀ value other, Respelled .whole value other → ofJson? value = ofJson? other) ∧
    ∀ value, ¬WellTyped value → ofJson? value = none := by
  refine ⟨fun s fits => ⟨ofJson?_toJson fits, ?_, ?_⟩, fun value wellTyped => ?_,
    fun value other respelled => respelled.readAlike, fun value refused => ?_⟩
  · rw [Json.read_compact (s.within_toJson 125), Option.bind_some, ofJson?_toJson fits]
  · rw [Json.read_pretty (s.within_toJson 125), Option.bind_some, ofJson?_toJson fits]
  · obtain ⟨s, read⟩ := exists_ofJson? wellTyped
    exact ⟨s, read, readsAs_of_ofJson? read, fits_of_ofJson? read⟩
  · exact Option.eq_none_iff_forall_ne_some.2 fun s read => refused (wellTyped_of_ofJson? read)

example :
    ofJson? (.object [("complexity", .array [.nat 3]), ("theme", .null), ("snippet_width", .nat 8)]) =
      some { standard with snippetWidth := 8, thresholds := { medium := 3, high := 10 } } := by
  rfl

end Flowgraph.Settings
