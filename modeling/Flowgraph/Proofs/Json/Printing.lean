import Flowgraph.Proofs.Json.Reading

/-!
# Printing JSON

Both printers write a value in the sense of `Written`, so what they print is read back. The compact
printer puts no blanks anywhere. The indented printer begins a line before every item or member and
before every closing bracket, and has a blank behind every colon.
-/

namespace Flowgraph.Json

/-- The value has no decimals and is nested at most `depth` levels deep. -/
inductive Within : Nat → Json → Prop where
  | null {depth} : Within depth .null
  | bool {depth} (b : Bool) : Within depth (.bool b)
  | int {depth} (n : Int) : Within depth (.int n)
  | text {depth} (s : String) : Within depth (.text s)
  | array {depth items} (each : ∀ item ∈ items, Within depth item) : Within (depth + 1) (.array items)
  | object {depth members} (each : ∀ member ∈ members, Within depth member.2) :
      Within (depth + 1) (.object members)

theorem blanks_nil : Blanks [] := fun c member => by cases member

variable {depth level : Nat} {v : Json} {gap : List Char}

@[simp] theorem toList_quoted (s : String) : (quoted s).toList = quotedChars s := by
  simp [quoted, quotedChars]

@[simp] theorem compactItems_eq (items : List Json) : compactItems items = items.map compact := by
  induction items with
  | nil => rfl
  | cons item items ih => rw [compactItems, ih, List.map_cons]

@[simp] theorem compactMembers_eq (members : List (String × Json)) :
    compactMembers members = members.map fun m => quoted m.1 ++ ":" ++ compact m.2 := by
  induction members with
  | nil => rfl
  | cons member members ih => rw [compactMembers, ih, List.map_cons]

@[simp] theorem prettyItems_eq (items : List Json) :
    prettyItems level items = items.map (pretty level) := by
  induction items with
  | nil => rfl
  | cons item items ih => rw [prettyItems, ih, List.map_cons]

@[simp] theorem prettyMembers_eq (members : List (String × Json)) :
    prettyMembers level members = members.map fun m => quoted m.1 ++ ": " ++ pretty level m.2 := by
  induction members with
  | nil => rfl
  | cons member members ih => rw [prettyMembers, ih, List.map_cons]

/-- What stands behind every separator may as well stand in front of every piece. -/
theorem append_intercalate (lead separator : List Char) (pieces : List (List Char))
    (some : pieces ≠ []) :
    lead ++ (separator ++ lead).intercalate pieces =
      separator.intercalate (pieces.map (lead ++ ·)) := by
  induction pieces with
  | nil => exact absurd rfl some
  | cons piece pieces ih =>
      rcases pieces with _ | ⟨next, pieces⟩
      · simp
      · rw [List.intercalate_cons_cons, List.map_cons, List.map_cons, List.intercalate_cons_cons,
          ← List.map_cons, ← ih (List.cons_ne_nil next pieces)]
        simp only [List.append_assoc]

/-- Items with commas between them, up to the closing bracket. -/
theorem written_items (chars : Json → List Char) (v : Json) (items : List Json)
    (each : ∀ item ∈ v :: items, Written depth (.value item) (chars item)) (blanks : Blanks gap) :
    Written depth (.items (v :: items))
      ([','].intercalate ((v :: items).map chars) ++ (gap ++ [']'])) := by
  induction items generalizing v with
  | nil =>
      rw [List.map_singleton, List.intercalate_singleton]
      exact .lastItem (each v List.mem_cons_self) blanks
  | cons next items ih =>
      have further := ih next fun item member => each item (List.mem_cons_of_mem _ member)
      rw [List.map_cons, List.map_cons, List.intercalate_cons_cons, ← List.map_cons, List.append_assoc,
        List.append_assoc]
      exact .item (each v List.mem_cons_self) blanks_nil further

def memberChars (lead : List Char) (chars : Json → List Char) (m : String × Json) : List Char :=
  lead ++ (quotedChars m.1 ++ ':' :: chars m.2)

/-- Members with commas between them, up to the closing brace. -/
theorem written_members (lead : List Char) (chars : Json → List Char) (m : String × Json)
    (members : List (String × Json))
    (each : ∀ member ∈ m :: members, Written depth (.value member.2) (chars member.2))
    (indent : Blanks lead) (blanks : Blanks gap) :
    Written depth (.members (m :: members))
      ([','].intercalate ((m :: members).map (memberChars lead chars)) ++ (gap ++ ['\x7d'])) := by
  induction members generalizing m with
  | nil =>
      rw [List.map_singleton, List.intercalate_singleton, memberChars]
      simp only [List.append_assoc, List.cons_append]
      exact .lastMember indent blanks_nil (each m List.mem_cons_self) blanks
  | cons next members ih =>
      have further := ih next fun member mem => each member (List.mem_cons_of_mem _ mem)
      rw [List.map_cons, List.map_cons, List.intercalate_cons_cons, ← List.map_cons, memberChars]
      simp only [List.append_assoc, List.cons_append, List.nil_append]
      exact .member indent blanks_nil (each m List.mem_cons_self) blanks_nil further

theorem written_compact (within : Within depth v) : Written depth (.value v) v.compact.toList := by
  induction within with
  | null => exact .null
  | bool b => cases b with
    | true => exact .yes
    | false => exact .no
  | int n => exact .int n
  | text s =>
      rw [compact, toList_quoted]
      exact .text s
  | @array depth items each ih =>
      rw [compact, compactItems_eq, String.toList_append, String.toList_append,
        String.toList_intercalate, List.map_map]
      cases items with
      | nil => exact .noItems blanks_nil
      | cons item items =>
          exact .array (written_items (fun item => item.compact.toList) item items ih blanks_nil)
  | @object depth members each ih =>
      have member : String.toList ∘ (fun m : String × Json => quoted m.1 ++ ":" ++ compact m.2) =
          memberChars [] fun v => v.compact.toList := by
        funext m
        simp [memberChars]
      rw [compact, compactMembers_eq, String.toList_append, String.toList_append,
        String.toList_intercalate, List.map_map, member]
      cases members with
      | nil => exact .noMembers blanks_nil
      | cons m members =>
          exact .object <|
            written_members [] (fun v => v.compact.toList) m members ih blanks_nil blanks_nil

def newLine (level : Nat) : List Char := '\n' :: (indent level).toList

theorem blanks_newLine (level : Nat) : Blanks (newLine level) := by
  intro c member
  simp only [newLine, indent, String.toList_ofList, List.mem_cons, List.mem_replicate] at member
  rcases member with rfl | ⟨-, rfl⟩ <;> rfl

theorem toList_bracketed_nil (opening closing : String) :
    (bracketed opening closing level []).toList = opening.toList ++ closing.toList :=
  String.toList_append

/-- Every line between brackets begins with a line break. -/
theorem toList_bracketed (opening closing : String) {lines : List String} (some : lines ≠ []) :
    (bracketed opening closing level lines).toList =
      opening.toList ++ ([','].intercalate (lines.map fun line => newLine (level + 1) ++ line.toList) ++
        (newLine level ++ closing.toList)) := by
  have started : ((lines.map (indent (level + 1) ++ ·)).map String.toList).map (['\n'] ++ ·) =
      lines.map fun line => newLine (level + 1) ++ line.toList := by
    simp [newLine, Function.comp_def]
  have moved := append_intercalate ['\n'] [',']
    ((lines.map (indent (level + 1) ++ ·)).map String.toList) (by simpa using some)
  rw [← started, ← moved]
  obtain ⟨line, others, rfl⟩ := List.exists_cons_of_ne_nil some
  simp only [bracketed, newLine, String.toList_append, String.toList_intercalate, List.append_assoc]
  rfl

theorem written_pretty (within : Within depth v) (level : Nat) :
    Written depth (.value v) (v.pretty level).toList := by
  induction within generalizing level with
  | null => exact .null
  | bool b => cases b with
    | true => exact .yes
    | false => exact .no
  | int n => exact .int n
  | text s =>
      rw [pretty, compact, toList_quoted]
      · exact .text s
      all_goals simp
  | @array depth items each ih =>
      rw [pretty, prettyItems_eq]
      cases items with
      | nil =>
          rw [List.map_nil, toList_bracketed_nil]
          exact .noItems blanks_nil
      | cons item items =>
          have lines := written_items
            (fun item => newLine (level + 1) ++ (item.pretty (level + 1)).toList) item items
            (fun item member => .indented (blanks_newLine _) (ih item member (level + 1)))
            (blanks_newLine level)
          rw [toList_bracketed _ _ (by simp), List.map_map]
          exact .array lines
  | @object depth members each ih =>
      have space : Blanks [' '] := by simp [Blanks, isBlank]
      have member : (fun line => newLine (level + 1) ++ line.toList) ∘
          (fun m : String × Json => quoted m.1 ++ ": " ++ pretty (level + 1) m.2) =
          memberChars (newLine (level + 1)) fun v => [' '] ++ (v.pretty (level + 1)).toList := by
        funext m
        simp [memberChars]
      rw [pretty, prettyMembers_eq]
      cases members with
      | nil =>
          rw [List.map_nil, toList_bracketed_nil]
          exact .noMembers blanks_nil
      | cons m members =>
          have lines := written_members (newLine (level + 1))
            (fun v => [' '] ++ (v.pretty (level + 1)).toList) m members
            (fun m member => .indented space (ih m member (level + 1))) (blanks_newLine _)
            (blanks_newLine level)
          rw [toList_bracketed _ _ (by simp), List.map_map, member]
          exact .object lines

theorem read_compact (within : Within maxDepth v) : read v.compact = some v :=
  read_of_written (written_compact within)

theorem read_pretty (within : Within maxDepth v) : read (v.pretty 0) = some v :=
  read_of_written (written_pretty within 0)

end Flowgraph.Json
