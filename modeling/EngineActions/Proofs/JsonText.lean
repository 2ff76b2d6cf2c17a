import EngineActions.CommandLine.Response
import EngineActions.Proofs.Columns

namespace EngineActions.Json

@[elab_as_elim]
theorem values_induction {motive : Json → Prop} (number : ∀ value, motive (number value))
    (text : ∀ value, motive (text value))
    (array : ∀ items, (∀ item ∈ items, motive item) → motive (array items))
    (object : ∀ fields, (∀ field ∈ fields, motive field.2) → motive (object fields))
    (value : Json) : motive value := by
  refine @Json.rec motive (fun items => ∀ item ∈ items, motive item)
    (fun fields => ∀ field ∈ fields, motive field.2) (fun field => motive field.2)
    number text array object ?_ ?_ ?_ ?_ ?_ value
  · exact fun _ member => nomatch member
  · exact fun _ _ first rest => List.forall_mem_cons.mpr ⟨first, rest⟩
  · exact fun _ member => nomatch member
  · exact fun _ _ first rest => List.forall_mem_cons.mpr ⟨first, rest⟩
  · exact fun _ _ held => held

def margin (depth : Nat) : List Char := '\n' :: List.replicate (2 * depth) ' '

def bracketed (depth : Nat) (opening closing : Char) : List (List Char) → List Char
  | [] => [opening, closing]
  | parts =>
    opening :: margin (depth + 1) ++ (',' :: margin (depth + 1)).intercalate parts ++
      margin depth ++ [closing]

-- The text of a value at some depth, from left to right and without a word about lines.
mutual
def written (depth : Nat) : Json → List Char
  | number value => Nat.toDigits 10 value
  | text value => (quote value).toList
  | array items => bracketed depth '[' ']' (itemTexts (depth + 1) items)
  | object fields => bracketed depth '\x7b' '\x7d' (fieldTexts (depth + 1) fields)

def itemTexts (depth : Nat) : List Json → List (List Char)
  | [] => []
  | item :: rest => written depth item :: itemTexts depth rest

def fieldTexts (depth : Nat) : List (String × Json) → List (List Char)
  | [] => []
  | (key, value) :: rest =>
    ((quote key).toList ++ [':', ' '] ++ written depth value) :: fieldTexts depth rest
end

def fieldText (depth : Nat) (field : String × Json) : List Char :=
  (quote field.1).toList ++ [':', ' '] ++ written depth field.2

theorem itemTexts_eq (depth : Nat) (items : List Json) :
    itemTexts depth items = items.map (written depth) := by
  induction items with
  | nil => rfl
  | cons item rest ih => rw [itemTexts, ih, List.map_cons]

theorem fieldTexts_eq (depth : Nat) (fields : List (String × Json)) :
    fieldTexts depth fields = fields.map (fieldText depth) := by
  induction fields with
  | nil => rfl
  | cons field rest ih => rw [fieldTexts, ih, List.map_cons, fieldText]

theorem fieldBlocks_eq (fields : List (String × Json)) :
    fieldBlocks fields =
      fields.map fun field => withLead (quote field.1 ++ ": ") (lines field.2) := by
  induction fields with
  | nil => rfl
  | cons field rest ih => rw [fieldBlocks, ih, List.map_cons]

def led (depth : Nat) (block : List String) : List Char :=
  block.flatMap fun line => margin depth ++ line.toList

section Blocks
variable {depth : Nat} {block : List String} {part : List Char}

theorem led_cons (line : String) (block : List String) :
    led depth (line :: block) = margin depth ++ line.toList ++ led depth block := rfl

theorem led_append (block other : List String) :
    led depth (block ++ other) = led depth block ++ led depth other := List.flatMap_append

theorem led_indent (depth : Nat) (block : List String) :
    led depth (indent block) = led (depth + 1) block := by
  have deeper : ∀ line : String,
      margin depth ++ ("  " ++ line).toList = margin (depth + 1) ++ line.toList := by
    intro line
    have blanks : "  ".toList = List.replicate 2 ' ' := rfl
    rw [String.toList_append, blanks, ← List.append_assoc, margin, margin, List.cons_append,
      List.replicate_append_replicate, Nat.mul_succ]
  rw [led, indent, List.flatMap_map]
  simp only [deeper, led]

theorem exists_first_line (begun : led depth block = margin depth ++ part) :
    ∃ line rest, block = line :: rest ∧ line.toList ++ led depth rest = part := by
  cases block with
  | nil => cases begun
  | cons line rest =>
    rw [led_cons, List.append_assoc] at begun
    exact ⟨line, rest, rfl, List.append_cancel_left begun⟩

theorem led_withLead (lead : String) (begun : led depth block = margin depth ++ part) :
    led depth (withLead lead block) = margin depth ++ (lead.toList ++ part) := by
  obtain ⟨line, rest, rfl, rfl⟩ := exists_first_line begun
  rw [withLead, led_cons, String.toList_append]
  simp only [List.append_assoc]

theorem led_withComma (given : block ≠ []) :
    led depth (withComma block) = led depth block ++ [','] := by
  induction block with
  | nil => exact absurd rfl given
  | cons line block ih =>
    cases block with
    | nil => simp [withComma, led]
    | cons next block =>
      have joined : withComma (line :: next :: block) = line :: withComma (next :: block) := rfl
      rw [joined, led_cons, ih (List.cons_ne_nil _ _), led_cons line, List.append_assoc _ _ [',']]

theorem led_separate {blocks : List (List String)} {parts : List (List Char)}
    (begun : blocks.map (led depth) = parts.map (margin depth ++ ·)) (given : parts ≠ []) :
    led depth (separate blocks) =
      margin depth ++ (',' :: margin depth).intercalate parts := by
  -- On the parts, which say of each block that it has a first line; the blocks do not.
  induction parts generalizing blocks with
  | nil => exact absurd rfl given
  | cons part parts ih =>
    cases blocks with
    | nil => cases begun
    | cons block blocks =>
      obtain ⟨first, rest⟩ := List.cons.inj begun
      cases parts with
      | nil =>
        rw [List.map_eq_nil_iff.mp rest, separate, first, List.intercalate_singleton]
      | cons next parts =>
        obtain ⟨line, others, rfl, _⟩ := exists_first_line first
        cases blocks with
        | nil => cases rest
        | cons other blocks =>
          have later := ih rest (List.cons_ne_nil _ _)
          have joined : separate ((line :: others) :: other :: blocks) =
              withComma (line :: others) ++ separate (other :: blocks) := rfl
          rw [joined, led_append, led_withComma (List.cons_ne_nil _ _), first, later,
            List.intercalate_cons_cons]
          simp only [List.append_assoc, List.cons_append, List.nil_append]

theorem led_enclose {opening closing : String} {first last : Char}
    (opened : opening.toList = [first]) (closed : closing.toList = [last])
    {blocks : List (List String)} {parts : List (List Char)}
    (begun : blocks.map (led (depth + 1)) = parts.map (margin (depth + 1) ++ ·)) :
    led depth (enclose opening closing blocks) =
      margin depth ++ bracketed depth first last parts := by
  cases parts with
  | nil =>
    rw [List.map_eq_nil_iff.mp begun]
    simp [enclose, led, bracketed, opened, closed]
  | cons part parts =>
    have inner := led_separate begun (List.cons_ne_nil _ _)
    cases blocks with
    | nil => cases begun
    | cons block blocks =>
      have bottom : led depth [closing] = margin depth ++ [last] := by simp [led, closed]
      have whole : enclose opening closing (block :: blocks) =
          opening :: (indent (separate (block :: blocks)) ++ [closing]) := rfl
      rw [whole, led_cons, led_append, led_indent, inner, bottom, opened]
      simp only [bracketed, List.append_assoc, List.cons_append, List.nil_append]

end Blocks

theorem led_lines (depth : Nat) (value : Json) :
    led depth (lines value) = margin depth ++ written depth value := by
  induction value using values_induction generalizing depth with
  | number value => simp [lines, led, written]
  | text value => simp [lines, led, written]
  | array items ih =>
    rw [lines, written, itemBlocks_eq, itemTexts_eq]
    apply led_enclose rfl rfl
    rw [List.map_map, List.map_map]
    exact List.map_congr_left fun item member => ih item member (depth + 1)
  | object fields ih =>
    rw [lines, written, fieldBlocks_eq, fieldTexts_eq]
    apply led_enclose rfl rfl
    rw [List.map_map, List.map_map]
    refine List.map_congr_left fun field member => ?_
    rw [Function.comp_apply, led_withLead _ (ih field member (depth + 1)), String.toList_append]
    rfl

-- A text that says one value, ended by a line break.
def Printed (output : String) (value : Json) : Prop :=
  output.toList = written 0 value ++ ['\n']

theorem led_ended (block : List String) :
    led 0 block ++ ['\n'] = '\n' :: block.flatMap fun line => line.toList ++ ['\n'] := by
  induction block with
  | nil => rfl
  | cons line block ih =>
    rw [led_cons, List.append_assoc, ih, List.flatMap_cons]
    simp [margin]

theorem printed_output (value : Json) : Printed (Report.output ⟨lines value, none⟩) value := by
  have text : (Report.output ⟨lines value, none⟩).toList =
      (lines value).flatMap fun line => line.toList ++ ['\n'] := by
    simp [Report.output, String.toList_join, List.flatMap_map]
  have moved := led_ended (lines value)
  rw [led_lines, margin] at moved
  rw [Printed, text]
  exact (List.cons.inj moved).2.symm

-- A text put two blanks to the right. What stands before leads its first line to its place.
def nested (text : List Char) : List Char :=
  text.flatMap fun letter => if letter = '\n' then ['\n', ' ', ' '] else [letter]

theorem nested_append (front back : List Char) :
    nested (front ++ back) = nested front ++ nested back :=
  List.flatMap_append

theorem nested_cons {letter : Char} (other : letter ≠ '\n') (text : List Char) :
    nested (letter :: text) = letter :: nested text := by
  rw [nested, List.flatMap_cons, if_neg other, List.singleton_append, nested]

theorem nested_of_unbroken {text : List Char} (unbroken : '\n' ∉ text) : nested text = text := by
  induction text with
  | nil => rfl
  | cons letter text ih =>
    rw [List.mem_cons, not_or] at unbroken
    rw [nested_cons (Ne.symm unbroken.1), ih unbroken.2]

theorem nested_margin (depth : Nat) : nested (margin depth) = margin (depth + 1) := by
  have blanks : nested (List.replicate (2 * depth) ' ') = List.replicate (2 * depth) ' ' :=
    nested_of_unbroken (by simp)
  rw [margin, ← List.singleton_append, nested_append, blanks, margin, Nat.mul_succ, Nat.add_comm,
    ← List.replicate_append_replicate]
  rfl

theorem nested_intercalate (separator : List Char) (parts : List (List Char)) :
    nested (separator.intercalate parts) = (nested separator).intercalate (parts.map nested) := by
  induction parts with
  | nil => rfl
  | cons part parts ih =>
    cases parts with
    | nil => simp
    | cons next parts =>
      rw [List.intercalate_cons_cons, nested_append, nested_append, ih]
      simp [List.intercalate_cons_cons]

theorem nested_bracketed {depth : Nat} {opening closing : Char} (parts : List (List Char))
    (opened : opening ≠ '\n') (closed : closing ≠ '\n') :
    nested (bracketed depth opening closing parts) =
      bracketed (depth + 1) opening closing (parts.map nested) := by
  have last : nested [closing] = [closing] := nested_cons closed []
  cases parts with
  | nil => rw [List.map_nil, bracketed, bracketed, nested_cons opened, last]
  | cons part parts =>
    have comma : nested (',' :: margin (depth + 1)) = ',' :: margin (depth + 2) := by
      rw [nested_cons (by decide), nested_margin]
    simp only [bracketed, List.map_cons, nested_append, nested_intercalate, comma, nested_margin,
      nested_cons opened, last]

theorem unbroken_hexDigits (value : Nat) : '\n' ∉ hexDigits value := by
  have digit : ∀ value < 16, Nat.digitChar value ≠ '\n' := by decide
  have place : ∀ value, '\n' ≠ Nat.digitChar (value % 16) :=
    fun value => Ne.symm (digit _ (Nat.mod_lt _ (by decide)))
  simp [hexDigits, place]

theorem unbroken_escape (letter : Char) : '\n' ∉ escape letter := by
  unfold escape
  split
  all_goals try decide
  split
  · simp [unbroken_hexDigits]
  · simp [Ne.symm ‹letter = '\n' → False›]

theorem unbroken_quote (text : String) : '\n' ∉ (quote text).toList := by
  simp [quote, unbroken_escape]

theorem nested_written (depth : Nat) (value : Json) :
    nested (written depth value) = written (depth + 1) value := by
  induction value using values_induction generalizing depth with
  | number value =>
    exact nested_of_unbroken (Numeral.not_mem_toDigits value (by decide))
  | text value => exact nested_of_unbroken (unbroken_quote value)
  | array items ih =>
    rw [written, written, itemTexts_eq, itemTexts_eq, nested_bracketed _ (by decide) (by decide),
      List.map_map]
    exact congrArg _ (List.map_congr_left fun item member => ih item member (depth + 1))
  | object fields ih =>
    rw [written, written, fieldTexts_eq, fieldTexts_eq, nested_bracketed _ (by decide) (by decide),
      List.map_map]
    refine congrArg _ (List.map_congr_left fun field member => ?_)
    rw [Function.comp_apply, fieldText, nested_append, nested_append,
      nested_of_unbroken (unbroken_quote _), ih field member (depth + 1)]
    rfl

theorem written_array {items : List Json} (given : items ≠ []) :
    written 0 (array items) =
      ['[', '\n', ' ', ' '] ++
        [',', '\n', ' ', ' '].intercalate (items.map fun item => nested (written 0 item)) ++
      ['\n', ']'] := by
  cases items with
  | nil => exact absurd rfl given
  | cons item items =>
    rw [written, itemTexts_eq]
    simp only [nested_written, bracketed, List.map_cons, List.append_assoc]
    rfl

end EngineActions.Json
