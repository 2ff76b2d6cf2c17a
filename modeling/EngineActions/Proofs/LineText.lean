import EngineActions.CommandLine.Response
import EngineActions.Proofs.Columns
import EngineActions.Proofs.LosslessDiff

namespace EngineActions

-- Prototypes, stored sizes and the placeholder mark are no part of a line.
structure Action.AlikeInPlace (left right : Action) : Prop where
  ordinal : left.ordinal = right.ordinal
  alike : left.Alike right

inductive Divergence.SidesAlike : Divergence → Divergence → Prop where
  | onlyLeft {action other : Action} : action.AlikeInPlace other →
      SidesAlike (.onlyLeft action) (.onlyLeft other)
  | onlyRight {action other : Action} : action.AlikeInPlace other →
      SidesAlike (.onlyRight action) (.onlyRight other)
  | renamed {left right otherLeft otherRight : Action} : left.AlikeInPlace otherLeft →
      right.AlikeInPlace otherRight →
      SidesAlike (.renamed left right) (.renamed otherLeft otherRight)
  | signature {left right otherLeft otherRight : Action} : left.AlikeInPlace otherLeft →
      right.AlikeInPlace otherRight →
      SidesAlike (.signature left right) (.signature otherLeft otherRight)

def Divergence.rows (divergence : Divergence) : List Action :=
  divergence.left?.toList ++ divergence.right?.toList

-- The brackets tell how much is required only up to the number of parameters, and a name that goes
-- on in a new line could end the first of two lines early.
structure Divergence.Readable (divergence : Divergence) : Prop where
  required_le : ∀ row ∈ divergence.rows, row.required ≤ row.accepted
  unbroken : ∀ row ∈ divergence.rows, '\n' ∉ row.name.toList

namespace ValueType

theorem isLower_of_mem_keyword {type : ValueType} {letter : Char}
    (member : letter ∈ type.keyword.toList) : letter.isLower = true := by
  have lower : type.keyword.toList.all Char.isLower = true := by
    cases type <;> decide
  exact List.all_eq_true.mp lower letter member

theorem not_mem_keyword (type : ValueType) {other : Char} (unlike : other.isLower = false) :
    other ∉ type.keyword.toList := by
  intro member
  rw [isLower_of_mem_keyword member] at unlike
  cases unlike

theorem keyword_ne_empty (type : ValueType) : type.keyword.toList ≠ [] := by
  cases type <;> decide

end ValueType

namespace Action
variable {left right : Action}

def parameterChars (action : Action) : List (List Char) := action.parameterTexts.map String.toList

theorem toList_summary (action : Action) :
    action.summary.toList =
      (Field.rightAligned 5).place (Nat.toDigits 10 action.ordinal) ++ ' ' :: ' ' ::
        (action.returns.keyword.toList ++ ' ' ::
          (action.name.toList ++ '(' :: ([',', ' '].intercalate action.parameterChars ++ [')']))) := by
  simp [summary, Field.pad, parameterChars, String.toList_intercalate]

theorem mem_parameterChars {action : Action} {part : List Char}
    (member : part ∈ action.parameterChars) : ∃ type : ValueType,
      part = type.keyword.toList ∨ part = '[' :: (type.keyword.toList ++ [']']) := by
  obtain ⟨text, given, rfl⟩ := List.mem_map.mp member
  obtain ⟨index, inside, rfl⟩ := List.mem_mapIdx.mp given
  refine ⟨action.parameters[index], ?_⟩
  unfold parameterText
  split
  · exact .inl rfl
  · exact .inr (by simp)

theorem parameterChars_ne_nil {action : Action} {part : List Char}
    (member : part ∈ action.parameterChars) : part ≠ [] := by
  obtain ⟨type, rfl | rfl⟩ := mem_parameterChars member
  · exact type.keyword_ne_empty
  · exact List.cons_ne_nil _ _

theorem not_mem_parameterChars {action : Action} {part : List Char} {other : Char}
    (unlike : other.isLower = false) (noBracket : other ∉ ['[', ']'])
    (member : part ∈ action.parameterChars) : other ∉ part := by
  obtain ⟨type, rfl | rfl⟩ := mem_parameterChars member
  · exact type.not_mem_keyword unlike
  · simp only [List.mem_cons, List.not_mem_nil, or_false, not_or] at noBracket
    simp [noBracket, type.not_mem_keyword unlike]

theorem not_mem_parameterList (action : Action) {other : Char} (unlike : other.isLower = false)
    (noBracket : other ∉ ['[', ']']) (noSeparator : other ∉ [',', ' ']) :
    other ∉ [',', ' '].intercalate action.parameterChars :=
  not_mem_intercalate noSeparator fun _ => not_mem_parameterChars unlike noBracket

theorem parameterText_inj {index : Nat} {type other : ValueType}
    (same : left.parameterText index type = right.parameterText index other) :
    type = other ∧ (index < left.required ↔ index < right.required) := by
  have noBracket : ∀ kept : ValueType, '[' ∉ kept.keyword.toList :=
    fun kept => kept.not_mem_keyword (by decide)
  unfold parameterText at same
  split at same
  · rename_i requiredLeft
    split at same
    · rename_i requiredRight
      exact ⟨ValueType.keyword_injective same, fun _ => requiredRight, fun _ => requiredLeft⟩
    · exact absurd (by rw [same]; simp) (noBracket type)
  · rename_i optionalLeft
    split at same
    · exact absurd (by rw [← same]; simp) (noBracket other)
    · rename_i optionalRight
      rw [String.append_left_inj, String.append_right_inj] at same
      exact ⟨ValueType.keyword_injective same, fun required => absurd required optionalLeft,
        fun required => absurd required optionalRight⟩

theorem parameters_of_texts (leastLeft : left.required ≤ left.accepted)
    (leastRight : right.required ≤ right.accepted)
    (same : left.parameterTexts = right.parameterTexts) :
    left.required = right.required ∧ left.parameters = right.parameters := by
  have lengths : left.parameters.length = right.parameters.length := by
    have counted := congrArg List.length same
    rwa [parameterTexts, parameterTexts, List.length_mapIdx, List.length_mapIdx] at counted
  have parts : ∀ (index : Nat) (inLeft : index < left.parameters.length)
      (inRight : index < right.parameters.length),
      left.parameters[index] = right.parameters[index] ∧
        (index < left.required ↔ index < right.required) := by
    intro index inLeft inRight
    have stored : left.parameterTexts[index]? = right.parameterTexts[index]? := by rw [same]
    rw [parameterTexts, parameterTexts, List.getElem?_mapIdx, List.getElem?_mapIdx,
      List.getElem?_eq_getElem inLeft, List.getElem?_eq_getElem inRight] at stored
    exact parameterText_inj (Option.some.inj stored)
  constructor
  · unfold accepted at leastLeft leastRight
    -- What one row requires and the other does not has brackets in one of the texts alone.
    rcases Nat.lt_trichotomy left.required right.required with fewer | equal | more
    · have bracketed := parts left.required (by omega) (by omega)
      omega
    · exact equal
    · have bracketed := parts right.required (by omega) (by omega)
      omega
  · exact List.ext_getElem lengths fun index inLeft inRight => (parts index inLeft inRight).1

theorem summary_inj (leastLeft : left.required ≤ left.accepted)
    (leastRight : right.required ≤ right.accepted) (same : left.summary = right.summary) :
    left.AlikeInPlace right := by
  have blank : ∀ value, ' ' ∉ Nat.toDigits 10 value := fun value =>
    Numeral.not_mem_toDigits value (by decide)
  have parenthesis : ∀ action : Action,
      '(' ∉ [',', ' '].intercalate action.parameterChars ++ [')'] := by
    intro action member
    rcases List.mem_append.mp member with inside | closing
    · exact action.not_mem_parameterList (by decide) (by decide) (by decide) inside
    · exact absurd closing (by decide)
  have clean : ∀ action : Action, ∀ part ∈ action.parameterChars, part ≠ [] ∧ ',' ∉ part :=
    fun action part member => ⟨parameterChars_ne_nil member,
      not_mem_parameterChars (by decide) (by decide) member⟩
  have chars := congrArg String.toList same
  rw [toList_summary, toList_summary] at chars
  obtain ⟨digits, behindOrdinal⟩ := Field.place_rightAligned_inj Nat.toDigits_ne_nil
    Nat.toDigits_ne_nil (blank _) (blank _) chars
  obtain ⟨returned, behindReturns⟩ := split_first (left.returns.not_mem_keyword (by decide))
    (right.returns.not_mem_keyword (by decide)) (List.cons.inj behindOrdinal).2
  -- The name may hold parentheses of its own, but nothing behind it does.
  obtain ⟨named, behindName⟩ := split_last (parenthesis left) (parenthesis right) behindReturns
  have listed := intercalate_inj [' '] (clean left) (clean right)
    (List.append_cancel_right behindName)
  obtain ⟨required, parameters⟩ := parameters_of_texts leastLeft leastRight
    (List.map_injective_iff.mpr (fun _ _ => String.toList_injective) listed)
  exact ⟨Numeral.toDigits_inj digits, String.toList_injective named, required,
    ValueType.keyword_injective (String.toList_injective returned), parameters⟩

theorem unbroken_summary {action : Action} (unbroken : '\n' ∉ action.name.toList) :
    '\n' ∉ action.summary.toList := by
  have digits : '\n' ∉ Nat.toDigits 10 action.ordinal := Numeral.not_mem_toDigits _ (by decide)
  have keyword : '\n' ∉ action.returns.keyword.toList := ValueType.not_mem_keyword _ (by decide)
  have parameters : '\n' ∉ [',', ' '].intercalate action.parameterChars :=
    action.not_mem_parameterList (by decide) (by decide) (by decide)
  rw [toList_summary, Field.place_rightAligned]
  simp [digits, keyword, unbroken, parameters]

end Action

namespace Divergence

def lead : Divergence → String
  | onlyLeft _ => "nwn1 o"
  | onlyRight _ => "nwn2 o"
  | renamed _ _ | signature _ _ => "nwn1  "

theorem take_text (divergence : Divergence) :
    divergence.text.toList.take 6 = divergence.lead.toList := by
  cases divergence with
  | onlyLeft action => simp [text, description, lead]
  | onlyRight action => simp [text, description, lead]
  | renamed left right => simp [text, description, lead]
  | signature left right => simp [text, description, lead]

theorem toList_text_renamed (left right : Action) :
    (renamed left right).text.toList = "nwn1       ".toList ++ (left.summary.toList ++
      '\n' :: ("nwn2       ".toList ++ right.summary.toList)) := by
  simp [text, description]

theorem pair_inj {left right otherLeft otherRight : Action}
    (unbroken : '\n' ∉ left.name.toList) (unbrokenOther : '\n' ∉ otherLeft.name.toList)
    (same : (renamed left right).text = (renamed otherLeft otherRight).text) :
    left.summary = otherLeft.summary ∧ right.summary = otherRight.summary := by
  have chars := congrArg String.toList same
  rw [toList_text_renamed, toList_text_renamed] at chars
  obtain ⟨lefts, rights⟩ := split_first (Action.unbroken_summary unbroken)
    (Action.unbroken_summary unbrokenOther) (List.append_cancel_left chars)
  exact ⟨String.toList_injective lefts,
    String.toList_injective (List.append_cancel_left rights)⟩

def KindByNames : Divergence → Prop
  | onlyLeft _ | onlyRight _ => True
  | renamed left right => left.name ≠ right.name
  | signature left right => left.name = right.name

theorem kindByNames_of_mem {left right : Catalog} {divergence : Divergence}
    (member : divergence ∈ left.divergences right) : divergence.KindByNames := by
  obtain ⟨position, found⟩ := Catalog.mem_divergences_iff.mp member
  rw [Catalog.divergenceAt?] at found
  cases storedLeft : left.get? position with
  | none =>
    rw [storedLeft, between?_none_left] at found
    obtain ⟨row, _, rfl⟩ := Option.map_eq_some_iff.mp found
    trivial
  | some leftRow =>
    cases storedRight : right.get? position with
    | none =>
      rw [storedRight, between?_none_right] at found
      obtain ⟨row, _, rfl⟩ := Option.map_eq_some_iff.mp found
      trivial
    | some rightRow =>
      rw [storedLeft, storedRight, between?, ofRows?_eq_ite] at found
      split at found
      · cases found
      · split at found
        · rename_i named
          cases Option.some.inj found
          exact named
        · rename_i renamed
          cases Option.some.inj found
          exact renamed

theorem stored_of_mem {left right : Catalog} {divergence : Divergence} {row : Action}
    (member : divergence ∈ left.divergences right) (shown : row ∈ divergence.rows) :
    ∃ position, left.get? position = some row ∨ right.get? position = some row := by
  obtain ⟨position, found⟩ := Catalog.mem_divergences_iff.mp member
  have onRight : divergence.right? = right.get? position := right?_of_between? found
  have exchanged : divergence.exchange.right? = left.get? position :=
    right?_of_between? (by rw [between?_exchange]; exact Option.map_eq_some_iff.mpr ⟨_, found, rfl⟩)
  have onLeft : divergence.left? = left.get? position := by
    rw [← exchanged]
    cases divergence <;> rfl
  rw [rows, List.mem_append, Option.mem_toList, Option.mem_toList, onLeft, onRight] at shown
  exact ⟨position, shown⟩

theorem readable_shipped {detail : Detail} {left right : Revision} {divergence : Divergence}
    (member : divergence ∈ (Shipped.catalog detail left).divergences (Shipped.catalog detail right)) :
    divergence.Readable := by
  have shipped : ∀ row ∈ divergence.rows, ∃ revision position,
      (Shipped.catalog detail revision).get? position = some row := by
    intro row shown
    obtain ⟨position, onLeft | onRight⟩ := stored_of_mem member shown
    · exact ⟨left, position, onLeft⟩
    · exact ⟨right, position, onRight⟩
  constructor
  · intro row shown
    obtain ⟨revision, position, stored⟩ := shipped row shown
    exact ((Shipped.wellFormed_catalog detail revision).rows position row stored).required_le
  · intro row shown
    obtain ⟨revision, position, stored⟩ := shipped row shown
    exact Shipped.unbroken_name stored

variable {first second : Divergence}

theorem Readable.summary_inj {left right : Action} (readable : first.Readable)
    (readableOther : second.Readable) (side : left ∈ first.rows) (otherSide : right ∈ second.rows)
    (same : left.summary = right.summary) : left.AlikeInPlace right :=
  Action.summary_inj (readable.required_le left side) (readableOther.required_le right otherSide)
    same

theorem Readable.pair_inj {left right otherLeft otherRight : Action} (readable : first.Readable)
    (readableOther : second.Readable) (sides : first.rows = [left, right])
    (otherSides : second.rows = [otherLeft, otherRight])
    (same : (renamed left right).text = (renamed otherLeft otherRight).text) :
    left.AlikeInPlace otherLeft ∧ right.AlikeInPlace otherRight := by
  have inLeft : left ∈ first.rows := by simp [sides]
  have inRight : right ∈ first.rows := by simp [sides]
  have inOtherLeft : otherLeft ∈ second.rows := by simp [otherSides]
  have inOtherRight : otherRight ∈ second.rows := by simp [otherSides]
  obtain ⟨lefts, rights⟩ := Divergence.pair_inj (readable.unbroken left inLeft)
    (readableOther.unbroken otherLeft inOtherLeft) same
  exact ⟨readable.summary_inj readableOther inLeft inOtherLeft lefts,
    readable.summary_inj readableOther inRight inOtherRight rights⟩

theorem sidesAlike_of_text (readable : first.Readable) (readableOther : second.Readable)
    (kind : first.KindByNames) (otherKind : second.KindByNames) (same : first.text = second.text) :
    first.SidesAlike second := by
  have leads : first.lead.toList = second.lead.toList := by
    rw [← take_text, ← take_text, same]
  cases first with
  | onlyLeft action =>
    cases second with
    | onlyLeft other =>
      exact .onlyLeft (readable.summary_inj readableOther List.mem_cons_self List.mem_cons_self
        ((String.append_right_inj _).mp same))
    | onlyRight other => exact absurd leads (by simp [lead])
    | renamed left right => exact absurd leads (by simp [lead])
    | signature left right => exact absurd leads (by simp [lead])
  | onlyRight action =>
    cases second with
    | onlyLeft other => exact absurd leads (by simp [lead])
    | onlyRight other =>
      exact .onlyRight (readable.summary_inj readableOther List.mem_cons_self List.mem_cons_self
        ((String.append_right_inj _).mp same))
    | renamed left right => exact absurd leads (by simp [lead])
    | signature left right => exact absurd leads (by simp [lead])
  | renamed left right =>
    cases second with
    | onlyLeft other => exact absurd leads (by simp [lead])
    | onlyRight other => exact absurd leads (by simp [lead])
    | renamed otherLeft otherRight =>
      obtain ⟨lefts, rights⟩ := readable.pair_inj readableOther rfl rfl same
      exact .renamed lefts rights
    | signature otherLeft otherRight =>
      obtain ⟨lefts, rights⟩ := readable.pair_inj readableOther rfl rfl same
      exact absurd (lefts.alike.name.trans (otherKind.trans rights.alike.name.symm)) kind
  | signature left right =>
    cases second with
    | onlyLeft other => exact absurd leads (by simp [lead])
    | onlyRight other => exact absurd leads (by simp [lead])
    | renamed otherLeft otherRight =>
      obtain ⟨lefts, rights⟩ := readable.pair_inj readableOther rfl rfl same
      exact absurd (lefts.alike.name.symm.trans (kind.trans rights.alike.name)) otherKind
    | signature otherLeft otherRight =>
      obtain ⟨lefts, rights⟩ := readable.pair_inj readableOther rfl rfl same
      exact .signature lefts rights

theorem output_description (divergence : Divergence) :
    (Report.write divergence.description).output = divergence.text ++ "\n" := by
  apply String.toList_injective
  cases divergence <;> simp [Report.write, Report.output, Report.done, text, description,
    String.join]

end Divergence

-- Rows with the same line are alike, whatever their names are made of. So are differences with the
-- same text, as long as no name goes on in a new line; no shipped one does.
theorem line_text_lossless :
    (∀ left right : Action, left.required ≤ left.accepted → right.required ≤ right.accepted →
      left.summary = right.summary → left.AlikeInPlace right) ∧
    (∀ (left right otherLeft otherRight : Catalog) (first second : Divergence),
      first ∈ left.divergences right → second ∈ otherLeft.divergences otherRight →
      first.Readable → second.Readable → first.text = second.text → first.SidesAlike second) ∧
    (∀ divergence : Divergence,
      (Report.write divergence.description).output = divergence.text ++ "\n") ∧
    ∀ (detail : Detail) (left right : Revision) (divergence : Divergence),
      divergence ∈ (Shipped.catalog detail left).divergences (Shipped.catalog detail right) →
      divergence.Readable := by
  refine ⟨fun _ _ => Action.summary_inj, ?_, Divergence.output_description,
    fun _ _ _ _ => Divergence.readable_shipped⟩
  intro left right otherLeft otherRight first second member otherMember readable readableOther
  exact Divergence.sidesAlike_of_text readable readableOther
    (Divergence.kindByNames_of_mem member) (Divergence.kindByNames_of_mem otherMember)

theorem lines_alike_whatever_the_prototype :
    let row := fun name parameters prototype =>
      Action.ofDeclaration .full (declare 0 name 1 .int parameters prototype)
    let table := fun name parameters prototype =>
      Catalog.ofDeclarations .full .nwn1 [declare 0 name 1 .int parameters prototype]
    (row "Aim(int), [float" [.vector, .int] "old").summary =
      "    0  int Aim(int), [float(vector, [int])" ∧
    (row "Aim(int), [float" [.vector, .int] "old").AlikeInPlace
      (row "Aim(int), [float" [.vector, .int] "new") ∧
    ∃ first second, first ∈ (table "Aim(" [.vector] "old").divergences (table "Aim" [.int] "") ∧
      second ∈ (table "Aim(" [.vector] "new").divergences (table "Aim" [.int] "") ∧
      first ≠ second ∧ first.SidesAlike second := by
  intro row table
  obtain ⟨lines, texts, _⟩ := line_text_lossless
  refine ⟨by decide +kernel, lines _ _ (by decide) (by decide) rfl,
    .renamed (row "Aim(" [.vector] "old") (row "Aim" [.int] ""),
    .renamed (row "Aim(" [.vector] "new") (row "Aim" [.int] ""), ?_, ?_, ?_, ?_⟩
  · decide +kernel
  · decide +kernel
  · decide +kernel
  · exact texts (table "Aim(" [.vector] "old") (table "Aim" [.int] "")
      (table "Aim(" [.vector] "new") (table "Aim" [.int] "") _ _ (by decide +kernel)
      (by decide +kernel) ⟨by decide +kernel, by decide +kernel⟩
      ⟨by decide +kernel, by decide +kernel⟩ rfl

end EngineActions
