import EngineActions.CommandLine.Response
import EngineActions.Text.Field
import Mathlib.Data.List.Basic

namespace EngineActions

-- Each lemma says of two texts made in one way that equal texts have equal parts.
section Separators
variable {α : Type} {separator : α} {front back other rest : List α}

theorem split_first (free : separator ∉ front) (freeOther : separator ∉ other)
    (same : front ++ separator :: back = other ++ separator :: rest) :
    front = other ∧ back = rest := by
  induction front generalizing other with
  | nil =>
    cases other with
    | nil => exact ⟨rfl, (List.cons.inj same).2⟩
    | cons head tail =>
      have first : separator = head := (List.cons.inj same).1
      exact absurd (first ▸ List.mem_cons_self) freeOther
  | cons head tail ih =>
    cases other with
    | nil =>
      have first : head = separator := (List.cons.inj same).1
      exact absurd (first ▸ List.mem_cons_self) free
    | cons otherHead otherTail =>
      obtain ⟨heads, tails⟩ := List.cons.inj same
      obtain ⟨fronts, backs⟩ := ih (fun member => free (List.mem_cons_of_mem _ member))
        (fun member => freeOther (List.mem_cons_of_mem _ member)) tails
      exact ⟨by rw [heads, fronts], backs⟩

theorem split_last (free : separator ∉ back) (freeOther : separator ∉ rest)
    (same : front ++ separator :: back = other ++ separator :: rest) :
    front = other ∧ back = rest := by
  have reversed : back.reverse ++ separator :: front.reverse =
      rest.reverse ++ separator :: other.reverse := by
    have mirrored := congrArg List.reverse same
    simpa only [List.reverse_append, List.reverse_cons, List.append_assoc,
      List.singleton_append] using mirrored
  obtain ⟨backs, fronts⟩ := split_first (by rwa [List.mem_reverse]) (by rwa [List.mem_reverse])
    reversed
  exact ⟨List.reverse_inj.mp fronts, List.reverse_inj.mp backs⟩

theorem flatMap_ended_inj {parts others : List (List α)} (filler : List α)
    (free : ∀ part ∈ parts, separator ∉ part) (freeOthers : ∀ part ∈ others, separator ∉ part)
    (same : parts.flatMap (· ++ separator :: filler) = others.flatMap (· ++ separator :: filler)) :
    parts = others := by
  induction parts generalizing others with
  | nil =>
    cases others with
    | nil => rfl
    | cons other others => simp at same
  | cons part parts ih =>
    cases others with
    | nil => simp at same
    | cons other others =>
      obtain ⟨freePart, freeRest⟩ := List.forall_mem_cons.mp free
      obtain ⟨freeOther, freeOtherRest⟩ := List.forall_mem_cons.mp freeOthers
      rw [List.flatMap_cons, List.flatMap_cons, List.append_assoc, List.append_assoc,
        List.cons_append, List.cons_append] at same
      obtain ⟨heads, tails⟩ := split_first freePart freeOther same
      rw [heads, ih freeRest freeOtherRest (List.append_cancel_left tails)]

theorem intercalate_append (separators : List α) {parts : List (List α)} (given : parts ≠ []) :
    separators.intercalate parts ++ separators = parts.flatMap (· ++ separators) := by
  induction parts with
  | nil => exact absurd rfl given
  | cons part parts ih =>
    cases parts with
    | nil => simp
    | cons next parts =>
      rw [List.intercalate_cons_cons, List.append_assoc, ih (List.cons_ne_nil _ _)]
      simp only [List.flatMap_cons]

theorem intercalate_cons (separators part : List α) (parts : List (List α)) :
    separators.intercalate (part :: parts) = part ++ parts.flatMap (separators ++ ·) := by
  induction parts generalizing part with
  | nil => simp
  | cons next parts ih =>
    rw [List.intercalate_cons_cons, ih, List.flatMap_cons]
    simp only [List.append_assoc]

theorem not_mem_intercalate {separators : List α} {parts : List (List α)} {other : α}
    (free : other ∉ separators) (freeParts : ∀ part ∈ parts, other ∉ part) :
    other ∉ separators.intercalate parts := by
  intro member
  cases parts with
  | nil => cases member
  | cons part parts =>
    have later := List.mem_append_left separators member
    rw [intercalate_append separators (List.cons_ne_nil _ _), List.mem_flatMap] at later
    obtain ⟨held, given, inside⟩ := later
    rcases List.mem_append.mp inside with inPart | between
    · exact freeParts held given inPart
    · exact free between

theorem intercalate_eq_nil_iff {separators : List α} {parts : List (List α)}
    (filled : ∀ part ∈ parts, part ≠ []) : separators.intercalate parts = [] ↔ parts = [] := by
  cases parts with
  | nil => simp
  | cons part parts =>
    have first := filled part List.mem_cons_self
    cases parts with
    | nil => simpa using first
    | cons next parts => simp [List.intercalate_cons_cons, first]

theorem intercalate_inj {parts others : List (List α)} (filler : List α)
    (clean : ∀ part ∈ parts, part ≠ [] ∧ separator ∉ part)
    (cleanOthers : ∀ part ∈ others, part ≠ [] ∧ separator ∉ part)
    (same : (separator :: filler).intercalate parts = (separator :: filler).intercalate others) :
    parts = others := by
  have empty : (separator :: filler).intercalate parts = [] ↔ parts = [] :=
    intercalate_eq_nil_iff fun part member => (clean part member).1
  have emptyOther : (separator :: filler).intercalate others = [] ↔ others = [] :=
    intercalate_eq_nil_iff fun part member => (cleanOthers part member).1
  by_cases given : parts = []
  · rw [empty.mpr given] at same
    rw [given, emptyOther.mp same.symm]
  · have givenOther : others ≠ [] := by
      intro none
      rw [emptyOther.mpr none] at same
      exact given (empty.mp same)
    apply flatMap_ended_inj filler (fun part member => (clean part member).2)
      fun part member => (cleanOthers part member).2
    rw [← intercalate_append _ given, ← intercalate_append _ givenOther, same]

end Separators

namespace Field

theorem place_rightAligned (width : Nat) (text : List Char) :
    (rightAligned width).place text = List.replicate (width - text.length) ' ' ++ text := by
  simp [place, rightAligned, cut, leading]

theorem dropWhile_filled {fill : Char} {text : List Char} (solid : text.head? ≠ some fill)
    (count : Nat) : (List.replicate count fill ++ text).dropWhile (· == fill) = text := by
  rw [List.dropWhile_append_of_pos (by simp)]
  cases text with
  | nil => rfl
  | cons first text => rw [List.dropWhile_cons_of_neg (by simpa using solid)]

theorem dropWhile_place_rightAligned (width : Nat) {text : List Char} (filled : text ≠ [])
    (free : ' ' ∉ text) (rest : List Char) :
    ((rightAligned width).place text ++ rest).dropWhile (· == ' ') = text ++ rest := by
  rw [place_rightAligned, List.append_assoc]
  apply dropWhile_filled
  cases text with
  | nil => exact absurd rfl filled
  | cons first text =>
    intro blank
    cases Option.some.inj blank
    exact free List.mem_cons_self

theorem place_rightAligned_inj {width : Nat} {text other back rest : List Char}
    (filled : text ≠ []) (filledOther : other ≠ []) (free : ' ' ∉ text) (freeOther : ' ' ∉ other)
    (same : (rightAligned width).place text ++ ' ' :: back =
      (rightAligned width).place other ++ ' ' :: rest) : text = other ∧ back = rest := by
  have trimmed := congrArg (List.dropWhile (· == ' ')) same
  rw [dropWhile_place_rightAligned width filled free,
    dropWhile_place_rightAligned width filledOther freeOther] at trimmed
  exact split_first free freeOther trimmed

end Field

-- A text that is these lines and nothing else: a line break stands nowhere but at their ends.
structure Lined (text : String) (lines : List String) : Prop where
  ended : text.toList = lines.flatMap fun line => line.toList ++ ['\n']
  unbroken : ∀ line ∈ lines, '\n' ∉ line.toList

theorem Lined.unique {text : String} {lines others : List String} (lined : Lined text lines)
    (again : Lined text others) : lines = others := by
  have same := lined.ended.symm.trans again.ended
  have parts : ∀ printed : List String, Lined text printed →
      ∀ part ∈ printed.map String.toList, '\n' ∉ part := by
    rintro printed fine part member
    obtain ⟨line, given, rfl⟩ := List.mem_map.mp member
    exact fine.unbroken line given
  have chars : lines.map String.toList = others.map String.toList := by
    apply flatMap_ended_inj [] (parts lines lined) (parts others again)
    rwa [List.flatMap_map, List.flatMap_map]
  exact List.map_injective_iff.mpr (fun _ _ => String.toList_injective) chars

theorem unbroken_toDigits (value : Nat) : '\n' ∉ Nat.toDigits 10 value :=
  Numeral.not_mem_toDigits value (by decide)

theorem unbroken_pad {field : Field} {text : String} (fill : field.fill ≠ '\n')
    (unbroken : '\n' ∉ text.toList) : '\n' ∉ (field.pad text).toList := by
  have kept : '\n' ∉ field.cut text.toList := by
    unfold Field.cut
    split
    · exact fun member => unbroken (List.mem_of_mem_take member)
    · exact unbroken
  simp [Field.pad, Field.place, kept, fill.symm]

theorem Report.lined_output {report : Report}
    (unbroken : ∀ line ∈ report.lines, '\n' ∉ line.toList) : Lined report.output report.lines := by
  refine ⟨?_, unbroken⟩
  simp [output, String.toList_join, List.flatMap_map]

end EngineActions
