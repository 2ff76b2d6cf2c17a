import EngineActions.Failure
import EngineActions.Proofs.LineText

namespace EngineActions

-- In the centre both parts are of one size, or the one behind is larger by one.
inductive Alignment.Divides : Option Alignment → Nat → Nat → Prop where
  | unstated (back : Nat) : Divides none 0 back
  | left (back : Nat) : Divides (some .left) 0 back
  | right (front : Nat) : Divides (some .right) front 0
  | even (half : Nat) : Divides (some .centre) half half
  | odd (half : Nat) : Divides (some .centre) half (half + 1)

namespace Field
variable {field : Field} {text : List Char}

theorem divides_leading (alignment : Option Alignment) (fill : Char) (width : Nat)
    (precision : Option Nat) (room : Nat) :
    let field := ofFormat alignment fill width precision
    Alignment.Divides alignment (field.leading room) (room - field.leading room) := by
  cases alignment with
  | none => exact .unstated room
  | some side =>
    cases side with
    | left => exact .left room
    | right =>
      simp only [leading, ofFormat, Option.getD_some, Nat.sub_self]
      exact .right room
    | centre =>
      simp only [leading, ofFormat, Option.getD_some]
      rcases Nat.mod_two_eq_zero_or_one room with even | odd
      · have behind : room - room / 2 = room / 2 := by omega
        rw [behind]
        exact .even (room / 2)
      · have behind : room - room / 2 = room / 2 + 1 := by omega
        rw [behind]
        exact .odd (room / 2)

theorem strip_filled (free : field.fill ∉ text) (front back : Nat) :
    field.strip (List.replicate front field.fill ++ text ++ List.replicate back field.fill) =
      text := by
  cases text with
  | nil => simp [strip]
  | cons first rest =>
    have begins : (first :: rest ++ List.replicate back field.fill).head? ≠ some field.fill := by
      intro same
      cases Option.some.inj same
      exact free List.mem_cons_self
    have ends : (first :: rest).reverse.head? ≠ some field.fill := by
      rw [List.head?_reverse]
      intro same
      exact free (List.mem_of_getLast? same)
    rw [strip, List.append_assoc, dropWhile_filled begins, List.reverse_append,
      List.reverse_replicate, dropWhile_filled ends, List.reverse_reverse]

theorem strip_place (free : field.fill ∉ text) : field.strip (field.place text) = field.cut text := by
  apply strip_filled
  intro member
  unfold cut at member
  split at member
  · exact free (List.mem_of_mem_take member)
  · exact free member

theorem cut_ofFormat (alignment : Option Alignment) (fill : Char) (width : Nat)
    (precision : Option Nat) (text : List Char) :
    (ofFormat alignment fill width precision).cut text =
      text.take (precision.getD text.length) := by
  cases precision with
  | none => exact List.take_length.symm
  | some count => rfl

end Field

namespace ValueType
variable {type other : ValueType}

theorem eq_of_keyword_begins (starts : type.keyword.toList <+: other.keyword.toList) :
    type = other := by
  revert starts
  cases type <;> cases other <;> simp [keyword]

theorem ofKeyword?_take (type : ValueType) (count : Nat) :
    ofKeyword? (String.ofList (type.keyword.toList.take count)) =
      if type.keyword.length ≤ count then some type else none := by
  split
  · rename_i whole
    rw [List.take_of_length_le whole, String.ofList_toList, ofKeyword?_keyword]
  · rename_i short
    rw [ofKeyword?, List.find?_eq_none]
    intro other _ same
    have chars : other.keyword.toList = type.keyword.toList.take count := by
      rw [beq_iff_eq.mp same, String.toList_ofList]
    have starts : other.keyword.toList <+: type.keyword.toList := by
      rw [chars]
      exact List.take_prefix count _
    rw [eq_of_keyword_begins starts] at chars
    have lengths := congrArg List.length chars
    rw [List.length_take] at lengths
    have whole : type.keyword.toList.length ≤ count := by omega
    exact short whole

theorem ofKeyword_take_ok_iff {count : Nat} :
    ofKeyword (String.ofList (type.keyword.toList.take count)) = .ok other ↔
      type.keyword.length ≤ count ∧ other = type := by
  rw [ofKeyword, orFailure_ok_iff, ofKeyword?_take, Option.ite_none_right_eq_some,
    Option.some_inj, eq_comm (a := type)]

theorem ofKeyword_take_of_lt {count : Nat} (short : count < type.keyword.length) :
    ofKeyword (String.ofList (type.keyword.toList.take count)) =
      .error (.unknownTypeKeyword (String.ofList (type.keyword.toList.take count))) := by
  rw [ofKeyword, orFailure_error_iff, ofKeyword?_take, if_neg (Nat.not_le.mpr short)]
  exact ⟨rfl, rfl⟩

end ValueType

-- Without the fill a keyword is read as the type it was written for if it is whole, and as no type
-- if it was cut.
theorem padded_keyword_exact (type : ValueType) (alignment : Option Alignment) (fill : Char)
    (width : Nat) (precision : Option Nat) (apart : fill.isLower = false) :
    let field := Field.ofFormat alignment fill width precision
    let written := field.pad type.keyword
    let kept := type.keyword.toList.take (precision.getD type.keyword.length)
    let read := ValueType.ofKeyword (String.ofList (field.strip written.toList))
    (∃ front back, Alignment.Divides alignment front back ∧
      written.toList = List.replicate front fill ++ kept ++ List.replicate back fill) ∧
    written.length = max width kept.length ∧
    (read = .ok type ↔ ∀ count, precision = some count → type.keyword.length ≤ count) ∧
    (∀ count, precision = some count → count < type.keyword.length →
      read = .error (.unknownTypeKeyword (String.ofList (type.keyword.toList.take count)))) ∧
    ∀ other, read = .ok other → other = type := by
  intro field written kept read
  have cut : field.cut type.keyword.toList = kept :=
    Field.cut_ofFormat alignment fill width precision _
  have chars : written.toList = field.place type.keyword.toList := String.toList_ofList
  have stripped : field.strip written.toList = kept := by
    rw [chars, Field.strip_place (type.not_mem_keyword apart), cut]
  have readKept : read = ValueType.ofKeyword (String.ofList kept) := by
    rw [← stripped]
  refine ⟨?_, ?_, ?_, ?_, ?_⟩
  · have divides := Field.divides_leading alignment fill width precision (width - kept.length)
    refine ⟨_, _, divides, ?_⟩
    rw [chars, Field.place, cut]
    rfl
  · rw [← String.length_toList, chars, Field.length_place, cut]
    rfl
  · rw [readKept, ValueType.ofKeyword_take_ok_iff]
    cases precision with
    | none => simp
    | some count => simp
  · rintro count rfl short
    rw [readKept]
    exact ValueType.ofKeyword_take_of_lt short
  · intro other found
    rw [readKept, ValueType.ofKeyword_take_ok_iff] at found
    exact found.2

theorem padded_vector_stripped_and_cut_refused :
    let starred := Field.ofFormat (some .centre) '*' 9 none
    let dashed := Field.ofFormat (some .right) '-' 8 (some 3)
    starred.pad "vector" = "*vector**" ∧
    ValueType.ofKeyword (String.ofList (starred.strip (starred.pad "vector").toList)) =
      .ok .vector ∧
    dashed.pad "vector" = "-----vec" ∧
    ValueType.ofKeyword (String.ofList (dashed.strip (dashed.pad "vector").toList)) =
      .error (.unknownTypeKeyword "vec") := by
  intro starred dashed
  obtain ⟨_, _, reads, _⟩ :=
    padded_keyword_exact .vector (some .centre) '*' 9 none (by decide)
  obtain ⟨_, _, _, refuses, _⟩ :=
    padded_keyword_exact .vector (some .right) '-' 8 (some 3) (by decide)
  refine ⟨by decide, reads.mpr (by simp), by decide, ?_⟩
  exact refuses 3 rfl (by decide)

end EngineActions
