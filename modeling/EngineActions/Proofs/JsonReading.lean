import EngineActions.Proofs.JsonText
import Mathlib.Data.List.Basic

namespace EngineActions.Json

-- What follows a number must not go on with a digit; no other value needs anything of it.
def Ends (rest : List Char) : Prop := ∀ letter, rest.head? = some letter → letter.isDigit = false

def ReadAs {α : Type} (text : α → List Char) (value : α) : Prop :=
  ∀ other back rest, Ends back → Ends rest → text value ++ back = text other ++ rest →
    value = other ∧ back = rest

theorem ends_cons {letter : Char} {rest : List Char} (other : letter.isDigit = false) :
    Ends (letter :: rest) := by
  intro first begun
  cases begun
  exact other

def escapedLetters : List Char := '"' :: '\\' :: (List.range 32).map Char.ofNat

section Letters
variable {letter other : Char} {back rest : List Char}

theorem escape_raw_or_escaped (letter : Char) :
    (escape letter = [letter] ∧ letter ≠ '\\' ∧ letter ≠ '"') ∨
      letter ∈ escapedLetters ∧ ∃ code, escape letter = '\\' :: code := by
  unfold escape
  split
  all_goals try exact .inr ⟨by decide, _, rfl⟩
  rename_i quoteFree slashFree _ _ _ _ _
  split
  · rename_i control
    refine .inr ⟨?_, _, rfl⟩
    have listed : letter ∈ (List.range 32).map Char.ofNat :=
      List.mem_map.mpr ⟨letter.toNat, List.mem_range.mpr control, Char.ofNat_toNat letter⟩
    exact List.mem_cons_of_mem _ (List.mem_cons_of_mem _ listed)
  · exact .inl ⟨rfl, slashFree, quoteFree⟩

theorem escape_apart : (escapedLetters.all fun letter => escapedLetters.all fun other =>
    !(escape letter).isPrefixOf (escape other) || letter == other) = true := by decide +kernel

theorem escaped_unique (member : letter ∈ escapedLetters) (memberOther : other ∈ escapedLetters)
    (begun : escape letter <+: escape other) : letter = other := by
  have row := List.all_eq_true.mp escape_apart letter member
  have apart := List.all_eq_true.mp row other memberOther
  rw [List.isPrefixOf_iff_prefix.mpr begun] at apart
  simpa using apart

theorem escape_inj (same : escape letter ++ back = escape other ++ rest) :
    letter = other ∧ back = rest := by
  have alike : letter = other := by
    rcases escape_raw_or_escaped letter with ⟨raw, noSlash, _⟩ | ⟨member, code, escaped⟩
    · rcases escape_raw_or_escaped other with ⟨rawOther, _⟩ | ⟨_, codeOther, escapedOther⟩
      · rw [raw, rawOther] at same
        exact (List.cons.inj same).1
      · rw [raw, escapedOther] at same
        exact absurd (List.cons.inj same).1 noSlash
    · rcases escape_raw_or_escaped other with ⟨rawOther, noSlash, _⟩ | ⟨memberOther, _⟩
      · rw [escaped, rawOther] at same
        exact absurd (List.cons.inj same).1.symm noSlash
      · -- Both are beginnings of one text, so one of them is a beginning of the other.
        have begun : escape letter <+: escape other ++ rest := same ▸ List.prefix_append _ _
        rcases List.prefix_or_prefix_of_prefix begun (List.prefix_append _ rest) with first | second
        · exact escaped_unique member memberOther first
        · exact (escaped_unique memberOther member second).symm
  rw [alike] at same
  exact ⟨alike, List.append_cancel_left same⟩

theorem escape_ne_quote (letter : Char) (back rest : List Char) :
    escape letter ++ back ≠ '"' :: rest := by
  rcases escape_raw_or_escaped letter with ⟨raw, _, noQuote⟩ | ⟨_, code, escaped⟩
  · rw [raw]
    exact fun same => noQuote (List.cons.inj same).1
  · rw [escaped]
    exact fun same => absurd (List.cons.inj same).1 (by decide)

theorem escapes_inj {letters others : List Char}
    (same : letters.flatMap escape ++ '"' :: back = others.flatMap escape ++ '"' :: rest) :
    letters = others ∧ back = rest := by
  induction letters generalizing others with
  | nil =>
    cases others with
    | nil => exact ⟨rfl, (List.cons.inj same).2⟩
    | cons other others =>
      rw [List.flatMap_cons, List.append_assoc] at same
      exact absurd same.symm (escape_ne_quote other _ _)
  | cons letter letters ih =>
    cases others with
    | nil =>
      rw [List.flatMap_cons, List.append_assoc] at same
      exact absurd same (escape_ne_quote letter _ _)
    | cons other others =>
      rw [List.flatMap_cons, List.flatMap_cons, List.append_assoc, List.append_assoc] at same
      obtain ⟨rfl, later⟩ := escape_inj same
      obtain ⟨rfl, ended⟩ := ih later
      exact ⟨rfl, ended⟩

theorem quote_inj {text other : String}
    (same : (quote text).toList ++ back = (quote other).toList ++ rest) :
    text = other ∧ back = rest := by
  simp only [quote, String.toList_ofList, List.cons_append, List.append_assoc] at same
  obtain ⟨letters, ended⟩ := escapes_inj (List.cons.inj same).2
  exact ⟨String.toList_injective letters, ended⟩

theorem takeWhile_toDigits (value : Nat) (ends : Ends back) :
    (Nat.toDigits 10 value ++ back).takeWhile Char.isDigit = Nat.toDigits 10 value := by
  have none : back.takeWhile Char.isDigit = [] := by
    cases back with
    | nil => rfl
    | cons letter back =>
      exact List.takeWhile_cons_of_neg (by rw [ends letter rfl]; decide)
  rw [List.takeWhile_append_of_pos fun _ => Numeral.isDigit_toDigits, none, List.append_nil]

theorem toDigits_append_inj {value count : Nat} (ends : Ends back) (endsRest : Ends rest)
    (same : Nat.toDigits 10 value ++ back = Nat.toDigits 10 count ++ rest) :
    value = count ∧ back = rest := by
  have digits := congrArg (List.takeWhile Char.isDigit) same
  rw [takeWhile_toDigits value ends, takeWhile_toDigits count endsRest] at digits
  rw [digits] at same
  exact ⟨Numeral.toDigits_inj digits, List.append_cancel_left same⟩

end Letters

section Parts
variable {α : Type} {text : α → List Char} {items others : List α} {back rest : List Char}

theorem ends_parts {filler : List Char} (items : List α) (back : List Char) :
    Ends (items.flatMap (fun item => ',' :: filler ++ text item) ++ '\n' :: back) := by
  cases items with
  | nil => exact ends_cons (by decide)
  | cons item items => exact ends_cons (by decide)

theorem separated_inj {filler : List Char} (read : ∀ item ∈ items, ReadAs text item)
    (same : items.flatMap (fun item => ',' :: filler ++ text item) ++ '\n' :: back =
      others.flatMap (fun item => ',' :: filler ++ text item) ++ '\n' :: rest) :
    items = others ∧ back = rest := by
  induction items generalizing others with
  | nil =>
    cases others with
    | nil => exact ⟨rfl, (List.cons.inj same).2⟩
    | cons other others => exact absurd (List.cons.inj same).1 (by decide)
  | cons item items ih =>
    cases others with
    | nil => exact absurd (List.cons.inj same).1 (by decide)
    | cons other others =>
      obtain ⟨readFirst, readRest⟩ := List.forall_mem_cons.mp read
      rw [List.flatMap_cons, List.flatMap_cons, List.append_assoc, List.append_assoc,
        List.append_assoc, List.append_assoc] at same
      obtain ⟨rfl, later⟩ := readFirst other _ _ (ends_parts items back) (ends_parts others rest)
        (List.append_cancel_left same)
      obtain ⟨rfl, ended⟩ := ih readRest later
      exact ⟨rfl, ended⟩

theorem bracketed_inj {depth : Nat} {opening closing : Char} (closed : closing ≠ '\n')
    (read : ∀ item ∈ items, ReadAs text item)
    (same : bracketed depth opening closing (items.map text) ++ back =
      bracketed depth opening closing (others.map text) ++ rest) :
    items = others ∧ back = rest := by
  cases items with
  | nil =>
    cases others with
    | nil => exact ⟨rfl, List.append_cancel_left same⟩
    | cons other others => exact absurd (List.cons.inj (List.cons.inj same).2).1 closed
  | cons item items =>
    cases others with
    | nil => exact absurd (List.cons.inj (List.cons.inj same).2).1.symm closed
    | cons other others =>
      obtain ⟨readFirst, readRest⟩ := List.forall_mem_cons.mp read
      simp only [bracketed, List.map_cons, intercalate_cons, List.flatMap_map, List.cons_append,
        List.append_assoc] at same
      have first := List.append_cancel_left (List.cons.inj same).2
      obtain ⟨rfl, later⟩ := readFirst other _ _ (ends_parts items _) (ends_parts others _) first
      obtain ⟨rfl, ended⟩ := separated_inj readRest later
      exact ⟨rfl, (List.cons.inj (List.append_cancel_left ended)).2⟩

end Parts

inductive Kind
  | number
  | text
  | array
  | object

def kind : Json → Kind
  | number _ => .number
  | text _ => .text
  | array _ => .array
  | object _ => .object

def kindAt (letter : Char) : Kind :=
  if letter = '"' then .text
  else if letter = '[' then .array
  else if letter = '\x7b' then .object
  else .number

theorem exists_first_letter (depth : Nat) (value : Json) :
    ∃ letter tail, written depth value = letter :: tail ∧ kindAt letter = value.kind := by
  have begun : ∀ (opening closing : Char) (parts : List (List Char)),
      ∃ tail, bracketed depth opening closing parts = opening :: tail := by
    intro opening closing parts
    cases parts with
    | nil => exact ⟨_, rfl⟩
    | cons part parts => exact ⟨_, rfl⟩
  cases value with
  | number value =>
    cases digits : Nat.toDigits 10 value with
    | nil => exact absurd digits Nat.toDigits_ne_nil
    | cons digit rest =>
      have listed : digit ∈ Nat.toDigits 10 value := digits ▸ List.mem_cons_self
      have other : ∀ letter : Char, letter.isDigit = false → digit ≠ letter := by
        rintro letter unlike rfl
        exact Numeral.not_mem_toDigits value unlike listed
      refine ⟨digit, rest, digits, ?_⟩
      rw [kindAt, if_neg (other '"' (by decide)), if_neg (other '[' (by decide)),
        if_neg (other '\x7b' (by decide)), kind]
  | text value => exact ⟨'"', _, by rw [written, quote, String.toList_ofList]; rfl, rfl⟩
  | array items =>
    obtain ⟨tail, text⟩ := begun '[' ']' (itemTexts (depth + 1) items)
    exact ⟨'[', tail, text, rfl⟩
  | object fields =>
    obtain ⟨tail, text⟩ := begun '\x7b' '\x7d' (fieldTexts (depth + 1) fields)
    exact ⟨'\x7b', tail, text, rfl⟩

theorem kind_eq {depth : Nat} {value other : Json} {back rest : List Char}
    (same : written depth value ++ back = written depth other ++ rest) :
    value.kind = other.kind := by
  obtain ⟨letter, tail, text, kinds⟩ := exists_first_letter depth value
  obtain ⟨letterOther, tailOther, textOther, kindsOther⟩ := exists_first_letter depth other
  rw [text, textOther] at same
  rw [← kinds, ← kindsOther, (List.cons.inj same).1]

theorem readAs_written (depth : Nat) (value : Json) : ReadAs (written depth) value := by
  -- The first letter tells the kind of the other value; brackets are read part by part.
  induction value using values_induction generalizing depth with
  | number value =>
    intro other back rest ends endsRest same
    have kinds := kind_eq same
    cases other with
    | number count =>
      obtain ⟨rfl, ended⟩ := toDigits_append_inj ends endsRest same
      exact ⟨rfl, ended⟩
    | _ => cases kinds
  | text value =>
    intro other back rest _ _ same
    have kinds := kind_eq same
    cases other with
    | text word =>
      obtain ⟨rfl, ended⟩ := quote_inj same
      exact ⟨rfl, ended⟩
    | _ => cases kinds
  | array items ih =>
    intro other back rest _ _ same
    have kinds := kind_eq same
    cases other with
    | array others =>
      rw [written, written, itemTexts_eq, itemTexts_eq] at same
      obtain ⟨rfl, ended⟩ := bracketed_inj (by decide)
        (fun item member => ih item member (depth + 1)) same
      exact ⟨rfl, ended⟩
    | _ => cases kinds
  | object fields ih =>
    intro other back rest _ _ same
    have kinds := kind_eq same
    cases other with
    | object others =>
      rw [written, written, fieldTexts_eq, fieldTexts_eq] at same
      -- Of a field the key is read first; the value behind it is a member of the object.
      have read : ∀ field ∈ fields, ReadAs (fieldText (depth + 1)) field := by
        intro field member other back rest ends endsRest same
        simp only [fieldText, List.append_assoc] at same
        obtain ⟨key, later⟩ := quote_inj same
        obtain ⟨value, ended⟩ := ih field member (depth + 1) _ _ _ ends endsRest
          (List.append_cancel_left later)
        exact ⟨Prod.ext key value, ended⟩
      obtain ⟨rfl, ended⟩ := bracketed_inj (by decide) read same
      exact ⟨rfl, ended⟩
    | _ => cases kinds

theorem Printed.unique {output : String} {value other : Json} (printed : Printed output value)
    (again : Printed output other) : value = other :=
  (readAs_written 0 value other _ _ (ends_cons (by decide)) (ends_cons (by decide))
    (printed.symm.trans again)).1

end EngineActions.Json
