import EngineActions.Proofs.TableCheck
import EngineActions.Shipped
import EngineActions.Text.Numeral
import Mathlib.Data.List.Forall2

namespace EngineActions

def startsWord (code : Nat) : Bool :=
  (65 ≤ code && code ≤ 90) || (97 ≤ code && code ≤ 122) || code == 95

def continuesWord (code : Nat) : Bool := startsWord code || (48 ≤ code && code ≤ 57)

structure Identifier (name : String) : Prop where
  parts : ∃ first rest, name.toList = first :: rest ∧ startsWord first.toNat = true ∧
    ∀ letter ∈ rest, continuesWord letter.toNat = true

def isIdentifier (name : String) : Bool :=
  match name.toByteArray.data.toList with
  | [] => false
  | first :: rest => startsWord first.toNat && rest.all fun byte => continuesWord byte.toNat

theorem bytes_eq_flatMap (name : String) :
    name.toByteArray.data.toList = name.toList.flatMap String.utf8EncodeChar := by
  rw [← String.utf8Encode_toList, List.utf8Encode, List.toList_data_toByteArray]

theorem lt_of_continuesWord {code : Nat} (word : continuesWord code = true) : code < 128 := by
  simp only [continuesWord, startsWord, Bool.or_eq_true, Bool.and_eq_true, decide_eq_true_eq,
    beq_iff_eq] at word
  omega

theorem continuesWord_of_startsWord {code : Nat} (word : startsWord code = true) :
    continuesWord code = true := by
  rw [continuesWord, word, Bool.true_or]

theorem utf8EncodeChar_of_lt {letter : Char} (ascii : letter.toNat < 128) :
    String.utf8EncodeChar letter = [.ofNat letter.toNat] := by
  apply String.utf8EncodeChar_eq_singleton
  rw [Char.utf8Size_eq_one_iff, UInt32.le_iff_toNat_le]
  exact Nat.le_of_lt_succ ascii

theorem utf8EncodeChar_of_le {letter : Char} (beyond : 128 ≤ letter.toNat) :
    ∃ byte bytes, String.utf8EncodeChar letter = byte :: bytes ∧ 128 ≤ byte.toNat := by
  have wide : ¬letter.val.toNat ≤ 127 := Nat.not_le.mpr beyond
  simp only [String.utf8EncodeChar, if_neg wide]
  split
  · refine ⟨_, _, rfl, ?_⟩
    simp
    omega
  · split
    · refine ⟨_, _, rfl, ?_⟩
      simp
      omega
    · refine ⟨_, _, rfl, ?_⟩
      simp
      omega

theorem toNat_of_utf8EncodeChar {letter : Char} {byte : UInt8} {bytes : List UInt8}
    (encoded : String.utf8EncodeChar letter = byte :: bytes)
    (word : continuesWord byte.toNat = true) : letter.toNat = byte.toNat := by
  rcases Nat.lt_or_ge letter.toNat 128 with ascii | beyond
  · rw [utf8EncodeChar_of_lt ascii] at encoded
    rw [← (List.cons.inj encoded).1, UInt8.toNat_ofNat', Nat.mod_eq_of_lt (by omega)]
  · obtain ⟨head, tail, same, high⟩ := utf8EncodeChar_of_le beyond
    rw [encoded] at same
    rw [← (List.cons.inj same).1] at high
    exact absurd (lt_of_continuesWord word) (Nat.not_lt.mpr high)

theorem identifier_of_isIdentifier {name : String} (checked : isIdentifier name = true) :
    Identifier name := by
  rw [isIdentifier, bytes_eq_flatMap] at checked
  cases letters : name.toList with
  | nil =>
    rw [letters, List.flatMap_nil] at checked
    cases checked
  | cons first rest =>
    obtain ⟨byte, bytes, encoded⟩ := List.exists_cons_of_ne_nil String.utf8EncodeChar_ne_nil
    rw [letters, List.flatMap_cons, encoded, List.cons_append, Bool.and_eq_true,
      List.all_append, Bool.and_eq_true, List.all_eq_true, List.all_eq_true] at checked
    obtain ⟨starts, _, continued⟩ := checked
    refine ⟨first, rest, letters, ?_, ?_⟩
    · rwa [toNat_of_utf8EncodeChar encoded (continuesWord_of_startsWord starts)]
    · intro letter member
      obtain ⟨byte, bytes, encoded⟩ := List.exists_cons_of_ne_nil String.utf8EncodeChar_ne_nil
      have written : byte ∈ String.utf8EncodeChar letter := by
        rw [encoded]
        exact List.mem_cons_self
      have word := continued byte (List.mem_flatMap.mpr ⟨letter, member, written⟩)
      rwa [toNat_of_utf8EncodeChar encoded word]

namespace Identifier
variable {name : String}

theorem continuesWord_of_mem (identifier : Identifier name) {letter : Char}
    (member : letter ∈ name.toList) : continuesWord letter.toNat = true := by
  obtain ⟨first, rest, letters, starts, continued⟩ := identifier.parts
  rw [letters] at member
  rcases List.mem_cons.mp member with rfl | later
  · exact continuesWord_of_startsWord starts
  · exact continued letter later

theorem unbroken (identifier : Identifier name) : '\n' ∉ name.toList :=
  fun member => absurd (identifier.continuesWord_of_mem member) (by decide)

theorem ne_empty (identifier : Identifier name) : name ≠ "" := by
  rintro rfl
  obtain ⟨first, rest, letters, _⟩ := identifier.parts
  cases letters

theorem not_literal (identifier : Identifier name) (value : Int) :
    ¬Numeral.Literal name.toList value := by
  obtain ⟨first, rest, letters, starts, _⟩ := identifier.parts
  rw [letters]
  intro number
  cases number with
  | plain digits given clean =>
    have digit : 48 ≤ first.toNat ∧ first.toNat ≤ 57 :=
      Char.isDigit_iff_toNat.mp (clean first List.mem_cons_self)
    simp only [startsWord, Bool.or_eq_true, Bool.and_eq_true, decide_eq_true_eq,
      beq_iff_eq] at starts
    omega
  | plus digits given clean => exact absurd starts (by decide)
  | minus digits given clean => exact absurd starts (by decide)

end Identifier

namespace Shipped

-- A number only to tell names apart: on the shipped tables no two agree, so one pass over a set of
-- bits replaces a comparison of all pairs.
def nameCode (name : String) : Nat :=
  name.toByteArray.data.toList.foldr (fun byte code => 131 * code + byte.toNat) 0 % 2 ^ 18

def freshCodes (met : Nat) : List Nat → Bool
  | [] => true
  | code :: rest => !met.testBit code && freshCodes (met ||| 1 <<< code) rest

theorem freshCodes_sound {met : Nat} {codes : List Nat} (fresh : freshCodes met codes = true) :
    codes.Nodup ∧ ∀ code ∈ codes, met.testBit code = false := by
  induction codes generalizing met with
  | nil => simp
  | cons first rest ih =>
    rw [freshCodes, Bool.and_eq_true, Bool.not_eq_true'] at fresh
    obtain ⟨distinct, unmet⟩ := ih fresh.2
    have apart : ∀ code ∈ rest, met.testBit code = false ∧ first ≠ code := by
      intro code member
      have bit := unmet code member
      simpa [Nat.testBit_or, Nat.one_shiftLeft, Nat.testBit_two_pow] using bit
    refine ⟨List.nodup_cons.mpr ⟨fun again => (apart first again).2 rfl, distinct⟩, ?_⟩
    intro code member
    rcases List.mem_cons.mp member with rfl | later
    · exact fresh.1
    · exact (apart code later).1

theorem names_checked (revision : Revision) :
    (freshCodes 0 ((rows revision).map fun row => nameCode row.name) &&
      (rows revision).all fun row => isIdentifier row.name) = true := by
  cases revision <;> decide +kernel

theorem freshCodes_rows (revision : Revision) :
    freshCodes 0 ((rows revision).map fun row => nameCode row.name) = true :=
  (Bool.and_eq_true_iff.mp (names_checked revision)).1

theorem identifier_row (revision : Revision) {row : Declaration} (stored : row ∈ rows revision) :
    Identifier row.name :=
  identifier_of_isIdentifier
    (List.all_eq_true.mp (Bool.and_eq_true_iff.mp (names_checked revision)).2 row stored)

theorem defect?_rows (revision : Revision) :
    ((rows revision).zipIdx.all fun entry =>
      ((Action.ofDeclaration .full entry.1).defect? entry.2).isNone) = true := by
  cases revision <;> decide +kernel

theorem names_distinct (revision : Revision) {first second : Nat} {left right : Declaration}
    (storedLeft : (rows revision)[first]? = some left)
    (storedRight : (rows revision)[second]? = some right) (same : left.name = right.name) :
    first = second := by
  have distinct := (freshCodes_sound (freshCodes_rows revision)).1
  have inside : first < ((rows revision).map fun row => nameCode row.name).length := by
    rw [List.length_map]
    exact (List.getElem?_eq_some_iff.mp storedLeft).1
  apply (List.getElem?_inj inside distinct).mp
  rw [List.getElem?_map, List.getElem?_map, storedLeft, storedRight, Option.map_some,
    Option.map_some, same]

theorem row_sound (revision : Revision) {position : Nat} {row : Declaration}
    (stored : (rows revision)[position]? = some row) : row.Sound position := by
  have member := List.mk_mem_zipIdx_iff_getElem?.mpr stored
  have checked := List.all_eq_true.mp (defect?_rows revision) _ member
  rw [Option.isNone_iff_eq_none, Action.defect?_eq_none_iff] at checked
  exact (Action.ofDeclaration_wellFormed_iff .full row position).mp checked

theorem allSound_rows (detail : Detail) (revision : Revision) :
    Declaration.AllSound detail (rows revision) :=
  ⟨fun _ _ stored => row_sound revision stored,
    fun _ _ _ _ _ storedLeft storedRight same _ =>
      names_distinct revision storedLeft storedRight same⟩

theorem wellFormed_catalog (detail : Detail) (revision : Revision) :
    (catalog detail revision).WellFormed :=
  (Catalog.wellFormed_ofDeclarations_iff detail revision (rows revision)).mpr
    (allSound_rows detail revision)

theorem check_catalog (detail : Detail) (revision : Revision) :
    (catalog detail revision).check = .ok () :=
  (Catalog.check_exact _).mpr (wellFormed_catalog detail revision)

theorem count_catalog (detail : Detail) (revision : Revision) :
    (catalog detail revision).count = revision.actionCount := by
  rw [catalog, Catalog.count_ofDeclarations]
  cases revision <;> decide +kernel

theorem lt_actionCount {detail : Detail} {revision : Revision} {position : Nat} {action : Action}
    (stored : (catalog detail revision).get? position = some action) :
    position < revision.actionCount := by
  rw [← count_catalog detail revision]
  exact (List.getElem?_eq_some_iff.mp stored).1

theorem identifier_name {detail : Detail} (named : detail.names = true) {revision : Revision}
    {position : Nat} {action : Action}
    (stored : (catalog detail revision).get? position = some action) :
    Identifier action.name := by
  rw [catalog, Catalog.get?_ofDeclarations] at stored
  obtain ⟨row, found, rfl⟩ := Option.map_eq_some_iff.mp stored
  rw [Action.ofDeclaration, if_pos named]
  exact identifier_row revision (List.mem_of_getElem? found)

theorem name_ne_empty {detail : Detail} (named : detail.names = true) {revision : Revision}
    {position : Nat} {action : Action}
    (stored : (catalog detail revision).get? position = some action) : action.name ≠ "" :=
  (identifier_name named stored).ne_empty

theorem unbroken_name {detail : Detail} {revision : Revision} {position : Nat} {action : Action}
    (stored : (catalog detail revision).get? position = some action) :
    '\n' ∉ action.name.toList := by
  cases named : detail.names with
  | true => exact (identifier_name named stored).unbroken
  | false =>
    rw [catalog, Catalog.get?_ofDeclarations] at stored
    obtain ⟨row, _, rfl⟩ := Option.map_eq_some_iff.mp stored
    simp [Action.ofDeclaration, named]

end Shipped

structure OneLine (text : String) : Prop where
  filled : text ≠ ""
  unbroken : '\n' ∉ text.toList

namespace Shipped

-- A closed text gives up its characters slowly. Where they are written out beside it they only have
-- to be recognised.
theorem oneLine_of_spelled {rows : List Declaration} {table : List (List Char)}
    (spelled : List.Forall₂ (fun row chars => row.prototype = String.ofList chars) rows table)
    (clean : (table.all fun chars =>
      !chars.isEmpty && chars.all fun letter => Nat.ble 32 letter.toNat) = true) :
    ∀ row ∈ rows, OneLine row.prototype := by
  induction spelled with
  | nil => simp
  | @cons row chars rows table same _ ih =>
    rw [List.all_cons, Bool.and_eq_true, Bool.and_eq_true, List.all_eq_true] at clean
    obtain ⟨⟨given, printable⟩, rest⟩ := clean
    refine List.forall_mem_cons.mpr ⟨?_, ih rest⟩
    rw [same]
    constructor
    · intro blank
      have none : chars = [] := by simpa using congrArg String.toList blank
      rw [none] at given
      cases given
    · rw [String.toList_ofList]
      intro member
      exact absurd (printable '\n' member) (by decide)

theorem prototype_row (revision : Revision) : ∀ row ∈ rows revision, OneLine row.prototype := by
  cases revision with
  | nwn1 =>
    simp only [rows, List.forall_mem_append]
    refine ⟨⟨⟨?_, ?_⟩, ?_⟩, ?_⟩
    all_goals
      apply oneLine_of_spelled
      · dsimp only [nwn1From0, nwn1From212, nwn1From424, nwn1From636]
        repeat
          apply List.Forall₂.cons
          · rfl
        exact .nil
      · decide +kernel
  | nwn2 =>
    simp only [rows, List.forall_mem_append]
    refine ⟨⟨⟨⟨?_, ?_⟩, ?_⟩, ?_⟩, ?_⟩
    all_goals
      apply oneLine_of_spelled
      · dsimp only [nwn2From0, nwn2From212, nwn2From424, nwn2From636, nwn2From848]
        repeat
          apply List.Forall₂.cons
          · rfl
        exact .nil
      · decide +kernel

theorem oneLine_prototype {detail : Detail} (carried : detail.prototypes = true)
    {revision : Revision} {position : Nat} {action : Action}
    (stored : (catalog detail revision).get? position = some action) :
    OneLine action.prototype := by
  rw [catalog, Catalog.get?_ofDeclarations] at stored
  obtain ⟨row, found, rfl⟩ := Option.map_eq_some_iff.mp stored
  rw [Action.ofDeclaration, if_pos carried]
  exact prototype_row revision row (List.mem_of_getElem? found)

end Shipped
end EngineActions
