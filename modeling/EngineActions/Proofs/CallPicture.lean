import EngineActions.Proofs.ActionReference
import EngineActions.Proofs.Columns
import EngineActions.Proofs.CommandOutcome
import EngineActions.Proofs.LineText
import EngineActions.Proofs.ShippedTables

namespace EngineActions

@[simp]
theorem toString_text (text : String) : toString text = text := rfl

-- The numbers and names that a description and every layout of a call are written from.
structure Picture where
  head : String
  prototype : String
  required : Nat
  returned : Nat
  parameters : List ValueType
  sizes : List Nat

namespace Picture

def indexColumn (index : Nat) : String :=
  if index < 10 then s!" {index}" else s!"{index}"

def typeColumn : ValueType → String
  | .void => "void        "
  | .int => "int         "
  | .float => "float       "
  | .string => "string      "
  | .object => "object      "
  | .vector => "vector      "
  | .action => "action      "
  | .effect => "effect      "
  | .event => "event       "
  | .location => "location    "
  | .talent => "talent      "
  | .itemProperty => "itemproperty"

def signText : Int → String
  | .ofNat value => s!"+{value}"
  | .negSucc below => s!"-{below + 1}"

def sizeLine (index : Nat) (parameter : ValueType × Nat) : String :=
  s!"       {indexColumn index}  {typeColumn parameter.1} cumulative {parameter.2}"

def offsetLine (index : Nat) (parameter : ValueType × Int) : String :=
  s!"  arg {indexColumn index}  {typeColumn parameter.1} sp{signText parameter.2}"

def described (picture : Picture) : List String :=
  [picture.head, s!"       {picture.prototype}",
    s!"       parameters {picture.required}..={picture.parameters.length}, returns {picture.returned} bytes"] ++
    (picture.parameters.zip picture.sizes).mapIdx sizeLine

def offsets (picture : Picture) : List Int := picture.sizes.map fun (size : Nat) => -(size : Int)

def unwound (picture : Picture) (supplied : Nat) : Int :=
  -((picture.offsets.take supplied).getLast?.getD 0)

def laidOut (picture : Picture) (supplied : Nat) : List String :=
  picture.head :: ((picture.parameters.zip picture.offsets).take supplied).mapIdx offsetLine ++
    [s!"  unwind      {picture.unwound supplied} bytes",
      s!"  stack delta {signText (picture.returned - picture.unwound supplied)} bytes"]

end Picture

-- The sizes are counted from the types; what a row has stored is no part of it.
def Action.picture (action : Action) : Picture where
  head := action.summary
  prototype := action.prototype
  required := action.required
  returned := action.returns.stackSize.toNat
  parameters := action.parameters
  sizes := (List.range action.accepted).map fun index =>
    stackBytes (action.parameters.take (index + 1))

namespace Action

theorem indexText_eq (index : Nat) : indexText index = Picture.indexColumn index := by
  have digits : (toString index).toList = Nat.toDigits 10 index := by
    rw [Nat.toString_eq_ofList_toDigits, String.toList_ofList]
  have filled : indexText index = String.ofList
      (List.replicate (2 - (Nat.toDigits 10 index).length) ' ' ++ Nat.toDigits 10 index) := by
    rw [indexText, Field.pad, digits, Field.place_rightAligned]
  have single : (Nat.toDigits 10 index).length ≤ 1 ↔ index < 10 ^ 1 :=
    Nat.length_toDigits_le_iff (by decide) (by decide)
  have some : 0 < (Nat.toDigits 10 index).length := Nat.length_toDigits_pos
  apply String.toList_injective
  rw [filled, String.toList_ofList, Picture.indexColumn]
  split
  · have room : 2 - (Nat.toDigits 10 index).length = 1 := by omega
    rw [room]
    simp
  · have full : 2 - (Nat.toDigits 10 index).length = 0 := by omega
    rw [full]
    simp

theorem typeText_eq (type : ValueType) : typeText type = Picture.typeColumn type := by
  cases type <;> decide

theorem signed_eq (value : Int) : Numeral.signed value = Picture.signText value := by
  cases value with
  | ofNat value =>
    have least : ¬Int.ofNat value < 0 := Int.not_lt.mpr (Int.natCast_nonneg value)
    rw [Numeral.signed, if_neg least]
    rfl
  | negSucc below =>
    rw [Numeral.signed, if_pos (Int.negSucc_lt_zero below)]
    rfl

theorem sizeLine_eq (index : Nat) (parameter : ValueType × UInt32) :
    sizeLine index parameter = Picture.sizeLine index (parameter.1, parameter.2.toNat) := by
  have written : sizeLine index parameter =
      "       " ++ indexText index ++ "  " ++ typeText parameter.1 ++ " cumulative " ++
        toString parameter.2.toNat := rfl
  rw [written, indexText_eq, typeText_eq]
  rfl

theorem argumentLine_eq {action : Action} {index : Nat} {offset : Int32} (type : ValueType)
    (placed : action.argumentOffset? index = some offset) :
    action.argumentLine index type = Picture.offsetLine index (type, offset.toInt) := by
  have written : action.argumentLine index type =
      "  arg " ++ indexText index ++ "  " ++ typeText type ++ " sp" ++
        Numeral.signed ((action.argumentOffset? index).getD 0).toInt := rfl
  rw [written, indexText_eq, typeText_eq, signed_eq, placed]
  rfl

theorem deltaLine_eq (delta : Int32) :
    deltaLine delta = s!"  stack delta {Picture.signText delta.toInt} bytes" := by
  have written : deltaLine delta =
      "  stack delta " ++ Numeral.signed delta.toInt ++ " bytes" := rfl
  rw [written, signed_eq]
  rfl

variable {action : Action} {supplied : Nat}

theorem length_described (action : Action) :
    action.picture.described.length = 3 + action.accepted := by
  simp [Picture.described, picture, accepted]
  omega

theorem length_laidOut (most : supplied ≤ action.accepted) :
    (action.picture.laidOut supplied).length = supplied + 3 := by
  simp [Picture.laidOut, Picture.offsets, picture, accepted] at most ⊢
  omega

theorem getElem?_offsets {index : Nat} (inside : index < action.accepted) :
    action.picture.offsets[index]? =
      some (-(stackBytes (action.parameters.take (index + 1)) : Int)) := by
  rw [Picture.offsets, List.getElem?_map, picture, List.getElem?_map,
    List.getElem?_range inside]
  rfl

theorem unwound_eq (most : supplied ≤ action.accepted) :
    action.picture.unwound supplied = stackBytes (action.parameters.take supplied) := by
  cases supplied with
  | zero => rfl
  | succ last =>
    have whole : last + 1 ≤ action.picture.offsets.length := by
      simpa [Picture.offsets, picture] using most
    rw [Picture.unwound, List.getLast?_eq_getElem?, List.length_take, Nat.min_eq_left whole,
      Nat.add_sub_cancel, List.getElem?_take_of_lt (Nat.lt_succ_self last),
      getElem?_offsets most, Option.getD_some, Int.neg_neg]

namespace WellFormed
variable {position : Nat} {popped : UInt32} {delta : Int32}

theorem sizes_picture (valid : action.WellFormed position) :
    action.picture.sizes = action.sizes.map UInt32.toNat := by
  apply List.ext_getElem?
  intro index
  rw [picture, List.getElem?_map, List.getElem?_map]
  rcases Nat.lt_or_ge index action.accepted with inside | outside
  · obtain ⟨size, stored, bytes⟩ := valid.stored_last inside
    rw [List.getElem?_range inside, stored, Option.map_some, Option.map_some, bytes]
  · have short : action.sizes.length ≤ index := by
      rwa [valid.sizes_eq, length_cumulativeSizes]
    rw [List.getElem?_eq_none (by simpa using outside), List.getElem?_eq_none short]
    rfl

theorem description_eq (valid : action.WellFormed position) (given : action.prototype ≠ "") :
    action.description = action.picture.described := by
  have lines : (action.parameters.zip action.sizes).mapIdx sizeLine =
      (action.picture.parameters.zip action.picture.sizes).mapIdx Picture.sizeLine := by
    apply List.ext_getElem?
    intro index
    rw [valid.sizes_picture, List.zip_map_right, List.getElem?_mapIdx, List.getElem?_mapIdx,
      List.getElem?_map, Option.map_map]
    exact congrArg (Option.map · _) (funext (sizeLine_eq index))
  rw [description, prototypeLines, if_neg given, lines]
  rfl

theorem argumentLines_eq (valid : action.WellFormed position) (most : supplied ≤ action.accepted) :
    action.argumentLines supplied =
      ((action.picture.parameters.zip action.picture.offsets).take supplied).mapIdx
        Picture.offsetLine := by
  apply List.ext_getElem?
  intro index
  rw [argumentLines, List.getElem?_mapIdx, List.getElem?_mapIdx, List.getElem?_take,
    List.getElem?_take]
  split
  · rename_i before
    have inside : index < action.accepted := Nat.lt_of_lt_of_le before most
    obtain ⟨offset, placed, start⟩ := valid.argumentOffset?_exact inside
    have typed : action.parameters[index]? = some action.parameters[index] :=
      List.getElem?_eq_getElem inside
    have paired : (action.picture.parameters.zip action.picture.offsets)[index]? =
        some (action.parameters[index],
          -(stackBytes (action.parameters.take (index + 1)) : Int)) :=
      List.getElem?_zip_eq_some.mpr ⟨typed, getElem?_offsets inside⟩
    rw [typed, paired, Option.map_some, Option.map_some, argumentLine_eq _ placed, start]
  · rfl

theorem layout_eq (valid : action.WellFormed position) (most : supplied ≤ action.accepted)
    (counted : popped.toNat = stackBytes (action.parameters.take supplied))
    (grown : delta.toInt =
      action.returnSize.toNat - (stackBytes (action.parameters.take supplied) : Int)) :
    action.summary :: action.argumentLines supplied ++ [unwindLine popped, deltaLine delta] =
      action.picture.laidOut supplied := by
  have unwind : unwindLine popped =
      "  unwind      " ++ toString (action.picture.unwound supplied) ++ " bytes" := by
    rw [unwound_eq most, ← counted]
    rfl
  have net : (action.picture.returned : Int) - action.picture.unwound supplied =
      delta.toInt := by
    rw [unwound_eq most, grown]
    rfl
  have laid : action.picture.laidOut supplied =
      action.summary :: ((action.picture.parameters.zip action.picture.offsets).take supplied).mapIdx
        Picture.offsetLine ++ ["  unwind      " ++ toString (action.picture.unwound supplied) ++
          " bytes", s!"  stack delta {Picture.signText (action.picture.returned -
            action.picture.unwound supplied)} bytes"] := rfl
  rw [laid, valid.argumentLines_eq most, ← unwind, net, deltaLine_eq]

end WellFormed

theorem unbroken_indexColumn (index : Nat) : '\n' ∉ (Picture.indexColumn index).toList := by
  rw [← indexText_eq]
  exact unbroken_pad (by decide) (by simp [unbroken_toDigits])

theorem unbroken_typeColumn (type : ValueType) : '\n' ∉ (Picture.typeColumn type).toList := by
  cases type <;> decide

theorem unbroken_signText (value : Int) : '\n' ∉ (Picture.signText value).toList := by
  cases value <;> simp [Picture.signText, unbroken_toDigits]

theorem unbroken_described (name : '\n' ∉ action.name.toList)
    (prototype : OneLine action.prototype) :
    ∀ line ∈ action.picture.described, '\n' ∉ line.toList := by
  intro line member
  rcases List.mem_append.mp member with top | counted
  · simp only [List.mem_cons, List.not_mem_nil, or_false] at top
    rcases top with rfl | rfl | rfl
    · exact unbroken_summary name
    · simp [picture, prototype.unbroken]
    · simp [unbroken_toDigits]
  · obtain ⟨index, inside, rfl⟩ := List.mem_mapIdx.mp counted
    simp [Picture.sizeLine, unbroken_indexColumn, unbroken_typeColumn, unbroken_toDigits]

theorem unbroken_laidOut (name : '\n' ∉ action.name.toList) (most : supplied ≤ action.accepted) :
    ∀ line ∈ action.picture.laidOut supplied, '\n' ∉ line.toList := by
  intro line member
  rw [Picture.laidOut, unwound_eq most, List.mem_append, List.mem_cons] at member
  rcases member with (rfl | placed) | bottom
  · exact unbroken_summary name
  · obtain ⟨index, inside, rfl⟩ := List.mem_mapIdx.mp placed
    simp [Picture.offsetLine, unbroken_indexColumn, unbroken_typeColumn, unbroken_signText]
  · simp only [List.mem_cons, List.not_mem_nil, or_false] at bottom
    rcases bottom with rfl | rfl
    · have written : toString (stackBytes (action.parameters.take supplied) : Int) =
          toString (stackBytes (action.parameters.take supplied)) := rfl
      simp [written, unbroken_toDigits]
    · simp [unbroken_signText]

end Action

theorem Catalog.getElem?_listed {α : Type} {catalog : Catalog} {position : Nat} {action : Action}
    (stored : catalog.get? position = some action) (listed : Action → α) :
    (catalog.actions.map listed)[position]? = some (listed action) := by
  rw [List.getElem?_map]
  exact congrArg (Option.map listed) stored

namespace Shipped
variable {read : Reader} {revision : Revision} {text : String} {action : Action}
  {arguments : List String}

def Prints (read : Reader) (arguments lines : List String) : Prop :=
  ∃ report, read.answer? (catalog .full) arguments = some report ∧ report.exitCode = 0 ∧
    report.errorOutput = "" ∧ Lined report.output lines

theorem Prints.of_completed {command : Command} {lines : List String}
    (completed : command.Completed (catalog .full) lines)
    (understood : read.command? arguments = some command)
    (unbroken : ∀ line ∈ lines, '\n' ∉ line.toList) : Prints read arguments lines :=
  ⟨_, completed.answer?_eq understood, rfl, rfl, Report.lined_output unbroken⟩

theorem prints_list (understood : read.command? arguments = some (.list revision false)) :
    Prints read arguments ((catalog .full revision).actions.map Action.summary) := by
  refine .of_completed (.list revision false) understood ?_
  intro line member
  obtain ⟨action, listed, rfl⟩ := List.mem_map.mp member
  obtain ⟨position, stored⟩ := List.mem_iff_getElem?.mp listed
  exact Action.unbroken_summary (unbroken_name stored)

theorem prints_describe (found : (catalog .full revision).find (.ofText text) = .ok action)
    (understood : read.command? arguments = some (.describe text revision false)) :
    Prints read arguments action.picture.described := by
  obtain ⟨position, stored⟩ := Catalog.get?_of_find found
  have valid := (wellFormed_catalog .full revision).rows position action stored
  have prototype := oneLine_prototype rfl stored
  have completed : (Command.describe text revision false).Completed (catalog .full) _ :=
    .describe text revision false action found
  rw [if_neg Bool.false_ne_true, valid.description_eq prototype.filled] at completed
  exact .of_completed completed understood
    (Action.unbroken_described (unbroken_name stored) prototype)

theorem prints_layout {supplied : Nat}
    (found : (catalog .full revision).find (.ofText text) = .ok action)
    (understood : read.command? arguments = some (.layout text supplied revision))
    (least : action.required ≤ supplied) (most : supplied ≤ action.accepted) :
    Prints read arguments (action.picture.laidOut supplied) := by
  obtain ⟨position, stored⟩ := Catalog.get?_of_find found
  have valid := (wellFormed_catalog .full revision).rows position action stored
  obtain ⟨popped, sized, counted⟩ := valid.argumentsSize_exact least most
  obtain ⟨delta, summed, grown⟩ := valid.stackDelta_exact least most
  have completed : (Command.layout text supplied revision).Completed (catalog .full) _ :=
    .layout text supplied revision action popped delta found least most sized summed
  rw [valid.layout_eq most counted grown] at completed
  exact .of_completed completed understood (Action.unbroken_laidOut (unbroken_name stored) most)

theorem layout_refused {supplied : Nat}
    (found : (catalog .full revision).find (.ofText text) = .ok action)
    (understood : read.command? arguments = some (.layout text supplied revision))
    (outside : ¬(action.required ≤ supplied ∧ supplied ≤ action.accepted)) :
    ∃ report, read.answer? (catalog .full) arguments = some report ∧ report.exitCode = 1 ∧
      report.output = "" := by
  have meant := find_eq_iff.mp found
  have refused : ∃ said,
      (Command.layout text supplied revision).Refused (catalog .full) said := by
    rcases Nat.lt_or_ge supplied action.required with few | least
    · exact ⟨_, .tooFew text supplied revision action meant few⟩
    · exact ⟨_, .tooMany text supplied revision action meant
        (Nat.lt_of_not_le fun most => outside ⟨least, most⟩)⟩
  obtain ⟨said, refused⟩ := refused
  obtain ⟨code, silent, _⟩ := refused.ends (wellFormed_catalog .full) fun _ _ _ => name_ne_empty rfl
  exact ⟨_, by rw [Reader.answer?, understood, Option.map_some], code, silent⟩

end Shipped

-- The list, a description and a layout are written from one picture: a layout takes the sizes of
-- the description below the top of the stack, pops the last of them and leaves what is returned. A
-- count that is not taken leaves nothing written.
theorem call_picture_exact (read : Reader) (revision : Revision) (text : String)
    (action : Action) (found : (Shipped.catalog .full revision).find (.ofText text) = .ok action) :
    (∀ arguments, read.command? arguments = some (.list revision false) →
      ∃ lines, Shipped.Prints read arguments lines ∧
        lines[action.ordinal]? = some action.picture.head) ∧
    (∀ arguments, read.command? arguments = some (.describe text revision false) →
      Shipped.Prints read arguments action.picture.described ∧
        action.picture.described.length = 3 + action.accepted) ∧
    ∀ (arguments : List String) (supplied : Nat),
      read.command? arguments = some (.layout text supplied revision) →
      (action.required ≤ supplied ∧ supplied ≤ action.accepted →
        Shipped.Prints read arguments (action.picture.laidOut supplied) ∧
          (action.picture.laidOut supplied).length = supplied + 3) ∧
      (¬(action.required ≤ supplied ∧ supplied ≤ action.accepted) →
        ∃ report, read.answer? (Shipped.catalog .full) arguments = some report ∧
          report.exitCode = 1 ∧ report.output = "") := by
  refine ⟨?_, ?_, ?_⟩
  · intro arguments understood
    obtain ⟨position, stored⟩ := Catalog.get?_of_find found
    have placed := ((Shipped.wellFormed_catalog .full revision).rows position action stored).placed
    refine ⟨_, Shipped.prints_list understood, ?_⟩
    rw [placed]
    exact Catalog.getElem?_listed stored Action.summary
  · intro arguments understood
    exact ⟨Shipped.prints_describe found understood, action.length_described⟩
  · intro arguments supplied understood
    refine ⟨?_, Shipped.layout_refused found understood⟩
    rintro ⟨least, most⟩
    exact ⟨Shipped.prints_layout found understood least most, Action.length_laidOut most⟩

theorem partial_call_laid_out_and_surplus_refused :
    Shipped.Prints .conventional ["layout", "79", "-a2"]
      ["   79  effect EffectDamage(int, [int], [int], [int])",
        "  arg  0  int          sp-4", "  arg  1  int          sp-8",
        "  unwind      8 bytes", "  stack delta -4 bytes"] ∧
    ∃ report, respond? (Shipped.catalog .full) ["layout", "--args=5", "79"] = some report ∧
      report.exitCode = 1 ∧ report.output = "" := by
  obtain ⟨action, found, lines, most⟩ : ∃ action,
      (Shipped.catalog .full .nwn2).find (.ofText "79") = .ok action ∧
      action.picture.laidOut 2 =
        ["   79  effect EffectDamage(int, [int], [int], [int])",
          "  arg  0  int          sp-4", "  arg  1  int          sp-8",
          "  unwind      8 bytes", "  stack delta -4 bytes"] ∧
      (action.required ≤ 2 ∧ 2 ≤ action.accepted ∧ action.accepted < 5) :=
    ⟨_, rfl, by decide +kernel, by decide +kernel⟩
  obtain ⟨_, _, layouts⟩ := call_picture_exact .conventional .nwn2 "79" action found
  have printed := (layouts ["layout", "79", "-a2"] 2 (by decide +kernel)).1 ⟨most.1, most.2.1⟩
  rw [lines] at printed
  exact ⟨printed.1, (layouts ["layout", "--args=5", "79"] 5 (by decide +kernel)).2 (by omega)⟩

end EngineActions
