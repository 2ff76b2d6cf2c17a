import EngineActions.Proofs.CallSites

namespace EngineActions

-- Cells from the bottom up, the top at the end. What a cell holds is left open.
abbrev OperandStack (Cell : Type) := List Cell

namespace OperandStack
variable {Cell : Type}

def height (stack : OperandStack Cell) : Nat := cellSize.toNat * stack.length

def push (stack : OperandStack Cell) (value : List Cell) : OperandStack Cell := stack ++ value

def pushArguments (stack : OperandStack Cell) (arguments : List (List Cell)) : OperandStack Cell :=
  arguments.foldr (fun value rest => rest.push value) stack

-- Addresses count bytes from the bottom. Nothing is read between two cells or past the top.
def read? (stack : OperandStack Cell) (address : Int) (count : Nat) : Option (List Cell) :=
  let start := (address / cellSize.toNat).toNat
  if 0 ≤ address ∧ address % cellSize.toNat = 0 ∧ start + count ≤ stack.length then
    some ((stack.drop start).take count)
  else none

def pop? (stack : OperandStack Cell) (bytes : Nat) : Option (OperandStack Cell) :=
  if bytes % cellSize.toNat = 0 ∧ bytes ≤ stack.height then
    some (stack.take (stack.length - bytes / cellSize.toNat))
  else none

theorem pushArguments_nil (stack : OperandStack Cell) : stack.pushArguments [] = stack := rfl

theorem pushArguments_cons (stack : OperandStack Cell) (first : List Cell)
    (rest : List (List Cell)) :
    stack.pushArguments (first :: rest) = (stack.pushArguments rest).push first := rfl

def Fits (types : List ValueType) (arguments : List (List Cell)) : Prop :=
  arguments.map List.length = types.map fun type => type.stackCells.toNat

instance (types : List ValueType) (arguments : List (List Cell)) :
    Decidable (Fits types arguments) :=
  inferInstanceAs (Decidable (_ = _))

theorem Fits.take {types : List ValueType} {arguments : List (List Cell)}
    (fits : Fits types arguments) (count : Nat) :
    Fits (types.take count) (arguments.take count) := by
  unfold Fits at fits ⊢
  rw [List.map_take, List.map_take, fits]

theorem Fits.bytes {types : List ValueType} {arguments : List (List Cell)}
    (fits : Fits types arguments) :
    cellSize.toNat * (arguments.map List.length).sum = stackBytes types := by
  rw [fits, stackBytes_eq_cells]

theorem Fits.given {types : List ValueType} {arguments : List (List Cell)}
    (fits : Fits types arguments) {index : Nat} {type : ValueType}
    (typed : types[index]? = some type) :
    ∃ value, arguments[index]? = some value ∧ value.length = type.stackCells.toNat := by
  have widths := congrArg (·[index]?) fits
  simp only [List.getElem?_map, typed, Option.map_some] at widths
  exact Option.map_eq_some_iff.mp widths

theorem pushArguments_append (stack : OperandStack Cell) (front back : List (List Cell)) :
    stack.pushArguments (front ++ back) = (stack.pushArguments back).pushArguments front :=
  List.foldr_append

theorem pushArguments_eq (stack : OperandStack Cell) (arguments : List (List Cell)) :
    stack.pushArguments arguments = stack ++ arguments.reverse.flatten := by
  induction arguments with
  | nil => simp [pushArguments_nil]
  | cons first rest ih => simp [pushArguments_cons, ih, push]

theorem height_push (stack : OperandStack Cell) (value : List Cell) :
    (stack.push value).height = stack.height + cellSize.toNat * value.length := by
  rw [push, height, height, List.length_append, Nat.mul_add]

theorem height_pushArguments (stack : OperandStack Cell) (arguments : List (List Cell)) :
    (stack.pushArguments arguments).height =
      stack.height + cellSize.toNat * (arguments.map List.length).sum := by
  induction arguments with
  | nil => simp [pushArguments_nil]
  | cons first rest ih =>
    rw [pushArguments_cons, height_push, ih, List.map_cons, List.sum_cons, Nat.mul_add]
    omega

theorem read?_between (below value above : List Cell) :
    read? (below ++ value ++ above) (height below) value.length = some value := by
  have start : ((height below : Nat) : Int) / cellSize.toNat = below.length := by
    simp [height, cellSize]
  have whole : ((height below : Nat) : Int) % cellSize.toNat = 0 := by
    simp [height, cellSize]
  simp [read?, start, whole, List.length_append]

theorem read?_pushArguments (stack : OperandStack Cell) (front : List (List Cell))
    (value : List Cell) (back : List (List Cell)) :
    (stack.pushArguments (front ++ value :: back)).read? (stack.pushArguments back).height
      value.length = some value := by
  rw [pushArguments_append, pushArguments_cons, push, pushArguments_eq _ front]
  exact read?_between _ _ _

theorem read?_argument (stack : OperandStack Cell) {types : List ValueType}
    {arguments : List (List Cell)} (fits : Fits types arguments) {index : Nat} {value : List Cell}
    (given : arguments[index]? = some value) :
    (stack.pushArguments arguments).read? ((stack.pushArguments arguments).height -
      (stackBytes (types.take (index + 1)) : Int)) value.length = some value := by
  obtain ⟨inside, rfl⟩ := List.getElem?_eq_some_iff.mp given
  have above : (stack.pushArguments arguments).height =
      (stack.pushArguments (arguments.drop (index + 1))).height +
        stackBytes (types.take (index + 1)) := by
    rw [← (fits.take (index + 1)).bytes, ← height_pushArguments, ← pushArguments_append,
      List.take_append_drop]
  have address : ((stack.pushArguments arguments).height : Int) -
      stackBytes (types.take (index + 1)) =
        (stack.pushArguments (arguments.drop (index + 1))).height := by
    omega
  have split : arguments =
      arguments.take index ++ arguments[index] :: arguments.drop (index + 1) := by
    rw [← List.drop_eq_getElem_cons inside, List.take_append_drop]
  have found := read?_pushArguments stack (arguments.take index) arguments[index]
    (arguments.drop (index + 1))
  rw [← split] at found
  rw [address, found]

theorem pop?_pushArguments (stack : OperandStack Cell) (arguments : List (List Cell)) :
    (stack.pushArguments arguments).pop? (cellSize.toNat * (arguments.map List.length).sum) =
      some stack := by
  have below : cellSize.toNat * (arguments.map List.length).sum ≤
      (stack.pushArguments arguments).height := by
    rw [height_pushArguments]
    exact Nat.le_add_left _ _
  have cells : (stack.pushArguments arguments).length =
      stack.length + (arguments.map List.length).sum := by
    have bytes := height_pushArguments stack arguments
    rw [height, height, ← Nat.mul_add] at bytes
    exact Nat.eq_of_mul_eq_mul_left (by decide) bytes
  rw [pop?, if_pos ⟨Nat.mul_mod_right _ _, below⟩, Nat.mul_div_cancel_left _ (by decide), cells,
    Nat.add_sub_cancel, pushArguments_eq, List.take_left]

end OperandStack

-- The stored sizes agree with a stack on which the supplied arguments lie: each is found at its
-- offset, popping uncovers what was there before, and the delta is what the whole call adds.
theorem call_layout {Cell : Type} (action : Action) (revision : Revision) (position : Nat)
    (sound : action.check revision position = .ok ()) (supplied : Nat)
    (least : action.required ≤ supplied) (most : supplied ≤ action.accepted)
    (stack : OperandStack Cell) (arguments : List (List Cell))
    (fits : OperandStack.Fits (action.parameters.take supplied) arguments) :
    (∀ index, index < supplied → ∃ type value offset,
      action.parameters[index]? = some type ∧ arguments[index]? = some value ∧
      action.argumentOffset? index = some offset ∧
      (stack.pushArguments arguments).read?
        ((stack.pushArguments arguments).height + offset.toInt) type.stackCells.toNat =
          some value) ∧
    (∃ size, action.argumentsSize supplied = .ok size ∧
      (stack.pushArguments arguments).pop? size.toNat = some stack) ∧
    ∃ delta, action.stackDelta supplied = .ok delta ∧
      ∀ result : List Cell, result.length = action.returns.stackCells.toNat →
        ((stack.push result).height : Int) - (stack.pushArguments arguments).height =
          delta.toInt := by
  have valid := (action.check_exact revision position).mp sound
  refine ⟨?_, ?_, ?_⟩
  · intro index inside
    have declared : index < action.accepted := Nat.lt_of_lt_of_le inside most
    have typed : action.parameters[index]? = some action.parameters[index] :=
      List.getElem?_eq_getElem declared
    have taken : (action.parameters.take supplied)[index]? = some action.parameters[index] := by
      rw [List.getElem?_take_of_lt inside, typed]
    obtain ⟨value, given, width⟩ := fits.given taken
    obtain ⟨offset, stored, bytes⟩ := valid.argumentOffset?_exact declared
    refine ⟨_, value, offset, typed, given, stored, ?_⟩
    have counted : (action.parameters.take supplied).take (index + 1) =
        action.parameters.take (index + 1) := by
      rw [List.take_take, Nat.min_eq_left inside]
    rw [bytes, ← width, ← counted]
    exact OperandStack.read?_argument stack fits given
  · obtain ⟨size, popped, bytes⟩ := valid.argumentsSize_exact least most
    refine ⟨size, popped, ?_⟩
    rw [bytes, ← fits.bytes]
    exact OperandStack.pop?_pushArguments stack arguments
  · obtain ⟨delta, grown, bytes⟩ := valid.stackDelta_exact least most
    refine ⟨delta, grown, ?_⟩
    intro result width
    rw [OperandStack.height_push, OperandStack.height_pushArguments, fits.bytes, bytes, width,
      Action.returnSize, ValueType.toNat_stackSize]
    omega

theorem partial_call_reads_its_arguments :
    let turn := Action.ofDeclaration .full
      (declare 0 "Turn" 1 .vector [.object, .action, .vector, .int] "")
    let pushed := OperandStack.pushArguments [9] [[1], [], [2, 3, 4]]
    (∃ type value offset, turn.parameters[1]? = some type ∧
      [[1], [], [2, 3, 4]][1]? = some value ∧ turn.argumentOffset? 1 = some offset ∧
      pushed.read? (pushed.height + offset.toInt) type.stackCells.toNat = some value) ∧
    (∃ size, turn.argumentsSize 3 = .ok size ∧ pushed.pop? size.toNat = some [9]) ∧
    ∃ delta, turn.stackDelta 3 = .ok delta ∧
      ((OperandStack.push [9] [5, 6, 7]).height : Int) - pushed.height = delta.toInt := by
  intro turn pushed
  have laid := call_layout turn .nwn1 0 rfl 3 (by decide) (by decide) [9] [[1], [], [2, 3, 4]]
    (by decide)
  obtain ⟨found, popped, delta, grown, height⟩ := laid
  exact ⟨found 1 (by decide), popped, delta, grown, height [5, 6, 7] (by decide)⟩

end EngineActions
