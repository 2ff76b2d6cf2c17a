namespace EngineActions

inductive Alignment
  | left
  | right
  | centre
deriving DecidableEq

-- Lengths count characters. The precision cuts a text before it is placed; the width never cuts.
structure Field where
  width : Nat
  alignment : Alignment
  fill : Char
  precision : Option Nat
deriving DecidableEq

namespace Field

def leftAligned (width : Nat) : Field := ⟨width, .left, ' ', none⟩
def rightAligned (width : Nat) : Field := ⟨width, .right, ' ', none⟩

def ofFormat (alignment : Option Alignment) (fill : Char) (width : Nat)
    (precision : Option Nat) : Field :=
  ⟨width, alignment.getD .left, fill, precision⟩

def cut (field : Field) (text : List Char) : List Char :=
  match field.precision with
  | some kept => text.take kept
  | none => text

-- When the text stands in the centre and the room is odd, the larger part follows it.
def leading (field : Field) (room : Nat) : Nat :=
  match field.alignment with
  | .left => 0
  | .right => room
  | .centre => room / 2

def place (field : Field) (text : List Char) : List Char :=
  let kept := field.cut text
  let room := field.width - kept.length
  List.replicate (field.leading room) field.fill ++ kept ++
    List.replicate (room - field.leading room) field.fill

def pad (field : Field) (text : String) : String := String.ofList (field.place text.toList)

def strip (field : Field) (placed : List Char) : List Char :=
  ((placed.dropWhile (· == field.fill)).reverse.dropWhile (· == field.fill)).reverse

theorem leading_le (field : Field) (room : Nat) : field.leading room ≤ room := by
  unfold leading
  split <;> omega

theorem length_place (field : Field) (text : List Char) :
    (field.place text).length = max field.width (field.cut text).length := by
  have front := field.leading_le (field.width - (field.cut text).length)
  simp only [place, List.length_append, List.length_replicate]
  omega

end Field
end EngineActions
