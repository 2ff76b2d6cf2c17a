import EngineActions.Catalog

namespace EngineActions

-- An integer as a caller holds it: bits of some width, the highest of which is a sign or is not.
structure MachineWord where
  signed : Bool
  width : Nat
  bits : BitVec width

namespace MachineWord

def ofInt (signed : Bool) (width : Nat) (value : Int) : MachineWord :=
  ⟨signed, width, .ofInt width value⟩

def value (word : MachineWord) : Int :=
  if word.signed then word.bits.toInt else word.bits.toNat

-- A wider word loses its upper bits, a narrower one is filled up with its sign or with zeros.
def resized (word : MachineWord) : Int64 :=
  .ofBitVec (if word.signed then word.bits.signExtend 64 else word.bits.setWidth 64)

def toInt64? (word : MachineWord) : Option Int64 :=
  if Int64.minValue.toInt ≤ word.value ∧ word.value ≤ Int64.maxValue.toInt then
    some word.resized
  else none

end MachineWord

def position? (ordinal : Int64) : Option UInt64 :=
  if 0 ≤ ordinal then some ordinal.toUInt64 else none

-- What fits no signed word counts as the largest of these, where no table has a row.
def Catalog.actionAtWord (catalog : Catalog) (word : MachineWord) : Except Failure Action :=
  let ordinal := word.toInt64?.getD Int64.maxValue
  orFailure (.outOfRange catalog.revision ordinal.toInt catalog.count)
    ((position? ordinal).bind fun position => catalog.get? position.toNat)

end EngineActions
