namespace EngineActions.Numeral

def signed (value : Int) : String :=
  if value < 0 then "-" ++ toString value.natAbs else "+" ++ toString value.natAbs

def digits? (text : List Char) : Option Nat :=
  if text ≠ [] ∧ text.all Char.isDigit then some (Nat.ofDigitChars 10 text 0) else none

def integer? : List Char → Option Int
  | '+' :: text => (digits? text).map Int.ofNat
  | '-' :: text => (digits? text).map fun value => -Int.ofNat value
  | text => (digits? text).map Int.ofNat

def count? : List Char → Option Nat
  | '+' :: text => digits? text
  | text => digits? text

def ordinal? (text : String) : Option Int :=
  (integer? text.toList).filter fun value =>
    Int64.minValue.toInt ≤ value ∧ value ≤ Int64.maxValue.toInt

def supply? (text : String) : Option Nat :=
  (count? text.toList).filter fun value => value < UInt64.size

-- Said without reading from left to right: digits alone or behind one sign.
inductive Literal : List Char → Int → Prop where
  | plain (digits : List Char) : digits ≠ [] → (∀ digit ∈ digits, digit.isDigit) →
      Literal digits (Nat.ofDigitChars 10 digits 0)
  | plus (digits : List Char) : digits ≠ [] → (∀ digit ∈ digits, digit.isDigit) →
      Literal ('+' :: digits) (Nat.ofDigitChars 10 digits 0)
  | minus (digits : List Char) : digits ≠ [] → (∀ digit ∈ digits, digit.isDigit) →
      Literal ('-' :: digits) (-Nat.ofDigitChars 10 digits 0)

-- An integer that fits no signed 64-bit word is read as a name, whatever it looks like.
structure OrdinalText (text : String) (value : Int) : Prop where
  literal : Literal text.toList value
  least : Int64.minValue.toInt ≤ value
  most : value ≤ Int64.maxValue.toInt

variable {digits chars : List Char} {text : String}

theorem isDigit_toDigits {value : Nat} {digit : Char} (member : digit ∈ Nat.toDigits 10 value) :
    digit.isDigit :=
  Nat.isDigit_of_mem_toDigits (by decide) (by decide) member

theorem not_mem_toDigits (value : Nat) {other : Char} (unlike : other.isDigit = false) :
    other ∉ Nat.toDigits 10 value := by
  intro member
  rw [isDigit_toDigits member] at unlike
  cases unlike

theorem toDigits_inj {value other : Nat} (same : Nat.toDigits 10 value = Nat.toDigits 10 other) :
    value = other := by
  rw [← Nat.ofDigitChars_ten_toDigits (n := value), same, Nat.ofDigitChars_ten_toDigits]

theorem digits?_eq_some_iff {value : Nat} : digits? digits = some value ↔
    digits ≠ [] ∧ (∀ digit ∈ digits, digit.isDigit) ∧ Nat.ofDigitChars 10 digits 0 = value := by
  simp [digits?, and_assoc]

theorem digits?_of_clean (given : digits ≠ []) (clean : ∀ digit ∈ digits, digit.isDigit) :
    digits? digits = some (Nat.ofDigitChars 10 digits 0) :=
  digits?_eq_some_iff.mpr ⟨given, clean, rfl⟩

theorem integer?_of_clean (clean : ∀ digit ∈ digits, digit.isDigit) :
    integer? digits = (digits? digits).map Int.ofNat := by
  unfold integer?
  split
  · exact absurd (clean '+' List.mem_cons_self) (by decide)
  · exact absurd (clean '-' List.mem_cons_self) (by decide)
  · rfl

theorem map_digits?_eq_some {sign : Nat → Int} {value : Int}
    (read : (digits? digits).map sign = some value) : digits ≠ [] ∧
      (∀ digit ∈ digits, digit.isDigit) ∧ sign (Nat.ofDigitChars 10 digits 0) = value := by
  obtain ⟨count, found, signed⟩ := Option.map_eq_some_iff.mp read
  obtain ⟨given, clean, rfl⟩ := digits?_eq_some_iff.mp found
  exact ⟨given, clean, signed⟩

theorem literal_of_integer? {value : Int} (read : integer? chars = some value) :
    Literal chars value := by
  unfold integer? at read
  split at read
  · obtain ⟨given, clean, rfl⟩ := map_digits?_eq_some read
    exact .plus _ given clean
  · obtain ⟨given, clean, rfl⟩ := map_digits?_eq_some read
    exact .minus _ given clean
  · obtain ⟨given, clean, rfl⟩ := map_digits?_eq_some read
    exact .plain _ given clean

theorem integer?_eq_some_iff {value : Int} :
    integer? chars = some value ↔ Literal chars value := by
  constructor
  · exact literal_of_integer?
  · intro number
    cases number with
    | plain digits given clean =>
      rw [integer?_of_clean clean, digits?_of_clean given clean]
      rfl
    | plus digits given clean =>
      rw [integer?, digits?_of_clean given clean]
      rfl
    | minus digits given clean =>
      rw [integer?, digits?_of_clean given clean]
      rfl

theorem ordinal?_eq_some_iff {value : Int} :
    ordinal? text = some value ↔ OrdinalText text value := by
  rw [ordinal?, Option.filter_eq_some_iff, integer?_eq_some_iff, decide_eq_true_eq]
  exact ⟨fun ⟨literal, least, most⟩ => ⟨literal, least, most⟩,
    fun read => ⟨read.literal, read.least, read.most⟩⟩

theorem ordinal?_eq_none_iff : ordinal? text = none ↔ ∀ value, ¬OrdinalText text value := by
  rw [Option.eq_none_iff_forall_ne_some]
  exact forall_congr' fun value => not_congr ordinal?_eq_some_iff

theorem Literal.unique {value other : Int} (number : Literal chars value)
    (again : Literal chars other) : value = other := by
  rw [← integer?_eq_some_iff] at number again
  exact Option.some.inj (number.symm.trans again)

theorem Literal.ordinalText {value : Nat} (number : Literal text.toList value)
    (most : (value : Int) ≤ Int64.maxValue.toInt) : OrdinalText text value :=
  ⟨number, Int.le_trans (by decide) (Int.natCast_nonneg value), most⟩

end EngineActions.Numeral
