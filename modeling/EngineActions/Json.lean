namespace EngineActions

inductive Json
  | number (value : Nat)
  | text (value : String)
  | array (items : List Json)
  | object (fields : List (String × Json))

namespace Json

def hexDigits (value : Nat) : List Char :=
  [Nat.digitChar (value / 4096 % 16), Nat.digitChar (value / 256 % 16),
    Nat.digitChar (value / 16 % 16), Nat.digitChar (value % 16)]

-- Only quotes, backslashes and control characters below the blank are escaped.
def escape : Char → List Char
  | '"' => ['\\', '"']
  | '\\' => ['\\', '\\']
  | '\x08' => ['\\', 'b']
  | '\x09' => ['\\', 't']
  | '\x0a' => ['\\', 'n']
  | '\x0c' => ['\\', 'f']
  | '\x0d' => ['\\', 'r']
  | other => if other.toNat < 32 then '\\' :: 'u' :: hexDigits other.toNat else [other]

def quote (text : String) : String :=
  String.ofList ('"' :: text.toList.flatMap escape ++ ['"'])

def indent (block : List String) : List String := block.map ("  " ++ ·)

def withLead (lead : String) : List String → List String
  | [] => []
  | line :: rest => (lead ++ line) :: rest

def withComma : List String → List String
  | [] => []
  | [line] => [line ++ ","]
  | line :: rest => line :: withComma rest

def separate : List (List String) → List String
  | [] => []
  | [block] => block
  | block :: rest => withComma block ++ separate rest

def enclose (opening closing : String) : List (List String) → List String
  | [] => [opening ++ closing]
  | blocks => opening :: indent (separate blocks) ++ [closing]

mutual
def lines : Json → List String
  | number value => [toString value]
  | text value => [quote value]
  | array items => enclose "[" "]" (itemBlocks items)
  | object fields => enclose "\x7b" "\x7d" (fieldBlocks fields)

def itemBlocks : List Json → List (List String)
  | [] => []
  | item :: rest => lines item :: itemBlocks rest

def fieldBlocks : List (String × Json) → List (List String)
  | [] => []
  | (key, value) :: rest => withLead (quote key ++ ": ") (lines value) :: fieldBlocks rest
end

theorem itemBlocks_eq (items : List Json) : itemBlocks items = items.map lines := by
  induction items with
  | nil => rfl
  | cons item rest ih => simp [itemBlocks, ih]

end Json
end EngineActions
