namespace EngineActions

inductive Setting
  | revision
  | supply
deriving DecidableEq

namespace Setting

def all : List Setting := [revision, supply]

def letter : Setting → Char
  | revision => 'r'
  | supply => 'a'

def longName : Setting → List Char
  | revision => "revision".toList
  | supply => "args".toList

def fallback? : Setting → Option String
  | revision => some "nwn2"
  | supply => none

end Setting

inductive Argument
  | operand
  | json
  | setting (option : Setting)
deriving DecidableEq

def Argument.required : Argument → Bool
  | operand => true
  | json => false
  | setting option => option.fallback?.isNone

inductive Verb
  | list
  | describe
  | layout
  | check
  | compare
deriving DecidableEq

namespace Verb

def all : List Verb := [list, describe, layout, check, compare]

def word : Verb → String
  | list => "list"
  | describe => "show"
  | layout => "layout"
  | check => "check"
  | compare => "diff"

def arguments : Verb → List Argument
  | list => [.setting .revision, .json]
  | describe => [.operand, .setting .revision, .json]
  | layout => [.operand, .setting .supply, .setting .revision]
  | check => []
  | compare => [.json]

def ofWord? (text : String) : Option Verb := all.find? fun verb => verb.word == text

theorem ofWord?_word (verb : Verb) : ofWord? verb.word = some verb := by
  cases verb <;> decide

end Verb

inductive Item
  | operand (text : String)
  | json
  | setting (option : Setting) (text : String)
deriving DecidableEq

def Item.argument : Item → Argument
  | operand _ => .operand
  | json => .json
  | setting option _ => .setting option

-- Nothing that a command has no use for, nothing twice, and all that it cannot do without.
structure Verb.Takes (verb : Verb) (given : List Argument) : Prop where
  known : ∀ argument ∈ given, argument ∈ verb.arguments
  once : given.Nodup
  complete : ∀ argument ∈ verb.arguments, argument.required = true → argument ∈ given

instance (verb : Verb) (given : List Argument) : Decidable (verb.Takes given) :=
  decidable_of_iff ((∀ argument ∈ given, argument ∈ verb.arguments) ∧ given.Nodup ∧
    ∀ argument ∈ verb.arguments, argument.required = true → argument ∈ given)
    ⟨fun ⟨known, once, complete⟩ => ⟨known, once, complete⟩,
      fun ⟨known, once, complete⟩ => ⟨known, once, complete⟩⟩

def isPlain (text : String) : Bool :=
  match text.toList with
  | '-' :: _ :: _ => false
  | _ => true

inductive Spelling
  | letterApart
  | letterJoined
  | letterEquals
  | nameApart
  | nameEquals
deriving DecidableEq

namespace Spelling

def words (spelling : Spelling) (option : Setting) (text : String) : List String :=
  let letter := String.ofList ['-', option.letter]
  let name := String.ofList ('-' :: '-' :: option.longName)
  match spelling with
  | letterApart => [letter, text]
  | letterJoined => [letter ++ text]
  | letterEquals => [letter ++ "=" ++ text]
  | nameApart => [name, text]
  | nameEquals => [name ++ "=" ++ text]

-- A word of its own must not look like an option. Behind the letter alone there must be a text,
-- which would lose an equals sign that it begins with.
def Carries (text : String) : Spelling → Prop
  | letterApart | nameApart => isPlain text = true
  | letterJoined => text ≠ "" ∧ text.toList.head? ≠ some '='
  | letterEquals | nameEquals => True

end Spelling

-- An operand that starts with a hyphen stands behind the two hyphens, where only operands are left.
inductive Item.Spelled : List Item → List String → Prop where
  | none : Spelled [] []
  | operand (text : String) {items : List Item} {words : List String} : isPlain text = true →
      Spelled items words → Spelled (.operand text :: items) (text :: words)
  | json {items : List Item} {words : List String} :
      Spelled items words → Spelled (.json :: items) ("--json" :: words)
  | setting (spelling : Spelling) (option : Setting) (text : String) {items : List Item}
      {words : List String} : spelling.Carries text → Spelled items words →
      Spelled (.setting option text :: items) (spelling.words option text ++ words)
  | operandsOnly (texts : List String) : Spelled (texts.map .operand) ("--" :: texts)

structure Given where
  verb : Verb
  operand? : Option String
  revision? : Option String
  supply? : Option String
  json : Bool
deriving DecidableEq

def Given.text? (given : Given) : Setting → Option String
  | .revision => given.revision?
  | .supply => given.supply?

-- Which words are which arguments is left to a reader. It hands over their texts, or nothing where
-- the words are no command line.
abbrev Reader := List String → Option Given

namespace Reader

def Hands (read : Reader) (verb : Verb) (items : List Item) (given : Given) : Prop :=
  verb.Takes (items.map Item.argument) ∧
    ∃ words, Item.Spelled items words ∧ read (verb.word :: words) = some given

-- What readers promise. Lines written as above are read, each argument can be asked for whatever
-- stands around it, and an option left out has the text to fall back on.
structure Documented (read : Reader) : Prop where
  accepts : ∀ {verb : Verb} {items : List Item} {words : List String}, verb.Takes (items.map Item.argument) →
    Item.Spelled items words → ∃ given, read (verb.word :: words) = some given
  verb : ∀ {verb : Verb} {items : List Item} {given : Given}, read.Hands verb items given →
    given.verb = verb
  operand : ∀ {verb : Verb} {items : List Item} {given : Given} {text : String},
    read.Hands verb items given → .operand text ∈ items → given.operand? = some text
  setting : ∀ {verb : Verb} {items : List Item} {given : Given} {option : Setting} {text : String},
    read.Hands verb items given → .setting option text ∈ items → given.text? option = some text
  fallback : ∀ {verb : Verb} {items : List Item} {given : Given} {option : Setting},
    read.Hands verb items given → .setting option ∈ verb.arguments →
    .setting option ∉ items.map Item.argument → given.text? option = option.fallback?
  flag : ∀ {verb : Verb} {items : List Item} {given : Given}, read.Hands verb items given →
    .json ∈ verb.arguments → (given.json = true ↔ .json ∈ items)

end Reader
end EngineActions
