import EngineActions.CommandLine.Grammar

namespace EngineActions

inductive Word
  | operand (text : String)
  | json
  | setting (option : Setting) (text : String)
  | settingAlone (option : Setting)
  | operandsOnly
  | unknown
deriving DecidableEq

namespace Word

def splitLong (text : List Char) : List Char × Option (List Char) :=
  (text.takeWhile (· != '='), (text.dropWhile (· != '=')).tail?)

def ofLong (text : List Char) : Word :=
  match splitLong text, Setting.all.find? (·.longName == (splitLong text).1) with
  | (_, some value), some option => setting option (String.ofList value)
  | (_, none), some option => settingAlone option
  | (name, none), none => if name = "json".toList then json else unknown
  | (_, some _), none => unknown

-- The rest of the word belongs to the letter; one equals sign between is dropped.
def ofShort (letter : Char) (text : List Char) : Word :=
  match Setting.all.find? (·.letter == letter), text with
  | some option, [] => settingAlone option
  | some option, '=' :: value => setting option (String.ofList value)
  | some option, value => setting option (String.ofList value)
  | none, _ => unknown

def ofChars : List Char → Word
  | ['-', '-'] => operandsOnly
  | '-' :: '-' :: text => ofLong text
  | ['-'] => operand "-"
  | '-' :: letter :: text => ofShort letter text
  | text => operand (String.ofList text)

def ofText (text : String) : Word := ofChars text.toList

end Word

namespace Item

def ofTexts? : List String → Option (List Item)
  | [] => some []
  | text :: rest =>
    match Word.ofText text with
    | .operand text => (ofTexts? rest).map (operand text :: ·)
    | .json => (ofTexts? rest).map (json :: ·)
    | .setting option value => (ofTexts? rest).map (setting option value :: ·)
    | .settingAlone option =>
      match rest with
      | [] => none
      | value :: rest =>
        if isPlain value then (ofTexts? rest).map (setting option value :: ·) else none
    | .operandsOnly => some (rest.map operand)
    | .unknown => none

def operand? : Item → Option String
  | operand text => some text
  | _ => none

def setting? (wanted : Setting) : Item → Option String
  | setting option text => if option = wanted then some text else none
  | _ => none

def settingText? (option : Setting) (items : List Item) : Option String :=
  (items.findSome? (setting? option)).or option.fallback?

variable {text : String} {rest : List String}

theorem ofTexts?_operand {operand : String} (word : Word.ofText text = .operand operand) :
    ofTexts? (text :: rest) = (ofTexts? rest).map (.operand operand :: ·) := by
  rw [ofTexts?, word]

theorem ofTexts?_json (word : Word.ofText text = .json) :
    ofTexts? (text :: rest) = (ofTexts? rest).map (json :: ·) := by
  rw [ofTexts?, word]

theorem ofTexts?_settingAlone {value : String} {option : Setting}
    (word : Word.ofText text = .settingAlone option) (plain : isPlain value = true) :
    ofTexts? (text :: value :: rest) = (ofTexts? rest).map (setting option value :: ·) := by
  rw [ofTexts?, word]
  exact if_pos plain

theorem ofTexts?_setting {value : String} {option : Setting}
    (word : Word.ofText text = .setting option value) :
    ofTexts? (text :: rest) = (ofTexts? rest).map (setting option value :: ·) := by
  rw [ofTexts?, word]

theorem ofTexts?_operandsOnly (word : Word.ofText text = .operandsOnly) :
    ofTexts? (text :: rest) = some (rest.map operand) := by
  rw [ofTexts?, word]

end Item

namespace Given

def ofItems (verb : Verb) (items : List Item) : Given where
  verb
  operand? := items.findSome? Item.operand?
  revision? := Item.settingText? .revision items
  supply? := Item.settingText? .supply items
  json := decide (.json ∈ items)

def ofItems? (verb : Verb) (items : List Item) : Option Given :=
  if verb.Takes (items.map Item.argument) then some (ofItems verb items) else none

theorem text?_ofItems (verb : Verb) (items : List Item) (option : Setting) :
    (ofItems verb items).text? option = Item.settingText? option items := by
  cases option <;> rfl

end Given

def Reader.conventional : Reader
  | [] => none
  | name :: texts =>
    (Verb.ofWord? name).bind fun verb => (Item.ofTexts? texts).bind (Given.ofItems? verb)

theorem Reader.conventional_word (verb : Verb) (texts : List String) :
    conventional (verb.word :: texts) = (Item.ofTexts? texts).bind (Given.ofItems? verb) := by
  rw [conventional, verb.ofWord?_word, Option.bind_some]

end EngineActions
